import Mailroom.Config.Basic
import Mailroom.Proofs.Config.Environment
import Mailroom.Proofs.Http.Merge

/-!
# Layers of a configuration

A configuration is put together from what a caller gives, what the environment gives and what is
built in. A text is the first one given that is not blank, as it was written; a number is the first
one given at all; and a header has the value of the highest layer that names it. The environment is
read first and in full, so what is wrong with it fails every resolution, and of several faults the
first in the order timeout, retries, headers is named. A resolved configuration can lack nothing but
the token.
-/

namespace Mailroom.Config

/-! ## Texts -/

/-- A value is the first of some texts, as far as they are given, that is not blank, or a last
resort where there is none. -/
inductive FirstGiven (absent : String) : List (Option String) → String → Prop where
  | here {value : String} {rest : List (Option String)} (given : Text.isBlank value = false) :
      FirstGiven absent (some value :: rest) value
  | later {candidate : Option String} {rest : List (Option String)} {value : String}
      (passed : ∀ text, candidate = some text → Text.isBlank text = true)
      (first : FirstGiven absent rest value) : FirstGiven absent (candidate :: rest) value
  | absent : FirstGiven absent [] absent

/-- The text taken from some candidates is the first given. -/
theorem firstGiven_firstGiven? (candidates : List (Option String)) (absent : String) :
    FirstGiven absent candidates ((firstGiven? candidates).getD absent) := by
  induction candidates with
  | nil => exact .absent
  | cons candidate rest ih =>
    cases candidate with
    | none => exact .later (by simp) ih
    | some text =>
      rw [firstGiven?, List.filterMap_cons_some (f := id) rfl, List.find?_cons]
      cases hblank : Text.isBlank text with
      | false => exact .here hblank
      | true => exact .later (by simp [hblank]) ih

/-- The text taken is blank exactly if all candidates are blank or absent and the last resort is
blank. -/
theorem FirstGiven.isBlank_eq_true_iff {absent value : String} {candidates : List (Option String)}
    (h : FirstGiven absent candidates value) :
    Text.isBlank value = true ↔
      (∀ text, some text ∈ candidates → Text.isBlank text = true) ∧ Text.isBlank absent = true := by
  induction h with
  | here given => simp [given]
  | later passed first ih =>
    rw [ih]
    refine and_congr_left fun _ => ⟨fun hrest text hmem => ?_, fun hall text hmem => ?_⟩
    · rcases List.mem_cons.mp hmem with hfirst | hmem
      · exact passed text hfirst.symm
      · exact hrest text hmem
    · exact hall text (List.mem_cons_of_mem _ hmem)
  | absent => simp

/-- At most one text is the first given. -/
theorem FirstGiven.unique {absent value other : String} {candidates : List (Option String)}
    (h : FirstGiven absent candidates value) (h' : FirstGiven absent candidates other) :
    value = other := by
  induction h with
  | here given =>
    cases h' with
    | here => rfl
    | later passed =>
      rw [passed _ rfl] at given
      cases given
  | later passed first ih =>
    cases h' with
    | here given =>
      rw [passed _ rfl] at given
      cases given
    | later _ first' => exact ih first'
  | absent =>
    cases h'
    rfl

/-- A candidate that is blank may as well be absent. -/
theorem FirstGiven.of_filter (before : List (Option String)) {absent value : String}
    {candidate : Option String} {after : List (Option String)}
    (h : FirstGiven absent (before ++ candidate.filter (fun s => !Text.isBlank s) :: after) value) :
    FirstGiven absent (before ++ candidate :: after) value := by
  induction before generalizing value with
  | nil =>
    cases candidate with
    | none => exact h
    | some text =>
      cases hblank : Text.isBlank text with
      | false => simpa [Option.filter_some, hblank] using h
      | true =>
        rw [Option.filter_some, hblank] at h
        cases h with
        | later _ first => exact .later (by simp [hblank]) first
  | cons first before ih =>
    cases h with
    | here given => exact .here given
    | later passed rest => exact .later passed (ih rest)

/-! ## Resolution -/

/-- A number comes from the caller, or else from a variable, or else is built in. -/
inductive FirstNumber (override : Option Nat) (env : Environment) (name : String) (absent : Nat) :
    Nat → Prop where
  | override {n : Nat} (given : override = some n) : FirstNumber override env name absent n
  | environment {n : Nat} (none : override = none) (given : env.GivesNumber name n) :
      FirstNumber override env name absent n
  | absent (none : override = none) (unset : ∀ raw, ¬env.Sets name raw) :
      FirstNumber override env name absent absent

theorem firstNumber_of_number? {override : Option Nat} {env : Environment} {name : String}
    {bound absent : Nat} {x : Option Nat} (h : env.number? name bound = .ok x) :
    FirstNumber override env name absent ((override.or x).getD absent) := by
  cases override with
  | some n => exact .override rfl
  | none =>
    rcases Environment.number?_eq_ok_iff.mp h with ⟨rfl, hunset⟩ | ⟨n, -, rfl, hgives⟩
    · exact .absent rfl hunset
    · exact .environment rfl hgives

/-- The headers of a configuration come from a caller's layer over that of the environment: each
name that occurs in them occurs once, with the entry spelled last in the highest layer that has it.
-/
structure HeadersOver (upper lower headers : Dict String) : Prop where
  distinct : Header.Distinct headers
  mem_iff : ∀ e, e ∈ headers ↔
    Header.LastSpelled upper e ∨ Header.LastSpelled lower e ∧ ¬Header.Names upper e.1
  named : ∀ name, Header.Names upper name ∨ Header.Names lower name →
    ∃! e, e ∈ headers ∧ Header.sameName e.1 name = true

/-- Two layers in order, merged one after the other, lie one over the other. -/
theorem headersOver_merge {upper lower : Dict String} (hu : upper.Ascending)
    (hl : lower.Ascending) :
    HeadersOver upper lower (Header.merge (Header.merge [] lower) upper) := by
  have hdistinct : Header.Distinct (Header.merge (Header.merge [] lower) upper) :=
    (Header.distinct_nil.merge lower).merge upper
  have hmem : ∀ e, e ∈ Header.merge (Header.merge [] lower) upper ↔
      Header.LastOf upper e ∨ Header.LastOf lower e ∧ ¬Header.Names upper e.1 := by
    intro e
    rw [Header.mem_merge_iff, Header.mem_merge_iff]
    simp
  refine ⟨hdistinct, fun e => ?_, fun name hnamed => ?_⟩
  · rw [hmem, Header.lastOf_iff_lastSpelled hu, Header.lastOf_iff_lastSpelled hl]
  · have hfound : ∃ e, e ∈ Header.merge (Header.merge [] lower) upper ∧
        Header.sameName e.1 name = true := by
      by_cases hupper : Header.Names upper name
      · obtain ⟨e, hlast, hname⟩ := Header.exists_lastOf hupper
        exact ⟨e, (hmem e).mpr (Or.inl hlast), hname⟩
      · obtain ⟨e, hlast, hname⟩ := Header.exists_lastOf (hnamed.resolve_left hupper)
        exact ⟨e, (hmem e).mpr (Or.inr ⟨hlast, fun h => hupper ((Header.Names.congr hname).mp h)⟩),
          hname⟩
    obtain ⟨e, he, hname⟩ := hfound
    refine ⟨e, ⟨he, hname⟩, fun other ⟨hother, hother'⟩ => hdistinct.eq_of_sameName hother he ?_⟩
    rw [Header.sameName_iff] at hname hother' ⊢
    rw [hother', hname]

/-- The settings that a caller and an environment lead to. -/
structure Resolved (overrides : Overrides) (env : Environment) (c : Config) : Prop where
  baseUrl : FirstGiven "http://localhost:9000/api"
    [overrides.baseUrl, Dict.find? env Environment.baseUrlName] c.baseUrl
  username : FirstGiven "api-admin"
    [overrides.username, Dict.find? env Environment.usernameName] c.username
  token : FirstGiven "" [overrides.token, Dict.find? env Environment.tokenName] c.token
  timeoutMs : FirstNumber overrides.timeoutMs env Environment.timeoutName 30000 c.timeoutMs
  retries : FirstNumber overrides.retries env Environment.retriesName 3 c.retries
  headers : ∃ layer, env.AddsHeaders layer ∧ HeadersOver overrides.headers layer c.headers

/-- The text of a field is the first one given by the caller and the variable. -/
theorem firstGiven_of_variable (override : Option String) (env : Environment)
    (name absent : String) :
    FirstGiven absent [override, Dict.find? env name]
      ((firstGiven? [override, env.get? name]).getD absent) :=
  FirstGiven.of_filter [override] (firstGiven_firstGiven? _ _)

theorem resolve_of_timeout_error (overrides : Overrides) {env : Environment} {e : ConfigError}
    (ht : env.number? Environment.timeoutName (bitBound 64) = .error e) :
    resolve overrides env = .error e := by
  unfold resolve
  rw [ht]

theorem resolve_of_retries_error (overrides : Overrides) {env : Environment} {e : ConfigError}
    {timeout : Option Nat}
    (ht : env.number? Environment.timeoutName (bitBound 64) = .ok timeout)
    (hr : env.number? Environment.retriesName (bitBound 32) = .error e) :
    resolve overrides env = .error e := by
  unfold resolve
  rw [ht, hr]

theorem resolve_of_headers_error (overrides : Overrides) {env : Environment} {e : ConfigError}
    {timeout retries : Option Nat}
    (ht : env.number? Environment.timeoutName (bitBound 64) = .ok timeout)
    (hr : env.number? Environment.retriesName (bitBound 32) = .ok retries)
    (hh : env.headers = .error e) :
    resolve overrides env = .error e := by
  unfold resolve
  rw [ht, hr, hh]

theorem resolve_of_read (overrides : Overrides) {env : Environment}
    {timeout retries : Option Nat} {layer : Dict String}
    (ht : env.number? Environment.timeoutName (bitBound 64) = .ok timeout)
    (hr : env.number? Environment.retriesName (bitBound 32) = .ok retries)
    (hh : env.headers = .ok layer) :
    resolve overrides env = .ok {
      baseUrl := (firstGiven? [overrides.baseUrl,
        env.get? Environment.baseUrlName]).getD builtin.baseUrl
      username := (firstGiven? [overrides.username,
        env.get? Environment.usernameName]).getD builtin.username
      token := (firstGiven? [overrides.token, env.get? Environment.tokenName]).getD builtin.token
      timeoutMs := (overrides.timeoutMs.or timeout).getD builtin.timeoutMs
      retries := (overrides.retries.or retries).getD builtin.retries
      headers := Header.merge (Header.merge builtin.headers layer) overrides.headers } := by
  unfold resolve
  rw [ht, hr, hh]

/-- Where the environment can be read, the layers are put together. -/
theorem exists_resolved {overrides : Overrides} {env : Environment}
    (ho : overrides.headers.Ascending) {timeout retries : Option Nat} {layer : Dict String}
    (ht : env.number? Environment.timeoutName (bitBound 64) = .ok timeout)
    (hr : env.number? Environment.retriesName (bitBound 32) = .ok retries)
    (hh : env.headers = .ok layer) :
    ∃ c, resolve overrides env = .ok c ∧ Resolved overrides env c := by
  have hadds := Environment.headers_eq_ok_iff.mp hh
  exact ⟨_, resolve_of_read overrides ht hr hh, {
    baseUrl := firstGiven_of_variable _ _ _ _
    username := firstGiven_of_variable _ _ _ _
    token := firstGiven_of_variable _ _ _ _
    timeoutMs := firstNumber_of_number? ht
    retries := firstNumber_of_number? hr
    headers := ⟨layer, hadds, headersOver_merge ho hadds.ascending⟩ }⟩

/-! ## Validation -/

theorem checkedBase_eq_error {c : Config} {e : ConfigError} (h : c.checkedBase = .error e) :
    ∃ reason, e = .invalidBaseUrl c.baseUrl reason := by
  unfold checkedBase at h
  split at h
  · next e' hbase =>
    obtain ⟨fault, -, hfault⟩ := Outcome.mapError_eq_error_iff.mp hbase
    exact ⟨fault.message, (Except.error.inj h).symm.trans hfault.symm⟩
  · split at h
    · cases h
    · exact ⟨_, (Except.error.inj h).symm⟩

/-- A configuration lacks its token exactly if that is blank and nothing before it is missing. -/
theorem validate_eq_missing_iff (c : Config) :
    (c.validate = .error .missingBaseUrl ↔ Text.isBlank c.baseUrl = true) ∧
    (c.validate = .error .missingUsername ↔
      Text.isBlank c.baseUrl = false ∧ Text.isBlank c.username = true) ∧
    (c.validate = .error .missingToken ↔
      Text.isBlank c.baseUrl = false ∧ Text.isBlank c.username = false ∧
        Text.isBlank c.token = true) := by
  have hbase : ∀ e, (∀ url reason, e ≠ .invalidBaseUrl url reason) → c.checkedBase ≠ .error e := by
    intro e he h
    obtain ⟨reason, hreason⟩ := checkedBase_eq_error h
    exact he _ _ hreason
  unfold validate
  cases Text.isBlank c.baseUrl <;> cases Text.isBlank c.username <;> cases Text.isBlank c.token <;>
    simp [hbase]

/-- A resolved configuration lacks neither root nor user, and its token exactly if no layer gives
one. -/
theorem Resolved.validate {overrides : Overrides} {env : Environment} {c : Config}
    (h : Resolved overrides env c) :
    c.validate ≠ .error .missingBaseUrl ∧ c.validate ≠ .error .missingUsername ∧
    (c.validate = .error .missingToken ↔
      (∀ text, overrides.token = some text → Text.isBlank text = true) ∧
      ∀ text, ¬env.Sets Environment.tokenName text) := by
  obtain ⟨hroot, huser, htoken⟩ := validate_eq_missing_iff c
  have hrootGiven : Text.isBlank c.baseUrl = false := by
    rw [← Bool.not_eq_true, h.baseUrl.isBlank_eq_true_iff]
    exact fun hblank => absurd hblank.2 (by decide)
  have huserGiven : Text.isBlank c.username = false := by
    rw [← Bool.not_eq_true, h.username.isBlank_eq_true_iff]
    exact fun hblank => absurd hblank.2 (by decide)
  refine ⟨fun hmissing => ?_, fun hmissing => ?_, ?_⟩
  · rw [hroot.mp hmissing] at hrootGiven
    cases hrootGiven
  · rw [(huser.mp hmissing).2] at huserGiven
    cases huserGiven
  · rw [htoken, h.token.isBlank_eq_true_iff]
    simp only [hrootGiven, huserGiven, true_and, List.mem_cons, List.not_mem_nil, or_false,
      Environment.Sets, not_and, Bool.not_eq_false]
    constructor
    · rintro ⟨hall, -⟩
      exact ⟨fun text ht => hall text (Or.inl ht.symm), fun text ht => hall text (Or.inr ht.symm)⟩
    · rintro ⟨hoverride, hvariable⟩
      refine ⟨fun text ht => ?_, rfl⟩
      rcases ht with ht | ht
      · exact hoverride text ht.symm
      · exact hvariable text ht.symm

/-! ## What resolution does -/

/-- A resolution fails exactly if a variable is misstated, and names the first that is in the order
timeout, retries, headers, whatever the caller gives. Otherwise it puts the layers together, and the
result can lack only the token, which it does exactly if no layer gives one. -/
theorem resolution_of_layers {overrides : Overrides} {env : Environment}
    (ho : overrides.headers.Ascending) :
    ((∃ e, resolve overrides env = .error e) ↔
      env.MisstatesNumber Environment.timeoutName (bitBound 64) ∨
      env.MisstatesNumber Environment.retriesName (bitBound 32) ∨ env.MisstatesHeaders) ∧
    (env.MisstatesNumber Environment.timeoutName (bitBound 64) →
      ∃ raw, env.Sets Environment.timeoutName raw ∧
        resolve overrides env = .error (.invalidNumber Environment.timeoutName raw)) ∧
    (¬env.MisstatesNumber Environment.timeoutName (bitBound 64) →
      env.MisstatesNumber Environment.retriesName (bitBound 32) →
      ∃ raw, env.Sets Environment.retriesName raw ∧
        resolve overrides env = .error (.invalidNumber Environment.retriesName raw)) ∧
    (¬env.MisstatesNumber Environment.timeoutName (bitBound 64) →
      ¬env.MisstatesNumber Environment.retriesName (bitBound 32) → env.MisstatesHeaders →
      ∃ reason, resolve overrides env =
        .error (.invalidHeaders Environment.headersName reason)) ∧
    ∀ c, resolve overrides env = .ok c →
      Resolved overrides env c ∧
      c.validate ≠ .error .missingBaseUrl ∧ c.validate ≠ .error .missingUsername ∧
      (c.validate = .error .missingToken ↔
        (∀ text, overrides.token = some text → Text.isBlank text = true) ∧
        ∀ text, ¬env.Sets Environment.tokenName text) := by
  rcases Environment.number?_total env Environment.timeoutName (bitBound 64) with
    ⟨htimeout, raw, hsets, ht⟩ | ⟨htimeout, timeout, ht⟩
  · -- The timeout is read first, so nothing else matters if it is misstated.
    have hfails := resolve_of_timeout_error overrides ht
    simp [hfails, htimeout, hsets]
  rcases Environment.number?_total env Environment.retriesName (bitBound 32) with
    ⟨hretries, raw, hsets, hr⟩ | ⟨hretries, retries, hr⟩
  · have hfails := resolve_of_retries_error overrides ht hr
    simp [hfails, htimeout, hretries, hsets]
  by_cases hheaders : env.MisstatesHeaders
  · obtain ⟨reason, hh⟩ := Environment.misstatesHeaders_iff.mp hheaders
    have hfails := resolve_of_headers_error overrides ht hr hh
    simp [hfails, htimeout, hretries, hheaders]
  · obtain ⟨layer, hh⟩ := Environment.exists_headers_of_not_misstates hheaders
    obtain ⟨c, hc, hresolved⟩ := exists_resolved ho ht hr hh
    have hvalidate := hresolved.validate
    simp only [hc, htimeout, hretries, hheaders]
    refine ⟨by simp, fun h => h.elim, fun _ h => h.elim, fun _ _ h => h.elim, ?_⟩
    rintro c' hc'
    obtain rfl := Except.ok.inj hc'
    exact ⟨hresolved, hvalidate⟩

/-- A caller with a blank root, a timeout of zero and two spellings of one header. -/
def tenantOverrides : Overrides :=
  ⟨some "\u00a0", none, some " t ", some 0, none, [("X-Tenant", "a"), ("x-tenant", "b")]⟩

/-- An environment with a blank root, a number with blanks around it and a third spelling. -/
def tenantEnvironment : Environment :=
  [("LISTMONK_API_URL", " "),
    ("LISTMONK_HEADERS", "\x7b\"X-TENANT\": \"c\", \"via\": \"d\"\x7d"),
    ("LISTMONK_RETRIES", " +07\t")]

/-- Blank texts give way, a zero does not, and the last spelling of the caller is the header. -/
theorem resolution_of_tenantOverrides :
    ∃ c, resolve tenantOverrides tenantEnvironment = .ok c ∧
      c = ⟨"http://localhost:9000/api", "api-admin", " t ", 0, 7,
        [("via", "d"), ("x-tenant", "b")]⟩ ∧
      Resolved tenantOverrides tenantEnvironment c ∧ c.validate ≠ .error .missingToken := by
  have horder : tenantOverrides.headers.Ascending :=
    List.pairwise_pair.mpr (by decide)
  have ht : tenantEnvironment.number? Environment.timeoutName (bitBound 64) = .ok none := by
    decide +kernel
  have hr : tenantEnvironment.number? Environment.retriesName (bitBound 32) = .ok (some 7) := by
    decide +kernel
  have hh : tenantEnvironment.headers = .ok [("X-TENANT", "c"), ("via", "d")] := by
    decide +kernel
  have hresolve : resolve tenantOverrides tenantEnvironment = .ok ⟨"http://localhost:9000/api",
      "api-admin", " t ", 0, 7, [("via", "d"), ("x-tenant", "b")]⟩ := by
    have hmerge : Header.merge (Header.merge builtin.headers [("X-TENANT", "c"), ("via", "d")])
        tenantOverrides.headers = [("via", "d"), ("x-tenant", "b")] := by
      simp only [Header.merge, Header.put, Header.sameName_eq_toList]
      decide +kernel
    have hroot : firstGiven? [tenantOverrides.baseUrl,
        tenantEnvironment.get? Environment.baseUrlName] = none := by decide +kernel
    have huser : firstGiven? [tenantOverrides.username,
        tenantEnvironment.get? Environment.usernameName] = none := by decide +kernel
    have htoken : firstGiven? [tenantOverrides.token,
        tenantEnvironment.get? Environment.tokenName] = some " t " := by decide +kernel
    rw [resolve_of_read _ ht hr hh, hmerge, hroot, huser, htoken]
    rfl
  obtain ⟨-, -, -, -, hputs⟩ := @resolution_of_layers tenantOverrides tenantEnvironment horder
  obtain ⟨hresolved, -, -, htoken⟩ := hputs _ hresolve
  refine ⟨_, hresolve, rfl, hresolved, fun hmissing => ?_⟩
  exact absurd ((htoken.mp hmissing).1 " t " rfl) (by decide)

end Mailroom.Config
