import Mailroom.Command.Run
import Mailroom.Proofs.Command.Fields
import Mailroom.Proofs.Config.Layers

/-!
# Headers given on the command line

A header is given as a name, an equals sign and a value, and may be given many times. The entries of
all of them go into a dictionary by their spelling, and from there over the headers of the
environment, whose names are the same in upper and lower case. So a later flag takes the place of an
earlier one only where both spell the name alike. Of different spellings the last one in the order
of texts stays, whichever flag came last.
-/

namespace Mailroom

namespace Header

/-- An entry of a list prevails: it is the last one with its spelling, and no other spelling of its
name comes later in the order of texts. -/
structure Prevails (entries : List (String × String)) (e : String × String) : Prop where
  last : Dict.LastEntry entries e.1 e.2
  greatest : ∀ other ∈ entries, sameName other.1 e.1 = true → other.1 ≤ e.1

theorem Prevails.mem {entries : List (String × String)} {e : String × String}
    (h : Prevails entries e) : e ∈ entries := by
  have hmem := Dict.mem_of_find?_eq_some (Dict.find?_ofList_eq_some_iff.mpr h.last)
  exact (Dict.mem_of_mem_insertAll hmem).resolve_right List.not_mem_nil

/-- What is spelled last in a dictionary of entries is what prevails among them. -/
theorem lastSpelled_ofList_iff {entries : List (String × String)} {e : String × String} :
    LastSpelled (Dict.ofList entries) e ↔ Prevails entries e := by
  have hmem : ∀ name value, (name, value) ∈ Dict.ofList entries ↔
      Dict.LastEntry entries name value := by
    intro name value
    rw [← Dict.find?_eq_some_iff (Dict.ascending_ofList entries), Dict.find?_ofList_eq_some_iff]
  constructor
  · rintro ⟨he, hgreatest⟩
    refine ⟨(hmem e.1 e.2).mp he, fun other hother hname => ?_⟩
    obtain ⟨value, hlast⟩ := Dict.exists_lastEntry hother
    exact hgreatest (other.1, value) ((hmem other.1 value).mpr hlast) hname
  · rintro ⟨hlast, hgreatest⟩
    refine ⟨(hmem e.1 e.2).mpr hlast, fun other hother hname => hgreatest other ?_ hname⟩
    exact (Dict.mem_of_mem_insertAll hother).resolve_right List.not_mem_nil

/-- The last entry of a name is the last one with its spelling. -/
theorem LastOf.lastEntry {entries : List (String × String)} {e : String × String}
    (h : LastOf entries e) : Dict.LastEntry entries e.1 e.2 := by
  induction h with
  | here hunnamed =>
    refine .here fun other hother hspelled => hunnamed ⟨other, hother, ?_⟩
    rw [hspelled]
    exact sameName_refl _
  | later _ ih => exact .later ih

/-- The entry of a name that prevails is its last one exactly if that is spelled last. -/
theorem Prevails.eq_last_iff {entries : List (String × String)} {e last : String × String}
    (h : Prevails entries e) (hlast : LastOf entries last) (hname : sameName e.1 last.1 = true) :
    e = last ↔ ∀ other ∈ entries, sameName other.1 last.1 = true → other.1 ≤ last.1 := by
  constructor
  · rintro rfl
    exact h.greatest
  · intro hgreatest
    have hspelled : e.1 = last.1 := by
      refine String.le_antisymm (hgreatest e h.mem hname) (h.greatest last hlast.mem ?_)
      rwa [sameName_comm]
    have hvalue := Dict.find?_ofList_eq_some_iff.mpr h.last
    rw [hspelled, Dict.find?_ofList_eq_some_iff.mpr hlast.lastEntry] at hvalue
    exact Prod.ext hspelled (Option.some.inj hvalue).symm

/-- Among the entries of a name that occurs one prevails, and once they are laid over a map as a
dictionary it is the only entry of the name there. -/
theorem exists_prevails {entries : List (String × String)} {name : String}
    (h : Names entries name) (headers : HeaderMap) :
    ∃ e, Prevails entries e ∧ sameName e.1 name = true ∧
      (merge headers (Dict.ofList entries)).filter (fun other => sameName other.1 name) = [e] := by
  have hnamed : Names (Dict.ofList entries) name := by
    obtain ⟨given, hgiven, hname⟩ := h
    obtain ⟨value, hlast⟩ := Dict.exists_lastEntry hgiven
    have hmem := Dict.mem_of_find?_eq_some (Dict.find?_ofList_eq_some_iff.mpr hlast)
    exact ⟨_, hmem, hname⟩
  obtain ⟨e, hlast, hname, honly⟩ := exists_filter_merge hnamed headers
  have hspelled := (lastOf_iff_lastSpelled (Dict.ascending_ofList entries)).mp hlast
  exact ⟨e, lastSpelled_ofList_iff.mp hspelled, hname, honly⟩

end Header

namespace Config

/-- A resolution succeeds exactly if no variable is misstated, and then the caller's headers lie
over those that the environment adds. -/
theorem exists_resolve_iff (overrides : Overrides) (env : Environment) :
    ((∃ c, resolve overrides env = .ok c) ↔
      ¬env.MisstatesNumber Environment.timeoutName (bitBound 64) ∧
        ¬env.MisstatesNumber Environment.retriesName (bitBound 32) ∧ ¬env.MisstatesHeaders) ∧
    ∀ c, resolve overrides env = .ok c →
      ∃ layer, env.AddsHeaders layer ∧
        c.headers = Header.merge (Header.merge [] layer) overrides.headers := by
  rcases Environment.number?_total env Environment.timeoutName (bitBound 64) with
    ⟨htimeout, raw, -, ht⟩ | ⟨htimeout, timeout, ht⟩
  · simp [resolve_of_timeout_error overrides ht, htimeout]
  rcases Environment.number?_total env Environment.retriesName (bitBound 32) with
    ⟨hretries, raw, -, hr⟩ | ⟨hretries, retries, hr⟩
  · simp [resolve_of_retries_error overrides ht hr, hretries]
  by_cases hheaders : env.MisstatesHeaders
  · obtain ⟨reason, hh⟩ := Environment.misstatesHeaders_iff.mp hheaders
    simp [resolve_of_headers_error overrides ht hr hh, hheaders]
  · obtain ⟨layer, hh⟩ := Environment.exists_headers_of_not_misstates hheaders
    have hresolve := resolve_of_read overrides ht hr hh
    refine ⟨by simp [hresolve, htimeout, hretries, hheaders], fun c hc => ?_⟩
    rw [hresolve] at hc
    obtain rfl := Except.ok.inj hc
    exact ⟨layer, Environment.headers_eq_ok_iff.mp hh, rfl⟩

end Config

namespace CommonOptions

/-- A header flag gives its name and its value. -/
theorem header_eq_ok_iff {flag : String} {e : String × String} :
    header flag = .ok e ↔ Field.Names flag e.1 e.2 := by
  rw [header, Outcome.mapError_eq_ok_iff, ← Field.split_eq_ok_iff]

/-- Well-formed header flags give their entries, one by one, to the dictionary of overrides. -/
theorem exists_overrides {o : CommonOptions} (h : ∀ flag ∈ o.headers, Field.WellFormed flag) :
    ∃ entries, List.Forall₂ (fun flag e => Field.Names flag e.1 e.2) o.headers entries ∧
      o.overrides = .ok ⟨o.url, o.username, o.token, o.timeout.map UInt64.toNat, none,
        Dict.ofList entries⟩ := by
  obtain ⟨entries, hentries⟩ : ∃ entries, Field.readAll header o.headers = .ok entries := by
    refine Field.exists_readAll_eq_ok_iff.mpr fun flag hflag => ?_
    obtain ⟨e, he⟩ := (Field.exists_split_eq_ok_iff flag).mpr (h flag hflag)
    exact ⟨e, header_eq_ok_iff.mpr (Field.split_eq_ok_iff.mp he)⟩
  have hnames := Field.readAll_eq_ok_iff.mp hentries
  simp only [header_eq_ok_iff] at hnames
  exact ⟨entries, hnames, by rw [overrides, hentries]; rfl⟩

/--
Well-formed header flags lead to a configuration in every environment that misstates nothing. Every
name that some flag gives has exactly one entry there, with the value of the last flag that spells
the name as the prevailing flag does. That is the last flag of the name exactly if no flag of the
name has a spelling that comes later in the order of texts.
-/
theorem headers_of_flags {o : CommonOptions} (env : Environment)
    (hflags : ∀ flag ∈ o.headers, Field.WellFormed flag) :
    ((∃ c, o.config env = .ok c) ↔
      ¬env.MisstatesNumber Environment.timeoutName (bitBound 64) ∧
        ¬env.MisstatesNumber Environment.retriesName (bitBound 32) ∧ ¬env.MisstatesHeaders) ∧
    ∃ entries, List.Forall₂ (fun flag e => Field.Names flag e.1 e.2) o.headers entries ∧
      ∀ c, o.config env = .ok c → ∀ name, Header.Names entries name →
        ∃ e last, c.headers.filter (fun other => Header.sameName other.1 name) = [e] ∧
          Header.Prevails entries e ∧ Header.LastOf entries last ∧
          Header.sameName last.1 name = true ∧
          (e = last ↔ ∀ other ∈ entries, Header.sameName other.1 name = true →
            other.1 ≤ last.1) := by
  obtain ⟨entries, hnames, hoverrides⟩ := exists_overrides hflags
  obtain ⟨hresolves, hlayers⟩ := Config.exists_resolve_iff ⟨o.url, o.username, o.token,
    o.timeout.map UInt64.toNat, none, Dict.ofList entries⟩ env
  have hconfig : ∀ c, o.config env = .ok c ↔ Config.resolve ⟨o.url, o.username, o.token,
      o.timeout.map UInt64.toNat, none, Dict.ofList entries⟩ env = .ok c := by
    intro c
    rw [config, hoverrides]
    exact Outcome.mapError_eq_ok_iff
  simp only [hconfig]
  refine ⟨hresolves, entries, hnames, fun c hc name hname => ?_⟩
  obtain ⟨layer, -, hmerged⟩ := hlayers c hc
  obtain ⟨e, hprevails, hsame, hfilter⟩ :=
    Header.exists_prevails hname (Header.merge [] layer)
  obtain ⟨last, hlast, hlastName⟩ := Header.exists_lastOf hname
  refine ⟨e, last, by rw [hmerged, hfilter], hprevails, hlast, hlastName, ?_⟩
  have hboth : Header.sameName e.1 last.1 = true := by
    rw [Header.sameName_congr hsame, Header.sameName_comm, hlastName]
  rw [hprevails.eq_last_iff hlast hboth]
  refine forall₂_congr fun other _ => ?_
  rw [Header.sameName_comm other.1, Header.sameName_comm other.1, Header.sameName_congr hlastName]

/-- Options with three flags for one header, of which the first and the last are spelled alike. -/
def tenantFlags : CommonOptions :=
  ⟨none, none, some "t", none, ["X-Tenant=a", "x-tenant=b", "X-Tenant=c"], false, false⟩

/-- The entries of these flags. -/
def tenantEntries : List (String × String) :=
  [("X-Tenant", "a"), ("x-tenant", "b"), ("X-Tenant", "c")]

theorem split_tenantFlags :
    List.Forall₂ (fun flag e => Field.split flag = .ok e) tenantFlags.headers tenantEntries :=
  .cons (by rfl) (.cons (by rfl) (.cons (by rfl) .nil))

theorem config_tenantFlags : tenantFlags.config [] =
    .ok { Config.builtin with token := "t", headers := [("x-tenant", "b")] } := by
  have hmerge : Header.merge (Header.merge [] []) (Dict.ofList tenantEntries) =
      [("x-tenant", "b")] := by
    simp only [Header.merge, Header.put, Header.sameName_eq_toList]
    decide +kernel
  rw [← hmerge]
  rfl

/-- The flag in the middle is the one that counts. -/
theorem headers_of_flags_tenant : ∃ c, tenantFlags.config [] = .ok c ∧
    c.headers.filter (fun e => Header.sameName e.1 "X-TENANT") = [("x-tenant", "b")] := by
  have hread := Field.readAll_eq_ok_iff.mpr split_tenantFlags
  have hwell : ∀ flag ∈ tenantFlags.headers, Field.WellFormed flag := fun flag hflag =>
    (Field.exists_split_eq_ok_iff flag).mp (Field.exists_readAll_eq_ok_iff.mp ⟨_, hread⟩ flag hflag)
  obtain ⟨-, entries, hnames, hheaders⟩ := headers_of_flags [] hwell
  simp only [← Field.split_eq_ok_iff, ← Field.readAll_eq_ok_iff] at hnames
  obtain rfl : tenantEntries = entries := Except.ok.inj (hread.symm.trans hnames)
  have hnamed : Header.Names tenantEntries "X-TENANT" :=
    ⟨_, List.mem_cons_self, by rw [Header.sameName_eq_toList]; decide⟩
  obtain ⟨e, last, hfilter, hprevails, -, -, -⟩ := hheaders _ config_tenantFlags _ hnamed
  refine ⟨_, config_tenantFlags, hfilter.trans (congrArg (fun e => [e]) ?_)⟩
  have hgreatest : Header.sameName "x-tenant" e.1 = true → "x-tenant" ≤ e.1 :=
    hprevails.greatest ("x-tenant", "b") (by simp [tenantEntries])
  have hmem := hprevails.mem
  simp only [tenantEntries, List.mem_cons, List.not_mem_nil, or_false] at hmem
  rcases hmem with rfl | rfl | rfl
  · exact absurd (hgreatest (by rw [Header.sameName_eq_toList]; decide)) (by decide)
  · rfl
  · exact absurd (hgreatest (by rw [Header.sameName_eq_toList]; decide)) (by decide)

/-- A header flag may give way to an earlier one of another spelling. -/
theorem not_last_of_spellings : ¬∀ (o : CommonOptions) (env : Environment) (c : Config)
    (entries : List (String × String)) (last : String × String), o.config env = .ok c →
      List.Forall₂ (fun flag e => Field.Names flag e.1 e.2) o.headers entries →
      Header.LastOf entries last →
      ∃ e, c.headers.filter (fun other => Header.sameName other.1 last.1) = [e] ∧
        e.2 = last.2 := by
  intro hclaim
  obtain ⟨e, hfilter, hvalue⟩ := hclaim tenantFlags [] _ tenantEntries _ config_tenantFlags
    (split_tenantFlags.imp fun _ _ h => Field.split_eq_ok_iff.mp h)
    (.later (.later (.here (by simp [Header.Names]))))
  have hmem : e ∈ [("x-tenant", "b")] := List.mem_of_mem_filter (hfilter ▸ List.mem_cons_self)
  rw [List.mem_singleton.mp hmem] at hvalue
  exact absurd hvalue (by decide)

end CommonOptions

end Mailroom
