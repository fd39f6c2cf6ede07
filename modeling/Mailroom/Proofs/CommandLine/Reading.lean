import Mailroom.CommandLine.Reading
import Mailroom.Proofs.Dict.Order
import Mailroom.Proofs.Outcome

/-!
# What a reading holds

Reading keeps to the arguments of a level: whatever is stored on it was accepted by one of them, and
an argument that takes values has one at least. This holds from word to word, so it holds of what
the innermost level is finished with, on which its rules are then checked. The levels around it
cannot change what is given for an argument that is its own (`exists_innermost_of_read`).
-/

namespace Mailroom.CommandLine

/-! ## What a level accepts -/

/-- Values that the arguments of a name take: one of them accepts each, and there are none only
where one of them takes none. -/
structure Scope.Takes (s : Scope) (name : String) (values : List String) : Prop where
  each : ∀ value ∈ values, ∃ a ∈ s.arguments, a.name = name ∧ a.form.fault? value = none
  none : values = [] → ∃ a ∈ s.arguments, a.name = name ∧ a.takesValue = false

/-- Everything that was given was given for arguments of a level. -/
def Scope.Accepts (s : Scope) (given : Given) : Prop :=
  ∀ name values, Dict.find? given name = some values → s.Takes name values

theorem Scope.Takes.exists_argument {s : Scope} {name : String} {values : List String}
    (h : s.Takes name values) : ∃ a ∈ s.arguments, a.name = name := by
  cases values with
  | nil =>
    obtain ⟨a, ha, hname, -⟩ := h.none rfl
    exact ⟨a, ha, hname⟩
  | cons value rest =>
    obtain ⟨a, ha, hname, -⟩ := h.each value List.mem_cons_self
    exact ⟨a, ha, hname⟩

/-- A level as far as it is read keeps to its arguments. -/
structure Progress.Within (scope : Scope) (p : Progress) : Prop where
  ascending : Dict.Ascending p.given
  accepted : scope.Accepts p.given
  pending : ∀ a values, p.pending = some (a, values) → a ∈ scope.arguments

/-- Separating values leaves one at least. -/
theorem Argument.separated_ne_nil (a : Argument) {values : List String} (h : values ≠ []) :
    a.separated values ≠ [] := by
  unfold separated
  split
  · obtain ⟨value, rest, rfl⟩ := List.exists_cons_of_ne_nil h
    simp [Text.parts_ne_nil]
  · exact h

namespace Progress

variable {scope : Scope} {a : Argument} {p q : Progress}

theorem within_start (scope : Scope) : Within scope start :=
  ⟨Dict.ascending_nil, nofun, nofun⟩

/-- What is stored for an argument of a level is accepted there. -/
theorem accepts_of_store {given stored : Given} {values : List String}
    (haccepted : scope.Accepts given) (ha : a ∈ scope.arguments)
    (h : store given a values = .ok stored) :
    scope.Accepts stored ∧ ∃ added, stored = Dict.insert given a.name added := by
  unfold store at h
  dsimp only at h
  split at h
  · cases h
  next hvalues =>
  split at h
  · cases h
  split at h
  · cases h
  next hforms =>
  obtain rfl := Except.ok.inj h
  refine ⟨fun name found hfound => ?_, _, rfl⟩
  by_cases hname : name = a.name
  · rw [hname, Dict.find?_insert_self, Option.some.injEq] at hfound
    rw [← hfound, hname]
    have hearlier : ∀ value ∈ (Dict.find? given a.name).getD [],
        ∃ b ∈ scope.arguments, b.name = a.name ∧ b.form.fault? value = none := by
      cases hgiven : Dict.find? given a.name with
      | none => simp
      | some earlier => exact (haccepted _ _ hgiven).each
    refine ⟨fun value hvalue => ?_, fun hnil => ⟨a, ha, rfl, ?_⟩⟩
    · rcases List.mem_append.mp hvalue with hvalue | hvalue
      · exact hearlier value hvalue
      · exact ⟨a, ha, rfl, List.findSome?_eq_none_iff.mp hforms value hvalue⟩
    · have hseparated := (List.append_eq_nil_iff.mp hnil).2
      have hnone : values = [] := Classical.byContradiction fun hne =>
        a.separated_ne_nil hne hseparated
      simpa [hnone] using hvalues
  · rw [Dict.find?_insert_of_ne _ _ hname] at hfound
    exact haccepted name found hfound

theorem Within.stored (h : Within scope p) (ha : a ∈ scope.arguments) {values : List String}
    {stored : Given} (hstore : store p.given a values = .ok stored) :
    Within scope { p with given := stored } := by
  obtain ⟨haccepted, added, rfl⟩ := accepts_of_store h.accepted ha hstore
  exact ⟨h.ascending.insert _ _, haccepted, h.pending⟩

theorem Within.settled (h : Within scope p) (hq : p.settled = .ok q) :
    Within scope q ∧ q.pending = none := by
  unfold Progress.settled at hq
  split at hq
  · next hnone =>
    obtain rfl := Except.ok.inj hq
    exact ⟨h, hnone⟩
  · next a values hpending =>
    obtain ⟨stored, hstore, rfl⟩ := Outcome.map_eq_ok_iff.mp hq
    have hstored := h.stored (h.pending _ _ hpending) hstore
    exact ⟨⟨hstored.ascending, hstored.accepted, nofun⟩, rfl⟩

theorem Within.complete (h : Within scope p) (ha : a ∈ scope.arguments) {title : String}
    {values : List String} (hq : p.complete title a values = .ok q) : Within scope q := by
  unfold Progress.complete at hq
  split at hq
  · cases hq
  next settled hsettled =>
  have hkept : (store settled.given a values).map (fun given => { settled with given := given }) =
      .ok q → Within scope q := by
    intro hmap
    obtain ⟨stored, hstore, rfl⟩ := Outcome.map_eq_ok_iff.mp hmap
    exact (h.settled hsettled).1.stored ha hstore
  split at hq
  · cases hq
  · cases hq
  · exact hkept hq

theorem Within.awaitValue (h : Within scope p) (ha : a ∈ scope.arguments)
    (hq : p.awaitValue a = .ok q) : Within scope q := by
  obtain ⟨settled, hsettled, rfl⟩ := Outcome.map_eq_ok_iff.mp hq
  have hwithin := (h.settled hsettled).1
  refine ⟨hwithin.ascending, hwithin.accepted, fun b values hb => ?_⟩
  obtain ⟨rfl, -⟩ := Prod.mk.inj (Option.some.inj hb)
  exact ha

theorem Within.long (h : Within scope p) {name : String} {value : Option String}
    (hq : p.long scope name value = .ok q) : Within scope q := by
  unfold Progress.long at hq
  split at hq
  · cases hq
  next a ha =>
  have hmem : a ∈ scope.arguments := List.mem_of_find?_eq_some ha
  split at hq
  · split at hq
    · exact h.complete hmem hq
    · cases hq
  · split at hq
    · exact h.awaitValue hmem hq
    · exact h.complete hmem hq

theorem Within.shorts (h : Within scope p) {names : List Char}
    (hq : p.shorts scope names = .ok q) : Within scope q := by
  induction names generalizing p with
  | nil =>
    obtain rfl := Except.ok.inj hq
    exact h
  | cons c rest ih =>
    unfold Progress.shorts at hq
    split at hq
    · cases hq
    next a ha =>
    have hmem : a ∈ scope.arguments := List.mem_of_find?_eq_some ha
    split at hq
    · split at hq
      · exact h.awaitValue hmem hq
      · exact h.complete hmem hq
      · exact h.complete hmem hq
    · obtain ⟨next, hnext, hrest⟩ := Outcome.bind_eq_ok_iff.mp hq
      exact ih (h.complete hmem hnext) hrest

theorem Within.take (h : Within scope p) (word : String) : Within scope (p.take word) := by
  refine ⟨h.ascending, h.accepted, fun a values hpending => ?_⟩
  obtain ⟨⟨b, earlier⟩, hb, heq⟩ := Option.map_eq_some_iff.mp hpending
  obtain ⟨rfl, -⟩ := Prod.mk.inj heq
  exact h.pending _ _ hb

theorem Within.positional (h : Within scope p) {word : String}
    (hq : p.positional scope word = .ok q) : Within scope q := by
  unfold Progress.positional at hq
  split at hq
  · cases hq
  next a ha =>
  split at hq
  · obtain rfl := Except.ok.inj hq
    exact h.take word
  · obtain ⟨settled, hsettled, rfl⟩ := Outcome.map_eq_ok_iff.mp hq
    have hwithin := (h.settled hsettled).1
    refine ⟨hwithin.ascending, hwithin.accepted, fun b values hb => ?_⟩
    obtain ⟨rfl, -⟩ := Prod.mk.inj (Option.some.inj hb)
    exact (List.mem_filter.mp (List.mem_of_getElem? ha)).1

end Progress

/-! ## Words -/

section Words

variable {scope : Scope} {p : Progress}

/-- A word leads on within a level, or to one that is right below it. -/
inductive Next.Follows (scope : Scope) : Next → Prop where
  | stay {p : Progress} (within : p.Within scope) : Next.Follows scope (.stay p)
  | enter {l : Level} (level : l ∈ scope.levels) : Next.Follows scope (.enter l)
  | topic : Next.Follows scope .topic

theorem follows_of_map {x : Except Usage Progress} {next : Next}
    (hwithin : ∀ q, x = .ok q → q.Within scope) (h : x.map Next.stay = .ok next) :
    next.Follows scope := by
  obtain ⟨q, hq, rfl⟩ := Outcome.map_eq_ok_iff.mp h
  exact .stay (hwithin q hq)

theorem follows_of_readWord (hp : p.Within scope) {word : String} {next : Next}
    (h : readWord scope p word = .ok next) : next.Follows scope := by
  unfold readWord at h
  split at h
  · exact follows_of_map (fun _ => hp.positional) h
  split at h
  · obtain rfl := Except.ok.inj h
    exact .stay ⟨hp.ascending, hp.accepted, hp.pending⟩
  · exact follows_of_map (fun _ => hp.long) h
  · exact follows_of_map (fun _ => hp.shorts) h
  unfold readPlain at h
  split at h
  · obtain rfl := Except.ok.inj h
    exact .stay (hp.take word)
  split at h
  · next l hl =>
    obtain rfl := Except.ok.inj h
    exact .enter (List.mem_of_find?_eq_some hl)
  split at h
  · obtain rfl := Except.ok.inj h
    exact .topic
  · exact follows_of_map (fun _ => hp.positional) h

/-- What a level is finished with keeps to its arguments and to its rules. -/
theorem accepts_of_finish (hp : p.Within scope) {entered : Bool} {given : Given}
    (h : finish scope p entered = .ok given) :
    Dict.Ascending given ∧ scope.Accepts given ∧ scope.fault? given entered = none := by
  unfold finish at h
  split at h
  · cases h
  next settled hsettled =>
  split at h
  · cases h
  next hrules =>
  obtain rfl := Except.ok.inj h
  have hwithin := (hp.settled hsettled).1
  exact ⟨hwithin.ascending, hwithin.accepted, hrules⟩

end Words

/-! ## Levels -/

/-- The levels that lead from an outermost one to another by their names. -/
inductive Leads (common : List Argument) (outermost : Scope) : List String → Scope → Prop where
  | outermost : Leads common outermost [] outermost
  | entered {path : List String} {scope : Scope} {l : Level}
      (leads : Leads common outermost path scope) (level : l ∈ scope.levels) :
      Leads common outermost (path ++ [l.name]) (scope.below common l)

/-- No argument of a name belongs to a level that has others below it. -/
def IsOwn (common : List Argument) (outermost : Scope) (name : String) : Prop :=
  ∀ path scope, Leads common outermost path scope → scope.levels ≠ [] →
    ∀ a ∈ scope.arguments, a.name ≠ name

section Levels

variable {common : List Argument} {outermost : Scope}

/-- A level that was left keeps to its arguments and leads on. -/
structure Outer.Within (common : List Argument) (outermost : Scope) (o : Outer) : Prop where
  leads : ∃ path, Leads common outermost path o.scope
  levels : o.scope.levels ≠ []
  progress : o.progress.Within o.scope

/-- Levels that were left change nothing that is given for an argument that is not theirs. -/
theorem find?_of_finishOuter {outer : List Outer}
    (houter : ∀ o ∈ outer, o.Within common outermost) {given found : Given}
    (hgiven : Dict.Ascending given) (h : finishOuter given outer = .ok found) {name : String}
    (hname : IsOwn common outermost name) : Dict.find? found name = Dict.find? given name := by
  induction outer generalizing given with
  | nil =>
    obtain rfl := Except.ok.inj h
    rfl
  | cons o rest ih =>
    obtain ⟨ho, hrest⟩ := List.forall_mem_cons.mp houter
    unfold finishOuter at h
    split at h
    · cases h
    next left hleft =>
    obtain ⟨hascending, haccepted, -⟩ := accepts_of_finish ho.progress hleft
    rw [ih hrest (hascending.insertAll given) h, Dict.find?_insertAll left hgiven]
    have hnone : Dict.find? left name = none := by
      cases hfound : Dict.find? left name with
      | none => rfl
      | some values =>
        obtain ⟨path, hleads⟩ := ho.leads
        obtain ⟨a, ha, heq⟩ := (haccepted name values hfound).exists_argument
        exact absurd heq (hname path o.scope hleads ho.levels a ha)
    rw [hnone, Option.or_none]

/-- Reading ends on a level that its path leads to. What is given there keeps to the arguments and
the rules of the level, and it is all that is given for them. -/
theorem exists_innermost_of_readWords {path : List String} {outer : List Outer} {scope : Scope}
    {p : Progress} (hleads : Leads common outermost path scope) (hp : p.Within scope)
    (houter : ∀ o ∈ outer, o.Within common outermost) {words : List String} {reading : Reading}
    (h : readWords common path outer scope p words = .ok reading) :
    ∃ inner given, Leads common outermost reading.path inner ∧ inner.Accepts given ∧
      inner.fault? given false = none ∧
      ∀ name, IsOwn common outermost name →
        Dict.find? reading.given name = Dict.find? given name := by
  induction words generalizing path outer scope p with
  | nil =>
    unfold readWords at h
    split at h
    · cases h
    next given hgiven =>
    obtain ⟨found, hfound, rfl⟩ := Outcome.map_eq_ok_iff.mp h
    obtain ⟨hascending, haccepted, hrules⟩ := accepts_of_finish hp hgiven
    exact ⟨scope, given, hleads, haccepted, hrules,
      fun _ hname => find?_of_finishOuter houter hascending hfound hname⟩
  | cons word rest ih =>
    unfold readWords at h
    split at h
    · cases h
    · cases h
    · next q hnext =>
      cases follows_of_readWord hp hnext with
      | stay within => exact ih hleads within houter h
    · next l hnext =>
      cases follows_of_readWord hp hnext with
      | enter level =>
        refine ih (hleads.entered level) (Progress.within_start _) ?_ h
        exact List.forall_mem_cons.mpr
          ⟨⟨⟨path, hleads⟩, List.ne_nil_of_mem level, hp⟩, houter⟩

theorem exists_innermost_of_read {program : String} {levels : List Level} {words : List String}
    {reading : Reading} (h : read program common levels words = .ok reading) :
    ∃ inner given, Leads common ⟨program, common, levels⟩ reading.path inner ∧
      inner.Accepts given ∧ inner.fault? given false = none ∧
      ∀ name, IsOwn common ⟨program, common, levels⟩ name →
        Dict.find? reading.given name = Dict.find? given name :=
  exists_innermost_of_readWords .outermost (Progress.within_start _) (List.forall_mem_nil _) h

end Levels

end Mailroom.CommandLine
