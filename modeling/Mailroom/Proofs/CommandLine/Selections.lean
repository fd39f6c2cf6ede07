import Mailroom.CommandLine.Language
import Mailroom.Proofs.CommandLine.Reading

/-!
# Selections on a command line

The commands that take a selection of records get it by numbers, by a condition, or with a flag for
all of them. A command line without any of these is none. Since an argument for numbers accepts
nothing else, and its values are never none, a selection by numbers that is read has one at least
(`isChosen_of_words`).
-/

namespace Mailroom

/-- The records that a command takes: some by their numbers, those of a condition, or all. -/
inductive Target where
  | ids (ids : List UInt64)
  | query (query : SubscriberQuery)
  | every

namespace Target

/-- The records of a selection of subscribers. -/
def ofSelection (selection : Selection) : Target :=
  match selection with
  | .ids ns => ids ns
  | .query q => query q

/-- Where records are taken by their numbers, there is one at least. -/
def IsChosen (t : Target) : Prop :=
  match t with
  | ids ns => ns ≠ []
  | _ => True

end Target

/-- The records that a command takes, if it takes a selection of them. -/
def ServerCommand.target? (c : ServerCommand) : Option Target :=
  match c with
  | manageLists _ selection _ _ => some (.ofSelection selection)
  | blocklist selection => some (.ofSelection selection)
  | deleteMany selection => some (.ofSelection selection)
  | deleteBounces ids => some (.ids ids)
  | deleteAllBounces => some .every
  | _ => none

namespace CommandLine

/-! ## Arguments that are given -/

/-- Whether a value has to be a number. -/
def ValueForm.isNumber (form : ValueForm) : Bool :=
  match form with
  | number => true
  | _ => false

theorem ValueForm.exists_readWord? {form : ValueForm} (hform : form.isNumber = true)
    {value : String} (h : form.fault? value = none) : ∃ n, Text.readWord? value = some n := by
  cases form with
  | number =>
    cases hread : Text.readWord? value with
    | some n => exact ⟨n, rfl⟩
    | none => simp [fault?, hread] at h
  | _ => cases hform

section Given

variable {scope : Scope} {given : Given} {name : String}

/-- An argument that takes values has one if it is given. -/
theorem exists_values (haccepted : scope.Accepts given)
    (harguments : ∀ a ∈ scope.arguments, a.name = name → a.takesValue = true)
    (hgiven : given.has name = true) :
    ∃ value rest, given.texts name = value :: rest ∧ scope.Takes name (value :: rest) := by
  obtain ⟨values, hvalues⟩ := Option.isSome_iff_exists.mp hgiven
  have htakes := haccepted name values hvalues
  cases values with
  | nil =>
    obtain ⟨a, ha, hname, hnone⟩ := htakes.none rfl
    exact absurd (harguments a ha hname) (by simp [hnone])
  | cons value rest => exact ⟨value, rest, by rw [Given.texts, hvalues]; rfl, htakes⟩

/-- An argument for numbers has one if it is given. -/
theorem numbers_ne_nil (haccepted : scope.Accepts given)
    (harguments : ∀ a ∈ scope.arguments, a.name = name →
      a.takesValue = true ∧ a.form.isNumber = true)
    (hgiven : given.has name = true) : given.numbers name ≠ [] := by
  obtain ⟨value, rest, htexts, htakes⟩ :=
    exists_values haccepted (fun a ha hname => (harguments a ha hname).1) hgiven
  obtain ⟨a, ha, hname, haccepts⟩ := htakes.each value List.mem_cons_self
  obtain ⟨n, hn⟩ := ValueForm.exists_readWord? (harguments a ha hname).2 haccepts
  rw [Given.numbers, htexts, List.filterMap_cons_some hn]
  exact List.cons_ne_nil _ _

/-- An argument that only one other makes needless is given, or the other is. -/
theorem has_or_has_of_fault? {entered : Bool} (h : scope.fault? given entered = none)
    {a : Argument} (ha : a ∈ scope.arguments) {other : String} (hother : a.replacedBy = [other]) :
    given.has a.name = true ∨ given.has other = true := by
  unfold Scope.fault? at h
  split at h
  · cases h
  split at h
  · cases h
  split at h
  · cases h
  next hmissing =>
  rw [List.any_eq_true, not_exists] at hmissing
  have hpresent : scope.isMissing given a = false := by simpa [ha] using hmissing a
  rw [Scope.isMissing, hother] at hpresent
  cases hself : given.has a.name with
  | true => exact Or.inl rfl
  | false =>
    rw [hself, Bool.not_false, Bool.true_and, Bool.or_eq_false_iff] at hpresent
    exact Or.inr (by simpa using hpresent.2)

end Given

/-! ## Levels of the program -/

/-- The outermost level of the program. -/
def outermost : Scope :=
  ⟨appName, common, levels⟩

/-- There are two levels below the outermost one, and only the inner one has arguments of its own.
-/
theorem levels_of_leads {path : List String} {scope : Scope}
    (h : Leads common outermost path scope) :
    scope.levels = [] ∨ scope.arguments = common ∧
      (scope.levels = levels ∨ ∃ l ∈ levels, scope.levels = l.levels) := by
  have hlevels : ∀ l ∈ levels, (l.levels.isEmpty = true ∨ l.arguments.isEmpty = true) ∧
      ∀ inner ∈ l.levels, inner.levels.isEmpty = true := by
    decide +kernel
  induction h with
  | outermost => exact Or.inr ⟨rfl, Or.inl rfl⟩
  | @entered path scope l _ level ih =>
    rcases ih with hnone | ⟨-, hall | ⟨outer, houter, hinner⟩⟩
    · rw [hnone] at level
      cases level
    · rw [hall] at level
      rcases (hlevels l level).1 with hleaf | hplain
      · exact Or.inl (List.isEmpty_iff.mp hleaf)
      · refine Or.inr ⟨?_, Or.inr ⟨l, level, rfl⟩⟩
        rw [Scope.below, List.isEmpty_iff.mp hplain, List.nil_append]
    · rw [hinner] at level
      exact Or.inl (List.isEmpty_iff.mp ((hlevels outer houter).2 l level))

/-- Arguments that are not common to all levels belong to the innermost one. -/
theorem isOwn_of_not_common {name : String} (h : ∀ a ∈ common, a.name ≠ name) :
    IsOwn common outermost name := by
  intro path scope hleads hlevels a ha
  rcases levels_of_leads hleads with hnone | ⟨hcommon, -⟩
  · exact absurd hnone hlevels
  · rw [hcommon] at ha
    exact h a ha

theorem eq_outermost_of_leads {scope : Scope} (h : Leads common outermost [] scope) :
    scope = outermost := by
  generalize hpath : ([] : List String) = path at h
  cases h with
  | outermost => rfl
  | entered => exact absurd hpath.symm (by simp)

/-- A path of two names leads to a level that is right below another one of the program. -/
theorem exists_levels_of_leads {group name : String} {scope : Scope}
    (h : Leads common outermost [group, name] scope) :
    ∃ l ∈ levels, l.name = group ∧ ∃ inner ∈ l.levels, inner.name = name ∧
      scope.arguments = inner.arguments ++ common := by
  generalize hpath : [group, name] = path at h
  cases h with
  | outermost => cases hpath
  | @entered before outer inner hleads level =>
    obtain ⟨rfl, hname⟩ : [group] = before ∧ [name] = [inner.name] := List.append_inj' hpath rfl
    generalize hfirst : [group] = path at hleads
    cases hleads with
    | outermost => cases hfirst
    | @entered before first l hleads hl =>
      obtain ⟨rfl, hgroup⟩ : [] = before ∧ [group] = [l.name] := List.append_inj' hfirst rfl
      obtain rfl := eq_outermost_of_leads hleads
      exact ⟨l, hl, (List.cons.inj hgroup).1.symm, inner, level, (List.cons.inj hname).1.symm, rfl⟩

/-! ## Selections -/

section Selections

variable {group name : String} {g : Given} {t : Target}

/-- What is taken by a command that is made of something given, if it is. -/
theorem bind_target?_map {α : Type} (x : Option α) (f : α → ServerCommand) :
    (x.map f).bind ServerCommand.target? = x.bind fun a => (f a).target? := by
  cases x <;> rfl

theorem target_of_subscriberCommandOf?
    (h : (subscriberCommandOf? name g).bind ServerCommand.target? = some t) :
    name ∈ ["lists", "blocklist", "delete-many"] ∧ t = .ofSelection (selectionOf g) := by
  unfold subscriberCommandOf? at h
  split at h
  · obtain ⟨c, hc, hselects⟩ := Option.bind_eq_some_iff.mp h
    obtain ⟨text, -, hmap⟩ := Option.bind_eq_some_iff.mp hc
    obtain ⟨action, -, rfl⟩ := Option.map_eq_some_iff.mp hmap
    exact ⟨by decide, (Option.some.inj hselects).symm⟩
  · exact ⟨by decide, (Option.some.inj h).symm⟩
  · exact ⟨by decide, (Option.some.inj h).symm⟩
  all_goals simp [ServerCommand.target?, ↓bind_target?_map] at h

theorem target_of_bounceCommandOf?
    (h : (bounceCommandOf? name g).bind ServerCommand.target? = some t) :
    name = "delete" ∧ t = if g.has "all" then .every else .ids (g.numbers "ids") := by
  unfold bounceCommandOf? at h
  split at h
  · cases h
  · simp [ServerCommand.target?, ↓bind_target?_map] at h
  · refine ⟨rfl, ?_⟩
    cases hall : g.has "all" with
    | true =>
      rw [hall] at h
      exact (Option.some.inj h).symm
    | false =>
      rw [hall] at h
      exact (Option.some.inj h).symm
  · cases h

/-- A command of some records is one of subscribers with a selection, or the deletion of bounces. -/
theorem target_of_serverCommandOf?
    (h : (serverCommandOf? group name g).bind ServerCommand.target? = some t) :
    group = "subscribers" ∧ name ∈ ["lists", "blocklist", "delete-many"] ∧
        t = .ofSelection (selectionOf g) ∨
      group = "bounces" ∧ name = "delete" ∧
        t = if g.has "all" then .every else .ids (g.numbers "ids") := by
  have hrecord : ∀ r, (recordCommandOf? r name g).bind ServerCommand.target? = none := by
    intro r
    simp [recordCommandOf?, ServerCommand.target?, ↓bind_target?_map]
  have hfurther : ∀ {r : Resource} {x : Option ServerCommand},
      ((recordCommandOf? r name g).or x).bind ServerCommand.target? = some t →
        x.bind ServerCommand.target? = some t := by
    intro r x hor
    cases hc : recordCommandOf? r name g with
    | none => rwa [hc, Option.none_or] at hor
    | some c =>
      rw [hc, Option.some_or, ← hc, hrecord r] at hor
      cases hor
  unfold serverCommandOf? at h
  split at h
  · cases (hrecord _).symm.trans h
  · exact Or.inl ⟨rfl, target_of_subscriberCommandOf? (hfurther h)⟩
  · have hcampaign := hfurther h
    unfold campaignCommandOf? at hcampaign
    split at hcampaign <;>
      simp [ServerCommand.target?, ↓bind_target?_map, ↓Option.bind_assoc] at hcampaign
  · have htemplate := hfurther h
    split at htemplate <;> simp [ServerCommand.target?, ↓bind_target?_map] at htemplate
  · have hmedia := hfurther h
    split at hmedia <;> simp [ServerCommand.target?, ↓bind_target?_map] at hmedia
  · exact Or.inr ⟨rfl, target_of_bounceCommandOf? h⟩
  · unfold importCommandOf? at h
    split at h <;> simp [ServerCommand.target?, ↓bind_target?_map] at h
  · simp [ServerCommand.target?, ↓bind_target?_map] at h
  · unfold settingCommandOf? at h
    split at h <;> simp [ServerCommand.target?] at h
  · split at h <;> simp [ServerCommand.target?] at h
  · unfold systemCommandOf? at h
    split at h <;> simp [ServerCommand.target?] at h
  · cases h

end Selections

/-- A level takes records by their numbers unless another argument is given. -/
def Level.takesNumbersOr (l : Level) (other : String) : Bool :=
  (l.arguments.any fun a => a.name = "ids" && a.replacedBy = [other]) &&
    (l.arguments ++ common).all fun a => a.name ≠ "ids" || (a.takesValue && a.form.isNumber)

/-- On such a level the other argument is given, or there is a number at least. -/
theorem has_or_numbers_ne_nil {scope : Scope} {given : Given} (haccepted : scope.Accepts given)
    (hrules : scope.fault? given false = none) {l : Level}
    (harguments : scope.arguments = l.arguments ++ common) {other : String}
    (h : l.takesNumbersOr other = true) :
    given.has other = true ∨ given.numbers "ids" ≠ [] := by
  rw [Level.takesNumbersOr, Bool.and_eq_true, List.any_eq_true, List.all_eq_true,
    ← harguments] at h
  obtain ⟨⟨a, ha, hreplaced⟩, hnumbers⟩ := h
  rw [Bool.and_eq_true, decide_eq_true_eq, decide_eq_true_eq] at hreplaced
  have hmem : a ∈ scope.arguments := harguments ▸ List.mem_append_left _ ha
  rcases has_or_has_of_fault? hrules hmem hreplaced.2 with hids | hother
  · rw [hreplaced.1] at hids
    refine Or.inr (numbers_ne_nil haccepted (fun b hb hname => ?_) hids)
    simpa [hname] using hnumbers b hb
  · exact Or.inl hother

/-- The levels with a selection of subscribers take numbers or a condition, and the deletion of
bounces takes numbers or all. -/
theorem takesNumbersOr_levels : ∀ l ∈ levels, ∀ inner ∈ l.levels,
    (l.name = "subscribers" → inner.name ∈ ["lists", "blocklist", "delete-many"] →
      inner.takesNumbersOr "query" = true ∧
        ∀ a ∈ inner.arguments ++ common, a.name = "query" → a.takesValue = true) ∧
    (l.name = "bounces" → inner.name = "delete" → inner.takesNumbersOr "all" = true) := by
  decide +kernel

/-- What is read as a selection of subscribers has a condition, or a number at least. -/
theorem isChosen_selectionOf {scope : Scope} {given found : Given}
    (haccepted : scope.Accepts given)
    (hquery : ∀ a ∈ scope.arguments, a.name = "query" → a.takesValue = true)
    (hgiven : given.has "query" = true ∨ given.numbers "ids" ≠ [])
    (hfound : ∀ name, (∀ a ∈ common, a.name ≠ name) →
      Dict.find? found name = Dict.find? given name) :
    (Target.ofSelection (selectionOf found)).IsChosen := by
  unfold selectionOf
  split
  · trivial
  next hnone =>
  rw [Given.text?, Given.texts, hfound "query" (by decide)] at hnone
  change found.numbers "ids" ≠ []
  rw [Given.numbers, Given.texts, hfound "ids" (by decide)]
  refine hgiven.resolve_left fun hhas => ?_
  obtain ⟨value, rest, htexts, -⟩ := exists_values haccepted hquery hhas
  rw [Given.texts] at htexts
  rw [htexts] at hnone
  cases hnone

/-- A command that is read takes one record at least where it takes them by their numbers. -/
theorem isChosen_of_commandOf? {words : List String} {reading : Reading}
    (hread : read appName common levels words = .ok reading) {c : ServerCommand}
    (hcommand : commandOf? reading = some (.server c)) {t : Target} (ht : c.target? = some t) :
    t.IsChosen := by
  obtain ⟨scope, given, hleads, haccepted, hrules, hown⟩ := exists_innermost_of_read hread
  have hfound : ∀ name, (∀ a ∈ common, a.name ≠ name) →
      Dict.find? reading.given name = Dict.find? given name :=
    fun name hname => hown name (isOwn_of_not_common hname)
  unfold commandOf? at hcommand
  split at hcommand
  · cases hcommand
  · obtain ⟨shell, -, hshell⟩ := Option.map_eq_some_iff.mp hcommand
    cases hshell
  · next group name hpath =>
    obtain ⟨c', hserver, hc⟩ := Option.map_eq_some_iff.mp hcommand
    obtain rfl := Command.server.inj hc
    rw [hpath] at hleads
    obtain ⟨l, hl, rfl, inner, hinner, rfl, harguments⟩ := exists_levels_of_leads hleads
    obtain ⟨hsubscribers, hbounces⟩ := takesNumbersOr_levels l hl inner hinner
    rcases target_of_serverCommandOf? (Option.bind_eq_some_iff.mpr ⟨_, hserver, ht⟩) with
      ⟨hgroup, hname, rfl⟩ | ⟨hgroup, hname, rfl⟩
    · obtain ⟨htakes, hquery⟩ := hsubscribers hgroup hname
      rw [← harguments] at hquery
      exact isChosen_selectionOf haccepted hquery
        (has_or_numbers_ne_nil haccepted hrules harguments htakes) hfound
    · have hgiven := has_or_numbers_ne_nil haccepted hrules harguments (hbounces hgroup hname)
      have hall : reading.given.has "all" = given.has "all" :=
        congrArg Option.isSome (hfound "all" (by decide))
      have hnumbers : reading.given.numbers "ids" = given.numbers "ids" := by
        rw [Given.numbers, Given.texts, hfound "ids" (by decide)]
        rfl
      rw [hall, hnumbers]
      split
      · trivial
      · next hnone => exact hgiven.resolve_left hnone
  · cases hcommand

end CommandLine

/-- A command line that takes records by their numbers has one at least. -/
theorem Invocation.isChosen_of_words {words : List String} {i : Invocation}
    (h : Invocation.ofWords words = .ok i) {c : ServerCommand} (hc : i.command = .server c)
    {t : Target} (ht : c.target? = some t) : t.IsChosen := by
  unfold ofWords at h
  split at h
  · cases h
  next reading hread =>
  split at h
  · next command hcommand =>
    obtain rfl := Except.ok.inj h
    obtain rfl : command = .server c := hc
    exact CommandLine.isChosen_of_commandOf? hread hcommand ht
  · cases h

end Mailroom
