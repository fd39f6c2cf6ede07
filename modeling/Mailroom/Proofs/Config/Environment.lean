import Mailroom.Config.Environment
import Mailroom.Proofs.Json.Ordered
import Mailroom.Proofs.Outcome
import Mailroom.Proofs.Text.Numeral

/-!
# What an environment states

A variable states a number if it spells one within bounds, blanks around it aside, and headers if it
is a JSON object of texts. A blank variable counts as not set and states nothing. Reading a variable
fails exactly if it is set and misstates what it should state, and what is read is what is stated.
-/

namespace Mailroom

namespace Environment

/-- A variable is set to a text that is not blank. -/
def Sets (env : Environment) (name value : String) : Prop :=
  Dict.find? env name = some value ∧ Text.isBlank value = false

/-- A variable is set to one text at most. -/
theorem Sets.unique {env : Environment} {name value other : String} (h : env.Sets name value)
    (hother : env.Sets name other) : value = other :=
  Option.some.inj (h.1.symm.trans hother.1)

theorem get?_eq_some_iff {env : Environment} {name value : String} :
    env.get? name = some value ↔ env.Sets name value := by
  rw [get?, Option.filter_eq_some_iff, Sets, Bool.not_eq_true']

theorem get?_eq_none_iff {env : Environment} {name : String} :
    env.get? name = none ↔ ∀ value, ¬env.Sets name value := by
  rw [Option.eq_none_iff_forall_ne_some]
  exact forall_congr' fun value => not_congr get?_eq_some_iff

/-- A variable is set to a text that spells a number once the blanks around it are taken off. -/
def GivesNumber (env : Environment) (name : String) (n : Nat) : Prop :=
  ∃ raw, env.Sets name raw ∧ Text.Spells (Text.trim raw) n

/-- A variable is set, but not to a number below a bound. -/
def MisstatesNumber (env : Environment) (name : String) (bound : Nat) : Prop :=
  ∃ raw, env.Sets name raw ∧ ∀ n < bound, ¬Text.Spells (Text.trim raw) n

/-- A variable that should be a number fails exactly if it is set and misstates one. -/
theorem number?_eq_error_iff {env : Environment} {name : String} {bound : Nat} {e : ConfigError} :
    env.number? name bound = .error e ↔
      ∃ raw, env.Sets name raw ∧ (∀ n < bound, ¬Text.Spells (Text.trim raw) n) ∧
        e = .invalidNumber name raw := by
  unfold number?
  split
  · next hnone => simp [get?_eq_none_iff.mp hnone]
  · next raw hraw =>
    have hsets := get?_eq_some_iff.mp hraw
    split
    · next n hn =>
      have hspells := Text.readUnsigned?_eq_some_iff.mp hn
      simp only [reduceCtorEq, false_iff, not_exists, not_and]
      intro other hother hnot
      rw [hother.unique hsets] at hnot
      exact absurd hspells.1 (hnot n hspells.2)
    · next hn =>
      rw [Except.error.injEq]
      constructor
      · rintro rfl
        exact ⟨raw, hsets, Text.readUnsigned?_eq_none_iff.mp hn, rfl⟩
      · rintro ⟨other, hother, -, rfl⟩
        rw [hother.unique hsets]

/-- A variable that should be a number gives none if it is not set, and the one it spells if it is.
-/
theorem number?_eq_ok_iff {env : Environment} {name : String} {bound : Nat} {x : Option Nat} :
    env.number? name bound = .ok x ↔
      (x = none ∧ ∀ raw, ¬env.Sets name raw) ∨
        ∃ n < bound, x = some n ∧ env.GivesNumber name n := by
  unfold number?
  split
  · next hnone =>
    have hunset := get?_eq_none_iff.mp hnone
    constructor
    · intro h
      exact Or.inl ⟨(Except.ok.inj h).symm, hunset⟩
    · rintro (⟨rfl, -⟩ | ⟨n, -, -, raw, hsets, -⟩)
      · rfl
      · exact absurd hsets (hunset raw)
  · next raw hraw =>
    have hsets := get?_eq_some_iff.mp hraw
    constructor
    · intro h
      split at h
      · next n hn =>
        have hspells := Text.readUnsigned?_eq_some_iff.mp hn
        exact Or.inr ⟨n, hspells.2, (Except.ok.inj h).symm, raw, hsets, hspells.1⟩
      · cases h
    · rintro (⟨-, hunset⟩ | ⟨n, hn, rfl, other, hother, hspells⟩)
      · exact absurd hsets (hunset raw)
      · rw [hother.unique hsets] at hspells
        rw [Text.readUnsigned?_eq_some_iff.mpr ⟨hspells, hn⟩]

/-- A variable that should be a number either misstates one and fails, or gives what it can. -/
theorem number?_total (env : Environment) (name : String) (bound : Nat) :
    (env.MisstatesNumber name bound ∧
      ∃ raw, env.Sets name raw ∧ env.number? name bound = .error (.invalidNumber name raw)) ∨
    (¬env.MisstatesNumber name bound ∧ ∃ x, env.number? name bound = .ok x) := by
  cases h : env.number? name bound with
  | error e =>
    obtain ⟨raw, hsets, hnot, rfl⟩ := number?_eq_error_iff.mp h
    exact Or.inl ⟨⟨raw, hsets, hnot⟩, raw, hsets, rfl⟩
  | ok x =>
    refine Or.inr ⟨?_, x, rfl⟩
    rintro ⟨raw, hsets, hnot⟩
    rw [number?_eq_error_iff.mpr ⟨raw, hsets, hnot, rfl⟩] at h
    cases h

/-- A text states headers: it is a JSON object of texts. -/
def StatesHeaders (raw : String) (layer : Dict String) : Prop :=
  Json.parse raw = .ok (.obj (Dict.mapValues Json.str layer))

/-- The headers are set to a text that states none. -/
def MisstatesHeaders (env : Environment) : Prop :=
  ∃ raw, env.Sets headersName raw ∧ ∀ layer, ¬StatesHeaders raw layer

/-- The headers that an environment adds: those it states, or none where it sets none. -/
def AddsHeaders (env : Environment) (layer : Dict String) : Prop :=
  (layer = [] ∧ ∀ raw, ¬env.Sets headersName raw) ∨
    ∃ raw, env.Sets headersName raw ∧ StatesHeaders raw layer

/-- Entries of headers are read exactly if all of them are texts. -/
theorem headerEntries_eq_ok_iff {fields : Dict Json} {layer : Dict String} :
    headerEntries fields = .ok layer ↔ fields = Dict.mapValues Json.str layer := by
  induction fields generalizing layer with
  | nil => cases layer <;> simp [headerEntries, Dict.mapValues]
  | cons first rest ih =>
    obtain ⟨name, v⟩ := first
    cases v with
    | str value =>
      rw [headerEntries, Outcome.map_eq_ok_iff]
      constructor
      · rintro ⟨others, hothers, rfl⟩
        rw [ih.mp hothers]
        rfl
      · intro h
        cases layer with
        | nil => cases h
        | cons e others =>
          obtain ⟨hfirst, hrest⟩ := List.cons.inj h
          obtain ⟨rfl, hvalue⟩ := Prod.mk.inj hfirst
          obtain rfl := Json.str.inj hvalue
          exact ⟨others, ih.mpr hrest, rfl⟩
    | _ =>
      constructor
      · intro h
        cases h
      · intro h
        cases layer <;> cases h

theorem parseHeaders_eq_ok_iff {raw : String} {layer : Dict String} :
    parseHeaders raw = .ok layer ↔ StatesHeaders raw layer := by
  rw [StatesHeaders, parseHeaders]
  cases hparse : Json.parse raw with
  | error e => simp
  | ok v =>
    cases v with
    | obj fields => simp [headerEntries_eq_ok_iff]
    | _ => simp

/-- The headers that a text states are in order. -/
theorem StatesHeaders.ascending {raw : String} {layer : Dict String}
    (h : StatesHeaders raw layer) : layer.Ascending :=
  Dict.ascending_mapValues_iff.mp (Json.ordered_obj_iff.mp (Json.parse_ordered h)).1

theorem AddsHeaders.ascending {env : Environment} {layer : Dict String}
    (h : env.AddsHeaders layer) : layer.Ascending := by
  rcases h with ⟨rfl, -⟩ | ⟨raw, -, hstates⟩
  · exact Dict.ascending_nil
  · exact hstates.ascending

theorem headers_eq_ok_iff {env : Environment} {layer : Dict String} :
    env.headers = .ok layer ↔ env.AddsHeaders layer := by
  unfold headers
  split
  · next hnone =>
    have hunset := get?_eq_none_iff.mp hnone
    constructor
    · intro h
      exact Or.inl ⟨(Except.ok.inj h).symm, hunset⟩
    · rintro (⟨rfl, -⟩ | ⟨raw, hsets, -⟩)
      · rfl
      · exact absurd hsets (hunset raw)
  · next raw hraw =>
    have hsets := get?_eq_some_iff.mp hraw
    rw [Outcome.mapError_eq_ok_iff, parseHeaders_eq_ok_iff]
    constructor
    · intro hstates
      exact Or.inr ⟨raw, hsets, hstates⟩
    · rintro (⟨-, hunset⟩ | ⟨other, hother, hstates⟩)
      · exact absurd hsets (hunset raw)
      · rwa [hother.unique hsets] at hstates

/-- The headers of an environment fail exactly if they are set and misstated. -/
theorem misstatesHeaders_iff {env : Environment} :
    env.MisstatesHeaders ↔ ∃ reason, env.headers = .error (.invalidHeaders headersName reason) := by
  unfold headers
  split
  · next hnone => simp [MisstatesHeaders, get?_eq_none_iff.mp hnone]
  · next raw hraw =>
    have hsets := get?_eq_some_iff.mp hraw
    simp only [Outcome.mapError_eq_error_iff, ConfigError.invalidHeaders.injEq, true_and]
    constructor
    · rintro ⟨other, hother, hnot⟩
      rw [hother.unique hsets] at hnot
      cases hparse : parseHeaders raw with
      | error reason => exact ⟨reason, reason, rfl, rfl⟩
      | ok layer => exact absurd (parseHeaders_eq_ok_iff.mp hparse) (hnot layer)
    · rintro ⟨-, reason, hparse, -⟩
      refine ⟨raw, hsets, fun layer hstates => ?_⟩
      rw [parseHeaders_eq_ok_iff.mpr hstates] at hparse
      cases hparse

theorem exists_headers_of_not_misstates {env : Environment} (h : ¬env.MisstatesHeaders) :
    ∃ layer, env.headers = .ok layer := by
  cases hh : env.headers with
  | ok layer => exact ⟨layer, rfl⟩
  | error e =>
    refine absurd (misstatesHeaders_iff.mpr ?_) h
    obtain ⟨reason, rfl⟩ : ∃ reason, e = .invalidHeaders headersName reason := by
      unfold headers at hh
      split at hh
      · cases hh
      · obtain ⟨reason, -, hreason⟩ := Outcome.mapError_eq_error_iff.mp hh
        exact ⟨reason, hreason.symm⟩
    exact ⟨reason, hh⟩

end Environment

end Mailroom
