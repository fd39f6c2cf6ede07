import Mathlib.Data.List.Pairwise
import Mailroom.Http.Header
import Mailroom.Proofs.Dict.Order

/-!
# Merging headers

Entries are laid over a header map one after the other, and each takes the place of every spelling
of its name. So the entries that stay are the last ones of their names, and those of the map that
nothing was laid over (`mem_merge_iff`), and a map with one entry a name keeps one entry a name.
In a layer that is ordered by its spellings the last entry of a name is the one spelled last.
-/

namespace Mailroom.Header

/-! ## Names -/

theorem sameName_iff {a b : String} :
    sameName a b = true ↔ Text.asciiLowercase a = Text.asciiLowercase b :=
  beq_iff_eq

/-- Names are compared letter by letter. -/
theorem sameName_eq_toList (a b : String) :
    sameName a b = (a.toList.map Text.asciiLower == b.toList.map Text.asciiLower) := by
  rw [Bool.eq_iff_iff, sameName_iff, beq_iff_eq, ← String.toList_inj]
  simp [Text.asciiLowercase, String.toList_map]

theorem sameName_refl (a : String) : sameName a a = true :=
  sameName_iff.mpr rfl

theorem sameName_comm (a b : String) : sameName a b = sameName b a :=
  Bool.eq_iff_iff.mpr (sameName_iff.trans (eq_comm.trans sameName_iff.symm))

/-- Two spellings of one name are the same as no or as every third. -/
theorem sameName_congr {a b : String} (h : sameName a b = true) (c : String) :
    sameName a c = sameName b c := by
  rw [sameName, sameName, sameName_iff.mp h]

/-- Whether an entry of a list has a name. -/
def Names (layer : List (String × String)) (name : String) : Prop :=
  ∃ e ∈ layer, sameName e.1 name = true

theorem names_cons {e : String × String} {layer : List (String × String)} {name : String} :
    Names (e :: layer) name ↔ sameName e.1 name = true ∨ Names layer name := by
  simp [Names]

theorem Names.congr {layer : List (String × String)} {a b : String} (h : sameName a b = true) :
    Names layer a ↔ Names layer b := by
  simp only [Names, sameName_comm _ a, sameName_comm _ b, sameName_congr h]

/-- An entry is the last one of its name in a list. -/
inductive LastOf : List (String × String) → String × String → Prop where
  | here {e : String × String} {rest : List (String × String)} (unnamed : ¬Names rest e.1) :
      LastOf (e :: rest) e
  | later {first e : String × String} {rest : List (String × String)} (last : LastOf rest e) :
      LastOf (first :: rest) e

theorem LastOf.mem {layer : List (String × String)} {e : String × String} (h : LastOf layer e) :
    e ∈ layer := by
  induction h with
  | here => exact List.mem_cons_self
  | later _ ih => exact List.mem_cons_of_mem _ ih

theorem LastOf.names {layer : List (String × String)} {e : String × String} (h : LastOf layer e) :
    Names layer e.1 :=
  ⟨e, h.mem, sameName_refl e.1⟩

/-- A name that occurs in a list has a last entry there. -/
theorem exists_lastOf {layer : List (String × String)} {name : String} (h : Names layer name) :
    ∃ e, LastOf layer e ∧ sameName e.1 name = true := by
  induction layer with
  | nil => simp [Names] at h
  | cons first rest ih =>
    by_cases hrest : Names rest name
    · obtain ⟨e, hlast, hname⟩ := ih hrest
      exact ⟨e, .later hlast, hname⟩
    · have hfirst := (names_cons.mp h).resolve_right hrest
      exact ⟨first, .here fun hnamed => hrest ((Names.congr hfirst).mp hnamed), hfirst⟩

/-! ## Laying entries over a map -/

/-- Two entries have different names. -/
def Apart (a b : String × String) : Prop :=
  sameName a.1 b.1 = false

instance : Std.Symm Apart :=
  ⟨fun _ _ h => (sameName_comm _ _).trans h⟩

/-- Each name occurs once in a header map, whatever its spelling. -/
def Distinct (headers : HeaderMap) : Prop :=
  headers.Pairwise Apart

theorem distinct_nil : Distinct [] :=
  List.Pairwise.nil

/-- Two entries of one name are the same entry. -/
theorem Distinct.eq_of_sameName {headers : HeaderMap} (h : Distinct headers)
    {a b : String × String} (ha : a ∈ headers) (hb : b ∈ headers) (hab : sameName a.1 b.1 = true) :
    a = b := by
  refine Classical.byContradiction fun hne => ?_
  have hapart : sameName a.1 b.1 = false := List.Pairwise.forall h ha hb hne
  rw [hab] at hapart
  cases hapart

/-- A name is not among the entries of other names. -/
theorem find?_filter_eq_none (headers : HeaderMap) (name : String) :
    Dict.find? (headers.filter fun e => !sameName e.1 name) name = none := by
  rw [Dict.find?_eq_none_iff]
  intro other hother hname
  have hapart := (List.mem_filter.mp hother).2
  rw [hname, sameName_refl] at hapart
  cases hapart

/-- The entries after one is laid over a map: that one and those of other names. -/
theorem mem_put_iff {headers : HeaderMap} {name value : String} {e : String × String} :
    e ∈ put headers name value ↔
      e = (name, value) ∨ e ∈ headers ∧ sameName e.1 name = false := by
  rw [put, Dict.mem_insert_iff_of_find?_eq_none (find?_filter_eq_none headers name)]
  simp [List.mem_filter]

/-- Laying an entry over a map makes it the only one of its name. -/
theorem filter_put_self (headers : HeaderMap) (name value : String) :
    (put headers name value).filter (fun e => sameName e.1 name) = [(name, value)] :=
  Dict.filter_insert_of_forall (by simp) (sameName_refl name)

/-- Laying an entry over a map leaves the entries of other names as they were. -/
theorem filter_put_of_ne (headers : HeaderMap) {name other : String} (value : String)
    (h : sameName name other = false) :
    (put headers name value).filter (fun e => sameName e.1 other) =
      headers.filter fun e => sameName e.1 other := by
  rw [put, Dict.filter_insert_of_find?_eq_none (find?_filter_eq_none headers name) h,
    List.filter_filter]
  refine List.filter_congr fun e _ => ?_
  cases hname : sameName e.1 name with
  | true => rw [sameName_congr hname, h, Bool.false_and]
  | false => rw [Bool.not_false, Bool.and_true]

/-- Laying an entry over a map keeps every name to one entry. -/
theorem Distinct.put {headers : HeaderMap} (h : Distinct headers) (name value : String) :
    Distinct (put headers name value) := by
  refine Dict.pairwise_insert symm (List.Pairwise.filter _ h) fun e he => ?_
  rw [Apart, sameName_comm]
  simpa using (List.mem_filter.mp he).2

/-- Laying entries over a map keeps every name to one entry. -/
theorem Distinct.merge {headers : HeaderMap} (h : Distinct headers)
    (layer : List (String × String)) : Distinct (merge headers layer) := by
  induction layer generalizing headers with
  | nil => exact h
  | cons e rest ih => exact ih (h.put e.1 e.2)

/-- The entries of a map after others are laid over it: the last ones of their names, and those that
were there before and have no name in common with them. -/
theorem mem_merge_iff {headers : HeaderMap} {layer : List (String × String)}
    {e : String × String} :
    e ∈ merge headers layer ↔ LastOf layer e ∨ e ∈ headers ∧ ¬Names layer e.1 := by
  induction layer generalizing headers with
  | nil =>
    have hnone : ¬LastOf [] e := fun h => by cases h
    simp [merge, hnone, Names]
  | cons first rest ih =>
    change e ∈ merge (put headers first.1 first.2) rest ↔ _
    rw [ih, mem_put_iff, names_cons]
    constructor
    · rintro (hlast | ⟨rfl | ⟨hmem, hapart⟩, hunnamed⟩)
      · exact Or.inl (.later hlast)
      · exact Or.inl (.here hunnamed)
      · refine Or.inr ⟨hmem, ?_⟩
        rintro (hsame | hnamed)
        · rw [sameName_comm, hapart] at hsame
          cases hsame
        · exact hunnamed hnamed
    · rintro (hlast | ⟨hmem, hunnamed⟩)
      · cases hlast with
        | here hunnamed => exact Or.inr ⟨Or.inl rfl, hunnamed⟩
        | later hlast => exact Or.inl hlast
      · refine Or.inr ⟨Or.inr ⟨hmem, ?_⟩, fun hnamed => hunnamed (Or.inr hnamed)⟩
        rw [← Bool.not_eq_true, sameName_comm]
        exact fun hsame => hunnamed (Or.inl hsame)

/-- Entries laid over a map leave those of the names that they do not have as they were. -/
theorem filter_merge_of_not_names {layer : List (String × String)} {name : String}
    (h : ¬Names layer name) (headers : HeaderMap) :
    (merge headers layer).filter (fun e => sameName e.1 name) =
      headers.filter fun e => sameName e.1 name := by
  induction layer generalizing headers with
  | nil => rfl
  | cons first rest ih =>
    rw [names_cons, not_or, Bool.not_eq_true] at h
    change (merge (put headers first.1 first.2) rest).filter _ = _
    rw [ih h.2, filter_put_of_ne headers first.2 h.1]

/-- The last entry of a name that is laid over a map is the only one of the name. -/
theorem LastOf.filter_merge {layer : List (String × String)} {e : String × String}
    (h : LastOf layer e) (headers : HeaderMap) :
    (merge headers layer).filter (fun other => sameName other.1 e.1) = [e] := by
  induction h generalizing headers with
  | @here e rest unnamed =>
    change (merge (put headers e.1 e.2) rest).filter _ = _
    rw [filter_merge_of_not_names unnamed, filter_put_self]
  | @later first e rest _ ih => exact ih (put headers first.1 first.2)

/-- A name that is laid over a map has one entry there, which is the last that was laid. -/
theorem exists_filter_merge {layer : List (String × String)} {name : String}
    (h : Names layer name) (headers : HeaderMap) :
    ∃ e, LastOf layer e ∧ sameName e.1 name = true ∧
      (merge headers layer).filter (fun other => sameName other.1 name) = [e] := by
  obtain ⟨e, hlast, hname⟩ := exists_lastOf h
  refine ⟨e, hlast, hname, ?_⟩
  rw [← hlast.filter_merge headers]
  refine List.filter_congr fun other _ => ?_
  rw [sameName_comm other.1, sameName_comm other.1, sameName_congr hname]

/-! ## Layers in order of their spellings -/

/-- An entry has the last spelling, in the order of texts, that its name has in a layer. -/
def LastSpelled (layer : Dict String) (e : String × String) : Prop :=
  e ∈ layer ∧ ∀ other ∈ layer, sameName other.1 e.1 = true → other.1 ≤ e.1

/-- In a layer that is ordered by its spellings, the last entry of a name is the one spelled last.
-/
theorem lastOf_iff_lastSpelled {layer : Dict String} (h : layer.Ascending) {e : String × String} :
    LastOf layer e ↔ LastSpelled layer e := by
  induction layer with
  | nil =>
    constructor
    · intro hlast
      cases hlast
    · intro hlast
      exact absurd hlast.1 List.not_mem_nil
  | cons first rest ih =>
    have horder := List.pairwise_cons.mp h
    have hrest := ih horder.2
    constructor
    · intro hlast
      cases hlast with
      | here hunnamed =>
        refine ⟨List.mem_cons_self, fun other hother hname => ?_⟩
        rcases List.mem_cons.mp hother with rfl | hother
        · exact String.le_refl _
        · exact absurd ⟨other, hother, hname⟩ hunnamed
      | later hlast =>
        have hspelled := hrest.mp hlast
        refine ⟨List.mem_cons_of_mem _ hspelled.1, fun other hother hname => ?_⟩
        rcases List.mem_cons.mp hother with rfl | hother
        · exact String.not_lt.mp (String.lt_asymm (horder.1 e hspelled.1))
        · exact hspelled.2 other hother hname
    · rintro ⟨hmem, hlargest⟩
      rcases List.mem_cons.mp hmem with rfl | hmem
      · refine .here ?_
        rintro ⟨other, hother, hname⟩
        exact String.not_lt.mpr (hlargest other (List.mem_cons_of_mem _ hother) hname)
          (horder.1 other hother)
      · exact .later (hrest.mpr ⟨hmem, fun other hother =>
          hlargest other (List.mem_cons_of_mem _ hother)⟩)

end Mailroom.Header
