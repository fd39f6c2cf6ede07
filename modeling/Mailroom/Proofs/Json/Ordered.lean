import Mailroom.Json.Parser
import Mailroom.Proofs.Dict.Order

/-!
# Ordered JSON values

A JSON value is ordered if every object in it, at any depth, lists its keys in strictly ascending
order. Then no key occurs twice and lookups determine an object. Every document that is read is
ordered (`parse_ordered`), and editing an ordered object leaves it ordered.
-/

namespace Mailroom.Json

/-- Every object in a value has strictly ascending keys. -/
inductive Ordered : Json → Prop where
  | null : Ordered .null
  | bool (value : Bool) : Ordered (.bool value)
  | num (value : Number) : Ordered (.num value)
  | str (text : String) : Ordered (.str text)
  | arr {items : List Json} (each : ∀ v ∈ items, Ordered v) : Ordered (.arr items)
  | obj {fields : Dict Json} (ascending : fields.Ascending)
      (each : ∀ e ∈ fields, Ordered e.2) : Ordered (.obj fields)

/-- An object is ordered exactly if its own keys ascend and all its values are ordered. -/
theorem ordered_obj_iff {fields : Dict Json} :
    Ordered (.obj fields) ↔ fields.Ascending ∧ ∀ e ∈ fields, Ordered e.2 := by
  constructor
  · intro h
    cases h with
    | obj ascending each => exact ⟨ascending, each⟩
  · intro h
    exact .obj h.1 h.2

attribute [simp] Ordered.null Ordered.bool Ordered.num Ordered.str ordered_obj_iff

/-- An array is ordered exactly if its items are. -/
@[simp] theorem ordered_arr_iff {items : List Json} :
    Ordered (.arr items) ↔ ∀ v ∈ items, Ordered v := by
  constructor
  · intro h
    cases h with
    | arr each => exact each
  · exact .arr

/-- The object without fields is ordered. -/
theorem ordered_obj_nil : Ordered (.obj []) :=
  .obj Dict.ascending_nil (by simp)

/-- An object of one ordered field is ordered. -/
theorem ordered_obj_singleton (key : String) {v : Json} (h : v.Ordered) :
    Ordered (.obj [(key, v)]) := by
  refine .obj (Dict.ascending_nil.insert key v) fun e he => ?_
  rw [List.mem_singleton.mp he]
  exact h

namespace Ordered

/-- The value of a field of an ordered object is ordered. -/
theorem of_find?_eq_some {fields : Dict Json} (h : Ordered (.obj fields)) {key : String}
    {value : Json} (hf : Dict.find? fields key = some value) : value.Ordered :=
  (ordered_obj_iff.mp h).2 _ (Dict.mem_of_find?_eq_some hf)

/-- Setting a field of an ordered object keeps it ordered. -/
theorem insert {fields : Dict Json} (h : Ordered (.obj fields)) (key : String) {value : Json}
    (hv : value.Ordered) : Ordered (.obj (Dict.insert fields key value)) := by
  have hparts := ordered_obj_iff.mp h
  refine .obj (hparts.1.insert key value) fun e he => ?_
  rcases Dict.mem_insert he with rfl | he
  · exact hv
  · exact hparts.2 e he

/-- Setting the fields of one ordered object in another keeps it ordered. -/
theorem insertAll {fields entries : Dict Json} (h : Ordered (.obj fields))
    (he : ∀ e ∈ entries, e.2.Ordered) : Ordered (.obj (Dict.insertAll fields entries)) := by
  induction entries generalizing fields with
  | nil => exact h
  | cons e rest ih =>
    exact ih (h.insert e.1 (he e List.mem_cons_self))
      fun e' he' => he e' (List.mem_cons_of_mem _ he')

/-- Removing a field of an ordered object keeps it ordered. -/
theorem erase {fields : Dict Json} (h : Ordered (.obj fields)) (key : String) :
    Ordered (.obj (Dict.erase fields key)) := by
  have hparts := ordered_obj_iff.mp h
  exact .obj (hparts.1.erase key) fun e he => hparts.2 e (List.mem_filter.mp he).1

end Ordered

/-! ## Reading -/

/-- What the four readers of values, items and fields give back with some fuel is ordered, as long
as what they have collected so far is. -/
private structure ReadsOrdered (fuel : Nat) : Prop where
  value : ∀ {depth s v rest}, readValue fuel depth s = .ok (v, rest) → v.Ordered
  items : ∀ {depth first done s v rest}, (∀ w ∈ done, Ordered w) →
    readItems fuel depth first done s = .ok (v, rest) → v.Ordered
  fields : ∀ {depth first done s v rest}, Ordered (.obj done) →
    readFields fuel depth first done s = .ok (v, rest) → v.Ordered
  field : ∀ {depth done s v rest}, Ordered (.obj done) →
    readField fuel depth done s = .ok (v, rest) → v.Ordered

private theorem ordered_of_map {β : Type} {x : Except Fault β} {f : β → Json × List Char}
    {v : Json} {rest : List Char} (hf : ∀ b, (f b).1.Ordered) (h : x.map f = .ok (v, rest)) :
    v.Ordered := by
  cases x with
  | error e => cases h
  | ok b =>
    have hb := hf b
    rw [show f b = (v, rest) from Except.ok.inj h] at hb
    exact hb

private theorem readValue_ordered {n : Nat} (ih : ReadsOrdered n) {depth : Nat} {s : List Char}
    {v : Json} {rest : List Char} (h : readValue (n + 1) depth s = .ok (v, rest)) :
    v.Ordered := by
  unfold readValue at h
  split at h
  · cases h
  · split at h
    · exact ordered_of_map (fun _ => .null) h
    split at h
    · exact ordered_of_map (fun _ => .bool true) h
    split at h
    · exact ordered_of_map (fun _ => .bool false) h
    split at h
    · exact ordered_of_map (fun b => .num b.1) h
    split at h
    · exact ordered_of_map (fun b => .num b.1) h
    split at h
    · exact ordered_of_map (fun b => .str b.1) h
    split at h
    · split at h
      · cases h
      · exact ih.items (by simp) h
    split at h
    · split at h
      · cases h
      · exact ih.fields ordered_obj_nil h
    · cases h

private theorem readItems_ordered {n : Nat} (ih : ReadsOrdered n) {depth : Nat} {first : Bool}
    {done : List Json} {s : List Char} {v : Json} {rest : List Char}
    (hd : ∀ w ∈ done, Ordered w) (h : readItems (n + 1) depth first done s = .ok (v, rest)) :
    v.Ordered := by
  have hcons : ∀ {s w after}, readValue n depth s = .ok (w, after) →
      ∀ u ∈ w :: done, Ordered u := by
    intro s w after hw u hu
    rcases List.mem_cons.mp hu with rfl | hu
    · exact ih.value hw
    · exact hd u hu
  unfold readItems at h
  split at h
  · cases h
  · split at h
    · cases h
      exact .arr fun w hw => hd w (List.mem_reverse.mp hw)
    split at h
    · split at h
      · cases h
      · next hw => exact ih.items (hcons hw) h
    split at h
    · split at h
      · cases h
      · cases h
      · split at h
        · cases h
        · next hw => exact ih.items (hcons hw) h
    · cases h

private theorem readFields_ordered {n : Nat} (ih : ReadsOrdered n) {depth : Nat} {first : Bool}
    {done : Dict Json} {s : List Char} {v : Json} {rest : List Char} (hd : Ordered (.obj done))
    (h : readFields (n + 1) depth first done s = .ok (v, rest)) : v.Ordered := by
  unfold readFields at h
  split at h
  · cases h
  · split at h
    · cases h
      exact hd
    split at h
    · split at h
      · exact ih.field hd h
      · cases h
    split at h
    · split at h
      · cases h
      · exact ih.field hd h
      · cases h
      · cases h
    · cases h

private theorem readField_ordered {n : Nat} (ih : ReadsOrdered n) {depth : Nat}
    {done : Dict Json} {s : List Char} {v : Json} {rest : List Char} (hd : Ordered (.obj done))
    (h : readField (n + 1) depth done s = .ok (v, rest)) : v.Ordered := by
  unfold readField at h
  split at h
  · cases h
  · split at h
    · cases h
    · split at h
      · cases h
      · next hw => exact ih.fields (hd.insert _ (ih.value hw)) h
    · cases h

private theorem readsOrdered (fuel : Nat) : ReadsOrdered fuel := by
  induction fuel with
  | zero =>
    constructor
    · intro depth s v rest h
      cases (readValue.eq_def ..).symm.trans h
    · intro depth first done s v rest hd h
      cases (readItems.eq_def ..).symm.trans h
    · intro depth first done s v rest hd h
      cases (readFields.eq_def ..).symm.trans h
    · intro depth done s v rest hd h
      cases (readField.eq_def ..).symm.trans h
  | succ n ih =>
    exact ⟨readValue_ordered ih, readItems_ordered ih, readFields_ordered ih,
      readField_ordered ih⟩

/-- Every document that is read is ordered. -/
theorem parse_ordered {text : String} {v : Json} (h : parse text = .ok v) : v.Ordered := by
  unfold parse readDocument at h
  split at h
  · cases h
  · next hv =>
    split at h
    · cases h
      exact (readsOrdered _).value hv
    · cases h

end Mailroom.Json
