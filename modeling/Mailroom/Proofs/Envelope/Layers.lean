import Mathlib.Logic.Relation
import Mailroom.Envelope.Flatten
import Mailroom.Proofs.Json.Ordered

/-!
# The layers of a nested envelope

The layers of a value are the objects met on the way along `data`, as long as the next one has
`data` itself. Unwrapping once merges the first two layers and leaves the deeper ones as they are,
and takes one object off the depth along `data`. So `flatten` ends, and its result holds the union
of all layers, where the deepest layer that has a key decides.
-/

namespace Mailroom.Envelope

/-! ## Layers -/

/-- The object in the `data` of an object, if it has `data` again. -/
def nextLayer? (fields : Dict Json) : Option (Dict Json) :=
  match Dict.find? fields "data" with
  | some (.obj inner) => if Dict.contains inner "data" then some inner else none
  | _ => none

/-- The layer of a value at a depth. -/
def layer? (v : Json) (depth : Nat) : Option (Dict Json) :=
  match depth with
  | 0 => v.fields?
  | n + 1 => (layer? v n).bind nextLayer?

/-- The value under a key in the layer at a depth. -/
def layerField? (v : Json) (depth : Nat) (key : String) : Option Json :=
  (layer? v depth).bind (Dict.find? · key)

/-- The value under a key in the deepest layer that has it, down to a depth. -/
def deepest? (v : Json) (depth : Nat) (key : String) : Option Json :=
  match depth with
  | 0 => layerField? v 0 key
  | n + 1 => (layerField? v (n + 1) key).or (deepest? v n key)

/-- There is a next layer exactly if `data` is an object with `data`. -/
theorem nextLayer?_eq_some_iff {fields inner : Dict Json} :
    nextLayer? fields = some inner ↔
      Dict.find? fields "data" = some (.obj inner) ∧ Dict.contains inner "data" = true := by
  unfold nextLayer?
  split
  · next found hf =>
    simp only [hf, Option.ite_none_right_eq_some, Option.some.injEq, Json.obj.injEq]
    constructor
    · rintro ⟨hc, rfl⟩
      exact ⟨rfl, hc⟩
    · rintro ⟨rfl, hc⟩
      exact ⟨hc, rfl⟩
  · next hf =>
    simp only [reduceCtorEq, false_iff, not_and]
    intro h
    exact absurd h (hf inner)

/-- A value that holds its `data` in an object has a next layer wherever its `data` is found. -/
theorem nextLayer?_congr {fields fields' : Dict Json}
    (h : Dict.find? fields "data" = Dict.find? fields' "data") :
    nextLayer? fields = nextLayer? fields' := by
  simp only [nextLayer?, h]

/-- The deepest occurrence of a key is found in some layer below which the key is absent. -/
theorem deepest?_eq_some_iff {v : Json} {depth : Nat} {key : String} {value : Json} :
    deepest? v depth key = some value ↔
      ∃ i ≤ depth, layerField? v i key = some value ∧
        ∀ j, i < j → j ≤ depth → layerField? v j key = none := by
  induction depth with
  | zero =>
    constructor
    · intro h
      exact ⟨0, Nat.le_refl 0, h, by omega⟩
    · rintro ⟨i, hi, h, -⟩
      rw [Nat.le_zero.mp hi] at h
      exact h
  | succ n ih =>
    rw [deepest?]
    cases hn : layerField? v (n + 1) key with
    | some found =>
      constructor
      · intro h
        refine ⟨n + 1, Nat.le_refl _, hn.trans h, by omega⟩
      · rintro ⟨i, hi, h, habsent⟩
        rcases Nat.lt_or_eq_of_le hi with hi | rfl
        · rw [habsent (n + 1) hi (Nat.le_refl _)] at hn
          cases hn
        · rw [← h, hn, Option.some_or]
    | none =>
      rw [Option.none_or, ih]
      constructor
      · rintro ⟨i, hi, h, habsent⟩
        refine ⟨i, by omega, h, fun j hij hj => ?_⟩
        rcases Nat.lt_or_eq_of_le hj with hj | rfl
        · exact habsent j hij (by omega)
        · exact hn
      · rintro ⟨i, hi, h, habsent⟩
        have hne : i ≠ n + 1 := by
          rintro rfl
          rw [hn] at h
          cases h
        exact ⟨i, by omega, h, fun j hij hj => habsent j hij (by omega)⟩

/-- A key has a deepest occurrence exactly if some layer has it. -/
theorem isSome_deepest?_iff {v : Json} {depth : Nat} {key : String} :
    (deepest? v depth key).isSome = true ↔
      ∃ i ≤ depth, (layerField? v i key).isSome = true := by
  induction depth with
  | zero => simp [deepest?]
  | succ n ih =>
    rw [deepest?, Option.isSome_or, Bool.or_eq_true, ih]
    constructor
    · rintro (h | ⟨i, hi, h⟩)
      · exact ⟨n + 1, Nat.le_refl _, h⟩
      · exact ⟨i, by omega, h⟩
    · rintro ⟨i, hi, h⟩
      rcases Nat.lt_or_eq_of_le hi with hi | rfl
      · exact Or.inr ⟨i, by omega, h⟩
      · exact Or.inl h

/-! ## Unwrapping once -/

theorem nestedParts?_obj (fields : Dict Json) :
    nestedParts? (.obj fields) = (nextLayer? fields).map fun inner => (fields, inner) := by
  cases h : nextLayer? fields with
  | some inner =>
    have hparts := nextLayer?_eq_some_iff.mp h
    simp only [nestedParts?, hparts.1, hparts.2, if_true, Option.map_some]
  | none =>
    rw [nestedParts?, Option.map_none]
    split
    · next inner hdata =>
      refine if_neg fun hc => ?_
      rw [nextLayer?_eq_some_iff.mpr ⟨hdata, hc⟩] at h
      cases h
    · rfl

theorem isNested_eq (v : Json) : isNested v = (layer? v 1).isSome := by
  cases v with
  | obj fields =>
    rw [isNested, nestedParts?_obj, Option.isSome_map]
    rfl
  | _ => rfl

/-- An object is unwrapped by storing the fields of the next layer in it. -/
theorem unwrapOnce?_obj (fields : Dict Json) :
    unwrapOnce? (.obj fields) =
      (nextLayer? fields).map fun inner => .obj (Dict.insertAll fields inner) := by
  rw [unwrapOnce?, nestedParts?_obj, Option.map_map]
  rfl

theorem unwrapOnce?_eq_none_iff {v : Json} : unwrapOnce? v = none ↔ isNested v = false := by
  rw [unwrapOnce?, Option.map_eq_none_iff, isNested, Option.isSome_eq_false_iff,
    Option.isNone_iff_eq_none]

/-- What unwrapping once finds and makes. -/
theorem unwrapOnce?_eq_some {v w : Json} (h : unwrapOnce? v = some w) :
    ∃ outer inner, v = .obj outer ∧ nextLayer? outer = some inner ∧
      w = .obj (Dict.insertAll outer inner) := by
  cases v with
  | obj outer =>
    rw [unwrapOnce?_obj, Option.map_eq_some_iff] at h
    obtain ⟨inner, hinner, hw⟩ := h
    exact ⟨outer, inner, rfl, hinner, hw.symm⟩
  | _ => cases h

/-- The next layer of an ordered object is an ordered object. -/
theorem ordered_of_nextLayer?_eq_some {outer inner : Dict Json} (h : Json.Ordered (.obj outer))
    (hn : nextLayer? outer = some inner) : Json.Ordered (.obj inner) :=
  h.of_find?_eq_some (nextLayer?_eq_some_iff.mp hn).1

/-- The `data` of two merged layers is the inner one. -/
theorem find?_data_insertAll {outer inner : Dict Json} (h : inner.Ascending)
    (hn : nextLayer? outer = some inner) :
    Dict.find? (Dict.insertAll outer inner) "data" = Dict.find? inner "data" := by
  obtain ⟨value, hvalue⟩ := Dict.contains_eq_true_iff.mp (nextLayer?_eq_some_iff.mp hn).2
  rw [Dict.find?_insertAll _ h, hvalue, Option.some_or]

/-- Unwrapping keeps a value ordered. -/
theorem unwrapOnce?_ordered {v w : Json} (hv : v.Ordered) (h : unwrapOnce? v = some w) :
    w.Ordered := by
  obtain ⟨outer, inner, rfl, hinner, rfl⟩ := unwrapOnce?_eq_some h
  have ho := ordered_of_nextLayer?_eq_some hv hinner
  exact hv.insertAll (Json.ordered_obj_iff.mp ho).2

/-- Unwrapping merges the first two layers and moves the deeper ones one up. -/
theorem layer?_succ_of_unwrapOnce?_eq_some {v w : Json} (hv : v.Ordered)
    (h : unwrapOnce? v = some w) (depth : Nat) : layer? w (depth + 1) = layer? v (depth + 2) := by
  obtain ⟨outer, inner, rfl, hinner, rfl⟩ := unwrapOnce?_eq_some h
  have ho := ordered_of_nextLayer?_eq_some hv hinner
  have hdata := find?_data_insertAll (Json.ordered_obj_iff.mp ho).1 hinner
  induction depth with
  | zero =>
    change nextLayer? (Dict.insertAll outer inner) = (nextLayer? outer).bind nextLayer?
    rw [nextLayer?_congr hdata, hinner, Option.bind_some]
  | succ n ih => exact congrArg (Option.bind · nextLayer?) ih

/-- Unwrapping does not change what the deepest occurrence of a key is. -/
theorem deepest?_of_unwrapOnce?_eq_some {v w : Json} (hv : v.Ordered)
    (h : unwrapOnce? v = some w) (depth : Nat) (key : String) :
    deepest? w depth key = deepest? v (depth + 1) key := by
  induction depth with
  | zero =>
    obtain ⟨outer, inner, rfl, hinner, rfl⟩ := unwrapOnce?_eq_some h
    have ho := ordered_of_nextLayer?_eq_some hv hinner
    have hfield : layerField? (.obj outer) (0 + 1) key = Dict.find? inner key :=
      congrArg (Option.bind · (Dict.find? · key)) hinner
    rw [deepest?, deepest?, hfield]
    exact Dict.find?_insertAll outer (Json.ordered_obj_iff.mp ho).1 key
  | succ n ih =>
    rw [deepest?, ih, layerField?, layer?_succ_of_unwrapOnce?_eq_some hv h]
    rfl

/-! ## The measure -/

theorem fieldDepth_eq (fields : Dict Json) :
    fieldDepth fields = ((Dict.find? fields "data").map dataDepth).getD 0 := by
  induction fields with
  | nil => rfl
  | cons e rest ih =>
    obtain ⟨k, v⟩ := e
    rw [fieldDepth, Dict.find?_cons]
    split
    · rfl
    · exact ih

theorem dataDepth_obj {fields : Dict Json} {value : Json}
    (h : Dict.find? fields "data" = some value) :
    dataDepth (.obj fields) = dataDepth value + 1 := by
  rw [dataDepth, fieldDepth_eq, h]
  rfl

/-- Unwrapping once takes exactly one object off the depth along `data`. -/
theorem dataDepth_of_unwrapOnce?_eq_some {v w : Json} (hv : v.Ordered)
    (h : unwrapOnce? v = some w) : dataDepth v = dataDepth w + 1 := by
  obtain ⟨outer, inner, rfl, hinner, rfl⟩ := unwrapOnce?_eq_some h
  have ho := ordered_of_nextLayer?_eq_some hv hinner
  have hparts := nextLayer?_eq_some_iff.mp hinner
  obtain ⟨value, hvalue⟩ := Dict.contains_eq_true_iff.mp hparts.2
  have hmerged : Dict.find? (Dict.insertAll outer inner) "data" = some value := by
    rw [find?_data_insertAll (Json.ordered_obj_iff.mp ho).1 hinner, hvalue]
  rw [dataDepth_obj hparts.1, dataDepth_obj hvalue, dataDepth_obj hmerged]

/-! ## Flattening -/

/-- A value without a second layer is left as it is. -/
theorem flatten_of_isNested_eq_false {v : Json} (h : isNested v = false) : flatten v = v := by
  rw [flatten]
  cases dataDepth v with
  | zero => rfl
  | succ n => rw [flattenWithin, unwrapOnce?_eq_none_iff.mpr h]

/-- Flattening starts by unwrapping once. -/
theorem flatten_of_unwrapOnce?_eq_some {v w : Json} (hv : v.Ordered)
    (h : unwrapOnce? v = some w) : flatten v = flatten w := by
  rw [flatten, dataDepth_of_unwrapOnce?_eq_some hv h, flattenWithin, h, flatten]

/-- What holds of values with one layer and is carried back over each unwrapping holds of all
ordered values. -/
theorem unwrap_induction {motive : (v : Json) → v.Ordered → Prop}
    (flat : ∀ v hv, isNested v = false → motive v hv)
    (unwrap : ∀ v w hv (h : unwrapOnce? v = some w),
      motive w (unwrapOnce?_ordered hv h) → motive v hv)
    {v : Json} (hv : v.Ordered) : motive v hv := by
  induction hd : dataDepth v generalizing v with
  | zero =>
    cases h : unwrapOnce? v with
    | none => exact flat v hv (unwrapOnce?_eq_none_iff.mp h)
    | some w =>
      have hw := dataDepth_of_unwrapOnce?_eq_some hv h
      omega
  | succ n ih =>
    cases h : unwrapOnce? v with
    | none => exact flat v hv (unwrapOnce?_eq_none_iff.mp h)
    | some w =>
      have hw := dataDepth_of_unwrapOnce?_eq_some hv h
      exact unwrap v w hv h (ih (unwrapOnce?_ordered hv h) (by omega))

/-- Flattening keeps a value ordered. -/
theorem flatten_ordered {v : Json} (hv : v.Ordered) : (flatten v).Ordered := by
  induction hv using unwrap_induction with
  | flat v hv h =>
    rw [flatten_of_isNested_eq_false h]
    exact hv
  | unwrap v w hv h ih =>
    rw [flatten_of_unwrapOnce?_eq_some hv h]
    exact ih

/-- A flattened value has one layer at most. -/
theorem isNested_flatten {v : Json} (hv : v.Ordered) : isNested (flatten v) = false := by
  induction hv using unwrap_induction with
  | flat v hv h =>
    rw [flatten_of_isNested_eq_false h]
    exact h
  | unwrap v w hv h ih =>
    rw [flatten_of_unwrapOnce?_eq_some hv h]
    exact ih

/-- Flattening a value is unwrapping it a number of times. -/
theorem unwraps_flatten {v : Json} (hv : v.Ordered) :
    Relation.ReflTransGen (fun a b => unwrapOnce? a = some b) v (flatten v) := by
  induction hv using unwrap_induction with
  | flat v hv h =>
    rw [flatten_of_isNested_eq_false h]
  | unwrap v w hv h ih =>
    rw [flatten_of_unwrapOnce?_eq_some hv h]
    exact .head h ih

/-- A flattened object holds of every key the deepest occurrence down to the last layer. -/
theorem flatten_eq_deepest {v : Json} (hv : v.Ordered) (hobj : (layer? v 0).isSome = true) :
    ∃ depth merged, (layer? v depth).isSome = true ∧ layer? v (depth + 1) = none ∧
      flatten v = .obj merged ∧ ∀ key, Dict.find? merged key = deepest? v depth key := by
  induction hv using unwrap_induction with
  | flat v hv h =>
    rw [isNested_eq, Option.isSome_eq_false_iff, Option.isNone_iff_eq_none] at h
    cases v with
    | obj fields =>
      refine ⟨0, fields, rfl, h, flatten_of_isNested_eq_false ?_, fun key => rfl⟩
      rw [isNested_eq, h, Option.isSome_none]
    | _ => cases hobj
  | unwrap v w hv h ih =>
    obtain ⟨outer, inner, rfl, hinner, rfl⟩ := unwrapOnce?_eq_some h
    obtain ⟨depth, merged, hlast, hend, hflat, hfind⟩ := ih rfl
    refine ⟨depth + 1, merged, ?_, ?_, ?_, fun key => ?_⟩
    · cases depth with
      | zero => exact Option.isSome_of_eq_some hinner
      | succ n => rwa [← layer?_succ_of_unwrapOnce?_eq_some hv h]
    · rwa [← layer?_succ_of_unwrapOnce?_eq_some hv h]
    · rw [flatten_of_unwrapOnce?_eq_some hv h, hflat]
    · rw [hfind, deepest?_of_unwrapOnce?_eq_some hv h]

/-- Every layer but an only one has `data`. -/
theorem isSome_layerField?_data {v : Json} {depth : Nat}
    (h : (layer? v (depth + 1)).isSome = true) :
    (layerField? v (depth + 1) "data").isSome = true := by
  obtain ⟨inner, hinner⟩ := Option.isSome_iff_exists.mp h
  obtain ⟨outer, -, hnext⟩ := Option.bind_eq_some_iff.mp hinner
  rw [layerField?, hinner, Option.bind_some]
  exact (nextLayer?_eq_some_iff.mp hnext).2

/--
Flattening ends with the union of the layers. A value without a second layer stays as it is.
Otherwise there is a last layer; the result has exactly the keys of all layers, its `data` is that
of the last layer, and each key has the value that it has in the deepest layer with that key. The
result has no second layer, so flattening it again changes nothing.
-/
theorem flatten_eq_union_of_layers (v : Json) (hv : v.Ordered) :
    (layer? v 1 = none → flatten v = v) ∧
    ((layer? v 1).isSome = true → ∃ depth last merged,
      layer? v depth = some last ∧ layer? v (depth + 1) = none ∧
      flatten v = .obj merged ∧ Dict.Ascending merged ∧
      (∀ key, Dict.contains merged key = true ↔
        ∃ i ≤ depth, ∃ fields, layer? v i = some fields ∧ Dict.contains fields key = true) ∧
      Dict.find? merged "data" = Dict.find? last "data" ∧
      (∀ key value, Dict.find? merged key = some value ↔
        ∃ i ≤ depth, layerField? v i key = some value ∧
          ∀ j, i < j → j ≤ depth → layerField? v j key = none)) ∧
    Relation.ReflTransGen (fun a b => unwrapOnce? a = some b) v (flatten v) ∧
    isNested (flatten v) = false ∧
    flatten (flatten v) = flatten v := by
  refine ⟨fun h => ?_, fun h => ?_, unwraps_flatten hv, isNested_flatten hv,
    flatten_of_isNested_eq_false (isNested_flatten hv)⟩
  · apply flatten_of_isNested_eq_false
    rw [isNested_eq, h, Option.isSome_none]
  · have hobj : (layer? v 0).isSome = true := by
      cases v with
      | obj fields => rfl
      | _ => cases h
    obtain ⟨depth, merged, hsome, hend, hflat, hfind⟩ := flatten_eq_deepest hv hobj
    obtain ⟨last, hlast⟩ := Option.isSome_iff_exists.mp hsome
    refine ⟨depth, last, merged, hlast, hend, hflat, ?_, fun key => ?_, ?_, fun key value => ?_⟩
    · have ho := flatten_ordered hv
      rw [hflat] at ho
      exact (Json.ordered_obj_iff.mp ho).1
    · rw [Dict.contains, hfind, isSome_deepest?_iff]
      simp only [layerField?, Option.isSome_bind, Option.any_eq_true, Dict.contains]
    · have hdata : (layerField? v depth "data").isSome = true := by
        cases depth with
        | zero => rw [hend] at h; cases h
        | succ n => exact isSome_layerField?_data hsome
      obtain ⟨value, hvalue⟩ := Option.isSome_iff_exists.mp hdata
      rw [hfind, deepest?_eq_some_iff.mpr ⟨depth, Nat.le_refl _, hvalue, by omega⟩, ← hvalue,
        layerField?, hlast, Option.bind_some]
    · rw [hfind, deepest?_eq_some_iff]

/-- Three layers whose siblings collide, the innermost message being null. -/
def threeLayers : Json :=
  .obj [("data", .obj [("data", .obj [("data", .arr [.null]), ("message", .null)]),
      ("extra", .bool true), ("message", .str "inner")]),
    ("message", .str "outer"), ("top", .bool false)]

theorem threeLayers_ordered : threeLayers.Ordered := by
  simp only [threeLayers, Json.ordered_obj_iff, Json.ordered_arr_iff, List.forall_mem_cons,
    List.not_mem_nil, false_implies, implies_true, Json.Ordered.null, Json.Ordered.bool,
    Json.Ordered.str, and_true]
  unfold Dict.Ascending
  decide

theorem flatten_threeLayers : (layer? threeLayers 1).isSome = true ∧
    flatten (flatten threeLayers) = flatten threeLayers ∧
    ∃ depth last merged, layer? threeLayers depth = some last ∧
      layer? threeLayers (depth + 1) = none ∧ flatten threeLayers = .obj merged ∧
      Dict.find? merged "data" = Dict.find? last "data" := by
  have hunion := flatten_eq_union_of_layers threeLayers threeLayers_ordered
  obtain ⟨depth, last, merged, hlast, hend, hflat, -, -, hdata, -⟩ := hunion.2.1 rfl
  exact ⟨rfl, hunion.2.2.2.2, depth, last, merged, hlast, hend, hflat, hdata⟩

end Mailroom.Envelope
