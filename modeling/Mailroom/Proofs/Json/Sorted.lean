import Mailroom.Proofs.Json.Ordered

/-!
# Bringing fields into order

`sorted` stores the fields of every object anew, so it changes the order of the keys and nothing
else, and leaves an ordered value as it is. A value is written either with its fields as they are
listed or in order; `listed` stands for both ways.
-/

namespace Mailroom.Json

theorem sortedItems_eq_map (items : List Json) : sortedItems items = items.map sorted := by
  induction items with
  | nil => rfl
  | cons v rest ih => rw [sortedItems, ih, List.map_cons]

theorem sortedFields_eq_insertAll (fields : List (String × Json)) (done : Dict Json) :
    sortedFields fields done = Dict.insertAll done (Dict.mapValues sorted fields) := by
  induction fields generalizing done with
  | nil => rfl
  | cons e rest ih =>
    obtain ⟨k, v⟩ := e
    rw [sortedFields, ih]
    rfl

/-- A value in order is not changed by sorting it. -/
theorem Ordered.sorted_eq {v : Json} (h : v.Ordered) : v.sorted = v := by
  induction h with
  | arr each ih =>
    rw [sorted, sortedItems_eq_map, List.map_congr_left ih, List.map_id']
  | @obj fields ascending each ih =>
    have hvalues : Dict.mapValues sorted fields = fields := by
      rw [Dict.mapValues, List.map_congr_left fun e he => by rw [ih e he], List.map_id']
    rw [sorted, sortedFields_eq_insertAll, hvalues]
    exact congrArg Json.obj ascending.ofList_eq
  | _ => rfl

/-- A value with its fields as they are listed, or with all of them in order. -/
def listed (inOrder : Bool) (v : Json) : Json :=
  if inOrder then v.sorted else v

@[simp] theorem listed_false (v : Json) : v.listed false = v := rfl

@[simp] theorem listed_true (v : Json) : v.listed true = v.sorted := rfl

@[simp] theorem listed_null (inOrder : Bool) : Json.null.listed inOrder = .null := by
  cases inOrder <;> rfl

@[simp] theorem listed_bool (inOrder b : Bool) : (Json.bool b).listed inOrder = .bool b := by
  cases inOrder <;> rfl

@[simp] theorem listed_num (inOrder : Bool) (n : Number) :
    (Json.num n).listed inOrder = .num n := by
  cases inOrder <;> rfl

@[simp] theorem listed_str (inOrder : Bool) (s : String) :
    (Json.str s).listed inOrder = .str s := by
  cases inOrder <;> rfl

@[simp] theorem listed_arr (inOrder : Bool) (items : List Json) :
    (Json.arr items).listed inOrder = .arr (items.map (listed inOrder)) := by
  cases inOrder with
  | false => exact congrArg Json.arr (List.map_id items).symm
  | true => exact congrArg Json.arr (sortedItems_eq_map items)

/-- However it is listed, an object of distinct keys has the same fields. -/
theorem exists_listed_obj (inOrder : Bool) {fields : Dict Json} (h : fields.keys.Nodup) :
    ∃ fields' : Dict Json, (Json.obj fields).listed inOrder = .obj fields' ∧
      fields'.keys.Nodup ∧
      ∀ key, Dict.find? fields' key = (Dict.find? fields key).map (listed inOrder) := by
  cases inOrder with
  | false =>
    refine ⟨fields, rfl, h, fun key => ?_⟩
    cases Dict.find? fields key <;> rfl
  | true =>
    refine ⟨_, rfl, ?_, fun key => ?_⟩
    · rw [sortedFields_eq_insertAll]
      exact (Dict.ascending_ofList _).nodup_keys
    · rw [sortedFields_eq_insertAll, Dict.find?_insertAll_of_nodup _ (by simpa using h),
        Dict.find?_mapValues, Dict.find?_nil, Option.or_none]
      rfl

/-- A value in order is listed in one way only. -/
theorem Ordered.listed_eq {v : Json} (h : v.Ordered) (inOrder : Bool) : v.listed inOrder = v := by
  cases inOrder with
  | false => rfl
  | true => exact h.sorted_eq

theorem listed_eq_null_iff {inOrder : Bool} {v : Json} : v.listed inOrder = .null ↔ v = .null := by
  cases inOrder with
  | false => rfl
  | true => cases v <;> simp [sorted]

end Mailroom.Json
