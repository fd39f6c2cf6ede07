import Mailroom.Json.Basic

/-!
# Comparing JSON values

Values are compared along their shape, items and fields one by one. The comparison finds exactly
equal values the same, so that equality of values can be decided.
-/

namespace Mailroom.Json

mutual

/-- Values that are found the same are equal. -/
theorem eq_of_beq {a b : Json} (h : beq a b = true) : a = b := by
  cases a <;> cases b <;> simp only [beq, beq_iff_eq, Bool.false_eq_true] at h
  case null.null => rfl
  case bool.bool => rw [h]
  case num.num => rw [h]
  case str.str => rw [h]
  case arr.arr => rw [eq_of_beqItems h]
  case obj.obj => rw [eq_of_beqFields h]

theorem eq_of_beqItems {xs ys : List Json} (h : beqItems xs ys = true) : xs = ys := by
  cases xs <;> cases ys <;> simp only [beqItems, Bool.and_eq_true, Bool.false_eq_true] at h
  case nil.nil => rfl
  case cons.cons => rw [eq_of_beq h.1, eq_of_beqItems h.2]

theorem eq_of_beqFields {xs ys : List (String × Json)} (h : beqFields xs ys = true) :
    xs = ys := by
  cases xs <;> cases ys <;>
    simp only [beqFields, Bool.and_eq_true, beq_iff_eq, Bool.false_eq_true] at h
  case nil.nil => rfl
  case cons.cons e xs f ys =>
    rw [Prod.ext h.1.1 (eq_of_beq h.1.2), eq_of_beqFields h.2]

end

mutual

/-- A value is found the same as itself. -/
theorem beq_self (a : Json) : beq a a = true := by
  cases a <;> simp only [beq, BEq.rfl]
  case arr items => exact beqItems_self items
  case obj fields => exact beqFields_self fields

theorem beqItems_self (xs : List Json) : beqItems xs xs = true := by
  cases xs with
  | nil => rfl
  | cons x xs => rw [beqItems, beq_self x, beqItems_self xs, Bool.and_true]

theorem beqFields_self (xs : List (String × Json)) : beqFields xs xs = true := by
  cases xs with
  | nil => rfl
  | cons e xs =>
    rw [beqFields, BEq.rfl, beq_self e.2, beqFields_self xs, Bool.and_true, Bool.and_true]

end

instance : LawfulBEq Json where
  eq_of_beq := eq_of_beq
  rfl := beq_self _

instance : DecidableEq Json := instDecidableEqOfLawfulBEq

end Mailroom.Json
