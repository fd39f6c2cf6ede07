import Mailroom.Proofs.Text.Numeral

/-!
# Numbers written and read back

A number is written by digits of its value, of which the first is a zero only if it is the only one.
So the readers of numbers give back what was written, as far as it is within their bounds.
-/

namespace Mailroom.Text

/-- A digit behind others moves these up by a place. -/
theorem digitsValue_concat (digits : List (Fin 10)) (d : Fin 10) :
    digitsValue (digits ++ [d]) = digitsValue digits * 10 + d.val := by
  rw [digitsValue, digitsValue, List.reverse_append, List.reverse_singleton, List.map_append,
    List.map_singleton, List.singleton_append, Nat.ofDigits_cons]
  omega

/-- The digits that a number is written by: they have its value, and no zero stands in front of
them. -/
structure Writes (n : Nat) (digits : List (Fin 10)) : Prop where
  value : digitsValue digits = n
  ne_nil : digits ≠ []
  head : digits.head? = some 0 → digits = [0]

theorem exists_writes_onto (n : Nat) (rest : List Char) :
    ∃ digits, Writes n digits ∧
      natDigitsOnto n rest = digits.map (digitChar ·.val) ++ rest := by
  induction n, rest using natDigitsOnto.induct with
  | case1 n rest hsmall =>
    refine ⟨[⟨n, hsmall⟩], ⟨?_, List.cons_ne_nil _ _, fun hzero => ?_⟩, ?_⟩
    · simp [digitsValue_cons]
    · rw [List.head?_cons, Option.some.injEq] at hzero
      rw [hzero]
    · rw [natDigitsOnto, if_pos hsmall]
      rfl
  | case2 n rest hlarge ih =>
    obtain ⟨digits, hdigits, hwritten⟩ := ih
    have hlast : n % 10 < 10 := Nat.mod_lt n (by decide)
    refine ⟨digits ++ [⟨n % 10, hlast⟩], ⟨?_, by simp, fun hzero => ?_⟩, ?_⟩
    · rw [digitsValue_concat, hdigits.value]
      exact Nat.div_add_mod' n 10
    · -- Digits of a positive number do not start with a zero, nor does what they start.
      rw [List.head?_append, Option.or_of_isSome (by simp [hdigits.ne_nil])] at hzero
      have hvalue := hdigits.value
      rw [hdigits.head hzero] at hvalue
      simp [digitsValue_cons] at hvalue
      omega
    · rw [natDigitsOnto, if_neg hlarge, hwritten, List.map_append, List.append_assoc]
      rfl

/-- A number is written by its digits. -/
theorem exists_writes (n : Nat) :
    ∃ digits, Writes n digits ∧ natDigits n = digits.map (digitChar ·.val) := by
  obtain ⟨digits, hdigits, hwritten⟩ := exists_writes_onto n []
  exact ⟨digits, hdigits, by rw [natDigits, hwritten, List.append_nil]⟩

theorem toList_ofNat (n : Nat) : (ofNat n).toList = natDigits n :=
  String.toList_ofList

/-- What is written is read. -/
theorem readDigits?_natDigits (n : Nat) : readDigits? (natDigits n) = some n := by
  obtain ⟨digits, hdigits, hwritten⟩ := exists_writes n
  exact readDigits?_eq_some_iff.mpr ⟨digits, hdigits.ne_nil, hwritten, hdigits.value.symm⟩

/-- A written number spells itself. -/
theorem spells_ofNat (n : Nat) : Spells (ofNat n) n := by
  obtain ⟨digits, hdigits, hwritten⟩ := exists_writes n
  exact ⟨digits, hdigits.ne_nil, hdigits.value.symm, Or.inl ((toList_ofNat n).trans hwritten)⟩

/-- A text spells one number at most. -/
theorem Spells.unique {text : String} {m n : Nat} (hm : Spells text m) (hn : Spells text n) :
    m = n := by
  have hread : readUnsigned? (max m n + 1) text = some m :=
    readUnsigned?_eq_some_iff.mpr ⟨hm, by omega⟩
  rw [readUnsigned?_eq_some_iff.mpr ⟨hn, by omega⟩] at hread
  exact (Option.some.inj hread).symm

theorem readUnsigned?_ofNat {bound n : Nat} (h : n < bound) :
    readUnsigned? bound (ofNat n) = some n :=
  readUnsigned?_eq_some_iff.mpr ⟨spells_ofNat n, h⟩

/-- The first sign of a written number is a digit. -/
theorem exists_digit_of_natDigits (n : Nat) :
    ∃ (d : Fin 10) (rest : List Char), natDigits n = digitChar d.val :: rest := by
  obtain ⟨digits, hdigits, hwritten⟩ := exists_writes n
  cases digits with
  | nil => exact absurd rfl hdigits.ne_nil
  | cons d digits => exact ⟨d, _, hwritten⟩

theorem digitChar_ne_minus : ∀ d : Fin 10, digitChar d ≠ '-' := by
  decide

/-- Without a sign a text is read as its digits are. -/
theorem readSigned?_of_digit {bound : Nat} {text : String} {d : Fin 10} {rest : List Char}
    (h : text.toList = digitChar d.val :: rest) :
    readSigned? bound text = ((readDigits? text.toList).filter (· < bound)).map Int.ofNat := by
  unfold readSigned?
  split
  · next hminus =>
    rw [h] at hminus
    exact absurd (List.cons.inj hminus).1 (digitChar_ne_minus d)
  · next hplus =>
    rw [h] at hplus
    exact absurd (List.cons.inj hplus).1 (digitChar_ne_plus d)
  · rfl

/-- A whole number is read exactly if it is within the bounds of the reader. -/
theorem readSigned?_ofInt (bound : Nat) (n : Int) :
    readSigned? bound (ofInt n) = if -(bound : Int) ≤ n ∧ n < bound then some n else none := by
  cases n with
  | ofNat m =>
    obtain ⟨d, rest, hdigit⟩ := exists_digit_of_natDigits m
    rw [ofInt, readSigned?_of_digit ((toList_ofNat m).trans hdigit), toList_ofNat,
      readDigits?_natDigits, Option.filter_some]
    by_cases h : m < bound
    · rw [if_pos (by simpa using h), if_pos (by simp only [Int.ofNat_eq_natCast]; omega)]
      rfl
    · rw [if_neg (by simpa using h), if_neg (by simp only [Int.ofNat_eq_natCast]; omega)]
      rfl
  | negSucc m =>
    have hread : readSigned? bound (ofInt (.negSucc m)) =
        ((readDigits? (natDigits (m + 1))).filter (· ≤ bound)).map fun n => -(n : Int) := by
      rw [readSigned?, ofInt, String.toList_ofList]
      rfl
    rw [hread, readDigits?_natDigits, Option.filter_some]
    by_cases h : m + 1 ≤ bound
    · rw [if_pos (by simpa using h), if_pos (by omega)]
      rfl
    · rw [if_neg (by simpa using h), if_neg (by omega)]
      rfl

end Mailroom.Text
