import Mathlib.Data.Nat.Digits.Defs
import Mailroom.Text.Decimal

/-!
# Numerals

A numeral is a row of decimal digits, not empty, with or without a plus sign in front. `Spells` says
which number it stands for, by the value of its digits and without a reader, and the reader of
numbers below a bound accepts exactly the numerals of these numbers. Leading zeros are allowed;
blanks, other digits and a minus sign are not.
-/

namespace Mailroom.Text

/-! ## Digits -/

theorem digitValue?_digitChar : ∀ d : Fin 10, digitValue? (digitChar d) = some d.val := by
  decide

/-- A character has a value as a digit exactly if it is the digit of that value. -/
theorem digitValue?_eq_some_iff {c : Char} {n : Nat} :
    digitValue? c = some n ↔ ∃ d : Fin 10, c = digitChar d ∧ n = d.val := by
  constructor
  · intro h
    unfold digitValue? at h
    split at h
    · next hrange =>
      have hlow : 48 ≤ c.toNat := hrange.1
      have hhigh : c.toNat ≤ 57 := hrange.2
      refine ⟨⟨c.toNat - 48, by omega⟩, ?_, (Option.some.inj h).symm⟩
      rw [digitChar, show 48 + (c.toNat - 48) = c.toNat by omega, Char.ofNat_toNat]
    · cases h
  · rintro ⟨d, rfl, rfl⟩
    exact digitValue?_digitChar d

/-- The number that a row of digits stands for, the highest place first. -/
def digitsValue (digits : List (Fin 10)) : Nat :=
  Nat.ofDigits 10 (digits.reverse.map Fin.val)

@[simp] theorem digitsValue_nil : digitsValue [] = 0 := rfl

/-- A digit in front counts as much as its place does. -/
theorem digitsValue_cons (d : Fin 10) (digits : List (Fin 10)) :
    digitsValue (d :: digits) = d * 10 ^ digits.length + digitsValue digits := by
  rw [digitsValue, digitsValue, List.reverse_cons, List.map_append, Nat.ofDigits_append,
    List.map_cons, List.map_nil, Nat.ofDigits_singleton, List.length_map, List.length_reverse]
  ring

/-- Reading goes on exactly over digits, and each of them moves the number so far up by a place. -/
theorem readDigitsFrom?_eq_some_iff {acc n : Nat} {cs : List Char} :
    readDigitsFrom? acc cs = some n ↔
      ∃ digits : List (Fin 10), cs = digits.map (digitChar ·.val) ∧
        n = acc * 10 ^ digits.length + digitsValue digits := by
  induction cs generalizing acc with
  | nil =>
    rw [readDigitsFrom?, Option.some.injEq]
    constructor
    · rintro rfl
      exact ⟨[], rfl, by simp⟩
    · rintro ⟨digits, hnil, rfl⟩
      simp [List.map_eq_nil_iff.mp hnil.symm]
  | cons c rest ih =>
    rw [readDigitsFrom?, Option.bind_eq_some_iff]
    have hplace : ∀ (d : Fin 10) (digits : List (Fin 10)),
        (acc * 10 + d.val) * 10 ^ digits.length + digitsValue digits =
          acc * 10 ^ (d :: digits).length + digitsValue (d :: digits) := by
      intro d digits
      rw [digitsValue_cons, List.length_cons, pow_succ]
      ring
    constructor
    · rintro ⟨m, hdigit, hrest⟩
      obtain ⟨d, rfl, rfl⟩ := digitValue?_eq_some_iff.mp hdigit
      obtain ⟨digits, rfl, rfl⟩ := ih.mp hrest
      exact ⟨d :: digits, rfl, hplace d digits⟩
    · rintro ⟨digits, hcs, rfl⟩
      cases digits with
      | nil => simp at hcs
      | cons d digits =>
        obtain ⟨rfl, rfl⟩ := List.cons.inj hcs
        exact ⟨d, digitValue?_digitChar d, ih.mpr ⟨digits, rfl, (hplace d digits).symm⟩⟩

/-- Digits are read exactly if there is one at least. -/
theorem readDigits?_eq_some_iff {cs : List Char} {n : Nat} :
    readDigits? cs = some n ↔
      ∃ digits : List (Fin 10), digits ≠ [] ∧ cs = digits.map (digitChar ·.val) ∧
        n = digitsValue digits := by
  cases cs with
  | nil =>
    simp only [readDigits?, List.isEmpty_nil, if_true, reduceCtorEq, false_iff]
    rintro ⟨digits, hne, hcs, -⟩
    exact hne (List.map_eq_nil_iff.mp hcs.symm)
  | cons c rest =>
    rw [readDigits?, List.isEmpty_cons, if_neg Bool.false_ne_true, readDigitsFrom?_eq_some_iff]
    constructor
    · rintro ⟨digits, hcs, rfl⟩
      refine ⟨digits, fun hnil => ?_, hcs, by rw [Nat.zero_mul, Nat.zero_add]⟩
      rw [hnil] at hcs
      cases hcs
    · rintro ⟨digits, -, hcs, rfl⟩
      exact ⟨digits, hcs, by rw [Nat.zero_mul, Nat.zero_add]⟩

/-! ## Numerals -/

/-- A text spells a number: digits of that value, after a plus sign or nothing. -/
def Spells (text : String) (n : Nat) : Prop :=
  ∃ digits : List (Fin 10), digits ≠ [] ∧ n = digitsValue digits ∧
    (text.toList = digits.map (digitChar ·.val) ∨
      text.toList = '+' :: digits.map (digitChar ·.val))

theorem digitChar_ne_plus : ∀ d : Fin 10, digitChar d ≠ '+' := by
  decide

/-- The reader of numbers below a bound accepts exactly their numerals. -/
theorem readUnsigned?_eq_some_iff {bound n : Nat} {text : String} :
    readUnsigned? bound text = some n ↔ Spells text n ∧ n < bound := by
  rw [readUnsigned?, Option.filter_eq_some_iff, decide_eq_true_eq]
  refine and_congr_left fun _ => ?_
  split
  · next rest hsign =>
    rw [readDigits?_eq_some_iff]
    constructor
    · rintro ⟨digits, hne, rfl, rfl⟩
      exact ⟨digits, hne, rfl, Or.inr hsign⟩
    · rintro ⟨digits, hne, rfl, hplain | hplus⟩
      · -- A digit is no plus sign, so the text cannot start with either.
        cases digits with
        | nil => exact absurd rfl hne
        | cons d digits =>
          rw [hsign] at hplain
          exact absurd (List.cons.inj hplain).1.symm (digitChar_ne_plus d)
      · rw [hsign] at hplus
        exact ⟨digits, hne, (List.cons.inj hplus).2, rfl⟩
  · next hnone =>
    rw [readDigits?_eq_some_iff]
    constructor
    · rintro ⟨digits, hne, hcs, rfl⟩
      exact ⟨digits, hne, rfl, Or.inl hcs⟩
    · rintro ⟨digits, hne, rfl, hplain | hplus⟩
      · exact ⟨digits, hne, hplain, rfl⟩
      · exact absurd hplus (hnone _)

/-- The reader refuses exactly what is no numeral of a number below the bound. -/
theorem readUnsigned?_eq_none_iff {bound : Nat} {text : String} :
    readUnsigned? bound text = none ↔ ∀ n < bound, ¬Spells text n := by
  rw [Option.eq_none_iff_forall_ne_some]
  refine forall_congr' fun n => ?_
  rw [ne_eq, readUnsigned?_eq_some_iff, not_and]
  exact ⟨fun h hn hs => h hs hn, fun h hs hn => h hn hs⟩

/-- The reader of numbers of 64 bits accepts exactly their numerals. -/
theorem readWord?_eq_some_iff {text : String} {n : UInt64} :
    readWord? text = some n ↔ Spells text n.toNat := by
  rw [readWord?, Option.map_eq_some_iff]
  simp only [readUnsigned?_eq_some_iff]
  constructor
  · rintro ⟨m, ⟨hspells, hbound⟩, rfl⟩
    rwa [Nat.toUInt64, UInt64.toNat_ofNat_of_lt' hbound]
  · intro hspells
    exact ⟨n.toNat, ⟨hspells, n.toNat_lt⟩, UInt64.ofNat_toNat⟩

/-! ## Written numbers -/

theorem digitChar_eq : ∀ d : Fin 10, digitChar d = Nat.digitChar d := by
  decide

theorem natDigitsOnto_eq (n : Nat) (rest : List Char) :
    natDigitsOnto n rest = Nat.toDigits 10 n ++ rest := by
  induction n, rest using natDigitsOnto.induct with
  | case1 n rest hsmall =>
    rw [natDigitsOnto, if_pos hsmall, Nat.toDigits_of_lt_base hsmall, digitChar_eq ⟨n, hsmall⟩,
      List.singleton_append]
  | case2 n rest hlarge ih =>
    have hlast : n % 10 < 10 := Nat.mod_lt n (by decide)
    rw [natDigitsOnto, if_neg hlarge, ih, digitChar_eq ⟨n % 10, hlast⟩,
      Nat.toDigits_of_base_le (by decide) (Nat.not_lt.mp hlarge), List.append_assoc,
      List.singleton_append]

/-- A number is written in base ten without zeros in front. -/
theorem ofNat_eq_toString (n : Nat) : ofNat n = toString n := by
  rw [ofNat, natDigits, natDigitsOnto_eq, List.append_nil, Nat.toString_eq_ofList_toDigits]

end Mailroom.Text
