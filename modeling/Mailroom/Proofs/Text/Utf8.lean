import Mailroom.Text.Utf8

/-!
# Reading back what is written in UTF-8

The bytes of a character are read as that character, whatever comes after them, so the bytes of a
text are read as the text.
-/

namespace Mailroom.Text

/-- The code of a character is below the surrogates or above them. -/
theorem toNat_lt_or_gt (c : Char) :
    c.toNat < 0xD800 ∨ 0xDFFF < c.toNat ∧ c.toNat < 0x110000 :=
  c.valid

/-! ## The second byte -/

theorem secondByteRange?_of_two {v : Nat} (low : 0x80 ≤ v) (high : v ≤ 0x7FF) :
    secondByteRange? (v / 64 % 32 + 192) = some (0x80, 0xBF, 0) := by
  unfold secondByteRange?
  rw [if_pos (by omega)]

/-- In a character of three bytes the second one is in the range that the first one allows, because
the character is no surrogate. -/
theorem secondByteRange?_of_three {v : Nat} (low : 0x800 ≤ v) (high : v ≤ 0xFFFF)
    (valid : v < 0xD800 ∨ 0xDFFF < v) :
    ∃ first last, secondByteRange? (v / 4096 % 16 + 224) = some (first, last, 1) ∧
      first ≤ v / 64 % 64 + 128 ∧ v / 64 % 64 + 128 ≤ last := by
  unfold secondByteRange?
  split
  · omega
  split
  · exact ⟨_, _, rfl, by omega, by omega⟩
  split
  · exact ⟨_, _, rfl, by omega, by omega⟩
  split
  · exact ⟨_, _, rfl, by omega, by omega⟩
  · omega

theorem secondByteRange?_of_four {v : Nat} (low : 0x10000 ≤ v) (high : v < 0x110000) :
    ∃ first last, secondByteRange? (v / 262144 % 8 + 240) = some (first, last, 2) ∧
      first ≤ v / 4096 % 64 + 128 ∧ v / 4096 % 64 + 128 ≤ last := by
  unfold secondByteRange?
  split
  · omega
  split
  · omega
  split
  · omega
  split
  · omega
  split
  · exact ⟨_, _, rfl, by omega, by omega⟩
  split
  · exact ⟨_, _, rfl, by omega, by omega⟩
  split
  · exact ⟨_, _, rfl, by omega, by omega⟩
  · omega

/-! ## Characters -/

theorem toNat_ofNat_of_lt {n : Nat} (h : n < 256) : (UInt8.ofNat n).toNat = n := by
  rw [UInt8.toNat_ofNat']
  exact Nat.mod_eq_of_lt h

/-- A byte after the second one adds its six bits. -/
theorem readContinuation_succ (missing bits low : Nat) (h : low < 64) (bytes : List UInt8) :
    readContinuation (missing + 1) bits (UInt8.ofNat (low + 128) :: bytes) =
      readContinuation missing (bits * 64 + low) bytes := by
  have hbyte : (UInt8.ofNat (low + 128)).toNat = low + 128 := toNat_ofNat_of_lt (by omega)
  rw [readContinuation, hbyte, if_pos (by omega), Nat.add_sub_cancel]

/-- After a first byte of a longer character the second one adds its six bits. -/
theorem readChar_of_secondByteRange? {lead low more first last : Nat} (hlead : lead < 256)
    (hrange : secondByteRange? lead = some (first, last, more)) (hlow : low < 64)
    (hfirst : first ≤ low + 128) (hlast : low + 128 ≤ last) (bytes : List UInt8) :
    readChar (UInt8.ofNat lead) (UInt8.ofNat (low + 128) :: bytes) =
      readContinuation more
        (lead % (if more = 0 then 32 else if more = 1 then 16 else 8) * 64 + low) bytes := by
  have hascii : ¬lead < 0x80 := by
    intro hascii
    have hnone : secondByteRange? lead = none := by
      unfold secondByteRange?
      repeat rw [if_neg (by omega)]
    cases hnone.symm.trans hrange
  have hbyte : (UInt8.ofNat (low + 128)).toNat = low + 128 := toNat_ofNat_of_lt (by omega)
  unfold readChar
  rw [toNat_ofNat_of_lt hlead, if_neg hascii, hrange]
  simp only [hbyte]
  rw [if_pos ⟨hfirst, hlast⟩, Nat.add_sub_cancel]

theorem readChar_of_one {v : Nat} (h : v ≤ 0x7F) (rest : List UInt8) :
    readChar (UInt8.ofNat v) rest = (some (Char.ofNat v), rest) := by
  unfold readChar
  rw [toNat_ofNat_of_lt (by omega), if_pos (by omega)]

theorem readChar_of_two {v : Nat} (low : 0x80 ≤ v) (high : v ≤ 0x7FF) (rest : List UInt8) :
    readChar (UInt8.ofNat (v / 64 % 32 + 192)) (UInt8.ofNat (v % 64 + 128) :: rest) =
      (some (Char.ofNat v), rest) := by
  have hbits : (v / 64 % 32 + 192) % 32 * 64 + v % 64 = v := by omega
  rw [readChar_of_secondByteRange? (by omega) (secondByteRange?_of_two low high) (by omega)
    (by omega) (by omega)]
  simp only [if_true, hbits]
  rfl

theorem readChar_of_three {v : Nat} (low : 0x800 ≤ v) (high : v ≤ 0xFFFF)
    (valid : v < 0xD800 ∨ 0xDFFF < v) (rest : List UInt8) :
    readChar (UInt8.ofNat (v / 4096 % 16 + 224))
        (UInt8.ofNat (v / 64 % 64 + 128) :: UInt8.ofNat (v % 64 + 128) :: rest) =
      (some (Char.ofNat v), rest) := by
  have hbits : ((v / 4096 % 16 + 224) % 16 * 64 + v / 64 % 64) * 64 + v % 64 = v := by omega
  obtain ⟨first, last, hrange, hfirst, hlast⟩ := secondByteRange?_of_three low high valid
  rw [readChar_of_secondByteRange? (by omega) hrange (by omega) hfirst hlast,
    readContinuation_succ _ _ _ (by omega)]
  simp only [if_neg (by decide : ¬1 = 0), if_true, hbits]
  rfl

theorem readChar_of_four {v : Nat} (low : 0x10000 ≤ v) (high : v < 0x110000)
    (rest : List UInt8) :
    readChar (UInt8.ofNat (v / 262144 % 8 + 240)) (UInt8.ofNat (v / 4096 % 64 + 128) ::
        UInt8.ofNat (v / 64 % 64 + 128) :: UInt8.ofNat (v % 64 + 128) :: rest) =
      (some (Char.ofNat v), rest) := by
  have hbits : (((v / 262144 % 8 + 240) % 8 * 64 + v / 4096 % 64) * 64 + v / 64 % 64) * 64 +
      v % 64 = v := by omega
  obtain ⟨first, last, hrange, hfirst, hlast⟩ := secondByteRange?_of_four low high
  rw [readChar_of_secondByteRange? (by omega) hrange (by omega) hfirst hlast,
    readContinuation_succ _ _ _ (by omega), readContinuation_succ _ _ _ (by omega)]
  simp only [if_neg (by decide : ¬2 = 0), if_neg (by decide : ¬2 = 1), hbits]
  rfl

theorem utf8EncodeChar_eq (c : Char) :
    String.utf8EncodeChar c =
      if c.toNat ≤ 0x7F then [UInt8.ofNat c.toNat]
      else if c.toNat ≤ 0x7FF then
        [UInt8.ofNat (c.toNat / 64 % 32 + 192), UInt8.ofNat (c.toNat % 64 + 128)]
      else if c.toNat ≤ 0xFFFF then
        [UInt8.ofNat (c.toNat / 4096 % 16 + 224), UInt8.ofNat (c.toNat / 64 % 64 + 128),
          UInt8.ofNat (c.toNat % 64 + 128)]
      else
        [UInt8.ofNat (c.toNat / 262144 % 8 + 240), UInt8.ofNat (c.toNat / 4096 % 64 + 128),
          UInt8.ofNat (c.toNat / 64 % 64 + 128), UInt8.ofNat (c.toNat % 64 + 128)] :=
  rfl

/-- The bytes of a character are read as the character. -/
theorem readChar_utf8EncodeChar (c : Char) (rest : List UInt8) :
    ∃ first tail, String.utf8EncodeChar c = first :: tail ∧
      readChar first (tail ++ rest) = (some c, rest) := by
  have hvalid := toNat_lt_or_gt c
  have hback : Char.ofNat c.toNat = c := Char.ofNat_toNat c
  rw [utf8EncodeChar_eq]
  split
  · next h =>
    exact ⟨_, _, rfl, by rw [List.nil_append, readChar_of_one h, hback]⟩
  split
  · next h =>
    exact ⟨_, _, rfl, (readChar_of_two (by omega) h rest).trans (by rw [hback])⟩
  split
  · next h =>
    exact ⟨_, _, rfl, (readChar_of_three (by omega) h (by omega) rest).trans (by rw [hback])⟩
  · exact ⟨_, _, rfl, (readChar_of_four (by omega) (by omega) rest).trans (by rw [hback])⟩

/-! ## Texts -/

/-- The first character of a text is read, and the bytes of the others are left. -/
theorem utf8_cons (c : Char) (cs : List Char) :
    ∃ first rest, utf8 (c :: cs) = first :: rest ∧ (utf8 cs).length ≤ rest.length ∧
      readChar first rest = (some c, utf8 cs) := by
  obtain ⟨first, tail, hbytes, hread⟩ := readChar_utf8EncodeChar c (utf8 cs)
  refine ⟨first, tail ++ utf8 cs, ?_, ?_, hread⟩
  · rw [utf8, List.flatMap_cons, hbytes]
    rfl
  · rw [List.length_append]
    omega

/-- The bytes of some characters are read as the characters, whatever their number is bounded by. -/
theorem readChars_utf8 {fuel : Nat} {cs : List Char} (h : (utf8 cs).length ≤ fuel) :
    readChars fuel (utf8 cs) = cs.map some := by
  induction cs generalizing fuel with
  | nil => cases fuel <;> rfl
  | cons c cs ih =>
    obtain ⟨first, rest, hutf8, hlength, hread⟩ := utf8_cons c cs
    rw [hutf8, List.length_cons] at h
    obtain ⟨n, rfl⟩ : ∃ n, fuel = n + 1 := ⟨fuel - 1, by omega⟩
    have hrest : readChars n (utf8 cs) = cs.map some := ih (by omega)
    rw [hutf8, readChars, hread, List.map_cons, ← hrest]

/-- The tolerant reader loses nothing of a text in UTF-8. -/
theorem utf8CharsLossy_utf8 (cs : List Char) : utf8CharsLossy (utf8 cs) = cs := by
  rw [utf8CharsLossy, readChars_utf8 (Nat.le_refl _), List.map_map]
  exact List.map_id cs

/-- A text whose bytes start like a mark starts with the mark's character. -/
theorem head?_of_utf8_eq_mark {cs : List Char} {rest : List UInt8}
    (h : utf8 cs = 0xEF :: 0xBB :: 0xBF :: rest) : cs.head? = some '\ufeff' := by
  cases cs with
  | nil => cases h
  | cons c cs =>
    obtain ⟨first, tail, hutf8, -, hread⟩ := utf8_cons c cs
    obtain ⟨rfl, htail⟩ := List.cons.inj (hutf8.symm.trans h)
    have hmark : readChar 0xEF (0xBB :: 0xBF :: rest) = (some '\ufeff', rest) := rfl
    rw [htail, hmark] at hread
    rw [List.head?_cons, ← (Prod.mk.inj hread).1]

end Mailroom.Text
