import Mailroom.Url.Path

/-!
# Percent encoding is undone by decoding

Decoding takes encoded characters back to their UTF-8 bytes as long as the percent sign itself is
encoded, so encoding loses nothing. In particular no encoded text is read as a dot or two dots
unless it was one before, however these may be spelled.
-/

namespace Mailroom.Url

/-! ## Digits and bytes -/

theorem hexValue?_hexDigit {n : Nat} (h : n < 16) : hexValue? (hexDigit n) = some n :=
  (by decide : ∀ n : Fin 16, hexValue? (hexDigit n.val) = some n.val) ⟨n, h⟩

/-- A byte reads back from its percent sign and digits. -/
theorem decode_encodeByte (b : UInt8) (rest : List Char) :
    decode (encodeByte b ++ rest) = b :: decode rest := by
  have hb : b.toNat < 256 := b.toNat_lt
  have hhigh : b.toNat / 16 < 16 := by omega
  have hlow : b.toNat % 16 < 16 := by omega
  have hsplit : b.toNat / 16 * 16 + b.toNat % 16 = b.toNat := by omega
  simp only [encodeByte, List.cons_append, List.nil_append, decode, hexValue?_hexDigit hhigh,
    hexValue?_hexDigit hlow, hsplit, UInt8.ofNat_toNat]

theorem decode_encodeBytes (bytes : List UInt8) (rest : List Char) :
    decode (bytes.flatMap encodeByte ++ rest) = bytes ++ decode rest := by
  induction bytes with
  | nil => rfl
  | cons b bytes ih =>
    rw [List.flatMap_cons, List.append_assoc, decode_encodeByte, ih, List.cons_append]

/-- Any other character than the percent sign stands for its own bytes. -/
theorem decode_cons_of_ne {c : Char} (h : c ≠ '%') (rest : List Char) :
    decode (c :: rest) = String.utf8EncodeChar c ++ decode rest := by
  rw [decode]
  intro a b more hc
  exact absurd hc h

/-! ## Characters -/

section Encoding

variable {keeps : Char → Bool}

/-- A character reads back from its encoding as its bytes. -/
theorem decode_encodeChar (hpercent : keeps '%' = false) (c : Char) (rest : List Char) :
    decode (encodeChar keeps c ++ rest) = String.utf8EncodeChar c ++ decode rest := by
  unfold encodeChar
  split
  · next hkeeps =>
    have hne : c ≠ '%' := by
      rintro rfl
      rw [hpercent] at hkeeps
      cases hkeeps
    exact decode_cons_of_ne hne rest
  · exact decode_encodeBytes _ rest

/-- Encoded text reads back as its bytes. -/
theorem decode_encode (hpercent : keeps '%' = false) (cs : List Char) :
    decode (encode keeps cs) = Text.utf8 cs := by
  induction cs with
  | nil => rfl
  | cons c cs ih =>
    change decode (encodeChar keeps c ++ encode keeps cs) = String.utf8EncodeChar c ++ Text.utf8 cs
    rw [decode_encodeChar hpercent, ih]

/-- Different texts have different bytes. -/
theorem utf8_injective {cs cs' : List Char} (h : Text.utf8 cs = Text.utf8 cs') : cs = cs' := by
  have hbytes : (String.ofList cs).toByteArray = (String.ofList cs').toByteArray :=
    congrArg List.toByteArray h
  exact String.ofList_injective (String.toByteArray_inj.mp hbytes)

/-- Different texts are encoded differently. -/
theorem encode_injective (hpercent : keeps '%' = false) {cs cs' : List Char}
    (h : encode keeps cs = encode keeps cs') : cs = cs' := by
  apply utf8_injective
  rw [← decode_encode hpercent, h, decode_encode hpercent]

/-- Text of characters that stand for themselves is its own encoding. -/
theorem encode_eq_self {cs : List Char} (h : ∀ c ∈ cs, keeps c = true) : encode keeps cs = cs := by
  induction cs with
  | nil => rfl
  | cons c cs ih =>
    change encodeChar keeps c ++ encode keeps cs = c :: cs
    rw [ih fun c' hc' => h c' (List.mem_cons_of_mem _ hc'), encodeChar,
      if_pos (h c List.mem_cons_self), List.singleton_append]

/-- A character that does not stand for itself occurs in an encoding only as its percent sign or one
of its digits. -/
theorem not_mem_encodeChar {d : Char} (hkeeps : keeps d = false) (hpercent : d ≠ '%')
    (hdigit : ∀ n : Fin 16, hexDigit n.val ≠ d) (c : Char) : d ∉ encodeChar keeps c := by
  intro hmem
  unfold encodeChar at hmem
  split at hmem
  · next hc =>
    rw [← List.mem_singleton.mp hmem, hkeeps] at hc
    cases hc
  · obtain ⟨b, -, hb⟩ := List.mem_flatMap.mp hmem
    have hbound : b.toNat < 256 := b.toNat_lt
    simp only [encodeByte, List.mem_cons, List.not_mem_nil, or_false] at hb
    rcases hb with hb | hb | hb
    · exact hpercent hb
    · exact hdigit ⟨b.toNat / 16, by omega⟩ hb.symm
    · exact hdigit ⟨b.toNat % 16, by omega⟩ hb.symm

theorem not_mem_encode {d : Char} (hkeeps : keeps d = false) (hpercent : d ≠ '%')
    (hdigit : ∀ n : Fin 16, hexDigit n.val ≠ d) (cs : List Char) : d ∉ encode keeps cs := by
  intro hmem
  obtain ⟨c, -, hc⟩ := List.mem_flatMap.mp hmem
  exact not_mem_encodeChar hkeeps hpercent hdigit c hc

/-- A slash that does not stand for itself does not occur in encoded text. -/
theorem slash_not_mem_encode (hslash : keeps '/' = false) (cs : List Char) :
    '/' ∉ encode keeps cs :=
  not_mem_encode hslash (by decide) (by decide) cs

/-! ## Dots -/

/-- However a segment for the directory itself is spelled, it reads back as a dot. -/
theorem decode_of_isSingleDot {cs : List Char} (h : isSingleDot cs = true) :
    decode cs = Text.utf8 ['.'] := by
  rw [isSingleDot, List.contains_iff_mem] at h
  have hspelled : ∀ s ∈ [".", "%2e", "%2E"], decode s.toList = Text.utf8 ['.'] := by decide
  simpa using hspelled _ h

/-- However a segment for the directory above is spelled, it reads back as two dots. -/
theorem decode_of_isDoubleDot {cs : List Char} (h : isDoubleDot cs = true) :
    decode cs = Text.utf8 ['.', '.'] := by
  rw [isDoubleDot, List.contains_iff_mem] at h
  have hspelled : ∀ s ∈ ["..", "%2e%2e", "%2e%2E", "%2E%2e", "%2E%2E", "%2e.", "%2E.", ".%2e",
      ".%2E"], decode s.toList = Text.utf8 ['.', '.'] := by decide
  simpa using hspelled _ h

/-- An encoded text stands for the directory itself only if it is a dot. -/
theorem isSingleDot_encode (hpercent : keeps '%' = false) (hdot : keeps '.' = true)
    {cs : List Char} : isSingleDot (encode keeps cs) = true ↔ cs = ['.'] := by
  constructor
  · intro h
    apply utf8_injective
    rw [← decode_encode hpercent, decode_of_isSingleDot h]
  · rintro rfl
    rw [encode_eq_self (by simpa using hdot)]
    rfl

/-- An encoded text stands for the directory above only if it is two dots. -/
theorem isDoubleDot_encode (hpercent : keeps '%' = false) (hdot : keeps '.' = true)
    {cs : List Char} : isDoubleDot (encode keeps cs) = true ↔ cs = ['.', '.'] := by
  constructor
  · intro h
    apply utf8_injective
    rw [← decode_encode hpercent, decode_of_isDoubleDot h]
  · rintro rfl
    rw [encode_eq_self (by simpa using hdot)]
    rfl

end Encoding

/-! ## Segments -/

theorem keepsInSegment_percent (special : Bool) : keepsInSegment special '%' = false := by
  simp [keepsInSegment]

theorem keepsInSegment_slash (special : Bool) : keepsInSegment special '/' = false := by
  simp [keepsInSegment]

theorem keepsInSegment_dot (special : Bool) : keepsInSegment special '.' = true := by
  cases special <;> decide

end Mailroom.Url
