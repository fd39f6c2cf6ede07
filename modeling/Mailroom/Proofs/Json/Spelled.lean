import Mathlib.Data.List.TakeWhile
import Mailroom.Json.Parser
import Mailroom.Proofs.Outcome
import Mailroom.Proofs.Text.Decimal

/-!
# Documents as they are spelled

`Spelled` says which documents spell a value, without a reader as far as whole numbers, texts,
arrays and objects go: there may be blanks between their parts, a text may use any escape for any of
its characters, and of fields of one key the last one counts. The reader gives back what is spelled
(`parse_of_spelled`), so that whole numbers of 64 bits, with a sign or without one, come out of a
document as they went in, wherever they stand in it.
-/

namespace Mailroom.Json

/-! ## Numbers -/

/-- What comes next is no part of a number. -/
def EndsNumber (rest : List Char) : Prop :=
  ∀ c, rest.head? = some c → Text.isDigit c = false ∧ c ≠ '.' ∧ c ≠ 'e' ∧ c ≠ 'E'

theorem endsNumber_nil : EndsNumber [] := nofun

theorem EndsNumber.startsWithDigit {rest : List Char} (h : EndsNumber rest) :
    startsWithDigit rest = false := by
  cases rest with
  | nil => rfl
  | cons c rest => exact (h c rfl).1

theorem isDigit_digitChar (d : Fin 10) : Text.isDigit (Text.digitChar d) = true := by
  rw [Text.isDigit, Text.digitValue?_digitChar]
  rfl

/-- Digits are taken up where their number is below the bound. -/
theorem takeDigits_eq (digits : List (Fin 10)) {bound acc count : Nat} {rest : List Char}
    (hbound : acc * 10 ^ digits.length + Text.digitsValue digits < bound)
    (hrest : startsWithDigit rest = false) :
    takeDigits bound acc count (digits.map (Text.digitChar ·.val) ++ rest) =
      (acc * 10 ^ digits.length + Text.digitsValue digits, count + digits.length, rest) := by
  induction digits generalizing acc count with
  | nil =>
    cases rest with
    | nil => simp [takeDigits]
    | cons c rest =>
      have hnone : Text.digitValue? c = none := by
        simpa [startsWithDigit, Text.isDigit] using hrest
      simp [takeDigits, hnone]
  | cons d digits ih =>
    have hplace : (acc * 10 + d.val) * 10 ^ digits.length + Text.digitsValue digits =
        acc * 10 ^ (d :: digits).length + Text.digitsValue (d :: digits) := by
      rw [Text.digitsValue_cons, List.length_cons, pow_succ]
      ring
    have hsmall : acc * 10 + d.val < bound := by
      have hone : 1 ≤ 10 ^ digits.length := Nat.one_le_pow _ _ (by decide)
      have hle := Nat.le_mul_of_pos_right (acc * 10 + d.val) hone
      omega
    rw [← hplace] at hbound
    rw [List.map_cons, List.cons_append, takeDigits, Text.digitValue?_digitChar]
    simp only [hsmall, if_true]
    rw [ih hbound, hplace, List.length_cons, Nat.add_right_comm, Nat.add_assoc]

theorem readAfterWhole_of_ends {rest : List Char} (h : EndsNumber rest) (negative : Bool)
    (significand : Nat) :
    readAfterWhole negative significand rest = wholeNumber negative significand rest := by
  unfold readAfterWhole
  split
  · exact absurd rfl (h '.' rfl).2.1
  · exact absurd rfl (h 'e' rfl).2.2.1
  · exact absurd rfl (h 'E' rfl).2.2.2
  · rfl

theorem digitChar_ne_zero : ∀ d : Fin 10, d ≠ 0 → Text.digitChar d ≠ '0' := by
  decide

/-- The digits of a number of 64 bits are read as a whole number. -/
theorem readNumber_natDigits {n : Nat} (hn : n < bitBound 64) {rest : List Char}
    (hrest : EndsNumber rest) (negative : Bool) :
    readNumber negative (Text.natDigits n ++ rest) = wholeNumber negative n rest := by
  obtain ⟨digits, hdigits, hwritten⟩ := Text.exists_writes n
  rw [hwritten]
  have hvalue := hdigits.value
  cases digits with
  | nil => exact absurd rfl hdigits.ne_nil
  | cons d digits =>
    by_cases hzero : d = 0
    · -- A zero in front is the only digit.
      obtain rfl : digits = [] := (List.cons.inj (hdigits.head (congrArg some hzero))).2
      subst hzero
      obtain rfl : 0 = n := by simpa [Text.digitsValue_cons] using hvalue
      change (if startsWithDigit rest then _ else readAfterWhole negative 0 rest) = _
      rw [hrest.startsWithDigit, readAfterWhole_of_ends hrest]
      rfl
    · have htaken : takeDigits (bitBound 64) 0 0
          ((d :: digits).map (Text.digitChar ·.val) ++ rest) =
            (n, 0 + (d :: digits).length, rest) := by
        rw [takeDigits_eq (d :: digits) (by rw [hvalue]; omega) hrest.startsWithDigit, hvalue,
          Nat.zero_mul, Nat.zero_add]
      rw [List.map_cons, List.cons_append] at htaken ⊢
      unfold readNumber
      split
      · next heq => cases heq
      · next heq => exact absurd (List.cons.inj heq).1 (digitChar_ne_zero d hzero)
      · next c tail _ heq =>
        obtain ⟨rfl, rfl⟩ := List.cons.inj heq
        rw [isDigit_digitChar, if_pos rfl, htaken]
        simp only [hrest.startsWithDigit, Bool.false_eq_true, if_false]
        exact readAfterWhole_of_ends hrest negative n

/-- The first sign of a number is a digit or a minus. -/
theorem exists_head_ofInt (n : Int) : ∃ c rest, (Text.ofInt n).toList = c :: rest ∧
    (c = '-' ∨ ∃ d : Fin 10, c = Text.digitChar d) := by
  cases n with
  | ofNat m =>
    obtain ⟨d, rest, hdigits⟩ := Text.exists_digit_of_natDigits m
    exact ⟨_, rest, (Text.toList_ofNat m).trans hdigits, Or.inr ⟨d, rfl⟩⟩
  | negSucc m => exact ⟨'-', _, String.toList_ofList, Or.inl rfl⟩

theorem digitChar_ne_letter : ∀ d : Fin 10, Text.digitChar d ≠ 'n' ∧ Text.digitChar d ≠ 't' ∧
    Text.digitChar d ≠ 'f' ∧ Text.digitChar d ≠ '-' := by
  decide

/-- A whole number of 64 bits, with a sign or without one, is read as itself. -/
theorem readValue_ofInt {n : Int} (hlow : -(bitBound 63 : Int) ≤ n) (hhigh : n < bitBound 64)
    {rest : List Char} (hrest : EndsNumber rest) (fuel depth : Nat) :
    readValue (fuel + 1) depth ((Text.ofInt n).toList ++ rest) = .ok (.num (.int n), rest) := by
  cases n with
  | ofNat m =>
    have hm : m < bitBound 64 := by
      simp only [Int.ofNat_eq_natCast] at hhigh
      omega
    obtain ⟨d, tail, hdigits⟩ := Text.exists_digit_of_natDigits m
    have hread : readNumber false (Text.natDigits m ++ rest) = .ok (.int m, rest) :=
      readNumber_natDigits hm hrest false
    obtain ⟨hn, ht, hf, hminus⟩ := digitChar_ne_letter d
    rw [Text.ofInt, Text.toList_ofNat]
    rw [hdigits, List.cons_append] at hread ⊢
    simp only [readValue, hn, ht, hf, hminus, isDigit_digitChar, if_true, if_false, hread]
    rfl
  | negSucc m =>
    have hm : m + 1 ≤ bitBound 63 := by omega
    have hread : readNumber true (Text.natDigits (m + 1) ++ rest) =
        .ok (.int (.negSucc m), rest) := by
      rw [readNumber_natDigits (by rw [bitBound_succ]; omega) hrest true]
      simp only [wholeNumber, Bool.not_true, Bool.false_eq_true, if_false]
      rw [if_neg (by simpa using hm)]
      rfl
    rw [Text.ofInt, String.toList_ofList, List.cons_append]
    simp only [readValue, show ('-' : Char) ≠ 'n' by decide, show ('-' : Char) ≠ 't' by decide,
      show ('-' : Char) ≠ 'f' by decide, if_true, if_false, hread]
    rfl

/-! ## Texts -/

/-- Signs between quotes spell the characters of a text: each stands for itself or is escaped. -/
inductive SpelledText : List Char → List Char → Prop where
  | nil : SpelledText [] []
  | plain {c : Char} {cs token : List Char} (notQuote : c ≠ '"') (notBackslash : c ≠ '\\')
      (printable : 0x20 ≤ c.toNat) (rest : SpelledText cs token) :
      SpelledText (c :: cs) (c :: token)
  | short {c e : Char} {cs token : List Char} (escape : shortEscape? e = some c)
      (rest : SpelledText cs token) : SpelledText (c :: cs) ('\\' :: e :: token)
  | unicode {a b c d : Char} {n : Nat} {cs token : List Char} (quad : hexQuad? a b c d = some n)
      (notLow : isLowSurrogate n = false) (notHigh : isHighSurrogate n = false)
      (rest : SpelledText cs token) :
      SpelledText (Char.ofNat n :: cs) ('\\' :: 'u' :: a :: b :: c :: d :: token)
  | pair {a b c d a' b' c' d' : Char} {high low : Nat} {cs token : List Char}
      (first : hexQuad? a b c d = some high) (second : hexQuad? a' b' c' d' = some low)
      (isHigh : isHighSurrogate high = true) (isLow : isLowSurrogate low = true)
      (rest : SpelledText cs token) :
      SpelledText (Char.ofNat (0x10000 + (high - 0xD800) * 1024 + (low - 0xDC00)) :: cs)
        ('\\' :: 'u' :: a :: b :: c :: d :: '\\' :: 'u' :: a' :: b' :: c' :: d' :: token)

theorem readHexQuad_eq {a b c d : Char} {n : Nat} (h : hexQuad? a b c d = some n)
    (rest : List Char) : readHexQuad (a :: b :: c :: d :: rest) = .ok (n, rest) := by
  simp only [readHexQuad, h]

/-- A number is not both halves of a pair. -/
theorem isLowSurrogate_of_isHighSurrogate {n : Nat} (h : isHighSurrogate n = true) :
    isLowSurrogate n = false := by
  simp only [isHighSurrogate, isLowSurrogate, Bool.and_eq_true, decide_eq_true_eq] at h ⊢
  simp only [Bool.and_eq_false_iff, decide_eq_false_iff_not]
  omega

/-- A text is read up to its closing quote. -/
theorem SpelledText.readText {cs token : List Char} (h : SpelledText cs token) {fuel : Nat}
    (hfuel : token.length + 1 ≤ fuel) (done rest : List Char) :
    Json.readText fuel done (token ++ '"' :: rest) =
      .ok (String.ofList (done.reverse ++ cs), rest) := by
  induction h generalizing fuel done with
  | nil =>
    obtain ⟨n, rfl⟩ : ∃ n, fuel = n + 1 := ⟨fuel - 1, by omega⟩
    simp [Json.readText]
  | @plain c cs token notQuote notBackslash printable _ ih =>
    rw [List.length_cons] at hfuel
    obtain ⟨n, rfl⟩ : ∃ n, fuel = n + 1 := ⟨fuel - 1, by omega⟩
    rw [List.cons_append, Json.readText, if_neg notQuote, if_neg notBackslash,
      if_neg (Nat.not_lt.mpr printable), ih (by omega), List.reverse_cons, List.append_assoc,
      List.singleton_append]
  | @short c e cs token escape _ ih =>
    simp only [List.length_cons] at hfuel
    obtain ⟨n, rfl⟩ : ∃ n, fuel = n + 1 := ⟨fuel - 1, by omega⟩
    have hletter : e ≠ 'u' := by
      rintro rfl
      cases escape
    have hescape : readEscape (e :: (token ++ '"' :: rest)) = .ok (c, token ++ '"' :: rest) := by
      rw [readEscape, if_neg hletter, escape]
    simp only [List.cons_append, Json.readText, hescape, show ('\\' : Char) ≠ '"' by decide,
      if_false, if_true]
    rw [ih (by omega), List.reverse_cons, List.append_assoc, List.singleton_append]
  | @unicode a b c d m cs token quad notLow notHigh _ ih =>
    simp only [List.length_cons] at hfuel
    obtain ⟨n, rfl⟩ : ∃ n, fuel = n + 1 := ⟨fuel - 1, by omega⟩
    have hescape : readEscape ('u' :: a :: b :: c :: d :: (token ++ '"' :: rest)) =
        .ok (Char.ofNat m, token ++ '"' :: rest) := by
      simp only [readEscape, readUnicodeEscape, readHexQuad_eq quad, notLow, notHigh, if_true,
        Bool.false_eq_true, if_false]
    simp only [List.cons_append, Json.readText, hescape, show ('\\' : Char) ≠ '"' by decide,
      if_false, if_true]
    rw [ih (by omega), List.reverse_cons, List.append_assoc, List.singleton_append]
  | @pair a b c d a' b' c' d' high low cs token first second isHigh isLow _ ih =>
    simp only [List.length_cons] at hfuel
    obtain ⟨n, rfl⟩ : ∃ n, fuel = n + 1 := ⟨fuel - 1, by omega⟩
    have hescape : readEscape ('u' :: a :: b :: c :: d :: '\\' :: 'u' :: a' :: b' :: c' :: d' ::
        (token ++ '"' :: rest)) =
          .ok (Char.ofNat (0x10000 + (high - 0xD800) * 1024 + (low - 0xDC00)),
            token ++ '"' :: rest) := by
      simp only [readEscape, readUnicodeEscape, readLowSurrogate, readHexQuad_eq first,
        readHexQuad_eq second, isLowSurrogate_of_isHighSurrogate isHigh, isHigh, isLow, if_true,
        Bool.false_eq_true, if_false]
    simp only [List.cons_append, Json.readText, hescape, show ('\\' : Char) ≠ '"' by decide,
      if_false, if_true]
    rw [ih (by omega), List.reverse_cons, List.append_assoc, List.singleton_append]

/-! ## Documents -/

/-- Signs that may stand between the parts of a document. -/
def Blanks (cs : List Char) : Prop :=
  ∀ c ∈ cs, isJsonBlank c = true

theorem skipBlanks_append {blanks : List Char} (h : Blanks blanks) {c : Char}
    (hc : isJsonBlank c = false) (rest : List Char) :
    skipBlanks (blanks ++ c :: rest) = c :: rest := by
  rw [skipBlanks, List.dropWhile_append_of_pos h, List.dropWhile_cons_of_neg (by simp [hc])]

theorem skipBlanks_eq_nil {blanks : List Char} (h : Blanks blanks) : skipBlanks blanks = [] :=
  List.dropWhile_eq_nil_iff.mpr h

/-- Blanks and a sign behind them end a number. -/
theorem endsNumber_append {blanks : List Char} (h : Blanks blanks) {rest : List Char}
    (hrest : EndsNumber rest) : EndsNumber (blanks ++ rest) := by
  cases blanks with
  | nil => exact hrest
  | cons b blanks =>
    intro c hc
    obtain rfl : b = c := by simpa using hc
    have hblank := h b List.mem_cons_self
    simp only [isJsonBlank, Bool.or_eq_true, decide_eq_true_eq] at hblank
    rcases hblank with ((rfl | rfl) | rfl) | rfl <;> decide

/-- A number with a fraction, an exponent or too many digits is spelled by what is read as it. -/
structure SpelledFloat (x : Binary64) (token : List Char) : Prop where
  start : ∃ c rest, token = c :: rest ∧ (c = '-' ∨ Text.isDigit c = true)
  reads : ∀ fuel depth rest, EndsNumber rest →
    readValue (fuel + 1) depth (token ++ rest) = .ok (.num (.float x), rest)

/-- A part of a document: a value, the items of an array or the fields of an object. -/
inductive Part where
  | value (v : Json)
  | items (items : List Json)
  | fields (fields : List (String × Json))

/-- Signs spell a part of a document, in which at most so many arrays and objects nest. -/
inductive Spelled : Nat → Part → List Char → Prop where
  | null {depth : Nat} : Spelled depth (.value .null) ['n', 'u', 'l', 'l']
  | yes {depth : Nat} : Spelled depth (.value (.bool true)) ['t', 'r', 'u', 'e']
  | no {depth : Nat} : Spelled depth (.value (.bool false)) ['f', 'a', 'l', 's', 'e']
  | whole {depth : Nat} {n : Int} (low : -(bitBound 63 : Int) ≤ n) (high : n < bitBound 64) :
      Spelled depth (.value (.num (.int n))) (Text.ofInt n).toList
  | float {depth : Nat} {x : Binary64} {token : List Char} (spelled : SpelledFloat x token) :
      Spelled depth (.value (.num (.float x))) token
  | text {depth : Nat} {cs token : List Char} (spelled : SpelledText cs token) :
      Spelled depth (.value (.str (String.ofList cs))) ('"' :: (token ++ ['"']))
  | noItems {depth : Nat} {blanks : List Char} (blank : Blanks blanks) :
      Spelled (depth + 1) (.value (.arr [])) ('[' :: (blanks ++ [']']))
  | array {depth : Nat} {blanks token : List Char} {vs : List Json} (blank : Blanks blanks)
      (items : Spelled depth (.items vs) token) :
      Spelled (depth + 1) (.value (.arr vs)) ('[' :: (blanks ++ (token ++ [']'])))
  | noFields {depth : Nat} {blanks : List Char} (blank : Blanks blanks) :
      Spelled (depth + 1) (.value (.obj [])) ('\x7b' :: (blanks ++ ['\x7d']))
  | object {depth : Nat} {blanks token : List Char} {es : List (String × Json)}
      (blank : Blanks blanks) (fields : Spelled depth (.fields es) token) :
      Spelled (depth + 1) (.value (.obj (Dict.ofList es)))
        ('\x7b' :: (blanks ++ (token ++ ['\x7d'])))
  | lastItem {depth : Nat} {v : Json} {token blanks : List Char}
      (value : Spelled depth (.value v) token) (blank : Blanks blanks) :
      Spelled depth (.items [v]) (token ++ blanks)
  | item {depth : Nat} {v : Json} {vs : List Json} {token before after more : List Char}
      (value : Spelled depth (.value v) token) (blankBefore : Blanks before)
      (blankAfter : Blanks after) (items : Spelled depth (.items vs) more) :
      Spelled depth (.items (v :: vs)) (token ++ (before ++ ',' :: (after ++ more)))
  | lastField {depth : Nat} {cs key : List Char} {v : Json}
      {beforeColon afterColon token blanks : List Char} (name : SpelledText cs key)
      (blankBefore : Blanks beforeColon) (blankAfter : Blanks afterColon)
      (value : Spelled depth (.value v) token) (blank : Blanks blanks) :
      Spelled depth (.fields [(String.ofList cs, v)])
        ('"' :: (key ++ '"' :: (beforeColon ++ ':' :: (afterColon ++ (token ++ blanks)))))
  | field {depth : Nat} {cs key : List Char} {v : Json} {es : List (String × Json)}
      {beforeColon afterColon token before after more : List Char} (name : SpelledText cs key)
      (blankBefore : Blanks beforeColon) (blankAfter : Blanks afterColon)
      (value : Spelled depth (.value v) token) (blankEnd : Blanks before)
      (blankNext : Blanks after) (fields : Spelled depth (.fields es) more) :
      Spelled depth (.fields ((String.ofList cs, v) :: es))
        ('"' :: (key ++ '"' :: (beforeColon ++ ':' :: (afterColon ++
          (token ++ (before ++ ',' :: (after ++ more)))))))

/-- What a part starts with: no blank, and no sign that ends an array or an object. -/
theorem Spelled.exists_head {depth : Nat} {part : Part} {token : List Char}
    (h : Spelled depth part token) : ∃ c rest, token = c :: rest ∧ isJsonBlank c = false ∧
      c ≠ ']' ∧ ((∃ es, part = .fields es) → c = '"') := by
  have hdigit : ∀ c, c = '-' ∨ Text.isDigit c = true → isJsonBlank c = false ∧ c ≠ ']' := by
    rintro c (rfl | hc)
    · decide
    · rw [Text.isDigit, Option.isSome_iff_exists] at hc
      obtain ⟨n, hn⟩ := hc
      obtain ⟨d, rfl, -⟩ := Text.digitValue?_eq_some_iff.mp hn
      clear hn
      revert d
      decide
  induction h with
  | null | yes | no => exact ⟨_, _, rfl, by decide, by decide, nofun⟩
  | @whole depth n _ _ =>
    obtain ⟨c, rest, htoken, hc⟩ := exists_head_ofInt n
    obtain ⟨hblank, hend⟩ := hdigit c (hc.imp_right fun ⟨d, hd⟩ => hd ▸ isDigit_digitChar d)
    exact ⟨c, rest, htoken, hblank, hend, nofun⟩
  | float spelled =>
    obtain ⟨c, rest, htoken, hc⟩ := spelled.start
    obtain ⟨hblank, hend⟩ := hdigit c hc
    exact ⟨c, rest, htoken, hblank, hend, nofun⟩
  | text | noItems | array | noFields | object => exact ⟨_, _, rfl, by decide, by decide, nofun⟩
  | lastItem _ _ ih =>
    obtain ⟨c, rest, rfl, hblank, hend, -⟩ := ih
    exact ⟨c, _, rfl, hblank, hend, nofun⟩
  | item _ _ _ _ ih _ =>
    obtain ⟨c, rest, rfl, hblank, hend, -⟩ := ih
    exact ⟨c, _, rfl, hblank, hend, nofun⟩
  | lastField | field => exact ⟨_, _, rfl, by decide, by decide, fun _ => rfl⟩

/-! ## Reading what is spelled -/

/-- A part is read back from signs, whatever follows them that does not go on with them. -/
def ReadsBack (depth : Nat) (part : Part) (token : List Char) : Prop :=
  match part with
  | .value v => ∀ fuel rest, 2 * token.length + 1 ≤ fuel → EndsNumber rest →
      readValue fuel (depth + 1) (token ++ rest) = .ok (v, rest)
  | .items vs => ∀ fuel done rest, 2 * token.length + 2 ≤ fuel →
      readItems fuel (depth + 1) true done (token ++ ']' :: rest) =
        .ok (.arr (done.reverse ++ vs), rest)
  | .fields es => ∀ fuel done rest, 2 * token.length + 2 ≤ fuel →
      readFields fuel (depth + 1) true done (token ++ '\x7d' :: rest) =
        .ok (.obj (Dict.insertAll done es), rest)

/-- An item is read where no end is, and then what comes after its blanks. -/
theorem readItems_value {fuel depth : Nat} {done : List Json} {c : Char} {s rest : List Char}
    {v : Json} (hc : c ≠ ']') (h : readValue fuel depth (c :: s) = .ok (v, rest)) :
    readItems (fuel + 1) depth true done (c :: s) =
      readItems fuel depth false (v :: done) (skipBlanks rest) := by
  rw [readItems, if_neg hc, if_pos rfl, h]

/-- After a comma items go on as they start. -/
theorem readItems_comma {fuel depth : Nat} {done : List Json} {c : Char} {blanks s : List Char}
    (hblanks : Blanks blanks) (hblank : isJsonBlank c = false) (hc : c ≠ ']') :
    readItems (fuel + 1) depth false done (',' :: (blanks ++ c :: s)) =
      readItems (fuel + 1) depth true done (c :: s) := by
  rw [readItems, if_neg (by decide), if_neg Bool.false_ne_true, if_pos rfl,
    skipBlanks_append hblanks hblank, readItems, if_neg hc, if_pos rfl]
  split
  · next heq => cases heq
  · next heq => exact absurd (List.cons.inj heq).1 hc
  · rfl

/-- After a comma fields go on as they start. -/
theorem readFields_comma {fuel depth : Nat} {done : Dict Json} {blanks s : List Char}
    (hblanks : Blanks blanks) :
    readFields (fuel + 1) depth false done (',' :: (blanks ++ '"' :: s)) =
      readFields (fuel + 1) depth true done ('"' :: s) := by
  rw [readFields, if_neg (by decide), if_neg Bool.false_ne_true, if_pos rfl,
    skipBlanks_append hblanks (by decide), readFields, if_neg (by decide), if_pos rfl, if_pos rfl]
  rfl

/-- An array is read by its items. -/
theorem readValue_array (fuel depth : Nat) (rest : List Char) :
    readValue (fuel + 1) (depth + 2) ('[' :: rest) =
      readItems fuel (depth + 1) true [] (skipBlanks rest) := by
  rw [readValue]
  rfl

/-- An object is read by its fields. -/
theorem readValue_object (fuel depth : Nat) (rest : List Char) :
    readValue (fuel + 1) (depth + 2) ('\x7b' :: rest) =
      readFields fuel (depth + 1) true [] (skipBlanks rest) := by
  rw [readValue]
  rfl

/-- A field is read up to the blanks behind its value. -/
theorem readFields_field {fuel depth : Nat} {done : Dict Json} {cs key s t rest : List Char}
    {beforeColon afterColon : List Char} {c : Char} {v : Json} (name : SpelledText cs key)
    (blankBefore : Blanks beforeColon) (blankAfter : Blanks afterColon)
    (hblank : isJsonBlank c = false) (hvalue : readValue fuel depth (c :: s) = .ok (v, rest))
    (ht : t = key ++ '"' :: (beforeColon ++ ':' :: (afterColon ++ c :: s)))
    (hfuel : key.length + 1 ≤ fuel) :
    readFields (fuel + 2) depth true done ('"' :: t) =
      readFields fuel depth false (Dict.insert done (String.ofList cs) v) (skipBlanks rest) := by
  rw [readFields, if_neg (by decide), if_pos rfl, if_pos rfl, readField, ht,
    name.readText hfuel [] _]
  simp only [List.reverse_nil, List.nil_append,
    skipBlanks_append blankBefore (c := ':') (by decide), skipBlanks_append blankAfter hblank,
    hvalue]

/-- What is spelled is read back. -/
theorem readsBack_of_spelled {depth : Nat} {part : Part} {token : List Char}
    (h : Spelled depth part token) : ReadsBack depth part token := by
  induction h with
  | null | yes | no =>
    intro fuel rest hfuel _
    obtain ⟨n, rfl⟩ : ∃ n, fuel = n + 1 := ⟨fuel - 1, by omega⟩
    rw [List.cons_append, readValue]
    rfl
  | whole low high =>
    intro fuel rest hfuel hrest
    obtain ⟨n, rfl⟩ : ∃ n, fuel = n + 1 := ⟨fuel - 1, by omega⟩
    exact readValue_ofInt low high hrest n _
  | float spelled =>
    intro fuel rest hfuel hrest
    obtain ⟨n, rfl⟩ : ∃ n, fuel = n + 1 := ⟨fuel - 1, by omega⟩
    exact spelled.reads n _ rest hrest
  | @text depth cs token spelled =>
    intro fuel rest hfuel _
    simp only [List.length_cons, List.length_append, List.length_nil] at hfuel
    obtain ⟨n, rfl⟩ : ∃ n, fuel = n + 1 := ⟨fuel - 1, by omega⟩
    have hread : readText n [] (token ++ '"' :: rest) = .ok (String.ofList cs, rest) :=
      spelled.readText (by omega) [] rest
    rw [List.cons_append, List.append_assoc, List.singleton_append, readValue]
    change (readText n [] (token ++ '"' :: rest)).map _ = _
    rw [hread]
    rfl
  | @noItems depth blanks blank =>
    intro fuel rest hfuel _
    simp only [List.length_cons, List.length_append, List.length_nil] at hfuel
    obtain ⟨n, rfl⟩ : ∃ n, fuel = n + 2 := ⟨fuel - 2, by omega⟩
    rw [List.cons_append, List.append_assoc, List.singleton_append, readValue_array,
      skipBlanks_append blank (by decide), readItems]
    rfl
  | @array depth blanks token vs blank items ih =>
    intro fuel rest hfuel _
    simp only [List.length_cons, List.length_append, List.length_nil] at hfuel
    obtain ⟨n, rfl⟩ : ∃ n, fuel = n + 1 := ⟨fuel - 1, by omega⟩
    obtain ⟨c, tail, htoken, hblank, -⟩ := items.exists_head
    have hread := ih n [] rest (by omega)
    rw [List.cons_append, List.append_assoc, List.append_assoc, List.singleton_append,
      readValue_array]
    rw [htoken, List.cons_append] at hread ⊢
    rw [skipBlanks_append blank hblank, hread]
    rfl
  | @noFields depth blanks blank =>
    intro fuel rest hfuel _
    simp only [List.length_cons, List.length_append, List.length_nil] at hfuel
    obtain ⟨n, rfl⟩ : ∃ n, fuel = n + 2 := ⟨fuel - 2, by omega⟩
    rw [List.cons_append, List.append_assoc, List.singleton_append, readValue_object,
      skipBlanks_append blank (by decide), readFields]
    rfl
  | @object depth blanks token es blank fields ih =>
    intro fuel rest hfuel _
    simp only [List.length_cons, List.length_append, List.length_nil] at hfuel
    obtain ⟨n, rfl⟩ : ∃ n, fuel = n + 1 := ⟨fuel - 1, by omega⟩
    obtain ⟨c, tail, htoken, hblank, -⟩ := fields.exists_head
    have hread := ih n [] rest (by omega)
    rw [List.cons_append, List.append_assoc, List.append_assoc, List.singleton_append,
      readValue_object]
    rw [htoken, List.cons_append] at hread ⊢
    rw [skipBlanks_append blank hblank, hread]
    rfl
  | @lastItem depth v token blanks value blank ih =>
    intro fuel done rest hfuel
    rw [List.length_append] at hfuel
    obtain ⟨n, rfl⟩ : ∃ n, fuel = n + 2 := ⟨fuel - 2, by omega⟩
    obtain ⟨c, tail, htoken, -, hc, -⟩ := value.exists_head
    have hread := ih (n + 1) (blanks ++ ']' :: rest) (by omega)
      (endsNumber_append blank (by intro d hd; obtain rfl := Option.some.inj hd; decide))
    rw [List.append_assoc]
    rw [htoken, List.cons_append] at hread ⊢
    rw [readItems_value hc hread, skipBlanks_append blank (by decide), readItems, if_pos rfl,
      List.reverse_cons]
  | @item depth v vs token before after more value blankBefore blankAfter items ihValue ihItems =>
    intro fuel done rest hfuel
    simp only [List.length_cons, List.length_append] at hfuel
    obtain ⟨n, rfl⟩ : ∃ n, fuel = n + 2 := ⟨fuel - 2, by omega⟩
    obtain ⟨c, tail, htoken, -, hc, -⟩ := value.exists_head
    obtain ⟨c', tail', hmore, hblank', hc', -⟩ := items.exists_head
    have hread := ihValue (n + 1) (before ++ ',' :: (after ++ (more ++ ']' :: rest))) (by omega)
      (endsNumber_append blankBefore (by intro d hd; obtain rfl := Option.some.inj hd; decide))
    have hitems := ihItems (n + 1) (v :: done) rest (by omega)
    simp only [List.append_assoc, List.cons_append]
    rw [htoken, List.cons_append] at hread ⊢
    rw [hmore, List.cons_append] at hread hitems ⊢
    rw [readItems_value hc hread, skipBlanks_append blankBefore (by decide),
      readItems_comma blankAfter hblank' hc', hitems, List.reverse_cons, List.append_assoc,
      List.singleton_append]
  | @lastField depth cs key v beforeColon afterColon token blanks name blankBefore blankAfter value
      blank ih =>
    intro fuel done rest hfuel
    simp only [List.length_cons, List.length_append] at hfuel
    obtain ⟨n, rfl⟩ : ∃ n, fuel = n + 3 := ⟨fuel - 3, by omega⟩
    obtain ⟨c, tail, htoken, hblank, -⟩ := value.exists_head
    have hread := ih (n + 1) (blanks ++ '\x7d' :: rest) (by omega)
      (endsNumber_append blank (by intro d hd; obtain rfl := Option.some.inj hd; decide))
    simp only [List.append_assoc, List.cons_append]
    rw [htoken, List.cons_append] at hread ⊢
    rw [readFields_field name blankBefore blankAfter hblank hread rfl (by omega),
      skipBlanks_append blank (by decide), readFields, if_pos rfl]
    rfl
  | @field depth cs key v es beforeColon afterColon token before after more name blankBefore
      blankAfter value blankEnd blankNext fields ihValue ihFields =>
    intro fuel done rest hfuel
    simp only [List.length_cons, List.length_append] at hfuel
    obtain ⟨n, rfl⟩ : ∃ n, fuel = n + 3 := ⟨fuel - 3, by omega⟩
    obtain ⟨c, tail, htoken, hblank, -⟩ := value.exists_head
    obtain ⟨c', tail', hmore, -, -, hquote⟩ := fields.exists_head
    obtain rfl := hquote ⟨es, rfl⟩
    have hread := ihValue (n + 1) (before ++ ',' :: (after ++ (more ++ '\x7d' :: rest))) (by omega)
      (endsNumber_append blankEnd (by intro d hd; obtain rfl := Option.some.inj hd; decide))
    have hfields := ihFields (n + 1) (Dict.insert done (String.ofList cs) v) rest (by omega)
    simp only [List.append_assoc, List.cons_append]
    rw [htoken, List.cons_append] at hread ⊢
    rw [hmore, List.cons_append] at hread hfields ⊢
    rw [readFields_field name blankBefore blankAfter hblank hread rfl (by omega),
      skipBlanks_append blankEnd (by decide), readFields_comma blankNext, hfields]
    rfl

/-- A document of at most 127 levels that spells a value, with blanks around it, is read as the
value. -/
theorem parse_of_spelled {v : Json} {before token after : List Char} {document : String}
    (hbefore : Blanks before) (h : Spelled 127 (.value v) token) (hafter : Blanks after)
    (hdocument : document.toList = before ++ (token ++ after)) : parse document = .ok v := by
  obtain ⟨c, tail, htoken, hblank, -⟩ := h.exists_head
  have hread := readsBack_of_spelled h (3 * document.toList.length + 3) after
    (by rw [hdocument, List.length_append, List.length_append]; omega)
    (by simpa using endsNumber_append hafter endsNumber_nil)
  have hstart : skipBlanks document.toList = token ++ after := by
    rw [hdocument, htoken, List.cons_append, skipBlanks_append hbefore hblank]
  rw [parse, readDocument, hstart, depthLimit, hread]
  simp only [skipBlanks_eq_nil hafter]
  rfl

end Mailroom.Json
