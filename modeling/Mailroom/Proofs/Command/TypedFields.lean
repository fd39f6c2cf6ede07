import Mailroom.Proofs.Command.Accepted
import Mailroom.Proofs.Command.Bodies
import Mailroom.Proofs.Json.Compact

/-!
# Whole numbers in fields

The text of a typed field is read as a number first, and only then as an array or an object. As a
number it is whole where it fits 64 bits with a sign, and a floating point number from there on. In
an array, in an object and in a document a whole number may use the sign bit as well, so that those
from `2 ^ 63` on come out as they are there and nowhere else.
-/

namespace Mailroom

/-! ## Floating point numbers -/

namespace Binary64

theorem takeSign_natDigits (n : Nat) :
    takeSign (Text.natDigits n) = (false, Text.natDigits n) := by
  obtain ⟨d, rest, hdigits⟩ := Text.exists_digit_of_natDigits n
  rw [hdigits]
  unfold takeSign
  split
  · next heq => exact absurd (List.cons.inj heq).1 (Text.digitChar_ne_minus d)
  · next heq => exact absurd (List.cons.inj heq).1 (Text.digitChar_ne_plus d)
  · rfl

/-- A number of 64 bits in decimal is read as the nearest one of the format. -/
theorem ofSpelled?_ofNat {n : Nat} (h : n < bitBound 64) (hn : n ≠ 0) :
    ofSpelled? (Text.ofNat n) = ofRatio? false n 1 := by
  obtain ⟨digits, -, hwritten⟩ := Text.exists_writes n
  have hdigits : ∀ c ∈ Text.natDigits n, Text.isDigit c = true := by
    rw [hwritten]
    exact List.forall_mem_map.mpr fun d _ => Json.isDigit_digitChar d
  have htake : (Text.natDigits n).takeWhile Text.isDigit = Text.natDigits n :=
    List.takeWhile_eq_self_iff.mpr hdigits
  have hdrop : (Text.natDigits n).dropWhile Text.isDigit = [] :=
    List.dropWhile_eq_nil_iff.mpr hdigits
  have hsize : Nat.log2 n < 64 := (Nat.log2_lt hn).mpr h
  have hdecimal : ofDecimal? false n 0 = ofRatio? false n 1 := by
    have hmagnitude : ¬(Nat.log2 n : Int) * 30103 / 100000 + 0 > 310 ∧
        ¬(Nat.log2 n : Int) * 30103 / 100000 + 0 < -330 := by
      omega
    simp only [ofDecimal?, if_neg hn, if_neg hmagnitude.1, if_neg hmagnitude.2]
    rw [show powerRatio 10 0 = (1, 1) from rfl, Nat.mul_one]
  simp only [ofSpelled?, Text.toList_ofNat, takeSign_natDigits, htake, hdrop, takeFraction,
    List.append_nil, Text.readDigits?_natDigits, spelledExponent?, Option.bind_some,
    List.length_nil]
  exact hdecimal

/-- A number that needs all of 64 bits has a nearest one. -/
theorem exists_ofRatio?_of_long {n : Nat} (hlow : bitBound 63 ≤ n) (hhigh : n < bitBound 64) :
    ∃ x, ofRatio? false n 1 = some x := by
  have hn : n ≠ 0 := by
    rintro rfl
    exact absurd hlow (by decide)
  have hsize : Nat.log2 n = 63 := (Nat.log2_eq_iff hn).mpr ⟨hlow, hhigh⟩
  have hexponent : exponentFor n 1 = 11 := by
    have hfits : ¬n * 1 < bitBound 52 * (1 * 2048) := by
      have hbound : bitBound 52 * (1 * 2048) = bitBound 63 := by decide
      omega
    simp only [exponentFor, hsize]
    rw [show (Nat.log2 1 : Int) = 0 from rfl]
    change max (if n * 1 < bitBound 52 * (1 * 2048) then (11 : Int) - 1 else 11) leastExponent = 11
    rw [if_neg hfits]
    rfl
  simp only [ofRatio?, if_neg hn, hexponent]
  rw [if_neg (by split <;> exact of_decide_eq_false rfl)]
  exact ⟨_, rfl⟩

end Binary64

/-! ## Values of fields -/

namespace Field

/-- What starts with a bracket or a brace is read as a document. -/
theorem typedValue_of_head {text : String}
    (h : text.toList.head? = some '[' ∨ text.toList.head? = some '\x7b') :
    typedValue text = documentValue text := by
  obtain ⟨hwhole, hfloat⟩ := not_number_of_head h
  have hword : text ≠ "true" ∧ text ≠ "false" ∧ text ≠ "null" := by
    refine ⟨?_, ?_, ?_⟩ <;> rintro rfl <;> revert h <;> decide
  rw [typedValue, if_neg hword.1, if_neg hword.2.1, if_neg hword.2.2, hwhole, hfloat]

/-- An array or an object that a text spells is its value. -/
theorem typedValue_of_spelled {v : Json} {token after : List Char} {text : String}
    (h : Json.Spelled 127 (.value v) token) (hafter : Json.Blanks after)
    (htext : text.toList = token ++ after)
    (hhead : text.toList.head? = some '[' ∨ text.toList.head? = some '\x7b') :
    typedValue text = v := by
  have hparse := Json.parse_of_spelled Json.blanks_nil h hafter htext
  rw [typedValue_of_head hhead, documentValue]
  cases hcs : text.toList with
  | nil => simp [hcs] at hhead
  | cons c rest =>
    have hc : c = '[' ∨ c = '\x7b' := by simpa [hcs] using hhead
    simp only [hc, Bool.or_eq_true, decide_eq_true_eq, if_true, hparse]

/-- A number is none of the words that a field may hold. -/
theorem ofInt_ne_word (n : Int) :
    Text.ofInt n ≠ "true" ∧ Text.ofInt n ≠ "false" ∧ Text.ofInt n ≠ "null" := by
  obtain ⟨c, rest, hn, hc⟩ := Json.exists_head_ofInt n
  have hletters : ∀ d : Fin 10, Text.digitChar d ≠ 't' ∧ Text.digitChar d ≠ 'f' ∧
      Text.digitChar d ≠ 'n' := by
    decide
  have hne : c ≠ 't' ∧ c ≠ 'f' ∧ c ≠ 'n' := by
    rcases hc with rfl | ⟨d, rfl⟩
    · decide
    · exact hletters d
  refine ⟨?_, ?_, ?_⟩ <;> intro hword <;> rw [hword] at hn
  · exact hne.1 (List.cons.inj hn).1.symm
  · exact hne.2.1 (List.cons.inj hn).1.symm
  · exact hne.2.2 (List.cons.inj hn).1.symm

/-- A number that fits 64 bits with its sign is read as itself. -/
theorem typedValue_ofInt {n : Int} (hlow : -(bitBound 63 : Int) ≤ n) (hhigh : n < bitBound 63) :
    typedValue (Text.ofInt n) = .num (.int n) := by
  obtain ⟨htrue, hfalse, hnull⟩ := ofInt_ne_word n
  rw [typedValue, if_neg htrue, if_neg hfalse, if_neg hnull, Text.readSigned?_ofInt,
    if_pos ⟨hlow, hhigh⟩]

/-- A number that needs the sign bit is read as the nearest one of the format. -/
theorem exists_typedValue_of_long {n : Int} (hlow : bitBound 63 ≤ n) (hhigh : n < bitBound 64) :
    ∃ x, Binary64.ofRatio? false n.toNat 1 = some x ∧
      typedValue (Text.ofInt n) = .num (.float x) := by
  obtain ⟨m, rfl⟩ : ∃ m : Nat, n = m := ⟨n.toNat, by omega⟩
  obtain ⟨htrue, hfalse, hnull⟩ := ofInt_ne_word m
  obtain ⟨x, hx⟩ := Binary64.exists_ofRatio?_of_long (n := m) (by omega) (by omega)
  have hpositive : m ≠ 0 := by
    rintro rfl
    exact absurd hlow (by decide)
  refine ⟨x, hx, ?_⟩
  have hspelled : Binary64.ofSpelled? (Text.ofInt m) = some x :=
    (Binary64.ofSpelled?_ofNat (by omega) hpositive).trans hx
  rw [typedValue, if_neg htrue, if_neg hfalse, if_neg hnull, Text.readSigned?_ofInt,
    if_neg (by omega)]
  simp only [hspelled]

/-- A typed field has the value of its text under its name. -/
theorem typed_of_names {field name text : String} (h : Names field name text) :
    typed field = .ok (name, typedValue text) := by
  rw [typed, split_eq_ok_iff.mpr h]
  rfl

/-- The array of a number is spelled by the number between brackets. -/
theorem typedValue_of_single {n : Int} (hlow : -(bitBound 63 : Int) ≤ n) (hhigh : n < bitBound 64)
    {text : String} (htext : text.toList = '[' :: ((Text.ofInt n).toList ++ [']'])) :
    typedValue text = .arr [.num (.int n)] := by
  have hspelled : Json.Spelled 127 (.value (.arr [.num (.int n)]))
      ('[' :: ([] ++ (((Text.ofInt n).toList ++ []) ++ [']']))) :=
    .array Json.blanks_nil (.lastItem (.whole hlow hhigh) Json.blanks_nil)
  refine typedValue_of_spelled hspelled Json.blanks_nil ?_ (Or.inl ?_)
  · rw [htext]
    simp
  · rw [htext]
    rfl

end Field

/-! ## Bodies -/

namespace BodySource

/-- A body of a document alone is the document. -/
theorem body_of_input {inputs : Inputs} {name content : String} {v : Json}
    (htext : inputs.text name = .ok content) (hparse : Json.parse content = .ok v) :
    (BodySource.mk [] [] (some name)).body inputs = .ok (some v) := by
  have hdocument : inputs.document name = .ok v := by
    rw [Inputs.document, htext]
    exact Outcome.mapError_eq_ok_iff.mpr hparse
  have hread : (BodySource.mk [] [] (some name)).document inputs = .ok (some v) := by
    change (inputs.document name).map some = _
    rw [hdocument]
    rfl
  rw [body, hread]
  rfl

/-- Well-formed fields over an object, or over nothing, make a body. -/
theorem exists_body {b : BodySource} {inputs : Inputs} {document : Option Json}
    (hdocument : b.document inputs = .ok document)
    (hobject : ∀ v, document = some v → ∃ fields, v = .obj fields)
    (hwell : ∀ field ∈ b.typedFields ++ b.plainFields, Field.WellFormed field)
    (hsome : b.typedFields ≠ []) :
    ∃ fields entries, b.body inputs = .ok (some (.obj (Field.putAll fields entries))) ∧
      Field.entries b.typedFields b.plainFields = .ok entries := by
  obtain ⟨entries, hentries⟩ := Field.exists_entries_eq_ok_iff.mpr hwell
  have hfields : b.hasNoFields = false :=
    hasNoFields_eq_false_iff.mpr (by simp [hsome])
  obtain ⟨fields, hground⟩ : ∃ fields, ground document = .ok fields := by
    cases document with
    | none => exact ⟨[], rfl⟩
    | some v =>
      obtain ⟨fields, rfl⟩ := hobject v rfl
      exact ⟨fields, rfl⟩
  exact ⟨fields, entries, body_of_entries hdocument hfields hground hentries, hentries⟩

/-- In the body that fields make, the value of a typed field stands at its path where no later field
has a path that leads on from it or to it. -/
theorem at?_of_entries {typedBefore typedAfter plainFields : List String} {field name text : String}
    {entries : List (String × Json)}
    (hentries : Field.entries (typedBefore ++ field :: typedAfter) plainFields = .ok entries)
    (hnames : Field.Names field name text)
    (hapart : ∀ other ∈ typedAfter ++ plainFields, ∀ key value, Field.Names other key value →
      Field.Apart (Field.path key) (Field.path name)) (fields : Dict Json) :
    (Json.obj (Field.putAll fields entries)).at? (Field.path name) =
      some (Field.typedValue text) := by
  have hgive := Field.give_of_entries
    (b := .mk (typedBefore ++ field :: typedAfter) plainFields none) hentries
  rw [given, List.map_append, List.map_cons, List.append_assoc, List.cons_append] at hgive
  refine hgive.at?_putAll hnames (fun g hg => hapart g.1 ?_) fields
  exact fst_mem_of_mem_given (b := .mk typedAfter plainFields none) hg

end BodySource

namespace Field

/--
A whole number of 64 bits, with a sign or without one, is read as itself from a field that holds it
in an array, and from every document that holds it, whether this is a field that starts with a
bracket or a brace or an input. From a field that holds nothing else it is read as itself exactly if
it is below `2 ^ 63`; from there on it is the nearest floating point number. What a field is read as
stands in the body at the path of its key where no later field has a path that leads on from it or
to it.
-/
theorem integers_of_fields {n : Int} (hlow : -(bitBound 63 : Int) ≤ n) (hhigh : n < bitBound 64) :
    (∀ field name, Field.Names field name (Text.ofInt n) →
      (Field.typed field = .ok (name, .num (.int n)) ↔ n < bitBound 63) ∧
      (bitBound 63 ≤ n → ∃ x, Binary64.ofRatio? false n.toNat 1 = some x ∧
        Field.typed field = .ok (name, .num (.float x)))) ∧
    (∀ field name text, text.toList = '[' :: ((Text.ofInt n).toList ++ [']']) →
      Field.Names field name text → Field.typed field = .ok (name, .arr [.num (.int n)])) ∧
    ((∀ depth, Json.Spelled depth (.value (.num (.int n))) (Text.ofInt n).toList) ∧
      ∀ v before token after content, Json.Blanks before → Json.Spelled 127 (.value v) token →
        Json.Blanks after → content.toList = before ++ (token ++ after) →
        (∀ inputs name, inputs.text name = .ok content →
          (BodySource.mk [] [] (some name)).body inputs = .ok (some v)) ∧
        ∀ field name, content.toList.head? = some '[' ∨ content.toList.head? = some '\x7b' →
          Field.Names field name content → Field.typed field = .ok (name, v)) ∧
    ∀ (b : BodySource) inputs document, b.document inputs = .ok document →
      (∀ v, document = some v → ∃ fields, v = .obj fields) →
      (∀ field ∈ b.typedFields ++ b.plainFields, Field.WellFormed field) → b.typedFields ≠ [] →
      ∃ body, b.body inputs = .ok (some body) ∧
        ∀ before field after name v, b.typedFields = before ++ field :: after →
          Field.typed field = .ok (name, v) →
          (∀ other ∈ after ++ b.plainFields, ∀ key text, Field.Names other key text →
            Field.Apart (Field.path key) (Field.path name)) →
          body.at? (Field.path name) = some v := by
  refine ⟨fun field name hnames => ⟨⟨fun hread => ?_, fun hsmall => ?_⟩, fun hlong => ?_⟩,
    fun field name text htext hnames => ?_, ⟨fun depth => .whole hlow hhigh, ?_⟩, ?_⟩
  · refine Classical.byContradiction fun hlong => ?_
    obtain ⟨x, -, hx⟩ := Field.exists_typedValue_of_long (Int.not_lt.mp hlong) hhigh
    rw [Field.typed_of_names hnames, hx] at hread
    cases hread
  · rw [Field.typed_of_names hnames, Field.typedValue_ofInt hlow hsmall]
  · obtain ⟨x, hnearest, hx⟩ := Field.exists_typedValue_of_long hlong hhigh
    exact ⟨x, hnearest, by rw [Field.typed_of_names hnames, hx]⟩
  · rw [Field.typed_of_names hnames, Field.typedValue_of_single hlow hhigh htext]
  · intro v before token after content hbefore hspelled hafter hcontent
    refine ⟨fun inputs name htext => ?_, fun field name hhead hnames => ?_⟩
    · exact BodySource.body_of_input htext
        (Json.parse_of_spelled hbefore hspelled hafter hcontent)
    · -- A field that starts with a bracket has no blanks in front of it.
      obtain rfl : before = [] := by
        cases before with
        | nil => rfl
        | cons c rest =>
          have hblank := hbefore c List.mem_cons_self
          rw [hcontent, List.cons_append, List.head?_cons, Option.some.injEq,
            Option.some.injEq] at hhead
          rcases hhead with rfl | rfl <;> exact absurd hblank (by decide)
      rw [Field.typed_of_names hnames,
        Field.typedValue_of_spelled hspelled hafter hcontent hhead]
  · intro b inputs document hdocument hobject hwell hsome
    obtain ⟨fields, entries, hbody, hentries⟩ :=
      BodySource.exists_body hdocument hobject hwell hsome
    refine ⟨_, hbody, fun before field after name v htyped hread hapart => ?_⟩
    obtain ⟨⟨key, text⟩, hsplit, hvalue⟩ := Outcome.map_eq_ok_iff.mp hread
    obtain ⟨rfl, rfl⟩ := Prod.mk.inj hvalue
    rw [htyped] at hentries
    exact BodySource.at?_of_entries hentries (Field.split_eq_ok_iff.mp hsplit) hapart fields

/-- The greatest number of 64 bits in decimal. -/
theorem ofInt_greatest : Text.ofInt 18446744073709551615 = "18446744073709551615" :=
  Text.ofNat_eq_toString 18446744073709551615

theorem names_greatest :
    Names "id=18446744073709551615" "id" (Text.ofInt 18446744073709551615) := by
  rw [ofInt_greatest]
  exact split_eq_ok_iff.mp (by rfl)

/-- The greatest number of 64 bits is exact in an array and rounded without one. -/
theorem integers_of_fields_greatest :
    typed "id=[18446744073709551615]" = .ok ("id", .arr [.num (.int 18446744073709551615)]) ∧
    typed "id=18446744073709551615" ≠ .ok ("id", .num (.int 18446744073709551615)) ∧
    ∃ x, typed "id=18446744073709551615" = .ok ("id", .num (.float x)) := by
  obtain ⟨hscalar, harray, -, -⟩ :=
    integers_of_fields (n := 18446744073709551615) (by decide) (by decide)
  obtain ⟨hexact, hrounded⟩ := hscalar _ _ names_greatest
  obtain ⟨x, -, hx⟩ := hrounded (by decide)
  refine ⟨harray _ _ "[18446744073709551615]" ?_ (split_eq_ok_iff.mp (by rfl)), ?_, x, hx⟩
  · rw [ofInt_greatest]
    decide
  · exact fun hread => absurd (hexact.mp hread) (by decide)

/-- A whole number of 64 bits is not always exact in a field of its own. -/
theorem not_exact_of_greatest : ¬∀ n : Int, -(bitBound 63 : Int) ≤ n → n < bitBound 64 →
    ∀ field name, Names field name (Text.ofInt n) → typed field = .ok (name, .num (.int n)) := by
  intro hexact
  have hread := hexact 18446744073709551615 (by decide) (by decide) _ _ names_greatest
  obtain ⟨x, -, hx⟩ := exists_typedValue_of_long (n := 18446744073709551615) (by decide) (by decide)
  rw [typed_of_names names_greatest, hx] at hread
  cases hread

end Field

end Mailroom
