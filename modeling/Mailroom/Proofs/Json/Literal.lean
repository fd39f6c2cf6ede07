import Mailroom.Json.Parser
import Mailroom.Proofs.Outcome

/-!
# Documents that are a string

A document is read as a string only if it starts with a quote, and the text between the quotes is
shorter than the document: each of its characters was read from at least one, and the quotes are
left over. So no document is read as a string that is the document itself.
-/

namespace Mailroom.Json

/-! ## Escapes -/

theorem length_of_readHexQuad {s rest : List Char} {n : Nat}
    (h : readHexQuad s = .ok (n, rest)) : rest.length < s.length := by
  unfold readHexQuad at h
  extract_lets broken at h
  split at h
  · split at h
    · cases h
      simp only [List.length_cons]
      omega
    · cases h
  · cases h

theorem length_of_readLowSurrogate {high : Nat} {s rest : List Char} {c : Char}
    (h : readLowSurrogate high s = .ok (c, rest)) : rest.length < s.length := by
  unfold readLowSurrogate at h
  split at h
  · cases h
  · cases h
  · next after =>
    split at h
    · cases h
    · next low rest' hquad =>
      have hlength := length_of_readHexQuad hquad
      split at h
      · obtain ⟨-, rfl⟩ := Prod.mk.inj (Except.ok.inj h)
        simp only [List.length_cons]
        omega
      · cases h
  · cases h
  · cases h

theorem length_of_readUnicodeEscape {s rest : List Char} {c : Char}
    (h : readUnicodeEscape s = .ok (c, rest)) : rest.length < s.length := by
  unfold readUnicodeEscape at h
  split at h
  · cases h
  · next n rest' hquad =>
    have hlength := length_of_readHexQuad hquad
    split at h
    · cases h
    · split at h
      · have hlow := length_of_readLowSurrogate h
        omega
      · cases h
        exact hlength

/-- An escape takes at least one character after its backslash. -/
theorem length_of_readEscape {s rest : List Char} {c : Char}
    (h : readEscape s = .ok (c, rest)) : rest.length < s.length := by
  unfold readEscape at h
  split at h
  · cases h
  · next first after =>
    rw [List.length_cons]
    split at h
    · have hlength := length_of_readUnicodeEscape h
      omega
    · split at h
      · cases h
        omega
      · cases h

/-! ## Strings -/

/-- The characters of a text and those after it are fewer than those that were read, because of the
closing quote. -/
theorem length_of_readText {fuel : Nat} {done s rest : List Char} {text : String}
    (h : readText fuel done s = .ok (text, rest)) :
    text.length + rest.length < done.length + s.length := by
  induction fuel generalizing done s with
  | zero => cases h
  | succ n ih =>
    unfold readText at h
    split at h
    · cases h
    · next c after =>
      rw [List.length_cons]
      split at h
      · cases h
        rw [String.length_ofList, List.length_reverse]
        omega
      split at h
      · split at h
        · cases h
        · next d rest' hescape =>
          have hlength := length_of_readEscape hescape
          have htext := ih h
          rw [List.length_cons] at htext
          omega
      split at h
      · cases h
      · have htext := ih h
        rw [List.length_cons] at htext
        omega

/-! ## Values that are no strings -/

/-- What is read as items is an array. -/
theorem readItems_eq_ok {fuel depth : Nat} {first : Bool} {done : List Json} {s rest : List Char}
    {v : Json} (h : readItems fuel depth first done s = .ok (v, rest)) :
    ∃ items, v = .arr items := by
  induction fuel generalizing depth first done s with
  | zero =>
    unfold readItems at h
    cases h
  | succ n ih =>
    unfold readItems at h
    split at h
    · cases h
    split at h
    · cases h
      exact ⟨_, rfl⟩
    split at h
    · split at h
      · cases h
      · exact ih h
    split at h
    · split at h
      · cases h
      · cases h
      · split at h
        · cases h
        · exact ih h
    · cases h

/-- What is read as fields, or as one field and more, is an object. -/
theorem readFields_eq_ok {fuel : Nat} :
    (∀ {depth : Nat} {first : Bool} {done : Dict Json} {s rest : List Char} {v : Json},
      readFields fuel depth first done s = .ok (v, rest) → ∃ fields, v = .obj fields) ∧
    ∀ {depth : Nat} {done : Dict Json} {s rest : List Char} {v : Json},
      readField fuel depth done s = .ok (v, rest) → ∃ fields, v = .obj fields := by
  induction fuel with
  | zero =>
    constructor
    · intro depth first done s rest v h
      unfold readFields at h
      cases h
    · intro depth done s rest v h
      unfold readField at h
      cases h
  | succ n ih =>
    constructor
    · intro depth first done s rest v h
      unfold readFields at h
      split at h
      · cases h
      split at h
      · cases h
        exact ⟨_, rfl⟩
      split at h
      · split at h
        · exact ih.2 h
        · cases h
      split at h
      · split at h
        · cases h
        · exact ih.2 h
        · cases h
        · cases h
      · cases h
    · intro depth done s rest v h
      unfold readField at h
      split at h
      · cases h
      split at h
      · cases h
      · split at h
        · cases h
        · exact ih.1 h
      · cases h

/-- A string is read after a quote. -/
theorem readValue_eq_ok_str {fuel depth : Nat} {s rest : List Char} {text : String}
    (h : readValue fuel depth s = .ok (.str text, rest)) :
    ∃ n after, s = '"' :: after ∧ readText n [] after = .ok (text, rest) := by
  have hmap : ∀ {α : Type} {x : Except Fault α} {f : α → Json × List Char},
      (∀ a, (f a).1 ≠ .str text) → x.map f ≠ .ok (.str text, rest) := by
    intro α x f hf hx
    obtain ⟨a, -, ha⟩ := Outcome.map_eq_ok_iff.mp hx
    exact hf a (congrArg Prod.fst ha)
  cases fuel with
  | zero =>
    unfold readValue at h
    cases h
  | succ n =>
    unfold readValue at h
    split at h
    · cases h
    next c after =>
    split at h
    · exact absurd h (hmap fun _ ha => by cases ha)
    split at h
    · exact absurd h (hmap fun _ ha => by cases ha)
    split at h
    · exact absurd h (hmap fun _ ha => by cases ha)
    split at h
    · exact absurd h (hmap fun _ ha => by cases ha)
    split at h
    · exact absurd h (hmap fun _ ha => by cases ha)
    split at h
    · next hquote =>
      obtain ⟨⟨text', rest'⟩, htext, heq⟩ := Outcome.map_eq_ok_iff.mp h
      cases heq
      exact ⟨n, after, by rw [hquote], htext⟩
    split at h
    · split at h
      · cases h
      · obtain ⟨items, hitems⟩ := readItems_eq_ok h
        cases hitems
    split at h
    · split at h
      · cases h
      · obtain ⟨fields, hfields⟩ := readFields_eq_ok.1 h
        cases hfields
    · cases h

/-- A document that is read as a string is longer than the string. -/
theorem length_lt_of_parse_eq_str {document text : String} (h : parse document = .ok (.str text)) :
    text.length < document.length := by
  have hdocument := Outcome.mapError_eq_ok_iff.mp h
  unfold readDocument at hdocument
  split at hdocument
  · cases hdocument
  · next v rest hvalue =>
    split at hdocument
    · obtain rfl := Except.ok.inj hdocument
      obtain ⟨n, after, hstart, htext⟩ := readValue_eq_ok_str hvalue
      have hlength := length_of_readText htext
      have hblanks : (skipBlanks document.toList).length ≤ document.toList.length :=
        (List.dropWhile_sublist _).length_le
      rw [hstart, String.length_toList, List.length_cons] at hblanks
      rw [List.length_nil] at hlength
      omega
    · cases hdocument

end Mailroom.Json
