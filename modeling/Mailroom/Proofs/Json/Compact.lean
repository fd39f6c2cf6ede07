import Mailroom.Json.Printer
import Mailroom.Proofs.Dict.Order
import Mailroom.Proofs.Json.Spelled

/-!
# Documents that are written

A value without floating point numbers whose objects are in order is spelled by what is written for
it without blanks. So it is read back from there (`parse_compact`).
-/

namespace Mailroom.Json

/-- A value that a document holds in full: its numbers are whole and of 64 bits, its objects are in
order, and its arrays and objects nest only so deep. -/
inductive Exact : Nat → Json → Prop where
  | null {depth : Nat} : Exact depth .null
  | bool {depth : Nat} (b : Bool) : Exact depth (.bool b)
  | whole {depth : Nat} {n : Int} (low : -(bitBound 63 : Int) ≤ n) (high : n < bitBound 64) :
      Exact depth (.num (.int n))
  | str {depth : Nat} (text : String) : Exact depth (.str text)
  | arr {depth : Nat} {items : List Json} (each : ∀ v ∈ items, Exact depth v) :
      Exact (depth + 1) (.arr items)
  | obj {depth : Nat} {fields : Dict Json} (ascending : fields.Ascending)
      (each : ∀ e ∈ fields, Exact depth e.2) : Exact (depth + 1) (.obj fields)

theorem exact_ofWord (depth : Nat) (n : UInt64) : Exact depth (.ofWord n) := by
  have hlow : -(bitBound 63 : Int) ≤ (n.toNat : Int) :=
    Int.le_trans (by decide) (Int.natCast_nonneg _)
  exact .whole hlow (Int.ofNat_lt.mpr n.toNat_lt)

theorem exact_ofWords (depth : Nat) (ns : List UInt64) : Exact (depth + 1) (.ofWords ns) :=
  .arr (List.forall_mem_map.mpr fun n _ => exact_ofWord depth n)

theorem exact_object {depth : Nat} {entries : List (String × Json)}
    (h : ∀ e ∈ entries, Exact depth e.2) : Exact (depth + 1) (.object entries) := by
  refine .obj (Dict.ascending_ofList entries) fun e he => ?_
  rcases Dict.mem_of_mem_insertAll he with he | he
  · exact h e he
  · cases he

/-! ## Texts -/

theorem hexQuad?_control : ∀ n : Fin 32,
    hexQuad? '0' '0' (hexDigit (n.val / 16)) (hexDigit (n.val % 16)) = some n.val := by
  decide

/-- What is written for a character spells it. -/
theorem SpelledText.escapeChar (c : Char) {cs token : List Char} (h : SpelledText cs token) :
    SpelledText (c :: cs) (Json.escapeChar c ++ token) := by
  have hshort : ∀ {e : Char} {n : Nat}, c.toNat = n → shortEscape? e = some (Char.ofNat n) →
      SpelledText (c :: cs) ('\\' :: e :: token) := by
    intro e n hn hescape
    rw [← hn, Char.ofNat_toNat] at hescape
    exact .short hescape h
  unfold Json.escapeChar
  split
  · next hquote =>
    subst hquote
    exact .short rfl h
  split
  · next hbackslash =>
    subst hbackslash
    exact .short rfl h
  split
  · next hcontrol =>
    split
    · next hn => exact hshort hn rfl
    · next hn => exact hshort hn rfl
    · next hn => exact hshort hn rfl
    · next hn => exact hshort hn rfl
    · next hn => exact hshort hn rfl
    · have hunicode : SpelledText (Char.ofNat c.toNat :: cs) ('\\' :: 'u' :: '0' :: '0' ::
          hexDigit (c.toNat / 16) :: hexDigit (c.toNat % 16) :: token) := by
        refine .unicode (hexQuad?_control ⟨c.toNat, hcontrol⟩) ?_ ?_ h
        · simp only [isLowSurrogate, Bool.and_eq_false_iff, decide_eq_false_iff_not]
          omega
        · simp only [isHighSurrogate, Bool.and_eq_false_iff, decide_eq_false_iff_not]
          omega
      rwa [Char.ofNat_toNat] at hunicode
  · next hquote hbackslash hcontrol =>
    exact .plain hquote hbackslash (Nat.not_lt.mp hcontrol) h

theorem spelledText_flatMap (cs : List Char) : SpelledText cs (cs.flatMap escapeChar) := by
  induction cs with
  | nil => exact .nil
  | cons c cs ih => exact ih.escapeChar c

/-- A text in quotes spells itself. -/
theorem spelled_quote (depth : Nat) (s : String) :
    Spelled depth (.value (.str s)) (quote s).toList := by
  have htext : Spelled depth (.value (.str (String.ofList s.toList))) (quote s).toList := by
    rw [quote, String.toList_ofList]
    exact .text (spelledText_flatMap s.toList)
  rwa [String.ofList_toList] at htext

/-! ## Values -/

theorem blanks_nil : Blanks [] :=
  List.forall_mem_nil _

/-- Items one after the other spell them. -/
theorem spelled_compactItems {depth : Nat} {v : Json} {vs : List Json}
    (h : ∀ w ∈ v :: vs, Spelled depth (.value w) w.compact.toList) :
    Spelled depth (.items (v :: vs)) (v.compact ++ compactItems vs).toList := by
  induction vs generalizing v with
  | nil =>
    rw [compactItems, String.append_empty]
    simpa using Spelled.lastItem (h v List.mem_cons_self) blanks_nil
  | cons w vs ih =>
    have hrest := ih fun u hu => h u (List.mem_cons_of_mem _ hu)
    have hitem := Spelled.item (h v List.mem_cons_self) blanks_nil blanks_nil hrest
    rw [compactItems]
    simpa [String.toList_append] using hitem

/-- Fields one after the other spell them. -/
theorem spelled_compactFields {depth : Nat} {e : String × Json} {es : List (String × Json)}
    (h : ∀ f ∈ e :: es, Spelled depth (.value f.2) f.2.compact.toList) :
    Spelled depth (.fields (e :: es))
      (quote e.1 ++ ":" ++ e.2.compact ++ compactFields es).toList := by
  induction es generalizing e with
  | nil =>
    have hfield := Spelled.lastField (spelledText_flatMap e.1.toList) blanks_nil blanks_nil
      (h e List.mem_cons_self) blanks_nil
    rw [compactFields, String.append_empty]
    simpa [quote, String.toList_append] using hfield
  | cons f es ih =>
    have hrest := ih fun u hu => h u (List.mem_cons_of_mem _ hu)
    have hfield := Spelled.field (spelledText_flatMap e.1.toList) blanks_nil blanks_nil
      (h e List.mem_cons_self) blanks_nil blanks_nil hrest
    rw [compactFields]
    simpa [quote, String.toList_append] using hfield

/-- What is written for a value that a document holds in full spells it. -/
theorem Exact.spelled {depth : Nat} {v : Json} (h : Exact depth v) :
    Spelled depth (.value v) v.compact.toList := by
  induction h with
  | null => exact .null
  | bool b =>
    cases b with
    | true => exact .yes
    | false => exact .no
  | whole low high => exact .whole low high
  | str text =>
    rw [compact]
    exact spelled_quote _ text
  | @arr depth items _ ih =>
    cases items with
    | nil => exact .noItems blanks_nil
    | cons v vs =>
      have harray := Spelled.array blanks_nil (spelled_compactItems ih)
      rw [compact]
      simpa [String.toList_append] using harray
  | @obj depth fields ascending _ ih =>
    cases fields with
    | nil => exact .noFields blanks_nil
    | cons e es =>
      have hobject := Spelled.object blanks_nil (spelled_compactFields ih)
      rw [ascending.ofList_eq] at hobject
      rw [compact]
      simpa [String.toList_append] using hobject

/-- A value that a document holds in full is read from what is written for it. -/
theorem parse_compact {v : Json} (h : Exact 127 v) : parse v.compact = .ok v :=
  parse_of_spelled blanks_nil h.spelled blanks_nil (by simp)

end Mailroom.Json
