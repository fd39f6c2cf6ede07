import Mailroom.Proofs.Url.Push

/-!
# Segments that give their texts back

A text that is neither empty nor a name of dots, and of which no character is dropped, is written as
one segment, and decoding the segment gives its bytes. Such segments hold no sign that ends a path,
so the path can be told from the text of the whole URL.
-/

namespace Mailroom.Url

/-! ## Texts and their segments -/

/-- A text that the segment it is written as gives back. -/
structure Survives (text : List Char) : Prop where
  ne_nil : text ≠ []
  ne_dot : text ≠ ['.']
  ne_dots : text ≠ ['.', '.']
  free : ∀ c ∈ text, c ≠ '\t' ∧ c ≠ '\n' ∧ c ≠ '\r'

theorem significant_eq_self_iff {text : List Char} :
    significant text = text ↔ ∀ c ∈ text, c ≠ '\t' ∧ c ≠ '\n' ∧ c ≠ '\r' := by
  simp [significant, isDropped, and_assoc]

theorem survives_iff {text : List Char} :
    Survives text ↔ text ≠ [] ∧ text ≠ ['.'] ∧ text ≠ ['.', '.'] ∧ significant text = text := by
  rw [significant_eq_self_iff]
  exact ⟨fun ⟨hnil, hdot, hdots, hfree⟩ => ⟨hnil, hdot, hdots, hfree⟩,
    fun ⟨hnil, hdot, hdots, hfree⟩ => ⟨hnil, hdot, hdots, hfree⟩⟩

instance (text : List Char) : Decidable (Survives text) :=
  decidable_of_iff _ survives_iff.symm

theorem survives_word {word : List Char} (h : isWord word = true) : Survives word := by
  have hletter : ∀ {c}, c ∈ word → isLetter c = true := isLetter_of_mem_word h
  refine ⟨isWord_ne_nil h, ?_, ?_, fun c hc => ⟨?_, ?_, ?_⟩⟩ <;> rintro rfl
  · cases h
  · cases h
  all_goals exact absurd (hletter hc) (by decide)

namespace Survives

variable {rules : PathRules} {text : List Char}

theorem significant_eq (h : Survives text) : significant text = text :=
  significant_eq_self_iff.mpr h.free

theorem not_escapes (h : Survives text) : ¬Escapes text := by
  rintro (hdot | hdots)
  · exact h.ne_dot hdot
  · exact h.ne_dots (h.significant_eq ▸ hdots)

theorem written_eq (h : Survives text) :
    written rules text = encode (keepsInSegment rules.special) text := by
  rw [written, h.significant_eq, if_neg h.ne_dot]

/-- A text reads back from the segment that it is written as. -/
theorem decode_written (h : Survives text) : decode (written rules text) = Text.utf8 text := by
  rw [h.written_eq, decode_encode (keepsInSegment_percent _)]

theorem written_ne_nil (h : Survives text) : written rules text ≠ [] := by
  intro hnil
  have hdecode : decode (written rules text) = Text.utf8 text := h.decode_written
  rw [hnil] at hdecode
  exact h.ne_nil (utf8_injective hdecode.symm)

/-- No sign that ends a path occurs in the segment of a text. -/
theorem mark_not_mem_written (h : Survives text) {c : Char} (hc : c ∈ written rules text) :
    c ≠ '?' ∧ c ≠ '#' := by
  rw [h.written_eq] at hc
  have hquestion : keepsInSegment rules.special '?' = false := by
    cases rules.special <;> decide
  have hnumber : keepsInSegment rules.special '#' = false := by
    cases rules.special <;> decide
  constructor <;> rintro rfl
  · exact not_mem_encode hquestion (by decide) (by decide) text hc
  · exact not_mem_encode hnumber (by decide) (by decide) text hc

end Survives

/-! ## The path in the text of a URL -/

/-- A path of segments that are not empty has one slash at its start. -/
theorem not_two_slashes_of_joined {segs : List (List Char)} (hproper : Proper segs)
    (hfilled : ∀ seg ∈ segs, seg ≠ []) (rest : List Char) : joined segs ≠ '/' :: '/' :: rest := by
  match segs, hproper, hfilled with
  | [] :: segs, _, hfilled => exact absurd rfl (hfilled [] List.mem_cons_self)
  | (c :: seg) :: segs, hproper, _ =>
    intro h
    have hslash : c = '/' := (List.cons.inj (List.cons.inj h).2).1
    exact hproper.free _ List.mem_cons_self (hslash ▸ List.mem_cons_self)

/-- A path that does not start with two slashes has no part in what stands in front of it. -/
theorem leadText_eq {u : Url} (h : ∀ rest, u.path.toList ≠ '/' :: '/' :: rest) :
    u.leadText = (u.authority.map fun a => "//" ++ authorityText a).getD "" := by
  unfold leadText
  split
  · next hauthority => rw [hauthority]; rfl
  · next hauthority =>
    rw [hauthority]
    split
    · next hpath => exact absurd hpath (h _)
    · rfl

theorem originText_congr {u u' : Url} (hscheme : u.scheme = u'.scheme)
    (hauthority : u.authority = u'.authority)
    (hpath : ∀ rest, u.path.toList ≠ '/' :: '/' :: rest)
    (hpath' : ∀ rest, u'.path.toList ≠ '/' :: '/' :: rest) : u.originText = u'.originText := by
  rw [originText, originText, leadText_eq hpath, leadText_eq hpath', hscheme, hauthority]

/-- The signs that end a path start what follows it. -/
theorem takeWhile_ending (query fragment : Option String) :
    (marked "?" query ++ marked "#" fragment).toList.takeWhile (fun c => c ≠ '?' ∧ c ≠ '#') =
      [] := by
  cases query with
  | some s => simp [marked]
  | none =>
    cases fragment with
    | some s => simp [marked]
    | none => rfl

/-- Where the texts of two URLs agree, and their paths up to a point behind which no sign ends them,
the paths agree. -/
theorem path_rest_eq_of_text_eq {u u' : Url} (horigin : u.originText = u'.originText)
    {front rest rest' : List Char} (hpath : u.path.toList = front ++ rest)
    (hpath' : u'.path.toList = front ++ rest') (hfree : ∀ c ∈ rest, c ≠ '?' ∧ c ≠ '#')
    (hfree' : ∀ c ∈ rest', c ≠ '?' ∧ c ≠ '#') (h : u.text = u'.text) : rest = rest' := by
  have hends : ∀ (v : Url) (more : List Char), v.path.toList = front ++ more →
      v.text.toList = v.originText.toList ++ (front ++
        (more ++ (marked "?" v.query ++ marked "#" v.fragment).toList)) := by
    intro v more hmore
    simp only [text, String.toList_append, hmore, List.append_assoc]
  have htail := congrArg String.toList h
  rw [hends u rest hpath, hends u' rest' hpath', horigin] at htail
  have hcut := congrArg (List.takeWhile fun c => c ≠ '?' ∧ c ≠ '#')
    (List.append_cancel_left (List.append_cancel_left htail))
  rwa [List.takeWhile_append_of_pos (by simpa using hfree),
    List.takeWhile_append_of_pos (by simpa using hfree'), takeWhile_ending, takeWhile_ending,
    List.append_nil, List.append_nil] at hcut

end Mailroom.Url
