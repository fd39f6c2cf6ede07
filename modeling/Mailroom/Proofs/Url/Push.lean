import Mailroom.Proofs.Url.Segments
import Mailroom.Url.Parser

/-!
# Segments pushed onto a path

`pushed` says what `pushSegment` does to the segments of a path where drives do not matter: a text
is put behind the others as one segment, unless it is a dot, or two dots once its tabs and line ends
are dropped. No number of other texts reaches the segments that were there before.
-/

namespace Mailroom.Url

/-! ## The segment of a text -/

/-- The segment that a text is written as. A dot left over once characters are dropped leaves
nothing. -/
def written (rules : PathRules) (text : List Char) : List Char :=
  if significant text = ['.'] then []
  else encode (keepsInSegment rules.special) (significant text)

/-- A text that is not written as one segment: a dot, or two dots among characters that are
dropped. -/
def Escapes (text : List Char) : Prop :=
  text = ['.'] ∨ significant text = ['.', '.']

instance (text : List Char) : Decidable (Escapes text) :=
  inferInstanceAs (Decidable (_ ∨ _))

theorem slash_not_mem_written (rules : PathRules) (text : List Char) :
    '/' ∉ written rules text := by
  unfold written
  split
  · exact List.not_mem_nil
  · exact slash_not_mem_encode (keepsInSegment_slash _) _

/-! ## Words -/

/-- Whether a text is made of letters, of which it has one at least. -/
def isWord (text : List Char) : Bool :=
  !text.isEmpty && text.all isLetter

/-- A letter stands for itself in a segment and is not dropped. -/
theorem keepsInSegment_of_isLetter {c : Char} (h : isLetter c = true) (special : Bool) :
    keepsInSegment special c = true ∧ isDropped c = false := by
  have hascii : ∀ n : Fin 128, isLetter (Char.ofNat n) = true →
      keepsInSegment special (Char.ofNat n) = true ∧ isDropped (Char.ofNat n) = false := by
    cases special <;> decide
  have hbound : c.toNat < 128 := by
    simp only [isLetter, Bool.or_eq_true, Bool.and_eq_true, decide_eq_true_eq] at h
    rcases h with ⟨-, h⟩ | ⟨-, h⟩
    · exact Nat.lt_of_le_of_lt h (by decide)
    · exact Nat.lt_of_le_of_lt h (by decide)
  have hc := hascii ⟨c.toNat, hbound⟩
  rw [Char.ofNat_toNat] at hc
  exact hc h

section Words

variable {rules : PathRules} {word : List Char} (h : isWord word = true)

include h in
theorem isWord_ne_nil : word ≠ [] := by
  rintro rfl
  cases h

include h in
theorem isLetter_of_mem_word {c : Char} (hc : c ∈ word) : isLetter c = true := by
  rw [isWord, Bool.and_eq_true, List.all_eq_true] at h
  exact h.2 c hc

include h in
theorem significant_word : significant word = word := by
  rw [significant, List.filter_eq_self]
  intro c hc
  rw [(keepsInSegment_of_isLetter (isLetter_of_mem_word h hc) true).2]
  rfl

include h in
theorem encode_word (special : Bool) : encode (keepsInSegment special) word = word :=
  encode_eq_self fun _ hc => (keepsInSegment_of_isLetter (isLetter_of_mem_word h hc) special).1

include h in
/-- A text is written as a word only if it is that word among characters that are dropped. -/
theorem written_eq_word_iff {text : List Char} :
    written rules text = word ↔ significant text = word := by
  unfold written
  split
  · next hdot =>
    have hne : ['.'] ≠ word := by
      rintro rfl
      cases h
    rw [hdot]
    exact iff_of_false (isWord_ne_nil h).symm hne
  · constructor
    · intro hencode
      apply encode_injective (keepsInSegment_percent rules.special)
      rw [hencode, encode_word h]
    · intro hword
      rw [hword, encode_word h]

include h in
theorem not_escapes_word : ¬ Escapes word := by
  rintro (rfl | htwo)
  · cases h
  · rw [significant_word h] at htwo
    rw [htwo] at h
    cases h

include h in
theorem startsWithDrive_word : startsWithDrive (word ++ ['/']) = false := by
  match word, h with
  | [a], _ => simp [startsWithDrive]
  | a :: b :: more, h =>
    have hb : isLetter b = true := isLetter_of_mem_word h (by simp)
    have hcolon : b ≠ ':' := by
      rintro rfl
      exact absurd hb (by decide)
    have hbar : b ≠ '|' := by
      rintro rfl
      exact absurd hb (by decide)
    simp [startsWithDrive, hcolon, hbar]

end Words

/-! ## Segments of a path -/

/-- The segments that one more is put behind: a lone empty one gives way to it. -/
def below (segs : List (List Char)) : List (List Char) :=
  if segs = [[]] then [] else segs

/-- Where only the last segment may be empty, all others are behind a slash at the end. -/
theorem below_closed {segs : List (List Char)} (h : ∀ seg ∈ directory segs, seg ≠ []) :
    below (closed segs) = directory segs := by
  unfold closed
  split
  · next hroot =>
    rw [hroot]
    rfl
  · have hroot : directory segs ≠ [[]] := fun hone => h [] (by simp [hone]) rfl
    rw [below, if_neg hroot]

/-- Segments without the last one, which stays if it reads as a drive. -/
def parent (segs : List (List Char)) : List (List Char) :=
  match segs.getLast? with
  | some last => if startsWithDrive (last ++ ['/']) then segs else segs.dropLast
  | none => []

theorem parent_concat (segs : List (List Char)) (last : List Char) :
    parent (segs ++ [last]) =
      if startsWithDrive (last ++ ['/']) then segs ++ [last] else segs := by
  rw [parent, List.getLast?_concat, List.dropLast_concat]

/-- The segments of a path after a text is pushed onto it. -/
def pushed (rules : PathRules) (segs : List (List Char)) (text : List Char) : List (List Char) :=
  if text = ['.'] ∨ text = ['.', '.'] then segs
  else if significant text = ['.', '.'] then parent (below segs) ++ [[]]
  else below segs ++ [written rules text]

theorem mem_of_mem_below {segs : List (List Char)} {seg : List Char} (h : seg ∈ below segs) :
    seg ∈ segs := by
  unfold below at h
  split at h
  · cases h
  · exact h

theorem mem_of_mem_parent {segs : List (List Char)} {seg : List Char} (h : seg ∈ parent segs) :
    seg ∈ segs := by
  unfold parent at h
  split at h
  · split at h
    · exact h
    · exact List.dropLast_subset segs h
  · cases h

/-! ## Pushing is what the segments say -/

section Push

variable {rules : PathRules} (hfile : rules.isFile = false)

private theorem lastSlashRemovable_append (path : List Char) {seg : List Char} (h : '/' ∉ seg) :
    lastSlashRemovable (path ++ '/' :: seg ++ ['/']) = !startsWithDrive (seg ++ ['/']) := by
  have hsplit : path ++ '/' :: seg ++ ['/'] = (path ++ ['/']) ++ (seg ++ ['/']) := by simp
  have hslash : (path ++ '/' :: seg).contains '/' = true := by simp
  rw [lastSlashRemovable, List.dropLast_concat, upToLastSlash_append path h, hslash, Bool.true_and,
    hsplit, List.drop_left]

include hfile in
private theorem popSegment_append (path : List Char) {seg : List Char} (h : '/' ∉ seg) :
    popSegment rules (path ++ '/' :: seg) = path ++ ['/'] := by
  have hne : (path ++ '/' :: seg).isEmpty = false := by simp
  simp only [popSegment, hfile, hne, Bool.false_and, Bool.false_or, Bool.false_eq_true, if_false,
    upToLastSlash_append path h]

include hfile in
/-- One directory up, the last segment is gone. -/
theorem stepUp_joined {segs : List (List Char)} (hfree : ∀ seg ∈ segs, '/' ∉ seg) :
    stepUp rules (joined (segs ++ [[]])) false = joined (parent segs ++ [[]]) := by
  rcases List.eq_nil_or_concat segs with rfl | ⟨init, last, rfl⟩
  · have hroot : popSegment rules ['/'] = ['/'] := popSegment_append hfile [] List.not_mem_nil
    exact hroot
  · rw [List.concat_eq_append] at hfree ⊢
    have hlast : '/' ∉ last := hfree last (by simp)
    have hpath : joined (init ++ [last] ++ [[]]) = joined init ++ '/' :: last ++ ['/'] := by simp
    rw [hpath, stepUp, endsWithSlash_append, lastSlashRemovable_append _ hlast, parent_concat]
    cases startsWithDrive (last ++ ['/']) with
    | true =>
      have hkept := popSegment_append hfile (joined init ++ '/' :: last) List.not_mem_nil
      simpa using hkept
    | false =>
      simp only [Bool.not_false, Bool.and_true, if_true, List.dropLast_concat,
        popSegment_append hfile _ hlast, Bool.false_and, Bool.false_eq_true, if_false,
        joined_append]
      rfl

/-- A path is opened for one more segment by an empty one. -/
theorem opened_joined {segs : List (List Char)} (h : Proper segs) :
    (if (joined segs).length = 1 then joined segs else joined segs ++ ['/']) =
      joined (below segs ++ [[]]) := by
  rw [below, joined_append]
  by_cases hroot : segs = [[]]
  · rw [if_pos hroot, hroot]
    rfl
  · rw [if_neg hroot, if_neg fun hone => hroot ((joined_length_eq_one_iff h.ne_nil).mp hone)]
    rfl

include hfile in
theorem splitDrive?_of_not_file (path input : List Char) (ends : Char → Bool) :
    splitDrive? rules path ends input = none := by
  unfold splitDrive?
  simp only [hfile, Bool.false_and, Bool.false_eq_true, if_false]
  split
  · rfl
  · split <;> rfl

include hfile in
/-- Pushing a text onto a path does to its segments what `pushed` says. -/
theorem pushSegment_joined {segs : List (List Char)} (h : Proper segs) (text : List Char) :
    pushSegment rules (joined segs) text = joined (pushed rules segs text) := by
  have hpercent := keepsInSegment_percent rules.special
  have hdot := keepsInSegment_dot rules.special
  have hopened : endsWithSlash (joined (below segs ++ [[]])) = true :=
    endsWithSlash_joined _ List.not_mem_nil
  rw [pushSegment, pushed]
  by_cases hskip : text = ['.'] ∨ text = ['.', '.']
  · rw [if_pos hskip, if_pos (by simpa using hskip)]
  rw [if_neg hskip, if_neg (by simpa using hskip)]
  have hsignificant : text.filter (!isDropped ·) = significant text := rfl
  simp only [hsignificant, opened_joined h, splitDrive?_of_not_file hfile, normalizeRoot, hfile,
    Bool.false_eq_true, if_false, addSegment, isRootDrive, Bool.false_and, List.append_nil,
    isDoubleDot_encode hpercent hdot, isSingleDot_encode hpercent hdot, hopened, if_true]
  by_cases hup : significant text = ['.', '.']
  · have hbelow : ∀ seg ∈ below segs, '/' ∉ seg := fun seg hs => h.free seg (mem_of_mem_below hs)
    rw [if_pos hup, if_pos hup, stepUp_joined hfile hbelow]
  · rw [if_neg hup, if_neg hup, written]
    by_cases hhere : significant text = ['.']
    · rw [if_pos hhere, if_pos hhere]
    · rw [if_neg hhere, if_neg hhere]
      simp

end Push

/-! ## Texts pushed one after the other -/

section Texts

variable {rules : PathRules} {segs : List (List Char)} {text : List Char}

theorem Proper.pushed (h : Proper segs) : Proper (pushed rules segs text) := by
  have hbelow : ∀ seg ∈ below segs, '/' ∉ seg := fun seg hs => h.free seg (mem_of_mem_below hs)
  have hparent : ∀ seg ∈ parent (below segs), '/' ∉ seg :=
    fun seg hs => hbelow seg (mem_of_mem_parent hs)
  unfold Url.pushed
  split
  · exact h
  split
  · exact proper_append_singleton hparent List.not_mem_nil
  · exact proper_append_singleton hbelow (slash_not_mem_written rules text)

theorem Proper.foldl_pushed (h : Proper segs) (texts : List (List Char)) :
    Proper (texts.foldl (Url.pushed rules) segs) := by
  induction texts generalizing segs with
  | nil => exact h
  | cons text texts ih => exact ih h.pushed

/-- Pushing texts onto a path does to its segments what `pushed` says, text by text. -/
theorem foldl_pushSegment_joined (hfile : rules.isFile = false) (h : Proper segs)
    (texts : List (List Char)) :
    texts.foldl (pushSegment rules) (joined segs) = joined (texts.foldl (pushed rules) segs) := by
  induction texts generalizing segs with
  | nil => rfl
  | cons text texts ih =>
    rw [List.foldl_cons, List.foldl_cons, pushSegment_joined hfile h text, ih h.pushed]

theorem pushed_of_not_escapes (h : ¬ Escapes text) :
    pushed rules segs text = below segs ++ [written rules text] := by
  rw [Escapes, not_or] at h
  have hskip : ¬ (text = ['.'] ∨ text = ['.', '.']) := by
    rintro (hdot | rfl)
    · exact h.1 hdot
    · exact h.2 rfl
  rw [pushed, if_neg hskip, if_neg h.2]

/-- A word is put behind the others as it is. -/
theorem pushed_word (h : isWord text = true) : pushed rules segs text = below segs ++ [text] := by
  rw [pushed_of_not_escapes (not_escapes_word h), (written_eq_word_iff h).mpr (significant_word h)]

/-- A word gives way to nothing. -/
theorem concat_word_ne_root (h : isWord text = true) : segs ++ [text] ≠ [[]] := by
  intro hroot
  have hlast := congrArg List.getLast? hroot
  rw [List.getLast?_concat] at hlast
  exact isWord_ne_nil h (Option.some.inj hlast)

/-- Texts that do not escape follow the segments that were there, one segment each. -/
theorem foldl_pushed_of_not_escapes (h : Proper segs) (hroot : segs ≠ [[]])
    {texts : List (List Char)} (hstay : ∀ text ∈ texts, ¬ Escapes text) :
    texts.foldl (pushed rules) segs = segs ++ texts.map (written rules) := by
  induction texts generalizing segs with
  | nil => simp
  | cons text texts ih =>
    have hstep : pushed rules segs text = segs ++ [written rules text] := by
      rw [pushed_of_not_escapes (hstay text List.mem_cons_self), below, if_neg hroot]
    have hroot' : segs ++ [written rules text] ≠ [[]] := by
      intro hone
      have hlength := congrArg List.length hone
      have hpos := List.length_pos_iff.mpr h.ne_nil
      simp only [List.length_append, List.length_cons, List.length_nil] at hlength
      omega
    rw [List.foldl_cons, hstep, ih (hstep ▸ h.pushed) hroot'
      fun t ht => hstay t (List.mem_cons_of_mem _ ht), List.map_cons, List.append_assoc,
      List.singleton_append]

/-! ## The number of segments -/

theorem length_below_concat_le (segs : List (List Char)) (seg : List Char) :
    (below (segs ++ [seg])).length ≤ segs.length + 1 := by
  unfold below
  split <;> simp

theorem length_parent_le (segs : List (List Char)) : (parent segs).length ≤ segs.length := by
  rcases List.eq_nil_or_concat segs with rfl | ⟨init, last, rfl⟩
  · exact Nat.le_refl 0
  · rw [List.concat_eq_append, parent_concat]
    split <;> simp

/-- A text adds one segment at most. -/
theorem length_below_pushed_le (rules : PathRules) (segs : List (List Char)) (text : List Char) :
    (below (pushed rules segs text)).length ≤ (below segs).length + 1 := by
  unfold pushed
  split
  · omega
  split
  · have hparent := length_parent_le (below segs)
    have hle := length_below_concat_le (parent (below segs)) []
    omega
  · exact length_below_concat_le (below segs) (written rules text)

/-- Behind a word, a text that escapes adds none. -/
theorem length_below_pushed_le_of_escapes (rules : PathRules) (segs : List (List Char))
    {word : List Char} (hword : isWord word = true) (h : Escapes text) :
    (below (pushed rules (segs ++ [word]) text)).length ≤ segs.length + 1 := by
  unfold pushed
  split
  · exact length_below_concat_le segs word
  next hskip =>
  have hup : significant text = ['.', '.'] := h.resolve_left fun hdot => hskip (.inl hdot)
  have hbelow : below (segs ++ [word]) = segs ++ [word] := if_neg (concat_word_ne_root hword)
  rw [if_pos hup, hbelow, parent_concat, startsWithDrive_word hword, if_neg Bool.false_ne_true]
  exact length_below_concat_le segs []

theorem length_below_foldl_le (rules : PathRules) (segs texts : List (List Char)) :
    (below (texts.foldl (pushed rules) segs)).length ≤ (below segs).length + texts.length := by
  induction texts generalizing segs with
  | nil => exact Nat.le_refl _
  | cons text texts ih =>
    have hstep := length_below_pushed_le rules segs text
    have hrest := ih (pushed rules segs text)
    rw [List.foldl_cons, List.length_cons]
    omega

end Texts

end Mailroom.Url
