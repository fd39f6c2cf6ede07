import Mathlib.Data.List.TakeWhile
import Mailroom.Text.Basic

/-!
# Parts and ends of a text

The parts between the separators of a text hold none, and the text is those parts with the separator
between them. Taking the blanks off both ends of a text leaves nothing exactly if there is nothing
but blanks.
-/

namespace Mailroom.Text

variable {sep : Char} {cs : List Char}

theorem parts_of_not_mem (h : sep ∉ cs) : parts sep cs = [cs] := by
  induction cs with
  | nil => rfl
  | cons c cs ih =>
    simp only [List.mem_cons, not_or] at h
    rw [parts, if_neg (Ne.symm h.1), ih h.2]

/-- The parts on both sides of a separator are the parts of the whole. -/
theorem parts_append_self (sep : Char) (cs rest : List Char) :
    parts sep (cs ++ sep :: rest) = parts sep cs ++ parts sep rest := by
  induction cs with
  | nil => exact parts_cons_self sep rest
  | cons c cs ih =>
    by_cases hc : c = sep
    · rw [hc, List.cons_append, parts_cons_self, parts_cons_self, ih, List.cons_append]
    · obtain ⟨first, others, hparts⟩ := List.exists_cons_of_ne_nil (parts_ne_nil sep cs)
      rw [List.cons_append, parts, if_neg hc, ih, hparts, parts, if_neg hc, hparts]
      rfl

theorem parts_append_cons (h : sep ∉ cs) (rest : List Char) :
    parts sep (cs ++ sep :: rest) = cs :: parts sep rest := by
  rw [parts_append_self, parts_of_not_mem h, List.singleton_append]

/-- No part holds a separator. -/
theorem not_mem_of_mem_parts {part : List Char} (h : part ∈ parts sep cs) : sep ∉ part := by
  induction cs generalizing part with
  | nil =>
    rw [parts, List.mem_singleton] at h
    simp [h]
  | cons c cs ih =>
    rw [parts] at h
    split at h
    · rcases List.mem_cons.mp h with rfl | h
      · simp
      · exact ih h
    · next hc =>
      split at h
      · next hparts => exact absurd hparts (parts_ne_nil sep cs)
      · next first others hparts =>
        rw [hparts] at ih
        rcases List.mem_cons.mp h with rfl | h
        · have hfirst : sep ∉ first := ih List.mem_cons_self
          simp [hfirst, Ne.symm hc]
        · exact ih (List.mem_cons_of_mem _ h)

/-- A text is taken apart as a list is by `List.splitOn`. -/
theorem parts_eq_splitOn (sep : Char) (cs : List Char) : parts sep cs = cs.splitOn sep := by
  induction cs with
  | nil => rfl
  | cons c cs ih =>
    rw [parts, ih, List.splitOn, List.splitOn, List.splitOnP_cons_eq_if_modifyHead]
    by_cases hc : c = sep
    · simp [hc]
    · obtain ⟨first, others, hparts⟩ :=
        List.exists_cons_of_ne_nil (List.splitOnP_ne_nil (· == sep) cs)
      simp [hc, hparts]

theorem trimChars_eq_nil_iff (cs : List Char) :
    trimChars cs = [] ↔ ∀ c ∈ cs, isBlankChar c = true := by
  rw [trimChars, List.reverse_eq_nil_iff, List.dropWhile_eq_nil_iff]
  simp only [List.mem_reverse]
  constructor
  · intro hall
    -- What is left of a text that is not blank starts with a character that is none.
    have hnil : cs.dropWhile isBlankChar = [] := by
      refine Classical.byContradiction fun hne => ?_
      have hhead := List.head_dropWhile_not isBlankChar hne
      rw [hall _ (List.head_mem hne)] at hhead
      cases hhead
    exact List.dropWhile_eq_nil_iff.mp hnil
  · intro hall c hc
    exact hall c ((List.dropWhile_suffix _).subset hc)

end Mailroom.Text
