import Mailroom.Proofs.Text.Split
import Mailroom.Proofs.Url.Percent

/-!
# Paths as lists of segments

A path that starts with a slash is a list of segments, each behind a slash. `pushed` says what
`pushSegment` does to that list where no drive stands at the root: mostly one encoded segment is put
behind the others, but a segment of dots is left out or takes the last one away.
-/

namespace Mailroom.Url

/-! ## Paths and their segments -/

/-- The path of some segments. -/
def joined (segs : List (List Char)) : List Char :=
  segs.flatMap ('/' :: ·)

/-- The segments of a path that starts with a slash. -/
def segmentsOf (path : List Char) : List (List Char) :=
  Text.parts '/' (path.drop 1)

@[simp] theorem joined_nil : joined [] = [] := rfl

@[simp] theorem joined_cons (seg : List Char) (segs : List (List Char)) :
    joined (seg :: segs) = '/' :: seg ++ joined segs := rfl

@[simp] theorem joined_append (segs more : List (List Char)) :
    joined (segs ++ more) = joined segs ++ joined more :=
  List.flatMap_append

/-- Segments that can be read back from their path: there is one at least, and none has a slash. -/
structure Proper (segs : List (List Char)) : Prop where
  ne_nil : segs ≠ []
  free : ∀ seg ∈ segs, '/' ∉ seg

theorem proper_segmentsOf (path : List Char) : Proper (segmentsOf path) where
  ne_nil := Text.parts_ne_nil '/' _
  free _ hseg := Text.not_mem_of_mem_parts hseg

/-- Segments stay proper when one without a slash is put behind them. -/
theorem proper_append_singleton {segs : List (List Char)} {seg : List Char}
    (hfree : ∀ s ∈ segs, '/' ∉ s) (hseg : '/' ∉ seg) : Proper (segs ++ [seg]) where
  ne_nil := by simp
  free s hs := by
    rcases List.mem_append.mp hs with hs | hs
    · exact hfree s hs
    · rw [List.mem_singleton.mp hs]
      exact hseg

private theorem joined_parts (cs : List Char) : joined (Text.parts '/' cs) = '/' :: cs := by
  induction cs with
  | nil => rfl
  | cons c cs ih =>
    rw [Text.parts]
    split
    · next hc => rw [joined_cons, ih, hc, List.singleton_append]
    · split
      · next hparts => exact absurd hparts (Text.parts_ne_nil '/' cs)
      · next first others hparts =>
        rw [hparts, joined_cons, List.cons_append, List.cons_inj_right] at ih
        rw [joined_cons, List.cons_append, List.cons_append, ih]

/-- A path that starts with a slash is made of its segments. -/
theorem joined_segmentsOf {path : List Char} (h : path.head? = some '/') :
    joined (segmentsOf path) = path := by
  cases path with
  | nil => cases h
  | cons c path =>
    rw [List.head?_cons, Option.some.injEq] at h
    rw [segmentsOf, List.drop_one, List.tail_cons, joined_parts, h]

private theorem parts_joined {seg : List Char} {segs : List (List Char)}
    (hfree : ∀ s ∈ seg :: segs, '/' ∉ s) :
    Text.parts '/' (seg ++ joined segs) = seg :: segs := by
  induction segs generalizing seg with
  | nil =>
    rw [joined_nil, List.append_nil, Text.parts_of_not_mem (hfree seg List.mem_cons_self)]
  | cons next segs ih =>
    rw [joined_cons, List.cons_append, Text.parts_append_cons (hfree seg List.mem_cons_self),
      ih fun s hs => hfree s (List.mem_cons_of_mem _ hs)]

/-- Proper segments are read back from their path. -/
theorem segmentsOf_joined {segs : List (List Char)} (h : Proper segs) :
    segmentsOf (joined segs) = segs := by
  cases segs with
  | nil => exact absurd rfl h.ne_nil
  | cons seg segs => exact parts_joined h.free

theorem joined_length_pos {segs : List (List Char)} (hne : segs ≠ []) :
    0 < (joined segs).length := by
  cases segs with
  | nil => exact absurd rfl hne
  | cons seg segs => simp

/-- Only the root is a path of one character. -/
theorem joined_length_eq_one_iff {segs : List (List Char)} (hne : segs ≠ []) :
    (joined segs).length = 1 ↔ segs = [[]] := by
  cases segs with
  | nil => exact absurd rfl hne
  | cons seg segs =>
    cases segs with
    | nil => simp
    | cons next more =>
      simp only [joined_cons, List.length_append, List.length_cons, List.cons.injEq, reduceCtorEq,
        and_false, iff_false]
      omega

/-! ## Slashes at the end -/

theorem upToLastSlash_append (path : List Char) {seg : List Char} (h : '/' ∉ seg) :
    upToLastSlash (path ++ '/' :: seg) = path ++ ['/'] := by
  have hskip : ∀ c ∈ seg.reverse, decide (c ≠ '/') = true := by
    intro c hc
    rw [decide_eq_true_eq]
    rintro rfl
    exact h (List.mem_reverse.mp hc)
  rw [upToLastSlash, List.reverse_append, List.reverse_cons, List.append_assoc,
    List.dropWhile_append_of_pos hskip, List.singleton_append, List.dropWhile_cons]
  simp

theorem endsWithSlash_append (path : List Char) : endsWithSlash (path ++ ['/']) = true := by
  simp [endsWithSlash]

/-- A path ends with a slash if its last segment is empty. -/
theorem endsWithSlash_joined (segs : List (List Char)) {seg : List Char} (h : '/' ∉ seg) :
    endsWithSlash (joined (segs ++ [seg])) = seg.isEmpty := by
  rcases List.eq_nil_or_concat seg with rfl | ⟨before, c, rfl⟩
  · simp [endsWithSlash]
  · rw [List.concat_eq_append] at h ⊢
    have hc : c ≠ '/' := by
      rintro rfl
      exact h (by simp)
    rw [joined_append, joined_cons, joined_nil, List.append_nil, ← List.cons_append,
      ← List.append_assoc, endsWithSlash, List.getLast?_append]
    simp [hc]

/-- Segments without an empty one at the end. -/
def directory (segs : List (List Char)) : List (List Char) :=
  if segs.getLast? = some [] then segs.dropLast else segs

theorem directory_concat (segs : List (List Char)) (last : List Char) :
    directory (segs ++ [last]) = if last = [] then segs else segs ++ [last] := by
  simp only [directory, List.getLast?_concat, List.dropLast_concat, Option.some.injEq]

/-- The segments of a path once the slash at its end is gone. -/
def closed (segs : List (List Char)) : List (List Char) :=
  if segs = [[]] then segs else directory segs

theorem Proper.closed {segs : List (List Char)} (h : Proper segs) : Proper (closed segs) := by
  unfold Url.closed
  split
  · exact h
  next hroot =>
  rcases List.eq_nil_or_concat segs with rfl | ⟨init, last, rfl⟩
  · exact absurd rfl h.ne_nil
  rw [List.concat_eq_append] at *
  rw [directory_concat]
  split
  · next hlast =>
    refine ⟨?_, fun seg hseg => h.free seg (List.mem_append_left _ hseg)⟩
    rintro rfl
    exact hroot (by rw [hlast, List.nil_append])
  · exact h

/-- The slash at the end of a path goes, except at the root. -/
theorem popTrailingSlash_joined {segs : List (List Char)} (h : Proper segs) :
    popTrailingSlash (joined segs) = joined (closed segs) := by
  rw [closed]
  by_cases hroot : segs = [[]]
  · rw [if_pos hroot, hroot]
    rfl
  rw [if_neg hroot, popTrailingSlash]
  have hlong : 1 < (joined segs).length := by
    have hone := mt (joined_length_eq_one_iff h.ne_nil).mp hroot
    have hpos := joined_length_pos h.ne_nil
    omega
  rcases List.eq_nil_or_concat segs with rfl | ⟨init, last, rfl⟩
  · exact absurd rfl h.ne_nil
  rw [List.concat_eq_append] at *
  rw [directory_concat, endsWithSlash_joined init (h.free last (by simp)), decide_eq_true hlong,
    Bool.true_and]
  cases last with
  | nil => simp
  | cons c last => simp

end Mailroom.Url
