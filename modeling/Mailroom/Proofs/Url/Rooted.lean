import Mailroom.Proofs.Outcome
import Mailroom.Proofs.Url.Segments
import Mailroom.Url.Parser

/-!
# Paths that start at the root

Reading a path keeps the slash that it starts with, whatever its segments are. The schemes of the
web always read a path from the root, so the path of such a URL is made of segments.
-/

namespace Mailroom.Url

/-- A path that starts with a slash. -/
def Rooted (path : List Char) : Prop :=
  path.head? = some '/'

namespace Rooted

variable {rules : PathRules} {path : List Char}

theorem append (h : Rooted path) (more : List Char) : Rooted (path ++ more) := by
  rw [Rooted, List.head?_append, h]
  rfl

theorem dropLast (h : Rooted path) (hmore : path.dropLast ≠ []) : Rooted path.dropLast := by
  match path, hmore with
  | c :: next :: path, _ => exact h

theorem upToLastSlash (h : Rooted path) : Rooted (upToLastSlash path) := by
  have hsegs := proper_segmentsOf path
  rw [← joined_segmentsOf h]
  rcases List.eq_nil_or_concat (segmentsOf path) with hnil | ⟨init, last, hconcat⟩
  · exact absurd hnil hsegs.ne_nil
  · rw [List.concat_eq_append] at hconcat
    have hlast : '/' ∉ last := hsegs.free last (by simp [hconcat])
    rw [hconcat, joined_append, joined_cons, joined_nil, List.append_nil,
      upToLastSlash_append _ hlast]
    cases init with
    | nil => rfl
    | cons seg init => rfl

theorem popSegment (h : Rooted path) : Rooted (popSegment rules path) := by
  unfold Url.popSegment
  dsimp only
  split
  · exact h
  split
  · exact h
  · exact h.upToLastSlash

theorem stepUp (h : Rooted path) (slash : Bool) : Rooted (stepUp rules path slash) := by
  have hclosed : Rooted
      (if endsWithSlash path && lastSlashRemovable path then path.dropLast else path) := by
    split
    · next hlast =>
      rw [Bool.and_eq_true, lastSlashRemovable, Bool.and_eq_true] at hlast
      refine h.dropLast ?_
      intro hnil
      rw [hnil] at hlast
      exact absurd hlast.2.1 (by decide)
    · exact h
  unfold Url.stepUp
  dsimp only
  generalize (if endsWithSlash path && lastSlashRemovable path then path.dropLast else path) =
    closed at hclosed ⊢
  split
  · exact hclosed.popSegment.append _
  · exact hclosed.popSegment

theorem addSegment (h : Rooted path) (segment : List Char) (slash : Bool) :
    Rooted (addSegment rules path segment slash) := by
  unfold Url.addSegment
  dsimp only
  generalize (if slash then ['/'] else []) = ending
  split
  · exact h.stepUp slash
  split
  · split
    · exact h
    · exact h.append _
  split
  · exact (h.append _).append _
  · exact (h.append _).append _

theorem readSegmentOnto (h : Rooted path) (onDrive : Bool) (input : List Char) :
    Rooted (readSegmentOnto rules path onDrive input).1.path := by
  unfold Url.readSegmentOnto
  split
  · dsimp only
    split
    · exact (h.append _).append _
    · exact h.append _
  · exact h.addSegment _ _

theorem readSegments (fuel : Nat) (h : Rooted path) (onDrive : Bool) (input : List Char) :
    Rooted (readSegments rules fuel path onDrive input).path := by
  induction fuel generalizing path onDrive input with
  | zero => exact h.readSegmentOnto onDrive input
  | succ fuel ih =>
    have hstep : Rooted (Url.readSegmentOnto rules path onDrive input).1.path :=
      h.readSegmentOnto onDrive input
    rw [Url.readSegments]
    dsimp only
    split
    · exact ih hstep _ _
    · exact hstep

/-- A path that is read onto a slash starts with it. -/
theorem readPath (h : Rooted path) (input : List Char) :
    Rooted (readPath rules path input).path := by
  rw [Url.readPath, normalizeRoot]
  split
  · rfl
  · exact h.readSegments _ _ _

end Rooted

/-! ## URLs of the web -/

private theorem rooted_readPathAfterAuthority {rules : PathRules} (hspecial : rules.special = true)
    (cs : List Char) : Rooted (readPathAfterAuthority rules cs).path := by
  have hroot : Rooted ['/'] := rfl
  unfold readPathAfterAuthority
  simp only [hspecial, if_true]
  split
  · exact hroot
  split
  · exact hroot.readPath _
  · exact hroot.readPath _

/-- A URL whose path starts at the root, if its scheme is one of the web. -/
def RootedOnWeb (u : Url) : Prop :=
  (rulesOf u.scheme).special = true → Rooted u.path.toList

private theorem rootedOnWeb_assemble {scheme : String} {authority : Option Authority}
    {path rest : List Char} (h : (rulesOf scheme).special = true → Rooted path) :
    RootedOnWeb (assemble scheme authority path rest) := by
  intro hspecial
  rw [assemble, String.toList_ofList]
  exact h hspecial

private theorem rootedOnWeb_readHierarchy {scheme : String} {cs : List Char} {u : Url}
    (h : readHierarchy scheme cs = .ok u) : RootedOnWeb u := by
  obtain ⟨⟨authority, rest⟩, -, hu⟩ := Outcome.bind_eq_ok_iff.mp h
  cases hu
  exact rootedOnWeb_assemble fun hspecial => rooted_readPathAfterAuthority hspecial rest

private theorem rootedOnWeb_fileAt {host : Authority} {reading : PathReading}
    (h : Rooted reading.path) : RootedOnWeb (fileAt host reading) :=
  rootedOnWeb_assemble fun _ => h

private theorem rootedOnWeb_readFile {cs : List Char} {u : Url} (h : readFile cs = .ok u) :
    RootedOnWeb u := by
  have hroot : Rooted ['/'] := rfl
  unfold readFile at h
  split at h
  · unfold readFileHost at h
    dsimp only at h
    split at h
    · cases h
      exact rootedOnWeb_fileAt (hroot.readPath _)
    split at h
    · cases h
      exact rootedOnWeb_fileAt (hroot.readPath _)
    · obtain ⟨host, -, hu⟩ := Outcome.map_eq_ok_iff.mp h
      split at hu
      · cases hu
        exact rootedOnWeb_fileAt (hroot.readPath _)
      · cases hu
        exact rootedOnWeb_fileAt (rooted_readPathAfterAuthority rfl _)
  · cases h
    exact rootedOnWeb_fileAt (hroot.readPath _)

private theorem rootedOnWeb_readOther {scheme : String} (hscheme : (rulesOf scheme).special = false)
    {cs : List Char} {u : Url} (h : readOther scheme cs = .ok u) : RootedOnWeb u := by
  unfold readOther at h
  split at h
  · exact rootedOnWeb_readHierarchy h
  · cases h
    exact rootedOnWeb_assemble fun hspecial => absurd hspecial (by simp [hscheme])
  · cases h
    exact rootedOnWeb_assemble fun hspecial => absurd hspecial (by simp [hscheme])

/-- The path of a URL of the web starts with a slash. -/
theorem rootedOnWeb_of_parse {s : String} {u : Url} (h : parse s = .ok u) : RootedOnWeb u := by
  unfold parse at h
  dsimp only at h
  split at h
  · cases h
  next scheme rest _ =>
  split at h
  · exact rootedOnWeb_readFile h
  next hfile =>
  split at h
  · exact rootedOnWeb_readHierarchy h
  next hport =>
  refine rootedOnWeb_readOther ?_ h
  simpa [rulesOf, hfile] using hport

end Mailroom.Url
