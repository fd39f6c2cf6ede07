import Mailroom.Proofs.Text.Utf8
import Mailroom.Proofs.Url.Segments
import Mailroom.Url.Form

/-!
# Pairs read back from a query

Plus signs are read as spaces before percent signs are read, and a plus sign of a text is encoded,
so the two do not mix. An encoded name or value holds none of the signs that split a query, so pairs
appended to a query are read behind those that it held, whatever these are.
-/

namespace Mailroom.Url.Form

/-! ## Names and values -/

/-- What a character of a query is read as before percent signs are. -/
def spaced (c : Char) : Char :=
  if c = '+' then ' ' else c

/-- Only plus signs are read as something else. -/
theorem map_spaced_of_not_mem {cs : List Char} (h : '+' ∉ cs) : cs.map spaced = cs := by
  induction cs with
  | nil => rfl
  | cons c cs ih =>
    simp only [List.mem_cons, not_or] at h
    rw [List.map_cons, ih h.2, spaced, if_neg (Ne.symm h.1)]

/-- No sign that means something in a query occurs in an encoded character, except for the plus sign
of a space. -/
theorem not_mem_encodeChar {d : Char} (hkeeps : keeps d = false) (hpercent : d ≠ '%')
    (hplus : d ≠ '+') (hdigit : ∀ n : Fin 16, hexDigit n.val ≠ d) (c : Char) :
    d ∉ encodeChar c := by
  unfold encodeChar
  split
  · exact mt List.mem_singleton.mp hplus
  · exact Url.not_mem_encodeChar hkeeps hpercent hdigit c

theorem ampersand_not_mem_encodeText (s : String) : '&' ∉ encodeText s := by
  intro hmem
  obtain ⟨c, -, hc⟩ := List.mem_flatMap.mp hmem
  exact not_mem_encodeChar (by decide) (by decide) (by decide) (by decide) c hc

theorem equals_not_mem_encodeText (s : String) : '=' ∉ encodeText s := by
  intro hmem
  obtain ⟨c, -, hc⟩ := List.mem_flatMap.mp hmem
  exact not_mem_encodeChar (by decide) (by decide) (by decide) (by decide) c hc

/-- An encoded character is read as its bytes, whatever comes after it. -/
theorem decode_map_encodeChar (c : Char) (rest : List Char) :
    decode ((encodeChar c ++ rest).map spaced) =
      String.utf8EncodeChar c ++ decode (rest.map spaced) := by
  rw [List.map_append]
  unfold encodeChar
  split
  · next hspace =>
    rw [hspace]
    exact decode_cons_of_ne (by decide) _
  · have hplus : '+' ∉ Url.encodeChar keeps c :=
      Url.not_mem_encodeChar (by decide) (by decide) (by decide) c
    rw [map_spaced_of_not_mem hplus, decode_encodeChar (by decide)]

/-- A name or a value is read as the text that was written. -/
theorem decodeText_encodeText (s : String) : decodeText (encodeText s) = s := by
  have hbytes : ∀ cs : List Char,
      decode ((cs.flatMap encodeChar).map spaced) = Text.utf8 cs := by
    intro cs
    induction cs with
    | nil => rfl
    | cons c cs ih =>
      rw [List.flatMap_cons, decode_map_encodeChar, ih]
      rfl
  change String.ofList (Text.utf8CharsLossy (decode ((encodeText s).map spaced))) = s
  rw [encodeText, hbytes, Text.utf8CharsLossy_utf8, String.ofList_toList]

/-! ## Pairs -/

theorem encodePair_ne_nil (pair : String × String) : encodePair pair ≠ [] := by
  simp [encodePair]

theorem ampersand_not_mem_encodePair (pair : String × String) : '&' ∉ encodePair pair := by
  simp [encodePair, ampersand_not_mem_encodeText]

/-- A pair is read as the name and the value that were written. -/
theorem decodePair_encodePair (pair : String × String) : decodePair (encodePair pair) = pair := by
  have hname : ∀ c ∈ encodeText pair.1, decide (c ≠ '=') = true := by
    intro c hc
    rw [decide_eq_true_eq]
    rintro rfl
    exact equals_not_mem_encodeText pair.1 hc
  rw [decodePair, encodePair, List.takeWhile_append_of_pos hname,
    List.dropWhile_append_of_pos hname, List.takeWhile_cons_of_neg (by simp),
    List.dropWhile_cons_of_neg (by simp), List.append_nil, List.drop_one, List.tail_cons,
    decodeText_encodeText, decodeText_encodeText]

theorem decodePairs_encodePair (pair : String × String) :
    decodePairs (String.ofList (encodePair pair)) = [pair] := by
  rw [decodePairs, String.toList_ofList,
    Text.parts_of_not_mem (ampersand_not_mem_encodePair pair),
    List.filter_cons_of_pos (by simpa using encodePair_ne_nil pair), List.filter_nil,
    List.map_singleton, decodePair_encodePair]

/-- The pairs on both sides of an ampersand are the pairs of the whole. -/
theorem decodePairs_append_self (query rest : List Char) :
    decodePairs (String.ofList (query ++ '&' :: rest)) =
      decodePairs (String.ofList query) ++ decodePairs (String.ofList rest) := by
  simp only [decodePairs, String.toList_ofList, Text.parts_append_self, List.filter_append,
    List.map_append]

/-- Pairs appended to a query are read behind those that it held. -/
theorem decodePairs_append (query : List Char) (pairs : List (String × String)) :
    decodePairs (String.ofList (append query pairs)) =
      decodePairs (String.ofList query) ++ pairs := by
  induction pairs generalizing query with
  | nil => rw [append, List.foldl_nil, List.append_nil]
  | cons pair pairs ih =>
    rw [append, List.foldl_cons, ← append, ih]
    cases query with
    | nil =>
      change decodePairs (String.ofList (encodePair pair)) ++ pairs = pair :: pairs
      rw [decodePairs_encodePair, List.singleton_append]
    | cons c query =>
      have hnext : c :: query ++ ['&'] ++ encodePair pair =
          c :: query ++ '&' :: encodePair pair := by
        simp
      rw [List.isEmpty_cons, if_neg Bool.false_ne_true, hnext, decodePairs_append_self,
        decodePairs_encodePair, List.append_assoc, List.singleton_append]

/-- Appending pairs leaves the text of a query in front of them. -/
theorem prefix_append (query : List Char) (pairs : List (String × String)) :
    query <+: append query pairs := by
  induction pairs generalizing query with
  | nil => exact List.prefix_refl query
  | cons pair pairs ih =>
    refine List.IsPrefix.trans ?_ (ih _)
    dsimp only
    split
    · exact List.prefix_append _ _
    · rw [List.append_assoc]
      exact List.prefix_append _ _

end Mailroom.Url.Form
