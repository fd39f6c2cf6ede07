import Mailroom.Proofs.Call.Template
import Mailroom.Proofs.Url.Rooted

/-!
# Requests stay below the path of their base

The texts of a template become the segments behind the path of the base URL, one each, unless a
value escapes: then a segment is missing and the request goes to another place. A request that stays
below the base is one of another operation only where words stand for words.
-/

namespace Mailroom

namespace Url

/-- The segments of the path of a URL. -/
def segments (u : Url) : List (List Char) :=
  segmentsOf u.path.toList

/-- No segment of the path is empty, except for one at the end. -/
def IsFilled (u : Url) : Prop :=
  ∀ seg ∈ directory u.segments, seg ≠ []

end Url

namespace Request

open Url (written pushed below Escapes)

/-! ## URLs of an operation -/

/-- A segment that may stand for a part of a template: the word of a fixed one, anything for a
placeholder. -/
def Fills (seg : List Char) (part : TemplatePart) : Prop :=
  match part with
  | .fixed word => seg = word.toList
  | .placeholder _ => True

/-- A URL of an operation: the segments of the base and one more for every part of the template. -/
def Confined (base : Url) (op : Operation) (url : Url) : Prop :=
  ∃ filled, url.segments = Url.directory base.segments ++ filled ∧
    List.Forall₂ Fills filled op.template

/-- A part that stands for a part of another template, with the values that a caller gives. -/
def Meets (values : Dict Json) (part other : TemplatePart) : Prop :=
  match part, other with
  | _, .placeholder _ => True
  | .fixed word, .fixed otherWord => word = otherWord
  | .placeholder name, .fixed otherWord =>
    ∃ text, valueText? values name = some text ∧ Url.significant text.toList = otherWord.toList

/-! ## The path of a request -/

section Path

variable {values : Dict Json} {parts : List TemplatePart} {texts : List String}

/-- Only the values of placeholders escape. -/
theorem not_escapes_iff (hgives : List.Forall₂ (Gives values) parts texts)
    (hwords : ∀ word, .fixed word ∈ parts → Url.isWord word.toList = true) :
    (∀ text ∈ texts, ¬ Escapes text.toList) ↔
      ∀ name text, .placeholder name ∈ parts → valueText? values name = some text →
        ¬ Escapes text.toList := by
  induction hgives with
  | nil => simp
  | @cons part text parts texts hgive _ ih =>
    have hrest := ih fun word hword => hwords word (List.mem_cons_of_mem _ hword)
    rw [List.forall_mem_cons, hrest]
    cases part with
    | fixed word =>
      have htext : text = word := hgive
      have hstays : ¬ Escapes text.toList :=
        htext ▸ Url.not_escapes_word (hwords word List.mem_cons_self)
      simp [hstays]
    | placeholder name =>
      have hvalue : valueText? values name = some text := hgive
      constructor
      · rintro ⟨htext, hothers⟩ other otherText hother hotherText
        rcases List.mem_cons.mp hother with hname | hother
        · rw [TemplatePart.placeholder.inj hname, hvalue, Option.some.injEq] at hotherText
          exact hotherText ▸ htext
        · exact hothers other otherText hother hotherText
      · intro h
        exact ⟨h name text List.mem_cons_self hvalue,
          fun other otherText hother => h other otherText (List.mem_cons_of_mem _ hother)⟩

/-- With a value that escapes a path has fewer segments than the template has parts. -/
theorem length_below_lt_of_escapes (rules : Url.PathRules)
    (hanchored : Operation.anchored parts = true)
    (hgives : List.Forall₂ (Gives values) parts texts)
    (hescapes : ∃ text ∈ texts, Escapes text.toList) (segs : List (List Char)) :
    (below ((texts.map String.toList).foldl (pushed rules) segs)).length <
      (below segs).length + parts.length := by
  fun_induction Operation.anchored parts generalizing texts segs with
  | case1 =>
    cases hgives
    obtain ⟨text, htext, -⟩ := hescapes
    cases htext
  | case2 word name rest ih =>
    rw [Bool.and_eq_true] at hanchored
    obtain ⟨first, texts, hfirst, htexts, rfl⟩ := List.forall₂_cons_left_iff.mp hgives
    obtain ⟨text, texts, -, hrest, rfl⟩ := List.forall₂_cons_left_iff.mp htexts
    have hword : Url.isWord first.toList = true := (hfirst : first = word) ▸ hanchored.1
    have hstep : pushed rules segs first.toList = below segs ++ [first.toList] :=
      Url.pushed_word hword
    simp only [List.map_cons, List.foldl_cons, List.length_cons, hstep]
    have hothers : ∃ other ∈ text :: texts, Escapes other.toList :=
      ((List.exists_mem_cons_iff _ _ _).mp hescapes).resolve_left (Url.not_escapes_word hword)
    -- either the value behind the word escapes, or one of those behind it does
    by_cases htext : Escapes text.toList
    · have hnone := Url.length_below_pushed_le_of_escapes rules (below segs) hword htext
      have hlater := Url.length_below_foldl_le rules
        (pushed rules (below segs ++ [first.toList]) text.toList) (texts.map String.toList)
      rw [List.length_map, ← hrest.length_eq] at hlater
      omega
    · have hone := Url.length_below_pushed_le rules (below segs ++ [first.toList]) text.toList
      have hfirst := Url.length_below_concat_le (below segs) first.toList
      have hlater : ∃ text ∈ texts, Escapes text.toList :=
        ((List.exists_mem_cons_iff _ _ _).mp hothers).resolve_left htext
      have := ih hanchored.2 hrest hlater
        (pushed rules (below segs ++ [first.toList]) text.toList)
      omega
  | case3 word rest _ ih =>
    rw [Bool.and_eq_true] at hanchored
    obtain ⟨first, texts, hfirst, hrest, rfl⟩ := List.forall₂_cons_left_iff.mp hgives
    have hword : Url.isWord first.toList = true := (hfirst : first = word) ▸ hanchored.1
    have hone := Url.length_below_pushed_le rules segs first.toList
    have hothers : ∃ text ∈ texts, Escapes text.toList :=
      ((List.exists_mem_cons_iff _ _ _).mp hescapes).resolve_left (Url.not_escapes_word hword)
    have := ih hanchored.2 hrest hothers (pushed rules segs first.toList)
    simp only [List.map_cons, List.foldl_cons, List.length_cons]
    omega
  | case4 => cases hanchored

/-- Without a value that escapes every part of the template is one segment. -/
theorem foldl_pushed_eq_append {rules : Url.PathRules}
    (hanchored : Operation.anchored parts = true) (hne : parts ≠ [])
    (hgives : List.Forall₂ (Gives values) parts texts)
    (hstay : ∀ text ∈ texts, ¬ Escapes text.toList) {segs : List (List Char)}
    (hsegs : Url.Proper segs) :
    (texts.map String.toList).foldl (pushed rules) segs =
      below segs ++ texts.map fun text => written rules text.toList := by
  obtain ⟨word, rest, rfl, hword⟩ := Operation.eq_cons_of_anchored hanchored hne
  obtain ⟨first, texts, hfirst, -, rfl⟩ := List.forall₂_cons_left_iff.mp hgives
  rw [← (hfirst : first = word)] at hword
  have hstep : pushed rules segs first.toList = below segs ++ [first.toList] :=
    Url.pushed_word hword
  have hfirstWritten : written rules first.toList = first.toList :=
    (Url.written_eq_word_iff hword).mpr (Url.significant_word hword)
  have hothers : ∀ text ∈ texts.map String.toList, ¬ Escapes text := by
    intro text htext
    obtain ⟨other, hother, rfl⟩ := List.mem_map.mp htext
    exact hstay other (List.mem_cons_of_mem _ hother)
  rw [List.map_cons, List.foldl_cons, hstep,
    Url.foldl_pushed_of_not_escapes (hstep ▸ hsegs.pushed) (Url.concat_word_ne_root hword) hothers,
    List.map_cons, hfirstWritten, List.map_map, List.append_assoc, List.singleton_append]
  rfl

/-! ## Templates that a path fits -/

/-- The segment of a text stands for a part of another template if the two parts meet. -/
theorem fills_written_iff {rules : Url.PathRules} {part other : TemplatePart} {text : String}
    (hgives : Gives values part text)
    (hpart : ∀ word, part = .fixed word → Url.isWord word.toList = true)
    (hother : ∀ word, other = .fixed word → Url.isWord word.toList = true) :
    Fills (written rules text.toList) other ↔ Meets values part other := by
  cases other with
  | placeholder name => cases part <;> exact iff_of_true trivial trivial
  | fixed otherWord =>
    rw [Fills, Url.written_eq_word_iff (hother otherWord rfl)]
    cases part with
    | fixed word =>
      rw [(hgives : text = word), Url.significant_word (hpart word rfl), String.toList_inj]
      rfl
    | placeholder name =>
      have hvalue : valueText? values name = some text := hgives
      simp only [Meets, hvalue, Option.some.injEq, exists_eq_left']

/-- Segments of texts fit another template if its parts meet those of their own. -/
theorem forall₂_fills_iff {rules : Url.PathRules} (hgives : List.Forall₂ (Gives values) parts texts)
    {others : List TemplatePart}
    (hparts : ∀ word, .fixed word ∈ parts → Url.isWord word.toList = true)
    (hothers : ∀ word, .fixed word ∈ others → Url.isWord word.toList = true) :
    List.Forall₂ Fills (texts.map fun text => written rules text.toList) others ↔
      List.Forall₂ (Meets values) parts others := by
  induction hgives generalizing others with
  | nil => simp
  | @cons part text parts texts hgive _ ih =>
    cases others with
    | nil => simp
    | cons other others =>
      have hrest := ih (fun word hword => hparts word (List.mem_cons_of_mem _ hword))
        (fun word hword => hothers word (List.mem_cons_of_mem _ hword))
      have hfirst : Fills (written rules text.toList) other ↔ Meets values part other :=
        fills_written_iff hgive (fun word hword => hparts word (by simp [hword]))
          (fun word hword => hothers word (by simp [hword]))
      rw [List.map_cons, List.forall₂_cons, List.forall₂_cons, hfirst, hrest]

end Path

/-! ## Requests -/

section Request

variable {base : Url} {baseOptions options : CallOptions} {op : Operation} {request : Request}

/-- The path of a filled template is the base's with the texts pushed onto it. -/
theorem path_filled (hrooted : Url.Rooted base.path.toList)
    (hfile : (Url.rulesOf base.scheme).isFile = false) (op : Operation) (merged : CallOptions)
    (texts : List String) :
    (filled base op merged texts).url.path.toList = Url.joined ((texts.map String.toList).foldl
      (pushed (Url.rulesOf base.scheme)) (Url.closed base.segments)) := by
  have hbase : Url.Proper base.segments := Url.proper_segmentsOf _
  have hpath : Url.joined base.segments = base.path.toList := Url.joined_segmentsOf hrooted
  have hpushed := Url.foldl_pushSegment_joined hfile hbase.closed (texts.map String.toList)
  rw [← Url.popTrailingSlash_joined hbase, hpath, List.foldl_map] at hpushed
  rw [filled_path, extendPath, String.toList_ofList]
  exact hpushed

/-- The path of a request is the base's with the texts of the template pushed onto it. -/
theorem path_of_prepare (hrooted : Url.Rooted base.path.toList)
    (hfile : (Url.rulesOf base.scheme).isFile = false)
    (h : prepare base baseOptions op options = .ok request) :
    ∃ texts, List.Forall₂ (Gives (baseOptions.layered options).path) op.template texts ∧
      request.url.path.toList = Url.joined ((texts.map String.toList).foldl
        (pushed (Url.rulesOf base.scheme)) (Url.closed base.segments)) := by
  obtain ⟨-, texts, htexts, rfl⟩ := prepare_eq_ok_iff.mp h
  exact ⟨texts, segments_eq_ok_iff.mp htexts, path_filled hrooted hfile op _ texts⟩

theorem segments_of_prepare (hrooted : Url.Rooted base.path.toList)
    (hfile : (Url.rulesOf base.scheme).isFile = false)
    (h : prepare base baseOptions op options = .ok request) :
    ∃ texts, List.Forall₂ (Gives (baseOptions.layered options).path) op.template texts ∧
      request.url.segments = (texts.map String.toList).foldl (pushed (Url.rulesOf base.scheme))
        (Url.closed base.segments) := by
  obtain ⟨texts, hgives, hpath⟩ := path_of_prepare hrooted hfile h
  have hbase : Url.Proper base.segments := Url.proper_segmentsOf _
  refine ⟨texts, hgives, ?_⟩
  rw [Url.segments, hpath, Url.segmentsOf_joined (hbase.closed.foldl_pushed _)]

/-- Where a path ends in segments of texts, it is confined to the operations that the parts of the
template meet. -/
theorem confined_iff_meets {url : Url} {rules : Url.PathRules} {values : Dict Json}
    {texts : List String} {other : Operation}
    (hsegs : url.segments =
      Url.directory base.segments ++ texts.map fun text => written rules text.toList)
    (hgives : List.Forall₂ (Gives values) op.template texts)
    (hop : Operation.anchored op.template = true)
    (hother : Operation.anchored other.template = true) :
    Confined base other url ↔ List.Forall₂ (Meets values) op.template other.template := by
  rw [← forall₂_fills_iff hgives (fun _ => Operation.isWord_of_anchored hop)
    (fun _ => Operation.isWord_of_anchored hother)]
  constructor
  · rintro ⟨filled, hfilled, hfills⟩
    rw [hsegs] at hfilled
    rw [List.append_cancel_left hfilled]
    exact hfills
  · intro hfills
    exact ⟨_, hsegs, hfills⟩

/-- A confined path is longer than that of the root alone. -/
theorem below_eq_of_confined {url : Url} (hop : Operation.anchored op.template = true)
    (h : Confined base op url) : below url.segments = url.segments := by
  obtain ⟨filled, hsegs, hfills⟩ := h
  obtain ⟨word, rest, htemplate, hword⟩ :=
    Operation.eq_cons_of_anchored hop op.template_ne_nil
  rw [htemplate] at hfills
  obtain ⟨seg, more, hseg, -, rfl⟩ := List.forall₂_cons_right_iff.mp hfills
  have hne : url.segments ≠ [[]] := by
    intro hroot
    have hmem : seg ∈ url.segments := by simp [hsegs]
    rw [hroot, List.mem_singleton] at hmem
    exact Url.isWord_ne_nil hword ((hseg : seg = word.toList).symm.trans hmem)
  rw [below, if_neg hne]

/-- A confined path has a segment for every part of the template. -/
theorem length_of_confined {url : Url} (h : Confined base op url) :
    url.segments.length = (Url.directory base.segments).length + op.template.length := by
  obtain ⟨filled, hsegs, hfills⟩ := h
  rw [hsegs, List.length_append, hfills.length_eq]

/-- No text of a confined path escapes. -/
theorem not_escapes_of_confined {url : Url} {rules : Url.PathRules} {values : Dict Json}
    {texts : List String} (hfilled : base.IsFilled)
    (hsegs : url.segments =
      (texts.map String.toList).foldl (pushed rules) (Url.closed base.segments))
    (hgives : List.Forall₂ (Gives values) op.template texts)
    (hop : Operation.anchored op.template = true) (h : Confined base op url) :
    ∀ text ∈ texts, ¬ Escapes text.toList := by
  intro text htext hescapes
  have hshort := length_below_lt_of_escapes rules hop hgives ⟨text, htext, hescapes⟩
    (Url.closed base.segments)
  rw [← hsegs, below_eq_of_confined hop h, length_of_confined h, Url.below_closed hfilled] at hshort
  exact Nat.lt_irrefl _ hshort

/--
The path of a prepared request has exactly the segments of the base, one at the end left out if it
is empty, and one for every part of the template, with its words unchanged, if and only if no value
of a placeholder is a dot, or two dots once its tabs and line ends are dropped. The request then has
the path of another operation exactly if their templates meet: a word stands for the same word, and
a value for a word that it spells.
-/
theorem confined_iff_values_stay {address : String} (hparse : Url.parse address = .ok base)
    (hscheme : base.scheme = "http" ∨ base.scheme = "https") (hfilled : base.IsFilled)
    (hop : op ∈ Catalog.operations)
    (hprepare : prepare base baseOptions op options = .ok request) :
    (Confined base op request.url ↔
      ∀ name text, .placeholder name ∈ op.template →
        valueText? (baseOptions.layered options).path name = some text →
          ¬ Escapes text.toList) ∧
    (Confined base op request.url →
      ∀ other ∈ Catalog.operations, Confined base other request.url ↔
        List.Forall₂ (Meets (baseOptions.layered options).path) op.template other.template) := by
  have hrules : (Url.rulesOf base.scheme).special = true ∧
      (Url.rulesOf base.scheme).isFile = false := by
    rcases hscheme with h | h <;> rw [h] <;> exact ⟨rfl, rfl⟩
  have hrooted := Url.rootedOnWeb_of_parse hparse hrules.1
  have hanchored := Catalog.anchored_template op hop
  have hbase : Url.Proper base.segments := Url.proper_segmentsOf _
  obtain ⟨texts, hgives, hsegs⟩ := segments_of_prepare hrooted hrules.2 hprepare
  have hstay : (∀ text ∈ texts, ¬ Escapes text.toList) ↔ _ :=
    not_escapes_iff hgives fun _ => Operation.isWord_of_anchored hanchored
  have hmeets : (∀ text ∈ texts, ¬ Escapes text.toList) → ∀ other ∈ Catalog.operations,
      Confined base other request.url ↔
        List.Forall₂ (Meets (baseOptions.layered options).path) op.template other.template := by
    intro htexts other hother
    rw [foldl_pushed_eq_append hanchored op.template_ne_nil hgives htexts hbase.closed,
      Url.below_closed hfilled] at hsegs
    exact confined_iff_meets hsegs hgives hanchored (Catalog.anchored_template other hother)
  refine ⟨⟨fun hconfined => ?_, fun hvalues => ?_⟩, fun hconfined => hmeets ?_⟩
  · exact hstay.mp (not_escapes_of_confined hfilled hsegs hgives hanchored hconfined)
  · rw [hmeets (hstay.mpr hvalues) op hop, List.forall₂_same]
    intro part _
    cases part with
    | fixed word => rfl
    | placeholder name => trivial
  · exact not_escapes_of_confined hfilled hsegs hgives hanchored hconfined

end Request

/-! ## Two deletions -/

/-- A server on this computer. -/
def localBase : Url :=
  ⟨"http", some ⟨"", none, "localhost", some 9000⟩, "/api/", none, none⟩

/-- The deletion of one subscriber. -/
def deletion : Operation :=
  ⟨"deleteSubscriberById", .delete, "/subscribers/\x7bid\x7d"⟩

/-- The deletion of subscribers in bulk. -/
def bulkDeletion : Operation :=
  ⟨"deleteSubscribers", .delete, "/subscribers"⟩

/-- A value of dots and slashes is one segment, and its request is no deletion in bulk. -/
theorem confined_of_dots_and_slashes :
    ∃ request, prepare localBase .empty deletion
        (CallOptions.empty.withPath "id" (.str "../a b")) = .ok request ∧
      Confined localBase deletion request.url ∧ ¬ Confined localBase bulkDeletion request.url := by
  have hprepare : prepare localBase .empty deletion
      (CallOptions.empty.withPath "id" (.str "../a b")) =
        .ok ⟨"deleteSubscriberById", .delete,
          { localBase with path := "/api/subscribers/..%2Fa%20b" }, [], none⟩ := by rfl
  have hparse : Url.parse "http://localhost:9000/api/" = .ok localBase := by rfl
  have hfilled : localBase.IsFilled := by
    unfold Url.IsFilled
    decide
  have htemplate : deletion.template = [.fixed "subscribers", .placeholder "id"] := by rfl
  have hop : deletion ∈ Catalog.operations := by decide
  have hbulk : bulkDeletion ∈ Catalog.operations := by decide
  obtain ⟨hconfined, hothers⟩ := confined_iff_values_stay hparse (.inl rfl) hfilled hop hprepare
  have hvalue : valueText? (CallOptions.empty.layered
      (CallOptions.empty.withPath "id" (.str "../a b"))).path "id" = some "../a b" := by rfl
  have hstays := hconfined.mpr fun name text hname htext => by
    have hid : name = "id" := by simpa [htemplate] using hname
    rw [hid, hvalue, Option.some.injEq] at htext
    rw [← htext]
    decide
  refine ⟨_, hprepare, hstays, ?_⟩
  rw [hothers hstays bulkDeletion hbulk]
  intro hmeets
  exact absurd hmeets.length_eq (by decide)

/-- The value of a dot is left out, and the request for one subscriber is the deletion in bulk. -/
theorem bulkDeletion_of_dot :
    Url.parse "http://localhost:9000/api/" = .ok localBase ∧
    deletion ∈ Catalog.operations ∧ bulkDeletion ∈ Catalog.operations ∧
    ∃ request bulkRequest,
      prepare localBase .empty deletion (CallOptions.empty.withPath "id" (.str ".")) = .ok request ∧
      prepare localBase .empty bulkDeletion .empty = .ok bulkRequest ∧
      request.method = bulkRequest.method ∧ request.url = bulkRequest.url ∧
      ¬ Confined localBase deletion request.url := by
  refine ⟨by rfl, by decide, by decide,
    ⟨"deleteSubscriberById", .delete, { localBase with path := "/api/subscribers" }, [], none⟩,
    ⟨"deleteSubscribers", .delete, { localBase with path := "/api/subscribers" }, [], none⟩,
    by rfl, by rfl, rfl, rfl, ?_⟩
  rintro ⟨filled, hsegs, hfills⟩
  have hlength := congrArg List.length hsegs
  rw [List.length_append, hfills.length_eq] at hlength
  exact absurd hlength (by decide)

end Request

end Mailroom
