import Mailroom.Proofs.Call.Confinement
import Mailroom.Proofs.Url.Form
import Mailroom.Proofs.Url.Recovery

/-!
# Values read back from a path

Where the text of every placeholder survives, the request of an operation of the catalogue is built,
and decoding the segments of its path gives those of the root and behind them the texts of the
template. So calls that give a placeholder different texts never go to the same URL. What a URL has
besides path and query is that of the root, and the query starts with the root's own.
-/

namespace Mailroom.Request

open Url (written pushed Survives)

/-! ## Texts of a template that survive -/

/-- Every placeholder of an operation has a value whose text survives. -/
def Recoverable (values : Dict Json) (op : Operation) : Prop :=
  ∀ name ∈ op.pathParams, ∃ v text, Dict.find? values name = some v ∧ Spells v text ∧
    Survives text.toList

section Texts

variable {values : Dict Json} {parts : List TemplatePart} {texts : List String}

theorem recoverable_iff {op : Operation} :
    Recoverable values op ↔ ∀ name, .placeholder name ∈ op.template →
      ∃ text, valueText? values name = some text ∧ Survives text.toList := by
  simp only [Recoverable, Operation.mem_pathParams_iff, valueText?_eq_some_iff]
  constructor
  · intro h name hname
    obtain ⟨v, text, hfound, hspells, hsurvives⟩ := h name hname
    exact ⟨text, ⟨v, hfound, hspells⟩, hsurvives⟩
  · intro h name hname
    obtain ⟨text, ⟨v, hfound, hspells⟩, hsurvives⟩ := h name hname
    exact ⟨v, text, hfound, hspells, hsurvives⟩

/-- Words survive, so all texts of a template do where those of its placeholders do. -/
theorem survives_of_gives (hgives : List.Forall₂ (Gives values) parts texts)
    (hwords : ∀ word, .fixed word ∈ parts → Url.isWord word.toList = true)
    (hvalues : ∀ name, .placeholder name ∈ parts →
      ∃ text, valueText? values name = some text ∧ Survives text.toList) :
    ∀ text ∈ texts, Survives text.toList := by
  induction hgives with
  | nil => nofun
  | @cons part text parts texts hgive _ ih =>
    refine List.forall_mem_cons.mpr ⟨?_, ih (fun word hword => hwords word
      (List.mem_cons_of_mem _ hword)) fun name hname => hvalues name (List.mem_cons_of_mem _ hname)⟩
    cases part with
    | fixed word =>
      rw [(hgive : text = word)]
      exact Url.survives_word (hwords word List.mem_cons_self)
    | placeholder name =>
      obtain ⟨other, hother, hsurvives⟩ := hvalues name List.mem_cons_self
      rwa [Option.some.inj ((hgive : valueText? values name = some text).symm.trans hother)]

/-- A template filled with the same texts has the same values for its placeholders. -/
theorem valueText?_eq_of_gives {values' : Dict Json}
    (hgives : List.Forall₂ (Gives values) parts texts)
    (hgives' : List.Forall₂ (Gives values') parts texts) {name : String}
    (hname : .placeholder name ∈ parts) : valueText? values name = valueText? values' name := by
  induction hgives with
  | nil => cases hname
  | @cons part text parts texts hgive _ ih =>
    obtain ⟨hgive', hrest'⟩ := List.forall₂_cons.mp hgives'
    rcases List.mem_cons.mp hname with rfl | hname
    · exact (hgive : valueText? values name = some text).trans
        (hgive' : valueText? values' name = some text).symm
    · exact ih hrest' hname

end Texts

/-! ## The URL of a request -/

section Request

variable {base : Url} {baseOptions options : CallOptions} {op : Operation} {request : Request}

/-- Outside its path a request has the URL of the root, with parameters behind the query. -/
theorem url_of_prepare (h : prepare base baseOptions op options = .ok request) :
    request.url = { base with
      path := request.url.path
      query := extendQuery base.query (queryPairs (baseOptions.layered options).query) } := by
  obtain ⟨-, texts, -, rfl⟩ := prepare_eq_ok_iff.mp h
  rfl

/-- The query of a root stands in front of what is added to it. -/
theorem prefix_extendQuery (query : Option String) (pairs : List (String × String)) :
    (query.getD "").toList <+: ((extendQuery query pairs).getD "").toList := by
  unfold extendQuery
  split
  · exact List.prefix_refl _
  · rw [Option.getD_some, String.toList_ofList]
    exact Url.Form.prefix_append _ _

/-- The segments of a root and behind them those of texts that survive. -/
structure Recovered (base : Url) (values : Dict Json) (op : Operation) (texts : List String)
    (url : Url) : Prop where
  gives : List.Forall₂ (Gives values) op.template texts
  survives : ∀ text ∈ texts, Survives text.toList
  path : url.path.toList = Url.joined (Url.directory base.segments ++
    texts.map fun text => written (Url.rulesOf base.scheme) text.toList)

/-- Where every value survives, the path of a request is that of the root and the texts, one segment
each. -/
theorem recovered_of_prepare (hrooted : Url.Rooted base.path.toList)
    (hfile : (Url.rulesOf base.scheme).isFile = false) (hfilled : base.IsFilled)
    (hanchored : Operation.anchored op.template = true)
    (hvalues : Recoverable (baseOptions.layered options).path op)
    (h : prepare base baseOptions op options = .ok request) :
    ∃ texts, Recovered base (baseOptions.layered options).path op texts request.url := by
  obtain ⟨texts, hgives, hpath⟩ := path_of_prepare hrooted hfile h
  have hsurvives := survives_of_gives hgives (fun _ => Operation.isWord_of_anchored hanchored)
    (recoverable_iff.mp hvalues)
  have hbase : Url.Proper base.segments := Url.proper_segmentsOf _
  have hstay : ∀ text ∈ texts, ¬Url.Escapes text.toList :=
    fun text htext => (hsurvives text htext).not_escapes
  refine ⟨texts, hgives, hsurvives, ?_⟩
  rw [hpath, foldl_pushed_eq_append hanchored op.template_ne_nil hgives hstay hbase.closed,
    Url.below_closed hfilled]

namespace Recovered

variable {values values' : Dict Json} {texts texts' : List String} {url url' : Url}

theorem texts_ne_nil (h : Recovered base values op texts url) : texts ≠ [] := by
  rintro rfl
  exact op.template_ne_nil (List.forall₂_nil_right_iff.mp h.gives)

/-- No segment holds a slash, and the texts have a segment each. -/
theorem proper (h : Recovered base values op texts url) :
    Url.Proper (texts.map fun text => written (Url.rulesOf base.scheme) text.toList) where
  ne_nil := by simpa using h.texts_ne_nil
  free := by
    rintro _ hseg
    obtain ⟨text, -, rfl⟩ := List.mem_map.mp hseg
    exact Url.slash_not_mem_written _ _

theorem proper_append (h : Recovered base values op texts url) :
    Url.Proper (Url.directory base.segments ++
      texts.map fun text => written (Url.rulesOf base.scheme) text.toList) where
  ne_nil := by simpa using fun _ => h.texts_ne_nil
  free seg hseg := by
    rcases List.mem_append.mp hseg with hseg | hseg
    · refine (Url.proper_segmentsOf base.path.toList).free seg ?_
      unfold Url.directory at hseg
      split at hseg
      · exact List.dropLast_subset _ hseg
      · exact hseg
    · exact h.proper.free seg hseg

/-- The decoded segments are those of the root and behind them the texts. -/
theorem decode_segments (h : Recovered base values op texts url) :
    url.segments.map Url.decode = (Url.directory base.segments).map Url.decode ++
      texts.map fun text => Text.utf8 text.toList := by
  rw [Url.segments, h.path, Url.segmentsOf_joined h.proper_append, List.map_append, List.map_map]
  congr 1
  exact List.map_congr_left fun text htext => (h.survives text htext).decode_written

/-- No sign ends the path within the texts. -/
theorem mark_not_mem (h : Recovered base values op texts url) {c : Char}
    (hc : c ∈ Url.joined
      (texts.map fun text => written (Url.rulesOf base.scheme) text.toList)) :
    c ≠ '?' ∧ c ≠ '#' := by
  obtain ⟨seg, hseg, hc⟩ := List.mem_flatMap.mp hc
  obtain ⟨text, htext, rfl⟩ := List.mem_map.mp hseg
  rcases List.mem_cons.mp hc with rfl | hc
  · exact ⟨by decide, by decide⟩
  · exact (h.survives text htext).mark_not_mem_written hc

theorem not_two_slashes (h : Recovered base values op texts url) (hfilled : base.IsFilled)
    (rest : List Char) : url.path.toList ≠ '/' :: '/' :: rest := by
  rw [h.path]
  refine Url.not_two_slashes_of_joined h.proper_append (fun seg hseg => ?_) rest
  rcases List.mem_append.mp hseg with hseg | hseg
  · exact hfilled seg hseg
  · obtain ⟨text, htext, rfl⟩ := List.mem_map.mp hseg
    exact (h.survives text htext).written_ne_nil

/-- URLs of one text are made of the same texts. -/
theorem texts_eq (h : Recovered base values op texts url)
    (h' : Recovered base values' op texts' url') (hfilled : base.IsFilled)
    (hscheme : url.scheme = url'.scheme) (hauthority : url.authority = url'.authority)
    (heq : url.text = url'.text) : texts = texts' := by
  have horigin := Url.originText_congr hscheme hauthority (h.not_two_slashes hfilled)
    (h'.not_two_slashes hfilled)
  have hrest := Url.path_rest_eq_of_text_eq horigin (by rw [h.path, Url.joined_append])
    (by rw [h'.path, Url.joined_append]) (fun _ => h.mark_not_mem) (fun _ => h'.mark_not_mem) heq
  have hsegs := congrArg (List.map Url.decode) (congrArg Url.segmentsOf hrest)
  rw [Url.segmentsOf_joined h.proper, Url.segmentsOf_joined h'.proper, List.map_map,
    List.map_map] at hsegs
  have hbytes : texts.map (fun text => Text.utf8 text.toList) =
      texts'.map fun text => Text.utf8 text.toList := by
    rw [← List.map_congr_left fun text htext => (h.survives text htext).decode_written,
      ← List.map_congr_left fun text htext => (h'.survives text htext).decode_written]
    exact hsegs
  refine List.map_injective_iff.mpr (fun text text' htext => ?_) hbytes
  exact String.toList_inj.mp (Url.utf8_injective htext)

end Recovered

/--
For a root on the web without empty segments, but perhaps for one at the end, and an operation of
the catalogue: where each placeholder has a value whose text survives, the request is built.
Decoding the segments of its path gives those of the root, without an empty one at the end, and
behind them the texts of the template, its words and the values as they are. Scheme, host and
fragment are the root's, the query starts with the root's own and is that where there are no
parameters. Another call of the operation that gives some placeholder a different text never has
the same URL.
-/
theorem texts_of_path {address : String} (hparse : Url.parse address = .ok base)
    (hscheme : base.scheme = "http" ∨ base.scheme = "https") (hfilled : base.IsFilled)
    (hop : op ∈ Catalog.operations)
    (hvalues : Recoverable (baseOptions.layered options).path op) :
    ∃ request texts, prepare base baseOptions op options = .ok request ∧
      List.Forall₂ (Gives (baseOptions.layered options).path) op.template texts ∧
      request.url.segments.map Url.decode = (Url.directory base.segments).map Url.decode ++
        texts.map (fun text => Text.utf8 text.toList) ∧
      (request.url.scheme = base.scheme ∧ request.url.authority = base.authority ∧
        request.url.fragment = base.fragment ∧
        (base.query.getD "").toList <+: (request.url.query.getD "").toList ∧
        ((baseOptions.layered options).query = [] → request.url.query = base.query)) ∧
      ∀ baseOptions' options' other, prepare base baseOptions' op options' = .ok other →
        Recoverable (baseOptions'.layered options').path op →
        (∃ name ∈ op.pathParams, valueText? (baseOptions'.layered options').path name ≠
          valueText? (baseOptions.layered options).path name) →
        other.url.text ≠ request.url.text := by
  have hrules : (Url.rulesOf base.scheme).special = true ∧
      (Url.rulesOf base.scheme).isFile = false := by
    rcases hscheme with h | h <;> rw [h] <;> exact ⟨rfl, rfl⟩
  have hrooted := Url.rootedOnWeb_of_parse hparse hrules.1
  have hanchored := Catalog.anchored_template op hop
  have hcarries : base.carriesPath = true := by
    simp [Url.carriesPath, show base.path.toList.head? = some '/' from hrooted]
  have hgiven : ∀ name ∈ op.pathParams, ∃ text,
      valueText? (baseOptions.layered options).path name = some text := by
    intro name hname
    obtain ⟨v, text, hfound, hspells, -⟩ := hvalues name hname
    exact ⟨text, valueText?_eq_some_iff.mpr ⟨v, hfound, hspells⟩⟩
  obtain ⟨url, hprepare⟩ := exists_prepare_eq_ok hcarries baseOptions hgiven
  obtain ⟨texts, hrecovered⟩ :=
    recovered_of_prepare hrooted hrules.2 hfilled hanchored hvalues hprepare
  have hurl := url_of_prepare hprepare
  refine ⟨_, texts, hprepare, hrecovered.gives, hrecovered.decode_segments, ?_, ?_⟩
  · rw [hurl]
    refine ⟨rfl, rfl, rfl, prefix_extendQuery _ _, fun hnone => ?_⟩
    rw [hnone]
    rfl
  · rintro baseOptions' options' other hother hvalues' ⟨name, hname, hdiffer⟩ heq
    obtain ⟨texts', hrecovered'⟩ :=
      recovered_of_prepare hrooted hrules.2 hfilled hanchored hvalues' hother
    have hurl' := url_of_prepare hother
    have htexts : texts' = texts :=
      hrecovered'.texts_eq hrecovered hfilled (by rw [hurl, hurl']) (by rw [hurl, hurl']) heq
    exact hdiffer (valueText?_eq_of_gives hrecovered'.gives (htexts ▸ hrecovered.gives)
      (Operation.mem_pathParams_iff.mp hname))

/-- Options that name a subscriber. -/
def subscriberOptions (id : String) : CallOptions :=
  CallOptions.empty.withPath "id" (.str id)

theorem recoverable_subscriberOptions (id : String) (h : Survives id.toList) :
    Recoverable (CallOptions.empty.layered (subscriberOptions id)).path deletion := by
  have hparams : deletion.pathParams = ["id"] := by rfl
  intro name hname
  rw [hparams, List.mem_singleton] at hname
  rw [hname]
  exact ⟨.str id, id, by rfl, .text id, h⟩

/-- A value that is spelled with signs of its own comes back from the path, and the value that it
would be if these were read is another URL. -/
theorem texts_of_path_signs :
    ∃ request, prepare localBase .empty deletion (subscriberOptions "%2F/\u00e4 ") = .ok request ∧
      request.url.segments.map Url.decode =
        ["api", "subscribers", "%2F/\u00e4 "].map (fun text => Text.utf8 text.toList) ∧
      ∀ other, prepare localBase .empty deletion (subscriberOptions "//\u00e4 ") = .ok other →
        other.url.text ≠ request.url.text := by
  have hparse : Url.parse "http://localhost:9000/api/" = .ok localBase := by rfl
  have hfilled : localBase.IsFilled := by
    unfold Url.IsFilled
    decide
  have hop : deletion ∈ Catalog.operations := by decide
  have hvalue := recoverable_subscriberOptions "%2F/\u00e4 " (by decide)
  obtain ⟨request, texts, hprepare, hgives, hsegs, -, hdiffer⟩ :=
    texts_of_path hparse (.inl rfl) hfilled hop hvalue
  have htemplate : deletion.template = [.fixed "subscribers", .placeholder "id"] := by rfl
  rw [htemplate] at hgives
  obtain ⟨word, rest, hword, hrest, rfl⟩ := List.forall₂_cons_left_iff.mp hgives
  obtain ⟨text, none, htext, hnone, rfl⟩ := List.forall₂_cons_left_iff.mp hrest
  obtain rfl := List.forall₂_nil_left_iff.mp hnone
  obtain rfl : word = "subscribers" := hword
  obtain rfl : "%2F/\u00e4 " = text := Option.some.inj htext
  refine ⟨request, hprepare, hsegs.trans (by rfl), fun other hother => ?_⟩
  refine hdiffer _ _ other hother (recoverable_subscriberOptions "//\u00e4 " (by decide))
    ⟨"id", by decide, ?_⟩
  exact fun hsame => absurd (Option.some.inj hsame) (by decide)

end Request

end Mailroom.Request
