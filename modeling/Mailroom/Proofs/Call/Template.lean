import Mathlib.Data.List.Forall2
import Mailroom.Catalog.Operations
import Mailroom.Proofs.Call.Building
import Mailroom.Proofs.Url.Push

/-!
# Templates and the texts they are filled with

The placeholders of a path are read off it in two ways, with the slashes in front of it and without
them; both find the same names. A template is filled part by part: a fixed part stands for its word,
and a placeholder for the text that the caller gives for it. In the catalogue every placeholder
comes behind a word.
-/

namespace Mailroom

/-! ## The placeholders of a path -/

namespace Operation

/-- Slashes in front of a path add empty segments, which are no placeholders. -/
theorem filterMap_parts_dropWhile (cs : List Char) :
    (Text.parts '/' (cs.dropWhile (· = '/'))).filterMap (fun seg => placeholder? (partOf seg)) =
      (Text.parts '/' cs).filterMap fun seg => placeholder? (partOf seg) := by
  induction cs with
  | nil => rfl
  | cons c cs ih =>
    by_cases hc : c = '/'
    · subst hc
      rw [List.dropWhile_cons_of_pos (by simp), ih, Text.parts_cons_self,
        List.filterMap_cons_none (by rfl)]
    · rw [List.dropWhile_cons_of_neg (by simpa using hc)]

/-- The names read off the path are those of the template's placeholders, in its order. -/
theorem pathParams_eq (op : Operation) : op.pathParams = op.template.filterMap placeholder? := by
  rw [pathParams, ← filterMap_parts_dropWhile, template, List.filterMap_map]
  rfl

theorem mem_pathParams_iff {op : Operation} {name : String} :
    name ∈ op.pathParams ↔ .placeholder name ∈ op.template := by
  rw [pathParams_eq, List.mem_filterMap]
  constructor
  · rintro ⟨part, hpart, hname⟩
    cases part with
    | fixed word => cases hname
    | placeholder other => exact Option.some.inj hname ▸ hpart
  · intro hname
    exact ⟨_, hname, rfl⟩

end Operation

namespace Request

/-! ## Values that fit -/

/-- A text, a number or a truth value, and how it is spelled in a path or a query. -/
inductive Spells : Json → String → Prop where
  | text (s : String) : Spells (.str s) s
  | number (n : Number) : Spells (.num n) n.text
  | truth : Spells (.bool true) "true"
  | falsity : Spells (.bool false) "false"

theorem scalar?_eq_some_iff {v : Json} {text : String} :
    scalar? v = some text ↔ Spells v text := by
  constructor
  · intro h
    cases v with
    | str s => exact Option.some.inj h ▸ .text s
    | num n => exact Option.some.inj h ▸ .number n
    | bool b =>
      cases b with
      | true => exact Option.some.inj h ▸ .truth
      | false => exact Option.some.inj h ▸ .falsity
    | null => cases h
    | arr items => cases h
    | obj fields => cases h
  · rintro (_ | _) <;> rfl

/-! ## The texts of a template -/

/-- The text that a caller gives for a placeholder. -/
def valueText? (values : Dict Json) (name : String) : Option String :=
  (Dict.find? values name).bind scalar?

theorem valueText?_eq_some_iff {values : Dict Json} {name text : String} :
    valueText? values name = some text ↔ ∃ v, Dict.find? values name = some v ∧ Spells v text := by
  simp only [valueText?, Option.bind_eq_some_iff, scalar?_eq_some_iff]

/-- The texts that a part of a template is filled with. -/
def Gives (values : Dict Json) (part : TemplatePart) (text : String) : Prop :=
  match part with
  | .fixed word => text = word
  | .placeholder name => valueText? values name = some text

theorem segment_eq_ok_iff (operation : String) {values : Dict Json} {part : TemplatePart}
    {text : String} : segment operation values part = .ok text ↔ Gives values part text := by
  cases part with
  | fixed word => simp [segment, Gives, eq_comm]
  | placeholder name =>
    simp only [segment, Gives, valueText?]
    cases (Dict.find? values name).bind scalar? <;> simp

/-- A template is filled with texts if every part is filled with its own. -/
theorem segments_eq_ok_iff {operation : String} {values : Dict Json} {parts : List TemplatePart}
    {texts : List String} :
    segments operation values parts = .ok texts ↔ List.Forall₂ (Gives values) parts texts := by
  induction parts generalizing texts with
  | nil => simp [segments, eq_comm]
  | cons part parts ih =>
    rw [segments, List.forall₂_cons_left_iff]
    simp only [← ih, ← segment_eq_ok_iff operation]
    cases segment operation values part with
    | error e => simp
    | ok text => cases segments operation values parts <;> simp [Except.map, eq_comm]

/-- A template is filled where every placeholder has a text. -/
theorem exists_segments_eq_ok (operation : String) {values : Dict Json}
    {parts : List TemplatePart}
    (h : ∀ name, .placeholder name ∈ parts → ∃ text, valueText? values name = some text) :
    ∃ texts, segments operation values parts = .ok texts := by
  simp only [segments_eq_ok_iff]
  induction parts with
  | nil => exact ⟨[], .nil⟩
  | cons part rest ih =>
    obtain ⟨texts, htexts⟩ := ih fun name hname => h name (List.mem_cons_of_mem _ hname)
    cases part with
    | fixed word => exact ⟨word :: texts, .cons rfl htexts⟩
    | placeholder name =>
      obtain ⟨text, htext⟩ := h name List.mem_cons_self
      exact ⟨text :: texts, .cons htext htexts⟩

/-- A request is built where the root carries paths and every placeholder has a text. -/
theorem exists_prepare_eq_ok {base : Url} (hbase : base.carriesPath = true)
    (baseOptions : CallOptions) {op : Operation} {options : CallOptions}
    (h : ∀ name ∈ op.pathParams, ∃ text,
      valueText? (baseOptions.layered options).path name = some text) :
    ∃ url, prepare base baseOptions op options = .ok ⟨op.name, op.method, url,
      (baseOptions.layered options).headers, (baseOptions.layered options).body⟩ := by
  have hvalues : ∀ name, .placeholder name ∈ op.template →
      ∃ text, valueText? (baseOptions.layered options).path name = some text :=
    fun name hname => h name (Operation.mem_pathParams_iff.mpr hname)
  obtain ⟨texts, htexts⟩ := exists_segments_eq_ok op.name hvalues
  exact ⟨_, prepare_eq_ok_iff.mpr ⟨hbase, texts, htexts, rfl⟩⟩

end Request

/-! ## Templates with their placeholders behind words -/

namespace Operation

/-- Whether the fixed parts are words and every placeholder comes directly behind one. -/
def anchored (parts : List TemplatePart) : Bool :=
  match parts with
  | [] => true
  | .fixed word :: .placeholder _ :: rest => Url.isWord word.toList && anchored rest
  | .fixed word :: rest => Url.isWord word.toList && anchored rest
  | .placeholder _ :: _ => false

theorem isWord_of_anchored {parts : List TemplatePart} (h : anchored parts = true) {word : String}
    (hword : .fixed word ∈ parts) : Url.isWord word.toList = true := by
  fun_induction anchored parts with
  | case1 => cases hword
  | case2 first name rest ih =>
    rw [Bool.and_eq_true] at h
    rcases List.mem_cons.mp hword with hfirst | hword
    · rw [TemplatePart.fixed.inj hfirst]
      exact h.1
    rcases List.mem_cons.mp hword with hname | hword
    · cases hname
    · exact ih h.2 hword
  | case3 first rest _ ih =>
    rw [Bool.and_eq_true] at h
    rcases List.mem_cons.mp hword with hfirst | hword
    · rw [TemplatePart.fixed.inj hfirst]
      exact h.1
    · exact ih h.2 hword
  | case4 => cases h

/-- A template with its placeholders behind words starts with a word. -/
theorem eq_cons_of_anchored {parts : List TemplatePart} (h : anchored parts = true)
    (hne : parts ≠ []) :
    ∃ word rest, parts = .fixed word :: rest ∧ Url.isWord word.toList = true := by
  match parts, hne with
  | .fixed word :: rest, _ => exact ⟨word, rest, rfl, isWord_of_anchored h List.mem_cons_self⟩
  | .placeholder name :: rest, _ => cases h

theorem template_ne_nil (op : Operation) : op.template ≠ [] := by
  rw [template, Ne, List.map_eq_nil_iff]
  exact Text.parts_ne_nil '/' _

end Operation

/-- Every placeholder of the catalogue comes behind a word. -/
theorem Catalog.anchored_template :
    ∀ op ∈ Catalog.operations, Operation.anchored op.template = true := by
  decide +kernel

end Mailroom
