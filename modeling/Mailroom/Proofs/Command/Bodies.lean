import Mailroom.Proofs.Command.Fields
import Mailroom.Proofs.Command.Nested

/-!
# Bodies of fields

A body takes its fields one after the other, the typed ones first. What a field gives stands in the
body at the path of its key, unless a later field has a path that leads on from it or to it, and
nothing stands at a path that is apart from those of all fields.
-/

namespace Mailroom

namespace BodySource

/-- The fields of a body in the order in which they are laid, each with what its text stands for. -/
def given (b : BodySource) : List (String × (String → Json)) :=
  b.typedFields.map (·, Field.typedValue) ++ b.plainFields.map (·, Json.str)

theorem fst_mem_of_mem_given {b : BodySource} {g : String × (String → Json)} (h : g ∈ b.given) :
    g.1 ∈ b.typedFields ++ b.plainFields := by
  rcases List.mem_append.mp h with h | h <;> obtain ⟨field, hfield, rfl⟩ := List.mem_map.mp h
  · exact List.mem_append_left _ hfield
  · exact List.mem_append_right _ hfield

end BodySource

namespace Field

/-- Fields give entries one by one, each in its own way. -/
abbrev Give (given : List (String × (String → Json))) (entries : List (String × Json)) : Prop :=
  List.Forall₂ (fun g e => Gives g.2 g.1 e) given entries

variable {given before after : List (String × (String → Json))} {entries : List (String × Json)}
  {field name text : String} {value : String → Json}

theorem give_of_entries {b : BodySource}
    (h : Field.entries b.typedFields b.plainFields = .ok entries) : Give b.given entries := by
  obtain ⟨first, last, hfirst, hlast, rfl⟩ := entries_eq_ok_iff.mp h
  have htyped : Give (b.typedFields.map (·, typedValue)) first :=
    List.forall₂_map_left_iff.mpr hfirst
  have hplain : Give (b.plainFields.map (·, Json.str)) last :=
    List.forall₂_map_left_iff.mpr hlast
  exact List.rel_append htyped hplain

/-- An entry that fields give has the name that one of them gives. -/
theorem Give.exists_names (h : Give given entries) {e : String × Json} (he : e ∈ entries) :
    ∃ g ∈ given, ∃ text, Names g.1 e.1 text := by
  induction h with
  | nil => cases he
  | cons hfirst _ ih =>
    rcases List.mem_cons.mp he with rfl | he
    · obtain ⟨text, hnames, -⟩ := hfirst
      exact ⟨_, List.mem_cons_self, text, hnames⟩
    · obtain ⟨g, hg, hnamed⟩ := ih he
      exact ⟨g, List.mem_cons_of_mem _ hg, hnamed⟩

/-- Entries have the paths of the fields that give them, so they are apart from whatever those
are apart from. -/
theorem Give.apart (h : Give given entries) {p : List String}
    (hapart : ∀ g ∈ given, ∀ key text, Names g.1 key text → Apart (path key) p) :
    ∀ e ∈ entries, Apart (path e.1) p := by
  intro e he
  obtain ⟨g, hg, text, hnames⟩ := h.exists_names he
  exact hapart g hg e.1 text hnames

/-- The entry of a field stands between those of the fields before it and those of the fields after
it. -/
theorem Give.exists_between (h : Give (before ++ (field, value) :: after) entries)
    (hnames : Names field name text) : ∃ earlier later,
      entries = earlier ++ (name, value text) :: later ∧ Give after later := by
  induction before generalizing entries with
  | nil =>
    obtain ⟨⟨key, v⟩, later, ⟨text', hnames', hvalue⟩, hafter, rfl⟩ :=
      List.forall₂_cons_left_iff.mp h
    obtain ⟨rfl, rfl⟩ := hnames.unique hnames'
    exact ⟨[], later, congrArg (fun v => (name, v) :: later) hvalue.symm, hafter⟩
  | cons g before ih =>
    obtain ⟨e, rest, -, hrest, rfl⟩ := List.forall₂_cons_left_iff.mp h
    obtain ⟨earlier, later, rfl, hafter⟩ := ih hrest
    exact ⟨e :: earlier, later, rfl, hafter⟩

/-- What a field gives stands at its path if no later field has a path that leads on from it or to
it. -/
theorem Give.at?_putAll (h : Give (before ++ (field, value) :: after) entries)
    (hnames : Names field name text)
    (hapart : ∀ g ∈ after, ∀ key text, Names g.1 key text → Apart (path key) (path name))
    (fields : Dict Json) :
    (Json.obj (putAll fields entries)).at? (path name) = some (value text) := by
  obtain ⟨earlier, later, rfl, hlater⟩ := h.exists_between hnames
  exact Field.at?_putAll fields earlier (value text) (hlater.apart hapart)

end Field

namespace BodySource

/-- With fields a body is what they are laid over, with their entries stored in it. -/
theorem body_of_entries {b : BodySource} {inputs : Inputs} {document : Option Json}
    {fields : Dict Json} {entries : List (String × Json)}
    (hdocument : b.document inputs = .ok document) (hsome : b.hasNoFields = false)
    (hground : ground document = .ok fields)
    (hentries : Field.entries b.typedFields b.plainFields = .ok entries) :
    b.body inputs = .ok (some (.obj (Field.putAll fields entries))) := by
  rw [body, hdocument]
  simp only [hsome, Bool.false_eq_true, if_false, hground, hentries]
  rfl

theorem hasNoFields_eq_false_iff {b : BodySource} :
    b.hasNoFields = false ↔ b.typedFields ++ b.plainFields ≠ [] := by
  rw [hasNoFields, ne_eq, List.append_eq_nil_iff, ← List.isEmpty_iff, ← List.isEmpty_iff,
    ← Bool.and_eq_true, Bool.not_eq_true]

end BodySource

namespace Field

/--
A key with dots is a path of the texts between them. Storing a value under a key puts it at this
path and leaves every path apart from it as it was (`Stored`). Two values under keys with paths
apart from one another may be stored in either order, and of two values under one key the second one
stays. So without a document a body made of well-formed fields holds the value of each field, those
of the typed ones first and then those of the plain ones, at the path of its key where no later
field has a path that leads on from it or to it; at a path apart from those of all fields it holds
nothing.
-/
theorem paths_of_fields :
    (∀ key segments, path key = segments ↔ segments ≠ [] ∧
      (∀ segment ∈ segments, '.' ∉ segment.toList) ∧ ".".intercalate segments = key) ∧
    (∀ fields key v, Stored fields (put fields key v) (path key) v) ∧
    (∀ fields key other v w, Apart (path key) (path other) →
      put (put fields key v) other w = put (put fields other w) key v) ∧
    (∀ fields key v w, put (put fields key v) key w = put fields key w) ∧
    ∀ typed plain inputs, (∀ field ∈ typed ++ plain, WellFormed field) →
      ∃ body, (BodySource.mk typed plain none).body inputs = .ok body ∧
        (body = none ↔ typed ++ plain = []) ∧
        (∀ before field value after name text,
          (BodySource.mk typed plain none).given = before ++ (field, value) :: after →
          Names field name text →
          (∀ g ∈ after, ∀ key text, Names g.1 key text → Apart (path key) (path name)) →
          body.bind (·.at? (path name)) = some (value text)) ∧
        ∀ q, q ≠ [] → (∀ field ∈ typed ++ plain, ∀ key text, Names field key text →
          Apart (path key) q) → body.bind (·.at? q) = none := by
  refine ⟨fun key segments => path_eq_iff,
    fun fields key v => stored_setAt fields (path_ne_nil key) v,
    fun fields key other v w h => setAt_comm fields h v w,
    fun fields key v w => setAt_setAt_self fields (path key) v w, ?_⟩
  intro typed plain inputs hwell
  obtain ⟨entries, hentries⟩ := exists_entries_eq_ok_iff.mpr hwell
  have hgive := give_of_entries (b := .mk typed plain none) hentries
  by_cases hnil : typed ++ plain = []
  · obtain ⟨rfl, rfl⟩ := List.append_eq_nil_iff.mp hnil
    refine ⟨none, rfl, by simp, fun before field value after name text hgiven => ?_,
      fun q _ _ => rfl⟩
    exact absurd hgiven.symm (by simp [BodySource.given])
  · have hbody : (BodySource.mk typed plain none).body inputs =
        .ok (some (.obj (putAll [] entries))) :=
      BodySource.body_of_entries rfl (BodySource.hasNoFields_eq_false_iff.mpr hnil) rfl hentries
    refine ⟨_, hbody, by simp [hnil], fun before field value after name text hgiven hnames hapart =>
      ?_, fun q hq hapart => ?_⟩
    · rw [hgiven] at hgive
      exact hgive.at?_putAll hnames hapart []
    · have hentriesApart := hgive.apart fun g hg => hapart g.1 (BodySource.fst_mem_of_mem_given hg)
      rw [Option.bind_some, at?_putAll_of_apart [] hentriesApart]
      cases q with
      | nil => exact absurd rfl hq
      | cons key q => rfl

/-- The path of a field is apart from another one if that of its name is. -/
theorem apart_of_split {p : List String} (h : split field = .ok (name, text))
    (hapart : Apart (path name) p) : ∀ key other, Names field key other → Apart (path key) p := by
  intro key other hnames
  rw [← (hnames.unique (split_eq_ok_iff.mp h)).1] at hapart
  exact hapart

/-- A text on the way to a later field gives way to an object, which keeps all later fields. -/
theorem paths_of_fields_replaced : ∃ body,
    (BodySource.mk ["attribs=none", "attribs.city=Harare", "lists=[3]"] ["attribs.zip=00263"]
      none).body ⟨fun _ => .error .notFound, []⟩ = .ok body ∧
    body.bind (·.at? ["attribs", "city"]) = some (.str "Harare") ∧
    body.bind (·.at? ["attribs", "zip"]) = some (.str "00263") ∧
    body.bind (·.at? ["name"]) = none := by
  have hwell : ∀ field ∈ ["attribs=none", "attribs.city=Harare", "lists=[3]"] ++
      ["attribs.zip=00263"], WellFormed field := by
    intro field hfield
    have hok : (split field).toBool = true := by
      revert field
      decide
    cases hsplit : split field with
    | error e =>
      rw [hsplit] at hok
      cases hok
    | ok e => exact (exists_split_eq_ok_iff field).mp ⟨e, hsplit⟩
  obtain ⟨-, -, -, -, hbodies⟩ := paths_of_fields
  obtain ⟨body, hbody, -, hfields, hothers⟩ :=
    hbodies _ _ ⟨fun _ => .error .notFound, []⟩ hwell
  refine ⟨body, hbody, ?_, ?_, ?_⟩
  · refine hfields [("attribs=none", typedValue)] "attribs.city=Harare" typedValue
      [("lists=[3]", typedValue), ("attribs.zip=00263", Json.str)] "attribs.city" "Harare" rfl
      (split_eq_ok_iff.mp (by rfl)) (List.forall_mem_cons.mpr
        ⟨?_, List.forall_mem_singleton.mpr ?_⟩)
    · exact apart_of_split (by rfl) (by decide)
    · exact apart_of_split (by rfl) (by decide)
  · exact hfields (["attribs=none", "attribs.city=Harare", "lists=[3]"].map (·, typedValue))
      "attribs.zip=00263" Json.str [] "attribs.zip" "00263" rfl (split_eq_ok_iff.mp (by rfl))
      (by simp)
  · refine hothers ["name"] (by simp) fun field hfield => ?_
    simp only [List.cons_append, List.nil_append, List.mem_cons, List.not_mem_nil, or_false]
      at hfield
    rcases hfield with rfl | rfl | rfl | rfl <;> exact apart_of_split (by rfl) (by decide)

end Field

end Mailroom
