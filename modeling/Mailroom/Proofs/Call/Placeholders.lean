import Mailroom.Proofs.Call.Template
import Mailroom.Proofs.Dict.Order
import Mailroom.Proofs.Outcome

/-!
# Placeholders without a value

A request is built exactly if every placeholder of the path has a text, a number or a truth value,
where a caller's value hides the one in the base options, be it null. Otherwise the failure names
the first placeholder without one, in the order of the path. Nothing else that is given for a path
matters.
-/

namespace Mailroom.Request

/-! ## The first missing value -/

/-- A value that fits stands under a name. -/
def Given (values : Dict Json) (name : String) : Prop :=
  ∃ v text, Dict.find? values name = some v ∧ Spells v text

/-- The first of some names under which no value that fits stands. -/
def FirstMissing (values : Dict Json) (names : List String) (name : String) : Prop :=
  ∃ before after, names = before ++ name :: after ∧
    (∀ other ∈ before, Given values other) ∧ ¬Given values name

section Values

variable {operation : String} {values : Dict Json}

theorem given_iff {name : String} :
    Given values name ↔ ∃ text, valueText? values name = some text := by
  simp only [Given, valueText?_eq_some_iff]
  exact exists_comm

theorem not_firstMissing_nil {name : String} : ¬FirstMissing values [] name := by
  rintro ⟨before, after, hnames, -⟩
  exact absurd hnames (by simp)

theorem firstMissing_cons_iff {first name : String} {names : List String} :
    FirstMissing values (first :: names) name ↔
      ¬Given values first ∧ name = first ∨
        Given values first ∧ FirstMissing values names name := by
  constructor
  · rintro ⟨before, after, hnames, hgiven, hmissing⟩
    cases before with
    | nil =>
      obtain ⟨rfl, -⟩ := List.cons.inj hnames
      exact Or.inl ⟨hmissing, rfl⟩
    | cons other before =>
      obtain ⟨rfl, hrest⟩ := List.cons.inj hnames
      exact Or.inr ⟨hgiven _ List.mem_cons_self, before, after, hrest,
        fun other hother => hgiven other (List.mem_cons_of_mem _ hother), hmissing⟩
  · rintro (⟨hmissing, rfl⟩ | ⟨hfirst, before, after, rfl, hgiven, hmissing⟩)
    · exact ⟨[], names, rfl, nofun, hmissing⟩
    · exact ⟨first :: before, after, rfl, List.forall_mem_cons.mpr ⟨hfirst, hgiven⟩, hmissing⟩

/-- No name is the first without a value exactly if all names have one. -/
theorem forall_not_firstMissing_iff {names : List String} :
    (∀ name, ¬FirstMissing values names name) ↔ ∀ name ∈ names, Given values name := by
  induction names with
  | nil => exact iff_of_true (fun _ => not_firstMissing_nil) nofun
  | cons first names ih =>
    simp only [firstMissing_cons_iff, List.forall_mem_cons, ← ih]
    constructor
    · intro h
      have hfirst : Given values first :=
        Classical.not_not.mp fun hmissing => h first (Or.inl ⟨hmissing, rfl⟩)
      exact ⟨hfirst, fun name hname => h name (Or.inr ⟨hfirst, hname⟩)⟩
    · rintro ⟨hfirst, hrest⟩ name (⟨hmissing, -⟩ | ⟨-, hname⟩)
      · exact hmissing hfirst
      · exact hrest name hname

/-- A part cannot be filled exactly if it is a placeholder without a value. -/
theorem segment_eq_error_iff {part : TemplatePart} {e : ApiError} :
    segment operation values part = .error e ↔
      ∃ name, part = .placeholder name ∧ ¬Given values name ∧
        e = .missingPathParam operation name := by
  cases part with
  | fixed word => simp [segment]
  | placeholder name =>
    simp only [segment, TemplatePart.placeholder.injEq, exists_eq_left', given_iff, valueText?]
    cases (Dict.find? values name).bind scalar? <;> simp [eq_comm]

/-- A template cannot be filled exactly for the first of its placeholders without a value. -/
theorem segments_eq_error_iff {parts : List TemplatePart} {e : ApiError} :
    segments operation values parts = .error e ↔
      ∃ name, FirstMissing values (parts.filterMap Operation.placeholder?) name ∧
        e = .missingPathParam operation name := by
  induction parts with
  | nil => simp [segments, not_firstMissing_nil]
  | cons part rest ih =>
    rw [segments]
    cases part with
    | fixed word =>
      simp only [segment, Outcome.map_eq_error_iff, ih, List.filterMap_cons, Operation.placeholder?]
    | placeholder name =>
      simp only [List.filterMap_cons, Operation.placeholder?, firstMissing_cons_iff]
      cases hpart : segment operation values (.placeholder name) with
      | error failure =>
        obtain ⟨_, hname, hmissing, rfl⟩ := segment_eq_error_iff.mp hpart
        obtain rfl := TemplatePart.placeholder.inj hname
        simp [hmissing, eq_comm]
      | ok text =>
        have hgiven : Given values name :=
          given_iff.mpr ⟨text, (segment_eq_ok_iff operation).mp hpart⟩
        simp [Outcome.map_eq_error_iff, ih, hgiven]

/-- Only what is given for placeholders fills a template. -/
theorem segments_congr {values' : Dict Json} {parts : List TemplatePart}
    (h : ∀ name, .placeholder name ∈ parts →
      Dict.find? values name = Dict.find? values' name) :
    segments operation values parts = segments operation values' parts := by
  induction parts with
  | nil => rfl
  | cons part rest ih =>
    have hpart : segment operation values part = segment operation values' part := by
      cases part with
      | fixed word => rfl
      | placeholder name => simp only [segment, h name List.mem_cons_self]
    rw [segments, segments, hpart, ih fun name hname => h name (List.mem_cons_of_mem _ hname)]

end Values

/-! ## Requests -/

section Request

variable {base : Url} (hbase : base.carriesPath = true)

include hbase in
/--
Under a root that carries a path, the request of an operation with any template fails exactly if a
name among its placeholders has no text, number or truth value; the failure then names the operation
and the first such name. Otherwise the request is built. Values under other names change nothing,
and a value of the caller, null among them, hides that of the base options.
-/
theorem outcome_of_values (baseOptions options : CallOptions) (op : Operation) :
    let values := (baseOptions.layered options).path
    (∀ e, prepare base baseOptions op options = .error e ↔
      ∃ name, FirstMissing values op.pathParams name ∧ e = .missingPathParam op.name name) ∧
    ((∃ request, prepare base baseOptions op options = .ok request) ↔
      ∀ name ∈ op.pathParams, Given values name) ∧
    (∀ lower upper, (∀ name ∈ op.pathParams,
        Dict.find? (Dict.insertAll lower upper) name = Dict.find? values name) →
      prepare base { baseOptions with path := lower } op { options with path := upper } =
        prepare base baseOptions op options) ∧
    (options.path.Ascending → ∀ name, Dict.find? values name =
      (Dict.find? options.path name).or (Dict.find? baseOptions.path name)) := by
  intro values
  have herror : ∀ e, prepare base baseOptions op options = .error e ↔
      ∃ name, FirstMissing values op.pathParams name ∧ e = .missingPathParam op.name name := by
    intro e
    rw [prepare_eq_error_iff hbase, segments_eq_error_iff, ← Operation.pathParams_eq]
  refine ⟨herror, ?_, fun lower upper hsame => ?_, fun hcaller name => ?_⟩
  · rw [← forall_not_firstMissing_iff]
    constructor
    · rintro ⟨request, hrequest⟩ name hname
      cases hrequest.symm.trans ((herror _).mpr ⟨name, hname, rfl⟩)
    · intro hnone
      cases hprepare : prepare base baseOptions op options with
      | ok request => exact ⟨request, rfl⟩
      | error e =>
        obtain ⟨name, hname, -⟩ := (herror e).mp hprepare
        exact absurd hname (hnone name)
  · have hfill : segments op.name (Dict.insertAll lower upper) op.template =
        segments op.name values op.template :=
      segments_congr fun name hname => hsame name (Operation.mem_pathParams_iff.mpr hname)
    rw [prepare_of_carriesPath hbase, prepare_of_carriesPath hbase]
    exact congrArg _ hfill
  · exact Dict.find?_insertAll _ hcaller name

/-- A server at the root of this computer. -/
def rootBase : Url :=
  ⟨"http", some ⟨"", none, "localhost", none⟩, "/", none, none⟩

/-- An operation on a part of a record, with a slash too many and a brace that is not closed. -/
def partOperation : Operation :=
  ⟨"getPart", .get, "//records/\x7bid\x7d/\x7bpart\x7d/\x7bopen"⟩

/-- Base options that name the record and the part. -/
def partOptions : CallOptions :=
  (CallOptions.empty.withId 7).withPath "part" (.str "head")

/-- The null of a caller hides the part that the base options name, which then is missing. -/
theorem outcome_of_hidden_value :
    prepare rootBase partOptions partOperation (CallOptions.empty.withPath "part" .null) =
      .error (.missingPathParam "getPart" "part") := by
  have hbase : rootBase.carriesPath = true := by rfl
  have hparams : partOperation.pathParams = ["id", "part"] := by rfl
  obtain ⟨hfails, -⟩ := outcome_of_values hbase partOptions
    (CallOptions.empty.withPath "part" .null) partOperation
  refine (hfails _).mpr ⟨"part", ⟨["id"], [], hparams, ?_, ?_⟩, rfl⟩
  · intro other hother
    rw [List.mem_singleton.mp hother]
    exact ⟨.ofWord 7, _, by rfl, .number _⟩
  · rintro ⟨v, text, hfound, hspells⟩
    obtain rfl : Json.null = v := Option.some.inj hfound
    cases hspells

end Request

end Mailroom.Request
