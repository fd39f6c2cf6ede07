import Mailroom.Proofs.Call.Template
import Mailroom.Proofs.Dict.Order
import Mailroom.Proofs.Outcome
import Mailroom.Proofs.Url.Form

/-!
# Parameters read back from a request

The query of a request is that of the root with one pair behind it for every text of a parameter:
its own if it is a text, a number or a truth value, and those of its items if it is an array.
Reading the query gives these pairs back, whatever signs their names and values hold, and without
such pairs the query is that of the root. No other part of the URL depends on parameters.
-/

namespace Mailroom.Request

/-! ## The pairs that parameters state -/

/-- The texts of the items of an array that fit, in their order. -/
inductive SpellsItems : List Json → List String → Prop where
  | nil : SpellsItems [] []
  | cons {v : Json} {text : String} {items : List Json} {texts : List String}
      (spelled : Spells v text) (rest : SpellsItems items texts) :
      SpellsItems (v :: items) (text :: texts)
  | skip {v : Json} {items : List Json} {texts : List String} (unfit : ∀ text, ¬Spells v text)
      (rest : SpellsItems items texts) : SpellsItems (v :: items) texts

/-- The texts of a parameter. -/
inductive SpellsParameter : Json → List String → Prop where
  | single {v : Json} {text : String} (spelled : Spells v text) : SpellsParameter v [text]
  | array {items : List Json} {texts : List String} (spelled : SpellsItems items texts) :
      SpellsParameter (.arr items) texts
  | null : SpellsParameter .null []
  | object (fields : Dict Json) : SpellsParameter (.obj fields) []

/-- The pairs that parameters state, in their order. -/
inductive States : Dict Json → List (String × String) → Prop where
  | nil : States [] []
  | cons {name : String} {v : Json} {texts : List String} {rest : Dict Json}
      {pairs : List (String × String)} (spelled : SpellsParameter v texts)
      (others : States rest pairs) : States ((name, v) :: rest) (texts.map (name, ·) ++ pairs)

theorem scalar?_eq_none_iff {v : Json} : scalar? v = none ↔ ∀ text, ¬Spells v text := by
  simp only [← scalar?_eq_some_iff, Option.eq_none_iff_forall_ne_some, Ne]

theorem spellsItems_iff {items : List Json} {texts : List String} :
    SpellsItems items texts ↔ items.filterMap scalar? = texts := by
  constructor
  · intro h
    induction h with
    | nil => rfl
    | cons spelled _ ih => rw [List.filterMap_cons_some (scalar?_eq_some_iff.mpr spelled), ih]
    | skip unfit _ ih => rw [List.filterMap_cons_none (scalar?_eq_none_iff.mpr unfit), ih]
  · rintro rfl
    induction items with
    | nil => exact .nil
    | cons v items ih =>
      cases hv : scalar? v with
      | some text =>
        rw [List.filterMap_cons_some hv]
        exact .cons (scalar?_eq_some_iff.mp hv) ih
      | none =>
        rw [List.filterMap_cons_none hv]
        exact .skip (scalar?_eq_none_iff.mp hv) ih

theorem spellsParameter_iff {v : Json} {texts : List String} :
    SpellsParameter v texts ↔ parameterTexts v = texts := by
  constructor
  · rintro (⟨spelled⟩ | ⟨spelled⟩ | _ | _)
    · cases spelled <;> rfl
    · exact spellsItems_iff.mp spelled
    · rfl
    · rfl
  · rintro rfl
    cases v with
    | null => exact .null
    | bool b => cases b <;> exact .single (by constructor)
    | num n => exact .single (.number n)
    | str s => exact .single (.text s)
    | arr items => exact .array (spellsItems_iff.mpr rfl)
    | obj fields => exact .object fields

/-- The pairs of a query are those that its parameters state, and no others are stated. -/
theorem states_iff {query : Dict Json} {pairs : List (String × String)} :
    States query pairs ↔ queryPairs query = pairs := by
  constructor
  · intro h
    induction h with
    | nil => rfl
    | cons spelled _ ih =>
      rw [queryPairs, List.flatMap_cons, spellsParameter_iff.mp spelled, ← ih]
      rfl
  · rintro rfl
    induction query with
    | nil => exact .nil
    | cons e rest ih => exact .cons (spellsParameter_iff.mpr rfl) ih

/-! ## The query of a URL -/

/-- A query is read as the pairs it held and those that were added. -/
theorem decodePairs_extendQuery (query : Option String) (pairs : List (String × String)) :
    Url.Form.decodePairs ((extendQuery query pairs).getD "") =
      Url.Form.decodePairs (query.getD "") ++ pairs := by
  unfold extendQuery
  split
  · next hnone => rw [List.isEmpty_iff.mp hnone, List.append_nil]
  · rw [Option.getD_some, Url.Form.decodePairs_append, String.ofList_toList]

theorem extendQuery_nil (query : Option String) : extendQuery query [] = query := rfl

/--
The query of a request is read as the pairs of the root's own query, with those that the parameters
state behind them in the order of their names, and if they state none it is the root's own. Without
its parameters the same call has a URL that differs in the query alone, and its fragment is that of
the root.
-/
theorem pairs_of_request {base : Url} {baseOptions options : CallOptions} {op : Operation}
    {request : Request} (h : prepare base baseOptions op options = .ok request) :
    (∃ pairs, States (baseOptions.layered options).query pairs ∧
      Url.Form.decodePairs (request.url.query.getD "") =
        Url.Form.decodePairs (base.query.getD "") ++ pairs ∧
      (pairs = [] → request.url.query = base.query)) ∧
    (baseOptions.query.Ascending → (baseOptions.layered options).query.Ascending) ∧
    ∃ plain, prepare base { baseOptions with query := [] } op { options with query := [] } =
        .ok plain ∧
      plain.url.query = base.query ∧ request.url = { plain.url with query := request.url.query } ∧
      request.url.fragment = base.fragment := by
  obtain ⟨hbase, texts, htexts, rfl⟩ := prepare_eq_ok_iff.mp h
  refine ⟨⟨_, states_iff.mpr rfl, decodePairs_extendQuery _ _, fun hnone => ?_⟩,
    fun horder => horder.insertAll _, ?_⟩
  · rw [filled_query, hnone, extendQuery_nil]
  · exact ⟨_, prepare_eq_ok_iff.mpr ⟨hbase, texts, htexts, rfl⟩, rfl, rfl, rfl⟩

/-- A root with a query and a fragment of its own. -/
def queriedBase : Url :=
  ⟨"http", some ⟨"", none, "localhost", none⟩, "/api", some "own=1&bare", some "top"⟩

/-- Parameters with signs that mean something in a query, and some that state nothing. -/
def signOptions : CallOptions :=
  ((CallOptions.empty.withQuery "to=" (.bool true)).withQuery "id"
    (.arr [.str "a&b", .null, .arr [.str "c"], .str "d +%26"])).withQuery "skip" .null

/-- Names and values with signs in them are read as they are, behind the pairs of the root. -/
theorem pairs_of_request_signs :
    ∃ request, prepare queriedBase .empty ⟨"getBounces", .get, "/bounces"⟩ signOptions =
        .ok request ∧
      Url.Form.decodePairs (request.url.query.getD "") =
        [("own", "1"), ("bare", ""), ("id", "a&b"), ("id", "d +%26"), ("to=", "true")] ∧
      request.url.fragment = some "top" := by
  obtain ⟨request, hprepare⟩ : ∃ request, prepare queriedBase .empty
      ⟨"getBounces", .get, "/bounces"⟩ signOptions = .ok request := ⟨_, by rfl⟩
  obtain ⟨⟨pairs, hstates, hdecode, -⟩, -, plain, -, -, -, hfragment⟩ := pairs_of_request hprepare
  have hown : Url.Form.decodePairs (queriedBase.query.getD "") = [("own", "1"), ("bare", "")] := by
    rfl
  have hpairs : pairs = [("id", "a&b"), ("id", "d +%26"), ("to=", "true")] :=
    (states_iff.mp hstates).symm.trans (by rfl)
  exact ⟨request, hprepare, by rw [hdecode, hown, hpairs]; rfl, hfragment⟩

end Mailroom.Request
