import Mathlib.Logic.Relation
import Mailroom.Failure.Report
import Mailroom.Proofs.Failure.Status
import Mailroom.Proofs.Text.Numeral

/-!
# Classification of failures

A refusal is classified by the status of its answer, and a chain of errors by the first failed call
in it. The search from source to source and the one among all layers find the same call, and no
note that is added outside changes what they find; so the exit code of a run is told by the failure
alone, however often it was passed on.
-/

namespace Mailroom

/-! ## Refusals -/

/-- What a failed call says of the answer that it is made of. -/
structure ApiError.Reports (e : ApiError) (response : ResponseInfo) (reason : Option String)
    (payload : Option Json) : Prop where
  status : e.status? = some response.status
  payload : e.payload? = payload
  kind : ∀ k, e.kind = k ↔ FailureKind.OfStatus response.status k
  /-- A reason is the description as it stands. -/
  given : ∀ text, reason = some text → Text.isBlank text = false → e.message = text
  /-- Without a reason the status line is the description. -/
  missing : (∀ text, reason = some text → Text.isBlank text = true) →
    e.message = s!"HTTP {response.status}: {response.statusText}"

theorem ResponseInfo.message_of_given (r : ResponseInfo) {text : String}
    (h : Text.isBlank text = false) : r.message (some text) = text := by
  rw [message, Option.filter_some, h]
  rfl

theorem ResponseInfo.message_of_missing (r : ResponseInfo) {reason : Option String}
    (h : ∀ text, reason = some text → Text.isBlank text = true) :
    r.message reason = s!"HTTP {r.status}: {r.statusText}" := by
  have hnone : (reason.filter fun m => !Text.isBlank m) = none := by
    rw [Option.filter_eq_none_iff]
    intro text htext
    simp [h text htext]
  rw [message, hnone, Option.getD_none, defaultMessage, Text.ofNat_eq_toString]
  rfl

/-- The failed call of an answer reports it. -/
theorem ApiError.reports_refused (response : ResponseInfo) (reason : Option String)
    (payload : Option Json) :
    (refused (.ofResponse response reason payload)).Reports response reason payload := by
  have hkept := Refusal.keeps_ofResponse response reason payload
  refine ⟨congrArg some hkept.status_eq, hkept.payload_eq, fun k => ⟨?_, fun hk => ?_⟩, ?_, ?_⟩
  · rintro rfl
    exact hkept.kind
  · exact hkept.kind.unique hk
  · rintro text rfl hblank
    exact hkept.message_eq.trans (response.message_of_given hblank)
  · exact fun hblank => hkept.message_eq.trans (response.message_of_missing hblank)

theorem ExitCode.ofKind_eq (k : FailureKind) : ofKind k = if k = .authentication then 4
    else if k = .notFound then 8 else if k = .rateLimit then 32 else 1 := by
  cases k <;> rfl

namespace ErrorChain

/-! ## Searches -/

/-- An error is another one or behind it. -/
abbrev Reaches : ErrorChain → ErrorChain → Prop :=
  Relation.ReflTransGen fun c d => c.source? = some d

/-- A failed call is in a chain, and nothing before it is one. -/
inductive First : ErrorChain → ApiError → Prop where
  | root (e : ApiError) : First (.root (.api e)) e
  | onto (e : ApiError) (source : ErrorChain) : First (.onto (.api e) source) e
  | behind {text : String} {source : ErrorChain} {e : ApiError} (first : First source e) :
      First (.onto (.other text) source) e

/-- What is found from source to source is the first failed call. -/
theorem find?_eq_some_iff {c : ErrorChain} {e : ApiError} : c.find? = some e ↔ c.First e := by
  constructor
  · intro h
    induction c with
    | root l =>
      cases l with
      | api e' =>
        obtain rfl := Option.some.inj h
        exact .root e'
      | other text => cases h
    | onto l source ih =>
      cases l with
      | api e' =>
        obtain rfl := Option.some.inj h
        exact .onto e' source
      | other text => exact .behind (ih h)
  · intro h
    induction h with
    | root e => rfl
    | onto e source => rfl
    | behind _ ih => exact ih

/-- Among the layers the same call is found as from source to source. -/
theorem findSome?_layers (c : ErrorChain) : c.layers.findSome? ErrorLayer.api? = c.find? := by
  induction c with
  | root l => cases l <;> rfl
  | onto l source ih =>
    cases l with
    | api e => rfl
    | other text => exact ih

theorem isApiError_eq_hasApiError (c : ErrorChain) : c.isApiError = c.hasApiError := by
  rw [isApiError, hasApiError, ← findSome?_layers, List.isSome_findSome?]

/-- The first failed call of a chain is found at the error itself or at one behind it. -/
theorem exists_first_iff {c : ErrorChain} :
    (∃ e, c.First e) ↔ ∃ d e, c.Reaches d ∧ d.layer = .api e := by
  constructor
  · rintro ⟨e, h⟩
    induction h with
    | root e => exact ⟨_, e, .refl, rfl⟩
    | onto e source => exact ⟨_, e, .refl, rfl⟩
    | behind _ ih =>
      obtain ⟨d, e, hreach, hlayer⟩ := ih
      exact ⟨d, e, .head rfl hreach, hlayer⟩
  · rintro ⟨d, e, hreach, hlayer⟩
    induction hreach using Relation.ReflTransGen.head_induction_on with
    | refl =>
      cases d with
      | root l =>
        obtain rfl : l = .api e := hlayer
        exact ⟨e, .root e⟩
      | onto l source =>
        obtain rfl : l = .api e := hlayer
        exact ⟨e, .onto e source⟩
    | @head c source hsource _ ih =>
      cases c with
      | root l => cases hsource
      | onto l next =>
        obtain rfl := Option.some.inj hsource
        cases l with
        | api e' => exact ⟨e', .onto e' next⟩
        | other text =>
          obtain ⟨e', hfirst⟩ := ih
          exact ⟨e', .behind hfirst⟩

/-! ## Notes -/

/-- Notes outside hide no failed call and add none. -/
theorem find?_within (notes : List String) (c : ErrorChain) :
    (notes.foldr within c).find? = c.find? := by
  induction notes with
  | nil => rfl
  | cons note notes ih => exact ih

theorem exitCode_of_find? {c : ErrorChain} {e : ApiError} (h : c.find? = some e) :
    c.exitCode = if e.kind = .authentication then 4 else if e.kind = .notFound then 8
      else if e.kind = .rateLimit then 32 else 1 := by
  rw [exitCode, findSome?_layers, h]
  exact ExitCode.ofKind_eq e.kind

theorem exitCode_of_find?_eq_none {c : ErrorChain} (h : c.find? = none) : c.exitCode = 1 := by
  rw [exitCode, findSome?_layers, h]
  rfl

/--
The failed call that is made of an answer has its status and its payload, a kind that is told by the
status alone, and the reason as its description, or the status line where the reason is missing or
blank. However many notes are added to an error, it counts as a failed call by either search exactly
if the error or one behind it is one, and the exit code is told by the kind of the first.
-/
theorem classification_of_errors :
    (∀ response reason payload,
      (ApiError.refused (.ofResponse response reason payload)).Reports response reason payload) ∧
    ∀ (err : ErrorChain) (notes : List String),
      (notes.foldr within err).isApiError = (notes.foldr within err).hasApiError ∧
      ((notes.foldr within err).isApiError = true ↔ ∃ d e, err.Reaches d ∧ d.layer = .api e) ∧
      (∀ e, err.First e → (notes.foldr within err).exitCode =
        if e.kind = .authentication then 4 else if e.kind = .notFound then 8
        else if e.kind = .rateLimit then 32 else 1) ∧
      ((∀ e, ¬err.First e) → (notes.foldr within err).exitCode = 1) := by
  refine ⟨ApiError.reports_refused, fun err notes => ⟨isApiError_eq_hasApiError _, ?_, ?_, ?_⟩⟩
  · rw [isApiError, find?_within, Option.isSome_iff_exists, ← exists_first_iff]
    exact exists_congr fun e => find?_eq_some_iff
  · intro e hfirst
    exact exitCode_of_find? ((find?_within notes err).trans (find?_eq_some_iff.mpr hfirst))
  · intro hnone
    refine exitCode_of_find?_eq_none ((find?_within notes err).trans ?_)
    exact Option.eq_none_iff_forall_ne_some.mpr fun e h => hnone e (find?_eq_some_iff.mp h)

/-- A list that is not there, told by a call that was itself made because of a refused login. -/
def absentList : ErrorChain :=
  .onto (.other "syncing") (.onto (.api (.refused (.ofResponse ⟨404, "Not Found"⟩ (some " ") none)))
    (.root (.api (.refused (.ofResponse ⟨401, "Unauthorized"⟩ none none)))))

/-- The first of two failed calls decides, behind any number of notes. -/
theorem classification_of_errors_absentList :
    absentList.First (.refused (.ofResponse ⟨404, "Not Found"⟩ (some " ") none)) ∧
    (["fetching list 9", "again"].foldr within absentList).exitCode = 8 ∧
    (["fetching list 9", "again"].foldr within absentList).isApiError = true ∧
    (ApiError.refused (.ofResponse ⟨404, "Not Found"⟩ (some " ") none)).message =
      "HTTP 404: Not Found" := by
  obtain ⟨hreports, hchains⟩ := classification_of_errors
  obtain ⟨-, hfound, hcode, -⟩ := hchains absentList ["fetching list 9", "again"]
  have hfirst : absentList.First (.refused (.ofResponse ⟨404, "Not Found"⟩ (some " ") none)) :=
    .behind (.onto _ _)
  refine ⟨hfirst, hcode _ hfirst, hfound.mpr (exists_first_iff.mp ⟨_, hfirst⟩), ?_⟩
  refine (hreports ⟨404, "Not Found"⟩ (some " ") none).missing ?_
  rintro text h
  obtain rfl := Option.some.inj h
  decide

end ErrorChain

end Mailroom
