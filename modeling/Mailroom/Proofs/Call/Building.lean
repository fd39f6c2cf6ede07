import Mailroom.Client.Basic
import Mailroom.Proofs.Outcome

/-!
# Building requests

Under a root that carries a path the request of an operation is that of the texts its template is
filled with; there is none if the template cannot be filled, and none under any other root. So a
call without a request is at fault itself: it could not be stated, or lacks a value of the path.
-/

namespace Mailroom

/-- A failure for what a call is made with: a value of the path is missing, or no request can be
made of the rest. -/
inductive ApiError.IsArgumentFault : ApiError → Prop where
  | value (operation param : String) : IsArgumentFault (.missingPathParam operation param)
  | request (reason : String) : IsArgumentFault (.invalidRequest reason)

theorem ApiError.IsArgumentFault.kind_eq {e : ApiError} (h : e.IsArgumentFault) :
    e.kind = .contract := by
  cases h <;> rfl

namespace Request

variable {base : Url} {baseOptions options : CallOptions} {op : Operation}

/-- The request of an operation whose template is filled with texts. -/
def filled (base : Url) (op : Operation) (merged : CallOptions) (texts : List String) :
    Request where
  operation := op.name
  method := op.method
  url := { base with
    path := extendPath base texts
    query := extendQuery base.query (queryPairs merged.query) }
  headers := merged.headers
  body := merged.body

@[simp] theorem filled_path (base : Url) (op : Operation) (merged : CallOptions)
    (texts : List String) : (filled base op merged texts).url.path = extendPath base texts := rfl

@[simp] theorem filled_query (base : Url) (op : Operation) (merged : CallOptions)
    (texts : List String) : (filled base op merged texts).url.query =
      extendQuery base.query (queryPairs merged.query) := rfl

/-- Under a root that carries a path a request is made of the texts of the template. -/
theorem prepare_of_carriesPath (hbase : base.carriesPath = true) :
    prepare base baseOptions op options =
      (segments op.name (baseOptions.layered options).path op.template).map
        (filled base op (baseOptions.layered options)) := by
  simp only [prepare, buildUrl, hbase, Bool.not_true, Bool.false_eq_true, if_false]
  cases segments op.name (baseOptions.layered options).path op.template <;> rfl

/-- Under any other root there are no requests. -/
theorem prepare_of_carriesPath_eq_false (hbase : base.carriesPath = false) :
    prepare base baseOptions op options =
      .error (.invalidRequest s!"base URL '{base.text}' cannot carry a path") := by
  simp only [prepare, buildUrl, hbase, Bool.not_false, if_true]
  rfl

/-- A request is built exactly if the root carries a path and the template can be filled. -/
theorem prepare_eq_ok_iff {request : Request} :
    prepare base baseOptions op options = .ok request ↔
      base.carriesPath = true ∧ ∃ texts,
        segments op.name (baseOptions.layered options).path op.template = .ok texts ∧
        filled base op (baseOptions.layered options) texts = request := by
  cases hbase : base.carriesPath with
  | true => simp only [prepare_of_carriesPath hbase, Outcome.map_eq_ok_iff, true_and]
  | false => simp [prepare_of_carriesPath_eq_false hbase]

/-- Under a root that carries a path a request fails exactly if its template cannot be filled. -/
theorem prepare_eq_error_iff (hbase : base.carriesPath = true) {e : ApiError} :
    prepare base baseOptions op options = .error e ↔
      segments op.name (baseOptions.layered options).path op.template = .error e := by
  rw [prepare_of_carriesPath hbase, Outcome.map_eq_error_iff]

/-- A template cannot be filled only for a value that is missing. -/
theorem exists_param_of_segments {operation : String} {values : Dict Json}
    {parts : List TemplatePart} {e : ApiError} (h : segments operation values parts = .error e) :
    ∃ name, e = .missingPathParam operation name := by
  induction parts with
  | nil => cases h
  | cons part rest ih =>
    unfold segments at h
    split at h
    · next hpart =>
      cases h
      unfold segment at hpart
      split at hpart
      · cases hpart
      · split at hpart
        · cases hpart
        · cases hpart
          exact ⟨_, rfl⟩
    · exact ih (Outcome.map_eq_error_iff.mp h)

/-- A request that cannot be built is a fault of the call. -/
theorem isArgumentFault_of_prepare {e : ApiError}
    (h : prepare base baseOptions op options = .error e) : e.IsArgumentFault := by
  cases hbase : base.carriesPath with
  | true =>
    obtain ⟨name, rfl⟩ := exists_param_of_segments ((prepare_eq_error_iff hbase).mp h)
    exact .value op.name name
  | false =>
    rw [prepare_of_carriesPath_eq_false hbase] at h
    cases h
    exact .request _

end Request

/-- A call that cannot be stated is an invalid request. -/
theorem Call.exists_reason_of_options {call : Call} {e : ApiError} (h : call.options = .error e) :
    ∃ reason, e = .invalidRequest reason := by
  cases call with
  | testCampaign id body addresses =>
    cases body <;> cases h <;> exact ⟨_, rfl⟩
  | runningStats ids =>
    cases ids <;> cases h
  | deleteBounces selection =>
    match selection with
    | .every => cases h
    | .ids [] =>
      cases h
      exact ⟨_, rfl⟩
    | .ids (_ :: _) => cases h
  | sendMessage message =>
    change messageOptions message = .error e at h
    unfold messageOptions at h
    split at h <;> cases h
    exact ⟨_, rfl⟩
  | _ => cases h

/-- A call without a request is at fault itself. -/
theorem Client.isArgumentFault_of_request {client : Client} {call : Call} {e : ApiError}
    (h : client.request call = .error e) : e.IsArgumentFault := by
  rcases Outcome.bind_eq_error_iff.mp h with hoptions | ⟨options, -, hprepare⟩
  · obtain ⟨reason, rfl⟩ := Call.exists_reason_of_options hoptions
    exact .request reason
  · exact Request.isArgumentFault_of_prepare hprepare

/-- A call whose request cannot be built breaks a contract. -/
theorem Client.request_eq_error {client : Client} {call : Call} {e : ApiError}
    (h : client.request call = .error e) : e.kind = .contract :=
  (isArgumentFault_of_request h).kind_eq

end Mailroom
