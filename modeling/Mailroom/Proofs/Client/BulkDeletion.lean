import Mailroom.Proofs.Call.Parameters
import Mailroom.Proofs.Client.Headers
import Mailroom.Proofs.Text.Numeral

/-!
# Deletions by number

Subscribers and bounces are deleted many at a time by a list of their numbers, which stand in the
query one by one. A list without numbers would leave the query as it is, and such a request is about
every record. The deletion of bounces refuses it, the deletion of subscribers sends it.
-/

namespace Mailroom

/-- The values of a name in the query of a URL, in their order. -/
def Url.queryValues (url : Url) (name : String) : List String :=
  ((Form.decodePairs (url.query.getD "")).filter (·.1 = name)).map Prod.snd

/-- The kinds of record that are deleted many at a time by their numbers. -/
inductive BulkDeletion where
  | subscribers
  | bounces
deriving DecidableEq

namespace BulkDeletion

/-- The call that deletes records by their numbers. -/
def call (d : BulkDeletion) (ids : List UInt64) : Call :=
  match d with
  | subscribers => .deleteSubscribers ids
  | bounces => .deleteBounces (.ids ids)

/-- The numbers as a parameter of the query. -/
def options (ids : List UInt64) : CallOptions :=
  CallOptions.empty.withQuery "id" (.ofWords ids)

/-- A deletion is made of any numbers, but that of bounces of one at least. -/
def Accepts (d : BulkDeletion) (ids : List UInt64) : Prop :=
  ids ≠ [] ∨ d = subscribers

/-- What a deletion is made of, where it is made at all. -/
theorem options_call_iff {d : BulkDeletion} {ids : List UInt64} {o : CallOptions} :
    (d.call ids).options = .ok o ↔ d.Accepts ids ∧ o = options ids := by
  cases d with
  | subscribers =>
    change Except.ok (options ids) = .ok o ↔ _
    simp [Accepts, eq_comm]
  | bounces =>
    cases ids with
    | nil =>
      refine iff_of_false ?_ ?_
      · nofun
      · simp [Accepts]
    | cons id ids =>
      change Except.ok (options (id :: ids)) = .ok o ↔ _
      simp [Accepts, eq_comm]

/-- Every number is a text of its parameter. -/
theorem parameterTexts_ofWords (ids : List UInt64) :
    Request.parameterTexts (.ofWords ids) = ids.map fun id => toString id.toNat := by
  have htext : ∀ id : UInt64, Request.scalar? (.ofWord id) = some (toString id.toNat) := fun id =>
    congrArg some (Text.ofNat_eq_toString id.toNat)
  change (ids.map Json.ofWord).filterMap Request.scalar? = _
  rw [List.filterMap_map, ← List.filterMap_eq_map]
  exact List.filterMap_congr fun id _ => htext id

/-- Over options without parameters the query has the numbers and nothing else. -/
theorem queryPairs_layered {base : CallOptions} (hbase : base.query = []) (ids : List UInt64) :
    Request.queryPairs (base.layered (options ids)).query =
      ids.map fun id => ("id", toString id.toNat) := by
  have hquery : (base.layered (options ids)).query = [("id", .ofWords ids)] := by
    change Dict.insertAll base.query [("id", .ofWords ids)] = _
    rw [hbase]
    rfl
  rw [hquery, Request.queryPairs, List.flatMap_singleton, parameterTexts_ofWords, List.map_map]
  rfl

end BulkDeletion

namespace Client

variable {setup : ClientSetup} {client : Client}

/-- The query of a deletion is that of the root with the numbers behind it. -/
theorem query_of_deletion (hbuild : build setup = .ok client)
    (hquery : setup.baseOptions.query = []) {d : BulkDeletion} {ids : List UInt64}
    {request : Request} (h : client.request (d.call ids) = .ok request) :
    d.Accepts ids ∧ request.url.query = Request.extendQuery client.base.query
      (ids.map fun id => ("id", toString id.toNat)) := by
  obtain ⟨o, hoptions, hprepare⟩ := Outcome.bind_eq_ok_iff.mp h
  obtain ⟨haccepts, rfl⟩ := BulkDeletion.options_call_iff.mp hoptions
  obtain ⟨-, texts, -, rfl⟩ := Request.prepare_eq_ok_iff.mp hprepare
  refine ⟨haccepts, ?_⟩
  rw [Request.filled_query, (madeOf_of_build hbuild).baseOptions,
    BulkDeletion.queryPairs_layered hquery]

/-- In the catalogue a deletion that is accepted has a request. -/
theorem exists_request_of_deletion (hbuild : build setup = .ok client)
    (htable : setup.table = Catalog.table) {d : BulkDeletion} {ids : List UInt64}
    (h : d.Accepts ids) :
    ∃ request, client.request (d.call ids) = .ok request ∧ request.method = .delete := by
  have hmade := madeOf_of_build hbuild
  have hoptions := BulkDeletion.options_call_iff.mpr ⟨h, rfl⟩
  have hcatalog : ∀ op ∈ Catalog.operations, op.name = "deleteSubscribers" ∨
      op.name = "deleteBounces" → op.pathParams = [] ∧ op.method = .delete := by
    decide +kernel
  have hname : (d.call ids).endpoint.operationName = "deleteSubscribers" ∨
      (d.call ids).endpoint.operationName = "deleteBounces" := by
    cases d
    · exact Or.inl rfl
    · exact Or.inr rfl
  obtain ⟨hmem, hbound⟩ := hmade.bound_mem htable (d.call ids).endpoint
  obtain ⟨hparams, hmethod⟩ := hcatalog _ hmem (by rwa [hbound])
  obtain ⟨url, hrequest⟩ := hmade.exists_request_of_pathParams hoptions hparams
  exact ⟨_, hrequest, hmethod⟩

/--
A deletion by number sends the numbers in decimal, in their order, behind whatever query the root
has of its own, and so at least one of them if it has any. A deletion of bounces that has none is
refused with the session as it was; a deletion of subscribers that has none is sent all the same,
with the query of the root.
-/
theorem ids_of_deletion (hbuild : build setup = .ok client)
    (hquery : setup.baseOptions.query = []) {c : Channel} (s : Session c) :
    client.perform s (.deleteBounces (.ids [])) = (.error (.invalidRequest
      "no bounce IDs given; use BounceSelection::All to delete every bounce"), s) ∧
    ∀ (d : BulkDeletion) (ids : List UInt64),
      (∀ m, (client.perform s (d.call ids)).2.sent = s.sent ++ [m] →
        ∃ request, client.request (d.call ids) = .ok request ∧ c.encode request = .ok m ∧
          Url.Form.decodePairs (request.url.query.getD "") =
            Url.Form.decodePairs (client.base.query.getD "") ++
              ids.map (fun id => ("id", toString id.toNat)) ∧
          request.url.queryValues "id" =
            client.base.queryValues "id" ++ ids.map (fun id => toString id.toNat) ∧
          (ids = [] → d = .subscribers ∧ request.url.query = client.base.query)) ∧
      (setup.table = Catalog.table → ids ≠ [] ∨ d = .subscribers →
        ∃ request, client.request (d.call ids) = .ok request ∧ request.method = .delete ∧
          ∀ m, c.encode request = .ok m →
            (client.perform s (d.call ids)).2.sent = s.sent ++ [m]) := by
  refine ⟨rfl, fun d ids => ⟨fun m hsent => ?_, fun htable haccepts => ?_⟩⟩
  · obtain ⟨request, hrequest, hwritten⟩ := writes_of_sent hsent
    obtain ⟨haccepts, hextended⟩ := query_of_deletion hbuild hquery hrequest
    have hpairs : Url.Form.decodePairs (request.url.query.getD "") =
        Url.Form.decodePairs (client.base.query.getD "") ++
          ids.map (fun id => ("id", toString id.toNat)) := by
      rw [hextended, Request.decodePairs_extendQuery]
    refine ⟨request, hrequest, hwritten, hpairs, ?_, fun hnone => ⟨?_, ?_⟩⟩
    · rw [Url.queryValues, hpairs, List.filter_append, List.map_append, List.filter_map,
        List.map_map]
      simp [Url.queryValues, Function.comp_def]
    · exact haccepts.resolve_left (absurd hnone)
    · rw [hextended, hnone]
      rfl
  · obtain ⟨request, hrequest, hmethod⟩ := exists_request_of_deletion hbuild htable haccepts
    refine ⟨request, hrequest, hmethod, fun m hwritten => ?_⟩
    rw [perform_of_encode_eq_ok hrequest hwritten]
    rfl

/-- The root of a server on this computer. -/
def tenantBase : Url :=
  ⟨"http", some ⟨"", none, "localhost", some 9000⟩, "/api", none, none⟩

theorem base_eq_tenantBase (hbuild : build (.standard tenantConfig) = .ok client) :
    client.base = tenantBase := by
  have hvalidate := Config.validate_eq_ok_iff.mpr (madeOf_of_build hbuild).usable
  have htenant : tenantConfig.validate = .ok tenantBase := by rfl
  exact Except.ok.inj (hvalidate.symm.trans htenant)

/-- Two bounces are deleted by their numbers. -/
theorem ids_of_deletion_bounces :
    ∃ client request, build (.standard tenantConfig) = .ok client ∧
      (client.perform (c := .memory) (.start []) (.deleteBounces (.ids [3, 4]))).2.sent =
        [request] ∧
      request.url.queryValues "id" = ["3", "4"] := by
  obtain ⟨client, hbuild⟩ := exists_build_tenantConfig
  have htable := ClientSetup.table_standard tenantConfig
  obtain ⟨-, hdeletes⟩ := ids_of_deletion hbuild rfl (c := .memory) (.start [])
  obtain ⟨hqueries, hsends⟩ := hdeletes .bounces [3, 4]
  obtain ⟨request, hrequest, -, hsent⟩ := hsends htable (Or.inl (List.cons_ne_nil _ _))
  obtain ⟨request', hrequest', hwritten, -, hvalues, -⟩ := hqueries request (hsent request rfl)
  obtain rfl : request' = request := Except.ok.inj (hrequest'.symm.trans hrequest)
  refine ⟨client, request', hbuild, hsent request' rfl, ?_⟩
  rw [hvalues, base_eq_tenantBase hbuild]
  decide +kernel

/-- Not every deletion by number names a record: one of subscribers without numbers is sent. -/
theorem not_refused_of_no_subscribers :
    ¬∀ (setup : ClientSetup) (client : Client), build setup = .ok client →
      setup.baseOptions.query = [] → client.base.query = none →
      ∀ (s : Session .memory) (d : BulkDeletion) (ids : List UInt64),
        (∀ request, (client.perform s (d.call ids)).2.sent = s.sent ++ [request] →
          request.url.queryValues "id" = ids.map (fun id => toString id.toNat) ∧
          request.url.queryValues "id" ≠ []) ∧
        (ids = [] → (client.perform s (d.call ids)).2.sent = s.sent ∧
          ∃ reason, (client.perform s (d.call ids)).1 = .error (.invalidRequest reason)) := by
  intro hrefused
  obtain ⟨client, hbuild⟩ := exists_build_tenantConfig
  have haccepts : BulkDeletion.subscribers.Accepts [] := Or.inr rfl
  obtain ⟨request, hrequest, -⟩ :=
    exists_request_of_deletion hbuild (ClientSetup.table_standard _) haccepts
  have hwritten : Channel.memory.encode request = .ok request := rfl
  have hbase : client.base.query = none := by rw [base_eq_tenantBase hbuild, tenantBase]
  obtain ⟨-, hnone⟩ := hrefused _ client hbuild rfl hbase (.start []) .subscribers []
  have hsent := (hnone rfl).1
  rw [perform_of_encode_eq_ok hrequest hwritten] at hsent
  cases hsent

end Client

end Mailroom
