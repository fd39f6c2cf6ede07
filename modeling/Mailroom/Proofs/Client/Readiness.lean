import Mailroom.Proofs.Call.Layering
import Mailroom.Proofs.Call.Refusal
import Mailroom.Proofs.Call.Table
import Mailroom.Proofs.Call.Template
import Mailroom.Proofs.Call.Writing
import Mailroom.Proofs.Client.Construction
import Mailroom.Proofs.Client.Conversation

/-!
# What a client that was made never lacks

A client that was made has the operation of every endpoint and a root that carries paths. So none of
its calls fails for want of one of them, whatever it is called with and answered, and what it sends
has the method and the path template that the table holds for the endpoint.
-/

namespace Mailroom

namespace Client

variable {c : Channel} {setup : ClientSetup} {client : Client}

/-- A call has a request where every placeholder of its operation has a text. -/
theorem MadeOf.exists_request (hmade : client.MadeOf setup) {call : Call} {options : CallOptions}
    (hoptions : call.options = .ok options)
    (h : ∀ name ∈ (client.bound call.endpoint).pathParams, ∃ text,
      Request.valueText? (setup.baseOptions.layered options).path name = some text) :
    ∃ url, client.request call = .ok ⟨(client.bound call.endpoint).name,
      (client.bound call.endpoint).method, url, (setup.baseOptions.layered options).headers,
      (setup.baseOptions.layered options).body⟩ := by
  rw [request_of_options client hoptions, prepare, hmade.baseOptions]
  exact Request.exists_prepare_eq_ok (Url.carriesPath_of_hasHost hmade.usable.host)
    setup.baseOptions h

/-- The operation of an endpoint has no placeholders if none of its name in the catalogue has. -/
theorem MadeOf.pathParams_eq_nil (hmade : client.MadeOf setup)
    (htable : setup.table = Catalog.table) {e : Endpoint} {name : String}
    (hname : e.operationName = name)
    (h : ∀ op ∈ Catalog.operations, op.name = name → op.pathParams = []) :
    (client.bound e).pathParams = [] := by
  obtain ⟨hmem, hbound⟩ := hmade.bound_mem htable e
  exact h _ hmem (hbound.trans hname)

/-- A call has a request where its operation has no placeholders. -/
theorem MadeOf.exists_request_of_pathParams (hmade : client.MadeOf setup) {call : Call}
    {options : CallOptions} (hoptions : call.options = .ok options)
    (h : (client.bound call.endpoint).pathParams = []) :
    ∃ url, client.request call = .ok ⟨(client.bound call.endpoint).name,
      (client.bound call.endpoint).method, url, (setup.baseOptions.layered options).headers,
      (setup.baseOptions.layered options).body⟩ :=
  hmade.exists_request hoptions (by rw [h]; exact List.forall_mem_nil _)

/-- Over no base options a call without headers and with a body that can be sent is written where
every placeholder of its operation has a text. -/
theorem MadeOf.exists_writes {config : Config} (hmade : client.MadeOf (.standard config))
    {call : Call} {options : CallOptions} (hoptions : call.options = .ok options)
    (hheaders : options.headers = []) (hbody : Wire.illegalBody? options.body = none)
    (h : ∀ name ∈ (client.bound call.endpoint).pathParams, ∃ text,
      Request.valueText? (CallOptions.empty.layered options).path name = some text) :
    ∃ request m, client.request call = .ok request ∧ Wire.encode config request = .ok m ∧
      m.body = options.body.map Wire.bodyText := by
  obtain ⟨url, hrequest⟩ := hmade.exists_request hoptions h
  have hbase : (ClientSetup.standard config).baseOptions = CallOptions.empty := rfl
  have hlegal : Header.firstIllegal? (CallOptions.empty.layered options).headers = none := by
    change Header.firstIllegal? (Header.merge [] options.headers) = none
    rw [hheaders]
    rfl
  have hlayered : (CallOptions.empty.layered options).body = options.body :=
    CallOptions.layeredBody_none options.body
  rw [hbase, hlayered] at hrequest
  exact ⟨_, _, hrequest, Wire.encode_eq_ok_iff.mpr ⟨hlegal, hbody, rfl⟩, rfl⟩

/-- Headers can be sent exactly if their names and values are legal. -/
theorem sendable_iff {setup : ClientSetup} :
    setup.Sendable ↔ (setup.wired = true → ∀ e ∈ setup.config.requestHeaders,
      Header.isLegalName e.1 = true ∧ Header.isLegalValue e.2 = true) := by
  simp only [ClientSetup.Sendable, Header.illegal?_eq_none_iff]

/-- A configuration without faults has a client of the catalogue. -/
theorem exists_build_standard {config : Config} (hvalid : ∃ base, config.validate = .ok base)
    (hlegal : ∀ e ∈ config.requestHeaders,
      Header.isLegalName e.1 = true ∧ Header.isLegalValue e.2 = true) :
    ∃ client, build (.standard config) = .ok client := by
  obtain ⟨base, hbase⟩ := hvalid
  exact exists_build_eq_ok_iff.mpr ⟨⟨base, Config.validate_eq_ok_iff.mp hbase⟩,
    sendable_iff.mpr fun _ => hlegal, ClientSetup.holds_catalog (ClientSetup.table_standard config)⟩

/-- A configuration of a server on this computer, with a header of its own. -/
def tenantConfig : Config :=
  ⟨"http://localhost:9000/api", "api", "t", 0, 0, [("X-Tenant", "a")]⟩

theorem exists_validate_tenantConfig : ∃ base, tenantConfig.validate = .ok base :=
  ⟨_, by rfl⟩

theorem isLegal_requestHeaders_tenantConfig : ∀ e ∈ tenantConfig.requestHeaders,
    Header.isLegalName e.1 = true ∧ Header.isLegalValue e.2 = true := by
  decide +kernel

theorem exists_build_tenantConfig : ∃ client, build (.standard tenantConfig) = .ok client :=
  exists_build_standard exists_validate_tenantConfig isLegal_requestHeaders_tenantConfig

/-- Asking for the state of the server has a request, and so has asking for one list. -/
theorem exists_request_tenantConfig (hbuild : build (.standard tenantConfig) = .ok client) :
    (∃ request, client.request .health = .ok request) ∧
      ∃ request, client.request (.getById .list (Call.ofRecord 9)) = .ok request := by
  have hmade := madeOf_of_build hbuild
  have htable := ClientSetup.table_standard tenantConfig
  constructor
  · have hparams : (client.bound .health).pathParams = [] :=
      hmade.pathParams_eq_nil htable (show _ = "getHealthCheck" from rfl) (by decide +kernel)
    have hoptions : Call.health.options = .ok .empty := rfl
    obtain ⟨url, hrequest⟩ := hmade.exists_request_of_pathParams hoptions hparams
    exact ⟨_, hrequest⟩
  · obtain ⟨hmem, hname⟩ := hmade.bound_mem htable (.common .list .getById)
    have hparams : (client.bound (.common .list .getById)).pathParams = ["id"] := by
      have hcatalog : ∀ op ∈ Catalog.operations, op.name = "getListById" →
          op.pathParams = ["id"] := by
        decide +kernel
      exact hcatalog _ hmem hname
    have hoptions : (Call.getById .list (Call.ofRecord 9)).options = .ok (Call.ofRecord 9) := rfl
    obtain ⟨url, hrequest⟩ := hmade.exists_request hoptions (by
      rw [Call.endpoint, hparams, List.forall_mem_singleton]
      exact ⟨"9", by decide +kernel⟩)
    exact ⟨_, hrequest⟩

end Client

end Mailroom
