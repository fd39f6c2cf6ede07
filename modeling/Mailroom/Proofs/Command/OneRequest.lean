import Mathlib.Data.List.Nodup
import Mailroom.Proofs.Client.Readiness
import Mailroom.Proofs.Command.Settings

/-!
# Commands of one request

A command that is planned as one step sends one message over a connection, where its call can be
stated, the template of its operation can be filled, and its body can be written. The message is
that of the filled template over the root of the connection.
-/

namespace Mailroom

/-- No two operations of the catalogue have one name. -/
theorem Catalog.nodup_names : (operations.map Operation.name).Nodup := by
  decide +kernel

/-- The operation of an endpoint is the one of its name in the catalogue. -/
theorem Client.bound_eq {config : Config} {client : Client}
    (hbuild : build (.standard config) = .ok client) {e : Endpoint} {op : Operation}
    (hop : op ∈ Catalog.operations) (hname : op.name = e.operationName) : client.bound e = op := by
  obtain ⟨hmem, hbound⟩ :=
    (madeOf_of_build hbuild).bound_mem (ClientSetup.table_standard config) e
  exact List.inj_on_of_nodup_map Catalog.nodup_names hmem hop (hbound.trans hname.symm)

/-- The root of a connection carries paths. -/
theorem CommonOptions.carriesPath_of_connection {o : CommonOptions} {env : Environment}
    {x : Connection} (h : o.connection env = .ok x) : x.client.base.carriesPath = true :=
  Url.carriesPath_of_hasHost (Client.madeOf_of_build (connection_eq_ok h).2.2).usable.host

namespace ServerCommand

variable {c : ServerCommand} {o : CommonOptions} {s : Surroundings} {x : Connection}

/-- A command that is planned after there is a client is prepared once it has both. -/
theorem prepared_of_plan (hfirst : c.isPlannedFirst = false)
    (hconnection : o.connection s.environment = .ok x) {plan : Plan}
    (hplan : c.plan (o.writer s.color) s.inputs = .ok plan) : c.prepared o s = .ok (x, plan) := by
  simp only [prepared, hfirst, Bool.false_eq_true, if_false, hconnection, hplan]
  rfl

/-- A plan of one step is carried out by the message of its call. -/
theorem sent_of_once {step : Step} {request : Request} {m : Wire.Message}
    (hprepared : c.prepared o s = .ok (x, .once step))
    (hsent : Wire.Sent x.config x.client step.call request m) (script : List Wire.Answer) :
    (c.run o s script).sent = [m] := by
  have hcarried : ((x.client.carryOutStep (.start script) step).2 :
      Session (Wire.channel x.config)) = (Session.start script).advance m := by
    rw [Client.carryOutStep_eq_ask]
    exact Client.sent_ask_of_encode_eq_ok _ _ hsent.built hsent.written
  rw [sent_of_prepared hprepared]
  exact congrArg Session.sent hcarried

/-- A command of one step sends the message of the filled template of its operation. -/
theorem exists_sent_of_once (hfirst : c.isPlannedFirst = false)
    (hconnection : o.connection s.environment = .ok x) {step : Step}
    (hplan : c.plan (o.writer s.color) s.inputs = .ok (.once step)) {op : Operation}
    (hop : op ∈ Catalog.operations) (hname : op.name = step.call.endpoint.operationName)
    {options : CallOptions} (hoptions : step.call.options = .ok options)
    (hheaders : options.headers = []) (hbody : Wire.illegalBody? options.body = none)
    {texts : List String}
    (htexts : Request.segments op.name (CallOptions.empty.layered options).path op.template =
      .ok texts) (script : List Wire.Answer) :
    ∃ m, (c.run o s script).sent = [m] ∧ Wire.Sent x.config x.client step.call
      (Request.filled x.client.base op (CallOptions.empty.layered options) texts) m := by
  have hbuild := (CommonOptions.connection_eq_ok hconnection).2.2
  have hrequest : x.client.request step.call =
      .ok (Request.filled x.client.base op (CallOptions.empty.layered options) texts) := by
    rw [Client.request_of_options _ hoptions, Client.prepare, Client.bound_eq hbuild hop hname,
      (Client.madeOf_of_build hbuild).baseOptions]
    exact Request.prepare_eq_ok_iff.mpr
      ⟨CommonOptions.carriesPath_of_connection hconnection, texts, htexts, rfl⟩
  have hlegal : Header.firstIllegal? (CallOptions.empty.layered options).headers = none := by
    change Header.firstIllegal? (Header.merge [] options.headers) = none
    rw [hheaders]
    rfl
  have hlayered : (CallOptions.empty.layered options).body = options.body :=
    CallOptions.layeredBody_none options.body
  obtain ⟨m, hwritten⟩ : ∃ m, Wire.encode x.config (Request.filled x.client.base op
      (CallOptions.empty.layered options) texts) = .ok m :=
    Wire.exists_encode_eq_ok x.config hlegal (by rw [← hlayered] at hbody; exact hbody)
  have hsent : Wire.Sent x.config x.client step.call _ m := ⟨hrequest, hwritten⟩
  exact ⟨m, sent_of_once (prepared_of_plan hfirst hconnection hplan) hsent script, hsent⟩

end ServerCommand

end Mailroom
