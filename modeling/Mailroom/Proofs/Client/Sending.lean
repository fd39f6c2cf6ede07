import Mailroom.Proofs.Call.Refusal
import Mailroom.Proofs.Client.Conversation
import Mailroom.Proofs.Client.Headers

/-!
# One message a call

Nothing is sent twice and nothing is sent for a call that fails beforehand. Over a channel that
makes a message of every request, a call sends one message and takes one answer, or it is at fault
itself and the session stays as it was. The message is made from the client and the call alone
(`Client.message?`), so that neither the calls before it nor what they were answered changes it.
-/

namespace Mailroom

/-- What an answer means never breaks a contract. -/
theorem Endpoint.kind_ne_contract_of_read {e : Endpoint} {x : Exchange} {failure : ApiError}
    (h : e.read x = .error failure) : failure.kind ≠ .contract := by
  cases hs : x.isSuccess with
  | true =>
    obtain ⟨m, -, rfl⟩ := (read_eq_error_iff_of_isSuccess e hs).mp h
    nofun
  | false =>
    rw [read_of_isSuccess_eq_false e hs] at h
    split at h
    · cases h
    · cases h
      have hrefusal := Exchange.isRefusal_kind_failure x
      intro hkind
      rw [hkind] at hrefusal
      cases hrefusal

/-! ## Recording channels -/

/-- A channel that takes every request down, and whose answers do not blame a call. -/
structure Channel.Records (c : Channel) : Prop where
  encode : ∀ request, ∃ m, c.encode request = .ok m
  decode : ∀ answer e, c.decode answer = .error e → e.kind ≠ .contract

theorem Channel.records_memory : Channel.memory.Records := by
  refine ⟨fun request => ⟨request, rfl⟩, fun answer e h => ?_⟩
  change Except.ok (RawResponse.ofStatus answer.1 answer.2) = .error e at h
  cases h

namespace Session

variable {c : Channel}

/-- A session after some messages were sent, with each of which an answer was taken. -/
def after (s : Session c) (messages : List c.Message) : Session c :=
  ⟨s.script.drop messages.length, s.sent ++ messages⟩

@[simp] theorem after_nil (s : Session c) : s.after [] = s := by
  simp [after]

theorem after_singleton (s : Session c) (m : c.Message) : s.after [m] = s.advance m := by
  simp [after, advance]

theorem after_append (s : Session c) (first last : List c.Message) :
    s.after (first ++ last) = (s.after first).after last := by
  simp [after, List.drop_drop]

theorem sent_after_eq_self_iff {s : Session c} {messages : List c.Message} :
    (s.after messages).sent = s.sent ↔ messages = [] := by
  simp [after]

end Session

/-- A setup with another number of retries. -/
def ClientSetup.withRetries (setup : ClientSetup) (retries : Nat) : ClientSetup :=
  { setup with config := { setup.config with retries := retries } }

/-! ## The message of a call -/

namespace Client

variable {c : Channel} {client : Client} {s next : Session c} {call : Call}

/-- The message that is made for a call, if one is. -/
def message? (client : Client) (c : Channel) (call : Call) : Option c.Message :=
  match client.request call with
  | .error _ => none
  | .ok request => (c.encode request).toOption

theorem message?_of_request_eq_error {e : ApiError} (h : client.request call = .error e) :
    client.message? c call = none := by
  rw [message?, h]

theorem message?_of_encode {request : Request} (h : client.request call = .ok request) :
    client.message? c call = (c.encode request).toOption := by
  rw [message?, h]

theorem message?_of_encode_eq_ok {request : Request} {m : c.Message}
    (built : client.request call = .ok request) (written : c.encode request = .ok m) :
    client.message? c call = some m := by
  rw [message?_of_encode built, written]
  rfl

/-- A call leaves the session behind with its message, if it has one, sent and answered. -/
theorem Performed.next_eq {result : Except ApiError (Attempt call.endpoint.Payload)}
    (h : Performed client s call result next) :
    next = s.after (client.message? c call).toList := by
  cases h with
  | unbuilt refused =>
    rw [message?_of_request_eq_error refused, Option.toList_none, Session.after_nil]
  | unwritten built refused =>
    rw [message?_of_encode built, refused]
    exact s.after_nil.symm
  | exchanged built written =>
    rw [message?_of_encode_eq_ok built written, Option.toList_some, Session.after_singleton]

/-- Over a recording channel a call without a message is at fault itself, and what becomes of a
message is no fault of the call. -/
theorem Performed.message?_eq_none_iff (hc : c.Records)
    {result : Except ApiError (Attempt call.endpoint.Payload)}
    (h : Performed client s call result next) :
    client.message? c call = none ↔ ∃ e, result = .error e ∧ e.kind = .contract := by
  cases h with
  | unbuilt refused =>
    exact iff_of_true (message?_of_request_eq_error refused) ⟨_, rfl, request_eq_error refused⟩
  | unwritten _ refused =>
    obtain ⟨m, written⟩ := hc.encode _
    cases refused.symm.trans written
  | exchanged built written =>
    rw [message?_of_encode_eq_ok built written]
    refine iff_of_false (Option.some_ne_none _) ?_
    rintro ⟨e, hresult, hkind⟩
    rcases Outcome.bind_eq_error_iff.mp hresult with hanswer | ⟨x, -, hread⟩
    · exact hc.decode _ _ (Outcome.map_eq_error_iff.mp hanswer) hkind
    · exact Endpoint.kind_ne_contract_of_read hread hkind

/-- Over a recording channel a failure that breaks a contract is a fault of the call. -/
theorem Performed.isArgumentFault (hc : c.Records) {e : ApiError} (hkind : e.kind = .contract)
    (h : Performed client s call (.error e) next) : e.IsArgumentFault := by
  have hnone := (h.message?_eq_none_iff hc).mpr ⟨e, rfl, hkind⟩
  generalize hresult : Except.error e = result at h
  cases h with
  | unbuilt refused =>
    cases hresult
    exact isArgumentFault_of_request refused
  | unwritten _ refused =>
    obtain ⟨m, written⟩ := hc.encode _
    cases refused.symm.trans written
  | exchanged built written =>
    cases (message?_of_encode_eq_ok built written).symm.trans hnone

/-- Many calls leave the session behind with the message of each that has one. -/
theorem performAll_next_eq (client : Client) (s : Session c) (calls : List Call) :
    (client.performAll s calls).2 = s.after (calls.filterMap (client.message? c)) := by
  induction calls generalizing s with
  | nil => simp
  | cons call rest ih =>
    have hfirst : (call :: rest).filterMap (client.message? c) =
        (client.message? c call).toList ++ rest.filterMap (client.message? c) := by
      cases hmessage : client.message? c call <;> simp [hmessage]
    rw [performAll_cons, ih, (client.performed s call).next_eq, hfirst, Session.after_append]

/-- Every reply is a fault of its call exactly if the call has no message. -/
theorem message?_eq_none_iff_of_mem_performAll (hc : c.Records) {calls : List Call} {reply : Reply}
    (h : reply ∈ (client.performAll s calls).1) :
    client.message? c reply.call = none ↔ ∃ e, reply.result = .error e ∧ e.kind = .contract :=
  forall_mem_performAll (P := fun reply => client.message? c reply.call = none ↔
      ∃ e, reply.result = .error e ∧ e.kind = .contract)
    (fun s call => (client.performed s call).message?_eq_none_iff hc) s calls reply h

/-! ## From a setup on -/

/-- The number of retries has no part in a client. -/
theorem build_withRetries (setup : ClientSetup) (retries : Nat) :
    build (setup.withRetries retries) = build setup := rfl

/--
One call, one message. Over a channel that records requests, a call of a client sends at most one
message, made from the client and the call alone, and takes one answer for it, whatever was sent and
answered before. It sends none exactly if it comes to a failure that breaks a contract; then a value
of the path is missing or the request is invalid, and the session is left as it was. So for any
number of retries, any answers and any calls, one after the other, what is sent are the messages of
the calls that have one, in their order, and as many answers are taken.
-/
theorem one_message_of_call {setup : ClientSetup} (hbuild : build setup = .ok client)
    (hc : c.Records) :
    (∀ (s : Session c) call,
      (client.perform s call).2 = s.after (client.message? c call).toList ∧
      ((client.perform s call).2.sent = s.sent ↔
        ∃ e, (client.perform s call).1 = .error e ∧ e.kind = .contract) ∧
      ∀ e, (client.perform s call).1 = .error e → e.kind = .contract →
        e.IsArgumentFault ∧ (client.perform s call).2 = s) ∧
    ∀ retries script calls, ∃ replies,
      let messages := calls.filterMap (client.message? c)
      converse (setup.withRetries retries) c script calls = (.ok replies, messages) ∧
      client.performAll (.start script) calls = (replies, (Session.start script).after messages) ∧
      replies.map Reply.call = calls ∧
      ∀ reply ∈ replies, client.message? c reply.call = none ↔
        ∃ e, reply.result = .error e ∧ e.kind = .contract := by
  refine ⟨fun s call => ?_, fun retries script calls => ?_⟩
  · have hperformed := client.performed s call
    have hnext := hperformed.next_eq
    have hnone := hperformed.message?_eq_none_iff hc
    refine ⟨hnext, ?_, fun e hfails hkind => ⟨?_, ?_⟩⟩
    · rw [hnext, Session.sent_after_eq_self_iff, Option.toList_eq_nil_iff, hnone]
    · rw [hfails] at hperformed
      exact hperformed.isArgumentFault hc hkind
    · rw [hnext, hnone.mpr ⟨e, hfails, hkind⟩, Option.toList_none, Session.after_nil]
  · have hnext := client.performAll_next_eq (.start script) calls
    refine ⟨(client.performAll (.start script) calls).1, ?_, Prod.ext rfl hnext,
      client.map_call_performAll _ calls,
      fun reply hreply => message?_eq_none_iff_of_mem_performAll hc hreply⟩
    rw [converse_of_build_eq_ok ((build_withRetries setup retries).trans hbuild), hnext]
    rfl

/-- Two refused requests for lists are sent once each, whatever the number of retries, and a
deletion that names no bounces between them sends nothing and takes no answer. -/
theorem one_message_of_call_refused :
    ∃ client request replies, build tenantSetup = .ok client ∧
      client.request (.list .list tenantOptions) = .ok request ∧
      converse (tenantSetup.withRetries 5) .memory [(429, .null), (503, .null), (200, .null)]
        [.list .list tenantOptions, .deleteBounces (.ids []), .list .list tenantOptions] =
          (.ok replies, [request, request]) ∧
      (client.performAll (.start [(429, .null), (503, .null), (200, .null)] : Session .memory)
        [.list .list tenantOptions, .deleteBounces (.ids []), .list .list tenantOptions]).2.script =
          [(200, .null)] := by
  obtain ⟨client, hbuild⟩ := exists_build_tenantSetup
  obtain ⟨request, hrequest, -⟩ := exists_request_tenantOptions hbuild
  have hlisting : client.message? .memory (.list .list tenantOptions) = some request :=
    message?_of_encode_eq_ok hrequest rfl
  have hnaming : client.message? .memory (.deleteBounces (.ids [])) = none := rfl
  obtain ⟨-, hrun⟩ := one_message_of_call hbuild Channel.records_memory
  obtain ⟨replies, hconverse, hperformed, -, -⟩ :=
    hrun 5 [(429, .null), (503, .null), (200, .null)]
      [.list .list tenantOptions, .deleteBounces (.ids []), .list .list tenantOptions]
  have hmessages : [Call.list .list tenantOptions, .deleteBounces (.ids []),
      .list .list tenantOptions].filterMap (client.message? .memory) = [request, request] := by
    simp only [List.filterMap_cons, List.filterMap_nil, hlisting, hnaming]
    rfl
  rw [hmessages] at hconverse hperformed
  refine ⟨client, request, replies, hbuild, hrequest, hconverse, ?_⟩
  rw [hperformed]
  rfl

end Client

end Mailroom
