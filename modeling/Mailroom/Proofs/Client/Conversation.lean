import Mathlib.Data.List.Forall2
import Mailroom.Client.Basic
import Mailroom.Proofs.Outcome

/-!
# Conversations

A client makes calls one after the other over a session. A call comes out in one of three ways: its
request cannot be built, its request cannot be written as a message, or the message is sent and
answered (`Performed`, over any channel). What holds of one call is carried to all of them by an
induction on the calls.
-/

namespace Mailroom

/-! ## One call -/

namespace Client

variable {c : Channel}

/-- The request of a call that can be stated. -/
theorem request_of_options (client : Client) {call : Call} {options : CallOptions}
    (h : call.options = .ok options) :
    client.request call = client.prepare call.endpoint options := by
  rw [request, h]
  rfl

theorem perform_of_request_eq_error {client : Client} {call : Call} {e : ApiError}
    (h : client.request call = .error e) (s : Session c) :
    client.perform s call = (.error e, s) := by
  rw [perform, h]

theorem perform_of_encode_eq_error {client : Client} {call : Call} {request : Request}
    {e : ApiError} (built : client.request call = .ok request)
    (refused : c.encode request = .error e) (s : Session c) :
    client.perform s call = (.error e, s) := by
  simp only [perform, built, Session.exchange, refused]
  rfl

theorem perform_of_encode_eq_ok {client : Client} {call : Call} {request : Request}
    {m : c.Message} (built : client.request call = .ok request)
    (written : c.encode request = .ok m) (s : Session c) :
    client.perform s call =
      (((c.decode s.nextAnswer).map fun raw => ⟨request.info, raw⟩).bind call.endpoint.read,
        s.advance m) := by
  simp only [perform, built, Session.exchange, written]

/-- How a call comes out over a session, and the session after it. -/
inductive Performed (client : Client) (s : Session c) (call : Call) :
    Except ApiError (Attempt call.endpoint.Payload) → Session c → Prop where
  | unbuilt {e : ApiError} (refused : client.request call = .error e) :
      Performed client s call (.error e) s
  | unwritten {request : Request} {e : ApiError} (built : client.request call = .ok request)
      (refused : c.encode request = .error e) : Performed client s call (.error e) s
  | exchanged {request : Request} {m : c.Message} (built : client.request call = .ok request)
      (written : c.encode request = .ok m) :
      Performed client s call
        (((c.decode s.nextAnswer).map fun raw => ⟨request.info, raw⟩).bind call.endpoint.read)
        (s.advance m)

/-- Every call comes out in one of the three ways. -/
theorem performed (client : Client) (s : Session c) (call : Call) :
    Performed client s call (client.perform s call).1 (client.perform s call).2 := by
  cases hrequest : client.request call with
  | error e =>
    rw [perform_of_request_eq_error hrequest]
    exact .unbuilt hrequest
  | ok request =>
    cases hencode : c.encode request with
    | error e =>
      rw [perform_of_encode_eq_error hrequest hencode]
      exact .unwritten hrequest hencode
    | ok m =>
      rw [perform_of_encode_eq_ok hrequest hencode]
      exact .exchanged hrequest hencode

/-- A message was made for a call. -/
def Writes (client : Client) (c : Channel) (m : c.Message) (call : Call) : Prop :=
  ∃ request, client.request call = .ok request ∧ c.encode request = .ok m

/-- A call adds at most one message to those sent. -/
theorem Performed.sent {client : Client} {s next : Session c} {call : Call}
    {result : Except ApiError (Attempt call.endpoint.Payload)}
    (h : Performed client s call result next) :
    next.sent = s.sent ∨ ∃ m, Writes client c m call ∧ next.sent = s.sent ++ [m] := by
  cases h with
  | unbuilt => exact Or.inl rfl
  | unwritten => exact Or.inl rfl
  | exchanged built written => exact Or.inr ⟨_, ⟨_, built, written⟩, rfl⟩

/-! ## Many calls -/

/-- A call and how it came out. -/
structure Reply where
  call : Call
  result : Except ApiError (Attempt call.endpoint.Payload)

/-- Makes calls one after the other. -/
def performAll (client : Client) (s : Session c) (calls : List Call) :
    List Reply × Session c :=
  match calls with
  | [] => ([], s)
  | call :: rest =>
    let (result, next) := client.perform s call
    let (replies, last) := performAll client next rest
    (⟨call, result⟩ :: replies, last)

@[simp] theorem performAll_nil (client : Client) (s : Session c) :
    client.performAll s [] = ([], s) := rfl

theorem performAll_cons (client : Client) (s : Session c) (call : Call) (rest : List Call) :
    client.performAll s (call :: rest) =
      (⟨call, (client.perform s call).1⟩ ::
        (client.performAll (client.perform s call).2 rest).1,
        (client.performAll (client.perform s call).2 rest).2) := rfl

/-- Every call is replied to. -/
theorem map_call_performAll (client : Client) (s : Session c) (calls : List Call) :
    (client.performAll s calls).1.map Reply.call = calls := by
  induction calls generalizing s with
  | nil => rfl
  | cons call rest ih => rw [performAll_cons, List.map_cons, ih]

/-- What holds of a call over any session holds of every reply. -/
theorem forall_mem_performAll {client : Client} {P : Reply → Prop}
    (h : ∀ (s : Session c) call, P ⟨call, (client.perform s call).1⟩) (s : Session c)
    (calls : List Call) : ∀ reply ∈ (client.performAll s calls).1, P reply := by
  induction calls generalizing s with
  | nil => simp
  | cons call rest ih =>
    rw [performAll_cons]
    intro reply hreply
    rcases List.mem_cons.mp hreply with rfl | hreply
    · exact h s call
    · exact ih _ reply hreply

/-- What comes of making a client and having it make calls: the replies, or why there is no client,
and the messages sent. -/
def converse (setup : ClientSetup) (c : Channel) (script : List c.Answer) (calls : List Call) :
    Except ApiError (List Reply) × List c.Message :=
  match build setup with
  | .error e => (.error e, [])
  | .ok client =>
    let (replies, s) := client.performAll (Session.start script) calls
    (.ok replies, s.sent)

theorem converse_of_build_eq_error {setup : ClientSetup} {e : ApiError}
    (h : build setup = .error e) (script : List c.Answer) (calls : List Call) :
    converse setup c script calls = (.error e, []) := by
  rw [converse, h]

theorem converse_of_build_eq_ok {setup : ClientSetup} {client : Client}
    (h : build setup = .ok client) (script : List c.Answer) (calls : List Call) :
    converse setup c script calls =
      (.ok (client.performAll (.start script) calls).1,
        (client.performAll (.start script) calls).2.sent) := by
  rw [converse, h]

end Client

end Mailroom
