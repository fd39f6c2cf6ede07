import Mailroom.Call.Exchange

/-!
# Channels

A channel says what is sent for a request and what an answer means. A session runs over a channel:
it holds the answers still to come and what has been sent so far. Each request sends one message and
takes one answer, or fails before anything is sent; when the answers have run out, the channel's
standing answer is taken.

The memory channel sends requests as they are. It is the channel of a server that exists only as a
list of answers.
-/

namespace Mailroom

/-- What is sent for a request and what an answer means. -/
structure Channel where
  Message : Type
  Answer : Type
  encode : Request → Except ApiError Message
  decode : Answer → Except ApiError RawResponse
  standing : Answer

/-- The channel that keeps requests as they are and is answered with a status and a body. -/
def Channel.memory : Channel where
  Message := Request
  Answer := Nat × Json
  encode := .ok
  decode answer := .ok (.ofStatus answer.1 answer.2)
  standing := (200, .obj [("data", .bool true)])

/-- The answers still to come over a channel, and what has been sent. -/
structure Session (c : Channel) where
  script : List c.Answer
  sent : List c.Message

namespace Session

variable {c : Channel}

/-- A session in which nothing has been sent. -/
def start (script : List c.Answer) : Session c :=
  ⟨script, []⟩

/-- A session after a message was sent and answered. -/
def advance (s : Session c) (message : c.Message) : Session c :=
  ⟨s.script.tail, s.sent ++ [message]⟩

/-- The answer to the next message. -/
def nextAnswer (s : Session c) : c.Answer :=
  s.script.headD c.standing

/-- Sends a request and takes the answer. -/
def exchange (s : Session c) (request : Request) : Except ApiError Exchange × Session c :=
  match c.encode request with
  | .error e => (.error e, s)
  | .ok message =>
    ((c.decode s.nextAnswer).map fun response => ⟨request.info, response⟩, s.advance message)

end Session

end Mailroom
