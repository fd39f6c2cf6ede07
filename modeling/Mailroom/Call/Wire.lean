import Mailroom.Call.Channel
import Mailroom.Catalog.Resource
import Mailroom.Config.Basic
import Mailroom.Http.MediaType

/-!
# The wire

The channel of a real server. A request becomes a method, a URL without its fragment, headers with
names in lower case and the text of a body. The headers of the request come first; a body of JSON
adds its kind where none is named, a form always adds its own; the headers of the configuration fill
in the names that are still missing. Headers that cannot be sent and kinds of files that are none
are refused beforehand.

An answer is a status and the bytes of a text in UTF-8, before which a byte order mark may stand. A
blank text is null, a text of JSON is its value, and any other text stands for itself.

One message is one exchange of the transport, which may follow redirections by itself before there
is an answer. How it does that is its own affair (`Redirection`), but for one rule: where it goes it
sends the same method and body again, or it only reads. A redirection that is not followed is an
answer like any other.

Of what is sent, the headers that the transport adds for itself are left out (the kinds it accepts,
the host, the length, the connection), and so is the escaping of the names of a form beyond quotes
and backslashes; a file in a form stands as its text. Of what comes back, the headers are left out,
and with them a character set other than UTF-8.
-/

namespace Mailroom.Wire

/-- A message on the wire. -/
structure Message where
  method : Method
  url : String
  headers : List (String × String)
  body : Option String

/-- What the network gives back: a status and the bytes of a body; a redirection that is followed,
with what is given back there; or nothing, where the connection is closed or redirections do not
end. -/
inductive Answer where
  | reply (status : Nat) (body : List UInt8)
  | redirected (status : Nat) (location : String) (next : Answer)
  | dropped

/-- The status and the body that stand in the end. -/
def Answer.reply? (answer : Answer) : Option (Nat × List UInt8) :=
  match answer with
  | .reply status body => some (status, body)
  | .redirected _ _ next => next.reply?
  | .dropped => none

/-- The separator between the parts of a form. -/
def boundary : String := "BOUNDARY"

/-- A name inside quotes: a quote and a backslash have a backslash before them. -/
def quotedName (name : String) : String :=
  String.ofList (name.toList.flatMap fun c => if c = '"' || c = '\\' then ['\\', c] else [c])

/-- The head of a part of a form. -/
def partHead (name : String) : String :=
  "--" ++ boundary ++ "\r\nContent-Disposition: form-data; name=\"" ++ quotedName name ++ "\""

/-- A text of a form. -/
def fieldPart (name value : String) : String :=
  partHead name ++ "\r\n\r\n" ++ value ++ "\r\n"

/-- The file of a form. -/
def filePart (file : FilePart) : String :=
  partHead file.field ++ "; filename=\"" ++ quotedName file.fileName ++ "\"" ++
    (match file.mime with
      | some mime => "\r\nContent-Type: " ++ mime
      | none => "") ++
    "\r\n\r\n" ++ String.ofList (Text.utf8CharsLossy file.contents) ++ "\r\n"

/-- The text of a form. -/
def formText (form : Multipart) : String :=
  "".intercalate (form.fields.map fun e => fieldPart e.1 e.2) ++ filePart form.file ++
    "--" ++ boundary ++ "--\r\n"

/-- The text of a body. -/
def bodyText (body : Body) : String :=
  match body with
  | .json v => v.compact
  | .multipart form => formText form

/-- Puts a header behind all those whose names do not come after its own. -/
def addHeader (headers : List (String × String)) (name value : String) : List (String × String) :=
  match headers with
  | [] => [(name, value)]
  | e :: rest => if name < e.1 then (name, value) :: headers else e :: addHeader rest name value

/-- Puts a header where its name is missing. -/
def fillHeader (headers : List (String × String)) (name value : String) :
    List (String × String) :=
  if headers.any fun e => e.1 = name then headers else addHeader headers name value

/-- The headers of a map with their names in lower case, the last of equal names counting. -/
def lowerHeaders (headers : HeaderMap) : HeaderMap :=
  Dict.ofList (headers.map fun e => (Text.asciiLowercase e.1, e.2))

/-- The headers of a request together with the one its body needs. -/
def requestHeaders (request : Request) : List (String × String) :=
  let own := lowerHeaders request.headers
  match request.body with
  | some (.json _) => fillHeader own "content-type" "application/json"
  | some (.multipart _) =>
    addHeader own "content-type" ("multipart/form-data; boundary=" ++ boundary)
  | none => own

/-- The headers that a configuration gives to every request. -/
def defaultHeaders (config : Config) : HeaderMap :=
  Dict.insertAll [("user-agent", s!"{appName}/{version}")] (lowerHeaders config.requestHeaders)

/-- The headers of a message: those of the request, and of the defaults those still missing. -/
def messageHeaders (config : Config) (request : Request) : List (String × String) :=
  (defaultHeaders config).foldl (fun acc e => fillHeader acc e.1 e.2) (requestHeaders request)

/-- What makes the body of a request impossible to send: a kind of file that is none. -/
def illegalBody? (body : Option Body) : Option ApiError :=
  match body with
  | some (.multipart form) =>
    match form.file.mime with
    | some mime =>
      if MediaType.isValid mime then none
      else some (.invalidRequest s!"invalid MIME type '{mime}': builder error")
    | none => none
  | _ => none

/-- The message of a request. -/
def encode (config : Config) (request : Request) : Except ApiError Message :=
  match Header.firstIllegal? request.headers with
  | some e => .error (.config e)
  | none =>
    match illegalBody? request.body with
    | some e => .error e
    | none =>
      .ok ⟨request.method, { request.url with fragment := none }.text,
        messageHeaders config request, request.body.map bodyText⟩

/-- The bytes after a byte order mark. -/
def afterMark (bytes : List UInt8) : List UInt8 :=
  match bytes with
  | 0xEF :: 0xBB :: 0xBF :: rest => rest
  | _ => bytes

/-- The text of the bytes of an answer. -/
def receivedText (bytes : List UInt8) : String :=
  String.ofList (Text.utf8CharsLossy (afterMark bytes))

/-- The value of the text of an answer. -/
def readBody (text : String) : Json :=
  if Text.isBlank text then .null
  else
    match Json.parse text with
    | .ok v => v
    | .error _ => .str text

/-- What an answer means. -/
def decode (answer : Answer) : Except ApiError RawResponse :=
  match answer.reply? with
  | some (status, body) => .ok (.ofStatus status (readBody (receivedText body)))
  | none => .error .network

/-- The channel of a server with some configuration. -/
def channel (config : Config) : Channel where
  Message := Message
  Answer := Answer
  encode := encode config
  decode := decode
  standing := .reply 200 (Text.utf8 "\x7b\"data\":true\x7d".toList)

/-- The answer that a script gives to the message sent after some number of others. -/
def answerAt (script : List Answer) (n : Nat) : Answer :=
  (script.drop n).headD (.reply 200 (Text.utf8 "\x7b\"data\":true\x7d".toList))

/-- How a transport follows redirections: to the place that a redirection names it sends the method
and the body of the message again, or it only reads there. -/
structure Redirection where
  follow : Message → Nat → String → Message
  again_or_get : ∀ m status location,
    ((follow m status location).method = m.method ∧ (follow m status location).body = m.body) ∨
      (follow m status location).method = .get

namespace Redirection

/-- The messages of one exchange: the one that is sent first, and one more for each redirection. -/
def hops (r : Redirection) (m : Message) (answer : Answer) : List Message :=
  match answer with
  | .redirected status location next => m :: r.hops (r.follow m status location) next
  | _ => [m]

/-- The messages that leave in all where some are sent one after the other. -/
def traffic (r : Redirection) (script : List Answer) (sent : List Message) : List Message :=
  match sent with
  | [] => []
  | m :: rest => r.hops m (answerAt script 0) ++ r.traffic script.tail rest

end Redirection

end Mailroom.Wire
