import Mailroom.Proofs.Call.Masking
import Mailroom.Proofs.Client.Construction
import Mailroom.Proofs.Client.Conversation

/-!
# What does not depend on the token

Two configurations that differ in their token alone make the same client or fail in the same way. So
over any one channel the calls of both come out the same. Over the wire the channels are different,
but they write messages that are the same without their credentials, and read answers in the same
way. Sessions over them stay alike from call to call (`alike_perform`, `alike_performAll`).
-/

namespace Mailroom

namespace Header

/-- A value that is legal exactly if another one is, and tells nothing else of it. -/
def verdict (_name value : String) : String :=
  if isLegalValue value then "" else "\n"

theorem isLegalValue_verdict (name value : String) :
    isLegalValue (verdict name value) = isLegalValue value := by
  unfold verdict
  cases isLegalValue value <;> decide

end Header

namespace Config

/-- A text that can be a token: it is not blank and can be sent. -/
structure UsableToken (token : String) : Prop where
  given : Text.isBlank token = false
  legal : Header.isLegalValue token = true

variable {token token' : String}

theorem validate_withToken (ht : UsableToken token) (ht' : UsableToken token') (c : Config) :
    (c.withToken token).validate = (c.withToken token').validate := by
  unfold validate
  rw [show Text.isBlank (c.withToken token).token = false from ht.given,
    show Text.isBlank (c.withToken token').token = false from ht'.given]
  rfl

/-- Whether credentials with a usable token can be sent is decided by the user's name. -/
theorem isLegalValue_authorization (ht : UsableToken token) (c : Config) :
    Header.isLegalValue (c.withToken token).authorization = Header.isLegalValue c.username := by
  have htext : (c.withToken token).authorization.toList =
      "token ".toList ++ c.username.toList ++ ":".toList ++ token.toList := by
    simp [authorization, withToken, toString, String.toList_append]
  have hlegal := ht.legal
  unfold Header.isLegalValue at hlegal ⊢
  rw [htext, List.all_append, List.all_append, List.all_append, hlegal]
  simp

/-- What makes the configured headers impossible to send does not depend on the token. -/
theorem firstIllegal?_withToken (ht : UsableToken token) (ht' : UsableToken token') (c : Config) :
    Header.firstIllegal? (c.withToken token).requestHeaders =
      Header.firstIllegal? (c.withToken token').requestHeaders := by
  have hsame : Header.verdict "Authorization" (c.withToken token).authorization =
      Header.verdict "Authorization" (c.withToken token').authorization := by
    rw [Header.verdict, Header.verdict, isLegalValue_authorization ht,
      isLegalValue_authorization ht']
  calc Header.firstIllegal? (c.withToken token).requestHeaders
      = Header.firstIllegal? (Dict.remap Header.verdict (c.withToken token).requestHeaders) :=
        (Header.firstIllegal?_remap _ Header.isLegalValue_verdict _).symm
    _ = Header.firstIllegal? (Dict.remap Header.verdict (c.withToken token').requestHeaders) := by
        rw [remap_requestHeaders hsame]
    _ = Header.firstIllegal? (c.withToken token').requestHeaders :=
        Header.firstIllegal?_remap _ Header.isLegalValue_verdict _

end Config

/-- A setup with another token. -/
def ClientSetup.withToken (setup : ClientSetup) (token : String) : ClientSetup :=
  { setup with config := setup.config.withToken token }

theorem ClientSetup.withToken_standard (c : Config) (token : String) :
    (ClientSetup.standard c).withToken token = .standard (c.withToken token) := by
  rw [ClientSetup.standard, withToken, ClientSetup.standard]

namespace Session

variable {config config' : Config}

/-- Two sessions over the wire have the same answers before them, and have sent the same but for the
credentials. -/
structure Alike (s : Session (Wire.channel config)) (s' : Session (Wire.channel config')) :
    Prop where
  script : s.script = s'.script
  sent : s.sent.map Wire.Message.masked = s'.sent.map Wire.Message.masked

variable {s : Session (Wire.channel config)} {s' : Session (Wire.channel config')}

theorem Alike.start (script : List Wire.Answer) :
    (start script : Session (Wire.channel config)).Alike
      (start script : Session (Wire.channel config')) :=
  ⟨rfl, rfl⟩

theorem Alike.nextAnswer_eq (h : s.Alike s') : s.nextAnswer = s'.nextAnswer :=
  congrArg (List.headD · (Wire.channel config).standing) h.script

theorem map_masked_advance (s : Session (Wire.channel config)) (m : Wire.Message) :
    (s.advance m).sent.map Wire.Message.masked =
      s.sent.map Wire.Message.masked ++ [m.masked] :=
  List.map_append

theorem Alike.advance (h : s.Alike s') {m m' : Wire.Message} (hm : m.masked = m'.masked) :
    (s.advance m).Alike (s'.advance m') where
  script := congrArg List.tail h.script
  sent := by rw [map_masked_advance, map_masked_advance, h.sent, hm]

end Session

namespace Client

variable {token token' : String}

/-- The client of a setup does not depend on the token. -/
theorem build_withToken (ht : Config.UsableToken token) (ht' : Config.UsableToken token')
    (setup : ClientSetup) : build (setup.withToken token) = build (setup.withToken token') := by
  have hheaders : illegalHeader? (setup.withToken token) =
      illegalHeader? (setup.withToken token') := by
    unfold illegalHeader?
    exact if_congr Iff.rfl (Config.firstIllegal?_withToken ht ht' setup.config) rfl
  unfold build
  rw [hheaders, show (setup.withToken token).config.validate = _ from
    Config.validate_withToken ht ht' setup.config]
  rfl

variable {config config' : Config}

/-- A call over sessions that are alike comes out the same, and they stay alike. -/
theorem alike_perform (hwrites : Wire.WritesAlike config config')
    {s : Session (Wire.channel config)} {s' : Session (Wire.channel config')} (h : s.Alike s')
    (client : Client) (call : Call) :
    (client.perform s call).1 = (client.perform s' call).1 ∧
      (client.perform s call).2.Alike (client.perform s' call).2 := by
  cases hrequest : client.request call with
  | error e =>
    rw [perform_of_request_eq_error hrequest, perform_of_request_eq_error hrequest]
    exact ⟨rfl, h⟩
  | ok request =>
    rcases Outcome.map_eq_map_iff.mp (hwrites request) with
      ⟨e, hrefused, hrefused'⟩ | ⟨m, m', hwritten, hwritten', hmasked⟩
    · rw [perform_of_encode_eq_error hrequest hrefused,
        perform_of_encode_eq_error hrequest hrefused']
      exact ⟨rfl, h⟩
    · rw [perform_of_encode_eq_ok hrequest hwritten, perform_of_encode_eq_ok hrequest hwritten',
        h.nextAnswer_eq]
      exact ⟨rfl, h.advance hmasked⟩

/-- Calls over sessions that are alike come out the same, and the sessions stay alike. -/
theorem alike_performAll (hwrites : Wire.WritesAlike config config')
    {s : Session (Wire.channel config)} {s' : Session (Wire.channel config')} (h : s.Alike s')
    (client : Client) (calls : List Call) :
    (client.performAll s calls).1 = (client.performAll s' calls).1 ∧
      (client.performAll s calls).2.Alike (client.performAll s' calls).2 := by
  induction calls generalizing s s' with
  | nil => exact ⟨rfl, h⟩
  | cons call rest ih =>
    obtain ⟨hresult, hnext⟩ := alike_perform hwrites h client call
    obtain ⟨hreplies, hlast⟩ := ih hnext
    rw [performAll_cons, performAll_cons, hresult, hreplies]
    exact ⟨rfl, hlast⟩

/-- Over one channel nothing depends on the token. -/
theorem converse_withToken (ht : Config.UsableToken token) (ht' : Config.UsableToken token')
    (setup : ClientSetup) (c : Channel) (script : List c.Answer) (calls : List Call) :
    converse (setup.withToken token) c script calls =
      converse (setup.withToken token') c script calls := by
  rw [converse, converse, build_withToken ht ht' setup]

/-- What comes of making a client and having it make calls over the wire. -/
def correspond (setup : ClientSetup) (script : List Wire.Answer) (calls : List Call) :
    Except ApiError (List Reply) × List Wire.Message :=
  converse setup (Wire.channel setup.config) script calls

theorem correspond_of_build_eq_error {setup : ClientSetup} {e : ApiError}
    (h : build setup = .error e) (script : List Wire.Answer) (calls : List Call) :
    correspond setup script calls = (.error e, []) :=
  converse_of_build_eq_error (c := Wire.channel setup.config) h script calls

theorem correspond_of_build_eq_ok {setup : ClientSetup} {client : Client}
    (h : build setup = .ok client) (script : List Wire.Answer) (calls : List Call) :
    let s : Session (Wire.channel setup.config) := .start script
    correspond setup script calls =
      (.ok (client.performAll s calls).1, (client.performAll s calls).2.sent) :=
  converse_of_build_eq_ok (c := Wire.channel setup.config) h script calls

/-- Over the wire the replies do not depend on the token, and the messages only in their
credentials. -/
theorem correspond_withToken (ht : Config.UsableToken token) (ht' : Config.UsableToken token')
    (setup : ClientSetup) (script : List Wire.Answer) (calls : List Call) :
    (correspond (setup.withToken token) script calls).1 =
        (correspond (setup.withToken token') script calls).1 ∧
      (correspond (setup.withToken token) script calls).2.map Wire.Message.masked =
        (correspond (setup.withToken token') script calls).2.map Wire.Message.masked := by
  have hbuild := build_withToken ht ht' setup
  cases hbuild' : build (setup.withToken token') with
  | error e =>
    rw [correspond_of_build_eq_error (hbuild.trans hbuild'), correspond_of_build_eq_error hbuild']
    exact ⟨rfl, rfl⟩
  | ok client =>
    obtain ⟨hreplies, hlast⟩ := alike_performAll
      (Wire.writesAlike_withToken setup.config token token') (Session.Alike.start script) client
      calls
    rw [correspond_of_build_eq_ok (hbuild.trans hbuild'), correspond_of_build_eq_ok hbuild']
    exact ⟨congrArg Except.ok hreplies, hlast.sent⟩

end Client

end Mailroom
