import Mailroom.Proofs.Client.Readiness
import Mailroom.Proofs.Envelope.Extraction
import Mailroom.Proofs.Json.Literal
import Mailroom.Proofs.Text.Utf8

/-!
# Rendered documents

Five calls ask for a rendered document, whose text is the payload. But the text of an answer is
looked at before it is known what it is for: a blank one counts as null, and one that is JSON as its
value. So a rendering comes back as it was sent exactly if it is neither
(`render_eq_text_iff`). A blank one and a number fail, and a quoted string loses its quotes.
-/

namespace Mailroom

/-! ## What is received -/

namespace Wire

/-- The text of an answer is the text that was sent, but for a mark in front of it. -/
theorem receivedText_utf8 {text : String} (h : text.toList.head? ≠ some '\ufeff') :
    receivedText (Text.utf8 text.toList) = text := by
  have hmark : afterMark (Text.utf8 text.toList) = Text.utf8 text.toList := by
    unfold afterMark
    split
    · next rest hbytes => exact absurd (Text.head?_of_utf8_eq_mark hbytes) h
    · rfl
  rw [receivedText, hmark, Text.utf8CharsLossy_utf8, String.ofList_toList]

/-- A text is taken as it is: it is neither blank nor JSON. -/
def IsVerbatim (text : String) : Prop :=
  Text.isBlank text = false ∧ ∀ v, Json.parse text ≠ .ok v

/-- A text is blank, JSON, or taken as it is. -/
theorem readBody_cases (text : String) :
    (Text.isBlank text = true ∧ readBody text = .null) ∨
    (Text.isBlank text = false ∧ ∃ v, Json.parse text = .ok v ∧ readBody text = v) ∨
    (IsVerbatim text ∧ readBody text = .str text) := by
  unfold readBody IsVerbatim
  cases hblank : Text.isBlank text with
  | true => exact Or.inl ⟨rfl, if_pos rfl⟩
  | false =>
    rw [if_neg (by decide)]
    cases hparse : Json.parse text with
    | ok v => exact Or.inr (Or.inl ⟨rfl, v, rfl, rfl⟩)
    | error e => exact Or.inr (Or.inr ⟨⟨rfl, nofun⟩, rfl⟩)

end Wire

/-! ## What is read -/

namespace Exchange

/-- A success whose body is no object has the body as its payload, which has to be a text. -/
theorem result_text {x : Exchange} (hs : x.isSuccess = true)
    (hbody : ∀ fields, x.response.body ≠ .obj fields) :
    x.result Decode.text = match Decode.text x.response.body with
      | .ok text => .ok ⟨text, [], x.request, x.response.info⟩
      | .error m => .error (.decode x.request.operation (.mismatch m)) := by
  have hdata : x.response.body.field? "data" = none := by
    cases hbody' : x.response.body with
    | obj fields => exact absurd hbody' (hbody fields)
    | _ => rfl
  rw [result, (envelope_of_isSuccess hs).1, unwrapped_of_field?_eq_none hdata]
  change Envelope.decode Decode.text _ = _
  unfold Envelope.decode
  cases Decode.text x.response.body <;> rfl

end Exchange

/-- The calls for a rendered document: of a campaign or a template, stored or given. -/
inductive Rendering where
  | campaign (id : UInt64)
  | campaignWith (id : UInt64) (body : Json)
  | campaignText (id : UInt64) (body : Json)
  | template (id : UInt64)
  | templateWith (body : Json)

namespace Rendering

/-- A rendering as a call. -/
def call (r : Rendering) : Call :=
  match r with
  | campaign id => .previewCampaign id
  | campaignWith id body => .renderCampaign id body
  | campaignText id body => .renderCampaignText id body
  | template id => .previewTemplate id
  | templateWith body => .renderTemplate body

end Rendering

namespace Client

variable {client : Client}

/-- Asks for a rendering. -/
def render {c : Channel} (client : Client) (s : Session c) (r : Rendering) :
    Except ApiError (Attempt String) × Session c :=
  match r with
  | .campaign id => client.perform s (.previewCampaign id)
  | .campaignWith id body => client.perform s (.renderCampaign id body)
  | .campaignText id body => client.perform s (.renderCampaignText id body)
  | .template id => client.perform s (.previewTemplate id)
  | .templateWith body => client.perform s (.renderTemplate body)

/-- A rendering whose request is sent is what the answer says. -/
theorem render_of_writes {c : Channel} (s : Session c) (r : Rendering) {m : c.Message}
    (h : Writes client c m r.call) :
    ∃ request : Request, request.operation = (client.bound r.call.endpoint).name ∧
      client.render s r = ((c.decode s.nextAnswer).bind fun raw =>
        (Exchange.result Decode.text ⟨request.info, raw⟩).map .found, s.advance m) := by
  obtain ⟨request, hrequest, hencode⟩ := h
  refine ⟨request, ?_, ?_⟩
  · obtain ⟨options, -, hprepare⟩ := Outcome.bind_eq_ok_iff.mp hrequest
    obtain ⟨url, -, rfl⟩ := Outcome.map_eq_ok_iff.mp hprepare
    rfl
  · have hperform : ∀ call : Call, client.request call = .ok request →
        client.perform s call = (((c.decode s.nextAnswer).map fun raw =>
          Exchange.mk request.info raw).bind call.endpoint.read, s.advance m) := by
      intro call hcall
      simp only [perform, Session.exchange, hcall, hencode]
    cases r <;> refine (hperform _ hrequest).trans ?_ <;> cases c.decode s.nextAnswer <;> rfl

/-- A rendering that is sent comes back with a text exactly if that is what the answer is read as.
-/
theorem render_of_reply {config : Config} {s : Session (Wire.channel config)} {r : Rendering}
    {m : Wire.Message} (h : Writes client (Wire.channel config) m r.call) {bytes : List UInt8}
    (hanswer : s.nextAnswer = .reply 200 bytes)
    (hbody : ∀ fields, Wire.readBody (Wire.receivedText bytes) ≠ .obj fields) :
    ∃ info : RequestInfo, info.operation = (client.bound r.call.endpoint).name ∧
      client.render s r =
        (match Decode.text (Wire.readBody (Wire.receivedText bytes)) with
          | .ok text => .ok (.found ⟨text, [], info, ⟨200, "OK"⟩⟩)
          | .error e => .error (.decode info.operation (.mismatch e)), s.advance m) := by
  obtain ⟨request, hname, hrender⟩ := render_of_writes s r h
  refine ⟨request.info, hname, ?_⟩
  have hdecode : Wire.decode s.nextAnswer =
      .ok (.ofStatus 200 (Wire.readBody (Wire.receivedText bytes))) := by
    rw [hanswer]
    rfl
  rw [hrender]
  change ((Wire.decode s.nextAnswer).bind _, _) = _
  rw [hdecode]
  change ((Exchange.result Decode.text _).map _, _) = _
  rw [Exchange.result_text rfl hbody]
  dsimp only [RawResponse.ofStatus, RawResponse.info]
  cases Decode.text (Wire.readBody (Wire.receivedText bytes)) <;> rfl

/-- What comes back for a rendering whose text is no JSON object: the text exactly if it is neither
blank nor JSON, and a shorter one for a quoted string. Everything else is a failure of reading. -/
structure Rendered (text operation : String) (result : Except ApiError (Attempt String)) :
    Prop where
  verbatim : (∃ e, result = .ok (.found e) ∧ e.data = text) ↔ Wire.IsVerbatim text
  quoted : ∀ inner, Text.isBlank text = false → Json.parse text = .ok (.str inner) →
    inner.length < text.length ∧ ∃ e, result = .ok (.found e) ∧ e.data = inner
  blank : Text.isBlank text = true →
    result = .error (.decode operation (.mismatch (.invalidType .null "a string")))
  other : ∀ v, Text.isBlank text = false → Json.parse text = .ok v → (∀ inner, v ≠ .str inner) →
    result = .error (.decode operation (.mismatch (.invalidType v "a string")))

namespace Rendered

variable {text operation : String}

theorem of_blank (h : Text.isBlank text = true) : Rendered text operation
    (.error (.decode operation (.mismatch (.invalidType .null "a string")))) := by
  have hnone : Text.isBlank text ≠ false := by
    rw [h]
    decide
  refine ⟨iff_of_false ?_ fun hv => hnone hv.1, fun _ hfull => absurd hfull hnone, fun _ => rfl,
    fun _ hfull => absurd hfull hnone⟩
  rintro ⟨e, he, -⟩
  cases he

theorem of_verbatim (h : Wire.IsVerbatim text) {e : Envelope String} (he : e.data = text) :
    Rendered text operation (.ok (.found e)) := by
  refine ⟨iff_of_true ⟨e, rfl, he⟩ h, fun _ _ hparse => absurd hparse (h.2 _), fun hblank => ?_,
    fun v _ hparse => absurd hparse (h.2 v)⟩
  rw [h.1] at hblank
  cases hblank

variable {v : Json} (hblank : Text.isBlank text = false) (hparse : Json.parse text = .ok v)
include hblank hparse

theorem of_quoted {e : Envelope String} (hv : v = .str e.data) :
    Rendered text operation (.ok (.found e)) := by
  subst hv
  have hlength := Json.length_lt_of_parse_eq_str hparse
  refine ⟨iff_of_false ?_ fun h => h.2 _ hparse, fun inner _ hinner => ?_, fun h => ?_,
    fun v _ hv hother => ?_⟩
  · rintro ⟨e', he, hdata⟩
    cases he
    rw [hdata] at hlength
    exact Nat.lt_irrefl _ hlength
  · cases hparse.symm.trans hinner
    exact ⟨hlength, e, rfl, rfl⟩
  · rw [hblank] at h
    cases h
  · cases hparse.symm.trans hv
    exact absurd rfl (hother _)

theorem of_other (hv : ∀ inner, v ≠ .str inner) : Rendered text operation
    (.error (.decode operation (.mismatch (.invalidType v "a string")))) := by
  refine ⟨iff_of_false ?_ fun h => h.2 _ hparse, fun inner _ hinner => ?_, fun h => ?_,
    fun v' _ hv' _ => ?_⟩
  · rintro ⟨e, he, -⟩
    cases he
  · exact absurd (Except.ok.inj (hparse.symm.trans hinner)) (hv inner)
  · rw [hblank] at h
    cases h
  · cases hparse.symm.trans hv'
    rfl

end Rendered

/-- A rendering that is sent and answered by a text comes back as the text says. -/
theorem rendered_of_reply {config : Config} {s : Session (Wire.channel config)} {r : Rendering}
    {m : Wire.Message} (h : Writes client (Wire.channel config) m r.call) {bytes : List UInt8}
    (hanswer : s.nextAnswer = .reply 200 bytes)
    (hobj : ∀ fields, Json.parse (Wire.receivedText bytes) ≠ .ok (.obj fields)) :
    Rendered (Wire.receivedText bytes) (client.bound r.call.endpoint).name
      (client.render s r).1 := by
  have hbody : ∀ fields, Wire.readBody (Wire.receivedText bytes) ≠ .obj fields := by
    intro fields hfields
    rcases Wire.readBody_cases (Wire.receivedText bytes) with
      ⟨-, hread⟩ | ⟨-, v, hparse, hread⟩ | ⟨-, hread⟩
    · cases hread.symm.trans hfields
    · exact hobj fields (hparse.trans (congrArg _ (hread.symm.trans hfields)))
    · cases hread.symm.trans hfields
  obtain ⟨info, hname, hrender⟩ := render_of_reply h hanswer hbody
  rw [hrender, ← hname]
  generalize Wire.receivedText bytes = text at *
  rcases Wire.readBody_cases text with ⟨hblank, hread⟩ | ⟨hblank, v, hparse, hread⟩ |
    ⟨hverbatim, hread⟩
  · rw [hread]
    exact .of_blank hblank
  · rw [hread]
    cases v with
    | str inner => exact .of_quoted hblank hparse rfl
    | _ => exact .of_other hblank hparse nofun
  · rw [hread]
    exact .of_verbatim hverbatim rfl

/-! ## What is sent -/

/-- In the catalogue the templates of renderings have no placeholder but the record's number. -/
theorem pathParams_of_rendering : ∀ op ∈ Catalog.operations,
    (op.name ∈ ["getCampaignPreviewById", "previewCampaignById", "previewCampaignTextById",
      "getTemplatePreviewById"] → ∀ name ∈ op.pathParams, name = "id") ∧
    (op.name = "previewTemplate" → op.pathParams = []) := by
  decide +kernel

/-- A rendering asked of a client of the catalogue is always sent. -/
theorem exists_writes_rendering {config : Config} {client : Client}
    (h : build (.standard config) = .ok client) (r : Rendering) :
    ∃ m, Writes client (Wire.channel config) m r.call := by
  have hmade := madeOf_of_build h
  obtain ⟨hop, hname⟩ := hmade.bound_mem (ClientSetup.table_standard config) r.call.endpoint
  obtain ⟨hrecord, htemplate⟩ := pathParams_of_rendering _ hop
  have hsent : ∀ options, r.call.options = .ok options → options.headers = [] →
      Wire.illegalBody? options.body = none →
      (∀ name ∈ (client.bound r.call.endpoint).pathParams, ∃ text,
        Request.valueText? (CallOptions.empty.layered options).path name = some text) →
      ∃ m, Writes client (Wire.channel config) m r.call := by
    intro options hoptions hheaders hbody hvalues
    obtain ⟨request, m, hrequest, hwritten, -⟩ :=
      hmade.exists_writes hoptions hheaders hbody hvalues
    exact ⟨m, request, hrequest, hwritten⟩
  have hid : ∀ options, (∃ v, options.path = [("id", Json.ofWord v)]) →
      r.call.endpoint.operationName ∈ ["getCampaignPreviewById", "previewCampaignById",
        "previewCampaignTextById", "getTemplatePreviewById"] →
      ∀ name ∈ (client.bound r.call.endpoint).pathParams, ∃ text,
        Request.valueText? (CallOptions.empty.layered options).path name = some text := by
    rintro options ⟨v, hpath⟩ hmem name hparam
    rw [hrecord (hname ▸ hmem) name hparam]
    change ∃ text, Request.valueText? (Dict.insertAll [] options.path) "id" = some text
    rw [hpath]
    exact ⟨_, rfl⟩
  cases r with
  | campaign id => exact hsent _ rfl rfl rfl (hid _ ⟨id, rfl⟩ (.head _))
  | campaignWith id body => exact hsent _ rfl rfl rfl (hid _ ⟨id, rfl⟩ (.tail _ (.head _)))
  | campaignText id body =>
    exact hsent _ rfl rfl rfl (hid _ ⟨id, rfl⟩ (.tail _ (.tail _ (.head _))))
  | template id =>
    exact hsent _ rfl rfl rfl (hid _ ⟨id, rfl⟩ (.tail _ (.tail _ (.tail _ (.head _)))))
  | templateWith body =>
    refine hsent _ rfl rfl rfl fun name hparam => ?_
    rw [htemplate hname] at hparam
    cases hparam

end Client

end Mailroom
