import Mailroom.Client.Call
import Mailroom.Command.Basic
import Mailroom.Terminal.Answer

/-!
# Plans

What a command will ask the server, and what it will show of the answer. A plan is one step, or a
call that only reads followed by a step that depends on what was read. All local checks of a command
are made in `ServerCommand.plan`, before anything is sent, except for those of settings, which are
made between the two calls.
-/

namespace Mailroom

open Terminal (Output Writer)

/-- A call and what is shown of its answer. -/
structure Step where
  call : Call
  /-- A note on what was being done, added where the server refuses the call. -/
  refusalNote : Option String
  display : Envelope call.endpoint.Payload → Except Report Output

/-- What a command will ask the server. -/
inductive Plan where
  | once (step : Step)
  | afterReading (call : Call) (refusalNote : Option String)
      (next : Envelope call.endpoint.Payload → Except Report Step)

/-- A plan of one call whose answer is always shown. -/
def Plan.showing (call : Call) (display : Envelope call.endpoint.Payload → Output) : Plan :=
  .once ⟨call, none, fun e => .ok (display e)⟩

/-- A plan of one call with a note on its refusal. -/
def Plan.noted (call : Call) (note : String)
    (display : Envelope call.endpoint.Payload → Output) : Plan :=
  .once ⟨call, some note, fun e => .ok (display e)⟩

/-- A plan of one call whose answer is shown in JSON together with what was achieved. -/
def Plan.doing (w : Writer) (call : Call) (achieved : String) : Plan :=
  .showing call (w.done · achieved)

/-- The name of a kind of record inside a sentence. -/
def Resource.word (r : Resource) : String :=
  Text.lowercase r.name

/-- A number inside a sentence. -/
def numberWord (n : UInt64) : String :=
  Text.ofNat n.toNat

/-- Numbers inside a sentence. -/
def numbersWord (ns : List UInt64) : String :=
  "[" ++ ", ".intercalate (ns.map numberWord) ++ "]"

namespace RecordCommand

/-- The plan of a command on a kind of record. -/
def plan (r : Resource) (c : RecordCommand) (w : Writer) (inputs : Inputs) : Except Report Plan :=
  match c with
  | list query => query.options.map fun options => .showing (.list r options) w.page
  | get id =>
    .ok (.noted (.getById r (CallOptions.empty.withId id))
      s!"Failed to get {r.word} {numberWord id}" (w.record (α := r.Item)))
  | create body =>
    (body.required inputs).map fun v =>
      .showing (.create r (CallOptions.empty.withJson v)) (w.record (α := r.Item))
  | update id body =>
    (body.required inputs).map fun v =>
      .noted (.update r ((CallOptions.empty.withId id).withJson v))
        s!"Failed to update {r.word} {numberWord id}" (w.record (α := r.Item))
  | delete id =>
    .ok (.showing (.delete r (CallOptions.empty.withId id)) fun e =>
      (match w.format with
        | .json => w.value e
        | .table => .nothing).andThen
      (w.success s!"Deleted {r.word} {numberWord id}"))

end RecordCommand

/-- The file that a command uploads. -/
def Inputs.upload (inputs : Inputs) (path : String) (mime : Option String) :
    Except Report FilePart :=
  match inputs.file path with
  | .ok contents => .ok ⟨"file", Inputs.baseName path, mime, contents⟩
  | .error e =>
    .error ((Report.ofApi (.invalidRequest s!"cannot read {path}: {e.message}")).within
      s!"Failed to read {path}")

/-- The message that a command describes. -/
def MessageSource.message (m : MessageSource) (inputs : Inputs) : Except Report DirectMessage :=
  match m.data.body inputs with
  | .error e => .error e
  | .ok data =>
    (Field.readAll Field.split m.headers).map fun headers =>
      ⟨m.address, if m.address.isSome then none else m.subscriberId, m.templateId, m.fromEmail,
        data.getD .null, Dict.ofList headers, m.messenger, m.contentType⟩

namespace ServerCommand

/-- The call that changes the lists of a selection. -/
def membershipCall (action : MembershipAction) (selection : Selection) (targetLists : List UInt64)
    (status : Option String) : Call :=
  match selection with
  | .query query => .manageListsByQuery query action targetLists status
  | .ids ids => .manageLists ⟨ids, action, targetLists, status⟩

/-- The call that blocklists a selection; a single number has an endpoint of its own. -/
def blocklistCall (selection : Selection) : Call :=
  match selection with
  | .query query => .blocklistByQuery query
  | .ids [id] => .blocklistById id
  | .ids ids => .blocklist ids

/-- The call that deletes a selection. -/
def deleteManyCall (selection : Selection) : Call :=
  match selection with
  | .query query => .deleteSubscribersByQuery query
  | .ids ids => .deleteSubscribers ids

/-- The call that deletes bounces; a single number has an endpoint of its own. -/
def deleteBouncesCall (ids : List UInt64) : Call :=
  match ids with
  | [id] => .deleteBounce id
  | ids => .deleteBounces (.ids ids)

/-- The plan of a change of lists; a status goes with an addition only. -/
def membershipPlan (action : MembershipAction) (selection : Selection) (targetLists : List UInt64)
    (status : Option String) (w : Writer) : Except Report Plan :=
  if status.isSome && action ≠ .add then .error (.plain "--status only applies to 'add'")
  else
    .ok (.doing w (membershipCall action selection targetLists status)
      s!"Applied '{action.text}' to lists {numbersWord targetLists}")

/-- The content of a stored campaign, to be rendered again. -/
def storedContent (c : Campaign) : Json :=
  .object [("template_id", .ofOption .ofWord c.templateId), ("content_type", .str c.contentType),
    ("body", .str c.body)]

/-- The plan of rendering a campaign: as it is stored, or with other content. Only the plain text
of a stored campaign takes two calls. -/
def previewPlan (id : UInt64) (plainText : Bool) (body : Option Json) (w : Writer) : Plan :=
  match body, plainText with
  | some v, true => .showing (.renderCampaignText id v) w.text
  | some v, false => .showing (.renderCampaign id v) w.text
  | none, false => .showing (.previewCampaign id) w.text
  | none, true =>
    .afterReading (.getById .campaign (CallOptions.empty.withId id))
      (some s!"Failed to get campaign {numberWord id}") fun stored =>
        .ok ⟨.renderCampaignText id (storedContent stored.data), none, fun e => .ok (w.text e)⟩

/-- The plan of rendering a template, stored or given. -/
def templatePlan (id : Option UInt64) (body : Option Json) (w : Writer) : Except Report Plan :=
  match body, id with
  | some v, _ => .ok (.showing (.renderTemplate v) w.text)
  | none, some id => .ok (.showing (.previewTemplate id) w.text)
  | none, none => .error (.plain "Pass a template ID or a body to render")

/-- The options of a list of bounces. -/
def bounceQuery (query : PageQuery) (campaign : Option UInt64) (source : Option String) :
    Except Report CallOptions :=
  query.options.map fun options =>
    let filters :=
      (campaign.map fun id => ("campaign_id", Json.ofWord id)).toList ++
        (source.map fun s => ("source", Json.str s)).toList
    { options with query := Dict.insertAll options.query filters }

/-- What is shown of the settings: all of them or a single one. -/
def displaySettings (key : Option String) (w : Writer) (e : Envelope Json) : Except Report Output :=
  match key with
  | none => .ok (w.value e)
  | some key =>
    match e.data.field? key with
    | some v => .ok (w.value (e.withData v))
    | none => .error (.plain s!"Unknown setting '{key}'")

/-- The plan of changing settings: the current ones are read, changed and written back. -/
def updateSettingsPlan (body : BodySource) (w : Writer) (inputs : Inputs) : Except Report Plan :=
  if body.hasNoFields && body.input.isNone then
    .error (.plain "Nothing to update: pass -F NAME=VALUE fields or --input FILE")
  else
    .ok (.afterReading .getSettings none fun current =>
      (body.settings inputs current.data).map fun settings =>
        ⟨.replaceSettings settings, none, fun e =>
          .ok ((w.done e "Settings updated").andThen
            (w.warning "The server restarts to apply the new settings"))⟩)

/-- The last lines of a log. -/
def tailLines (tail : Option UInt64) (lines : List String) : List String :=
  match tail with
  | some n => lines.drop (lines.length - n.toNat)
  | none => lines

/-- What is shown of the health of the server, which has to be good. -/
def displayHealth (w : Writer) (e : Envelope Bool) : Except Report Output :=
  if e.data then .ok (w.done e "Server is healthy")
  else .error (.plain "Server reported itself unhealthy")

/-- The plan of a command; what is wrong with its arguments or its inputs comes to light here. -/
def plan (c : ServerCommand) (w : Writer) (inputs : Inputs) : Except Report Plan :=
  match c with
  | records r command => command.plan r w inputs
  | manageLists action selection targetLists status =>
    membershipPlan action selection targetLists status w
  | blocklist selection => .ok (.doing w (blocklistCall selection) "Subscribers blocklisted")
  | deleteMany selection => .ok (.doing w (deleteManyCall selection) "Subscribers deleted")
  | exportSubscriber id => .ok (.showing (.exportSubscriber id) w.value)
  | sendOptin id =>
    .ok (.doing w (.sendOptin id) s!"Opt-in e-mail sent to subscriber {numberWord id}")
  | subscriberBounces id true =>
    .ok (.doing w (.deleteSubscriberBounces id)
      s!"Deleted bounces of subscriber {numberWord id}")
  | subscriberBounces id false => .ok (.showing (.subscriberBounces id) w.value)
  | previewCampaign id plainText body =>
    (body.body inputs).map fun v => previewPlan id plainText v w
  | campaignStatus id status =>
    .ok (.showing (.setCampaignStatus id status) fun e =>
      (w.record (α := Campaign) e).andThen
        (w.success s!"Campaign {numberWord id} is now {status.text}"))
  | archiveCampaign id body =>
    (body.required inputs).map fun v => .showing (.archiveCampaign id v) w.value
  | campaignContent id body =>
    (body.required inputs).map fun v => .showing (.setCampaignContent id v) w.value
  | testCampaign id recipients body =>
    let addresses := ", ".intercalate recipients
    (body.body inputs).map fun v =>
      .doing w (.testCampaign id (v.getD .null) recipients)
        s!"Test of campaign {numberWord id} sent to {addresses}"
  | runningStats ids => .ok (.showing (.runningStats ids) w.value)
  | analytics kind ids since upTo => .ok (.showing (.analytics kind ids since upTo) w.value)
  | setDefaultTemplate id =>
    .ok (.doing w (.setDefaultTemplate id) s!"Template {numberWord id} is now the default")
  | previewTemplate id body => (body.body inputs).bind fun v => templatePlan id v w
  | uploadMedia path mime =>
    (inputs.upload path mime).map fun file =>
      .showing (.uploadMedia file) fun e =>
        (w.record (α := Media) e).andThen (w.success s!"Uploaded {e.data.filename}")
  | listBounces query campaign source =>
    (bounceQuery query campaign source).map fun options => .showing (.listBounces options) w.page
  | getBounce id => .ok (.showing (.getBounce id) (w.record (α := Bounce)))
  | deleteBounces ids => .ok (.doing w (deleteBouncesCall ids) "Bounces deleted")
  | deleteAllBounces => .ok (.doing w (.deleteBounces .every) "Bounces deleted")
  | startImport path params =>
    (inputs.upload path none).map fun file =>
      .doing w (.startImport params file) s!"Import of {path} started"
  | stopImport => .ok (.showing .stopImport w.value)
  | importStatus => .ok (.showing .importStatus w.value)
  | importLogs => .ok (.showing .importLogs w.text)
  | sendMessage source =>
    (source.message inputs).map fun message =>
      .doing w (.sendMessage message) s!"Message sent to {message.recipientText}"
  | getSettings key => .ok (.once ⟨.getSettings, none, displaySettings key w⟩)
  | updateSettings body => updateSettingsPlan body w inputs
  | testSmtp body => (body.required inputs).map fun v => .showing (.testSmtp v) w.value
  | dashboardCounts => .ok (.showing .dashboardCounts w.value)
  | dashboardCharts => .ok (.showing .dashboardCharts w.value)
  | serverConfig => .ok (.showing .serverConfig w.value)
  | serverLogs tail =>
    .ok (.showing .serverLogs fun e =>
      w.text (e.withData ("\n".intercalate (tailLines tail e.data))))
  | reload => .ok (.doing w .reload "Reload requested")
  | health => .ok (.once ⟨.health, none, displayHealth w⟩)

end ServerCommand

end Mailroom
