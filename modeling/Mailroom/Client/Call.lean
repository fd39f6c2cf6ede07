import Mailroom.Call.Options
import Mailroom.Client.Endpoint
import Mailroom.Failure.ApiError
import Mailroom.Record.DirectMessage
import Mailroom.Record.Import

/-!
# Calls

A call is an endpoint together with what it is asked for, in the terms of the endpoint. `options`
states a call as options of a request. Some calls cannot be stated: a message without a recipient, a
test with content that is no object, and a deletion of bounces that names none.
-/

namespace Mailroom

/-- The bounces that a deletion takes. -/
inductive BounceSelection where
  | every
  | ids (ids : List UInt64)

/-- What a server is asked for. -/
inductive Call where
  | create (resource : Resource) (options : CallOptions)
  | list (resource : Resource) (options : CallOptions)
  | getById (resource : Resource) (options : CallOptions)
  | update (resource : Resource) (options : CallOptions)
  | delete (resource : Resource) (options : CallOptions)
  | manageLists (change : ListMembership)
  | manageListsByQuery (query : SubscriberQuery) (action : MembershipAction)
      (targetLists : List UInt64) (status : Option String)
  | blocklist (ids : List UInt64)
  | blocklistById (id : UInt64)
  | blocklistByQuery (query : SubscriberQuery)
  | deleteSubscribers (ids : List UInt64)
  | deleteSubscribersByQuery (query : SubscriberQuery)
  | exportSubscriber (id : UInt64)
  | sendOptin (id : UInt64)
  | subscriberBounces (id : UInt64)
  | deleteSubscriberBounces (id : UInt64)
  | previewCampaign (id : UInt64)
  | renderCampaign (id : UInt64) (body : Json)
  | renderCampaignText (id : UInt64) (body : Json)
  | setCampaignStatus (id : UInt64) (status : CampaignStatus)
  | archiveCampaign (id : UInt64) (body : Json)
  | setCampaignContent (id : UInt64) (body : Json)
  | testCampaign (id : UInt64) (body : Json) (addresses : List String)
  | runningStats (ids : List UInt64)
  | analytics (kind : AnalyticsKind) (ids : List UInt64) (since upTo : Option String)
  | setDefaultTemplate (id : UInt64)
  | previewTemplate (id : UInt64)
  | renderTemplate (body : Json)
  | uploadMedia (file : FilePart)
  | startImport (params : ImportParams) (file : FilePart)
  | stopImport
  | importStatus
  | importLogs
  | listBounces (options : CallOptions)
  | getBounce (id : UInt64)
  | deleteBounces (selection : BounceSelection)
  | deleteBounce (id : UInt64)
  | sendMessage (message : DirectMessage)
  | getSettings
  | replaceSettings (settings : Json)
  | testSmtp (body : Json)
  | dashboardCharts
  | dashboardCounts
  | serverConfig
  | serverLogs
  | reload
  | health

namespace Call

/-- The endpoint of a call. -/
def endpoint (call : Call) : Endpoint :=
  match call with
  | create r _ => .common r .create
  | list r _ => .common r .list
  | getById r _ => .common r .getById
  | update r _ => .common r .update
  | delete r _ => .common r .delete
  | manageLists _ => .manageLists
  | manageListsByQuery _ _ _ _ => .manageListsByQuery
  | blocklist _ => .blocklist
  | blocklistById _ => .blocklistById
  | blocklistByQuery _ => .blocklistByQuery
  | deleteSubscribers _ => .deleteSubscribers
  | deleteSubscribersByQuery _ => .deleteSubscribersByQuery
  | exportSubscriber _ => .exportSubscriber
  | sendOptin _ => .sendOptin
  | subscriberBounces _ => .subscriberBounces
  | deleteSubscriberBounces _ => .deleteSubscriberBounces
  | previewCampaign _ => .previewCampaign
  | renderCampaign _ _ => .renderCampaign
  | renderCampaignText _ _ => .renderCampaignText
  | setCampaignStatus _ _ => .setCampaignStatus
  | archiveCampaign _ _ => .archiveCampaign
  | setCampaignContent _ _ => .setCampaignContent
  | testCampaign _ _ _ => .testCampaign
  | runningStats _ => .runningStats
  | analytics _ _ _ _ => .analytics
  | setDefaultTemplate _ => .setDefaultTemplate
  | previewTemplate _ => .previewTemplate
  | renderTemplate _ => .renderTemplate
  | uploadMedia _ => .uploadMedia
  | startImport _ _ => .startImport
  | stopImport => .stopImport
  | importStatus => .importStatus
  | importLogs => .importLogs
  | listBounces _ => .listBounces
  | getBounce _ => .getBounce
  | deleteBounces _ => .deleteBounces
  | deleteBounce _ => .deleteBounce
  | sendMessage _ => .sendMessage
  | getSettings => .getSettings
  | replaceSettings _ => .replaceSettings
  | testSmtp _ => .testSmtp
  | dashboardCharts => .dashboardCharts
  | dashboardCounts => .dashboardCounts
  | serverConfig => .serverConfig
  | serverLogs => .serverLogs
  | reload => .reload
  | health => .health

/-- The options that name one record. -/
def ofRecord (id : UInt64) : CallOptions :=
  CallOptions.empty.withId id

/-- The options of a change of the lists of queried subscribers. -/
def queryChange (query : SubscriberQuery) (action : MembershipAction) (targetLists : List UInt64)
    (status : Option String) : CallOptions :=
  CallOptions.empty.withJson <| .object <|
    query.entries ++ [("action", .str action.text), ("target_list_ids", .ofWords targetLists)] ++
      (status.map fun s => ("status", Json.str s)).toList

/-- The options of a test, whose content is an object or nothing. -/
def testOptions (id : UInt64) (body : Json) (addresses : List String) :
    Except ApiError CallOptions :=
  let sentTo (fields : Dict Json) : CallOptions :=
    (ofRecord id).withJson (.obj (Dict.insert fields "subscribers" (.ofStrings addresses)))
  match body with
  | .obj fields => .ok (sentTo fields)
  | .null => .ok (sentTo [])
  | other =>
    .error (.invalidRequest s!"test campaign body must be an object, got {other.compact}")

/-- The options of a request for the figures of campaigns. -/
def analyticsOptions (kind : AnalyticsKind) (ids : List UInt64) (since upTo : Option String) :
    CallOptions :=
  let given (o : CallOptions) (name : String) (value : Option String) : CallOptions :=
    match value with
    | some text => o.withQuery name (.str text)
    | none => o
  let named := (CallOptions.empty.withPath "type" (.str kind.text)).withQuery "id" (.ofWords ids)
  given (given named "from" since) "to" upTo

/-- The options of a deletion of bounces, which has to name some. -/
def bounceOptions (selection : BounceSelection) : Except ApiError CallOptions :=
  match selection with
  | .every => .ok (CallOptions.empty.withQuery "all" (.bool true))
  | .ids [] =>
    .error (.invalidRequest
      "no bounce IDs given; use BounceSelection::All to delete every bounce")
  | .ids ids => .ok (CallOptions.empty.withQuery "id" (.ofWords ids))

/-- The options of a message, which has to have a recipient. -/
def messageOptions (message : DirectMessage) : Except ApiError CallOptions :=
  if message.hasRecipient then .ok (CallOptions.empty.withJson message.encode)
  else .error (.invalidRequest "a transactional message needs a subscriber e-mail or ID")

/-- A call as options of a request. -/
def options (call : Call) : Except ApiError CallOptions :=
  match call with
  | create _ o => .ok o
  | list _ o => .ok o
  | getById _ o => .ok o
  | update _ o => .ok o
  | delete _ o => .ok o
  | manageLists change => .ok (CallOptions.empty.withJson change.encode)
  | manageListsByQuery query action targetLists status =>
    .ok (queryChange query action targetLists status)
  | blocklist ids => .ok (CallOptions.empty.withJson (.obj [("ids", .ofWords ids)]))
  | blocklistById id => .ok (ofRecord id)
  | blocklistByQuery query => .ok (CallOptions.empty.withJson query.encode)
  | deleteSubscribers ids => .ok (CallOptions.empty.withQuery "id" (.ofWords ids))
  | deleteSubscribersByQuery query => .ok (CallOptions.empty.withJson query.encode)
  | exportSubscriber id => .ok (ofRecord id)
  | sendOptin id => .ok (ofRecord id)
  | subscriberBounces id => .ok (ofRecord id)
  | deleteSubscriberBounces id => .ok (ofRecord id)
  | previewCampaign id => .ok (ofRecord id)
  | renderCampaign id body => .ok ((ofRecord id).withJson body)
  | renderCampaignText id body => .ok ((ofRecord id).withJson body)
  | setCampaignStatus id status =>
    .ok ((ofRecord id).withJson (.obj [("status", .str status.text)]))
  | archiveCampaign id body => .ok ((ofRecord id).withJson body)
  | setCampaignContent id body => .ok ((ofRecord id).withJson body)
  | testCampaign id body addresses => testOptions id body addresses
  | runningStats [] => .ok CallOptions.empty
  | runningStats ids => .ok (CallOptions.empty.withQuery "campaign_id" (.ofWords ids))
  | analytics kind ids since upTo => .ok (analyticsOptions kind ids since upTo)
  | setDefaultTemplate id => .ok (ofRecord id)
  | previewTemplate id => .ok (ofRecord id)
  | renderTemplate body => .ok (CallOptions.empty.withJson body)
  | uploadMedia file => .ok (CallOptions.empty.withMultipart ⟨[], file⟩)
  | startImport params file =>
    .ok (CallOptions.empty.withMultipart ⟨[("params", params.text)], file⟩)
  | stopImport => .ok CallOptions.empty
  | importStatus => .ok CallOptions.empty
  | importLogs => .ok CallOptions.empty
  | listBounces o => .ok o
  | getBounce id => .ok (ofRecord id)
  | deleteBounces selection => bounceOptions selection
  | deleteBounce id => .ok (ofRecord id)
  | sendMessage message => messageOptions message
  | getSettings => .ok CallOptions.empty
  | replaceSettings settings => .ok (CallOptions.empty.withJson settings)
  | testSmtp body => .ok (CallOptions.empty.withJson body)
  | dashboardCharts => .ok CallOptions.empty
  | dashboardCounts => .ok CallOptions.empty
  | serverConfig => .ok CallOptions.empty
  | serverLogs => .ok CallOptions.empty
  | reload => .ok CallOptions.empty
  | health => .ok CallOptions.empty

end Call

end Mailroom
