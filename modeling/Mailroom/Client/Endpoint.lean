import Mailroom.Catalog.Resource
import Mailroom.Record.Bounce
import Mailroom.Record.Campaign
import Mailroom.Record.Media
import Mailroom.Record.Page
import Mailroom.Record.Subscriber
import Mailroom.Record.Template

/-!
# Endpoints

What a client can ask a server for. Every endpoint has the name under which its operation stands in
a table and the type of the payload that it answers with. `all` lists the endpoints in the order in
which a client looks them up, and `mem_all` says that none is left out.

Fetching and updating a record keep a refusal as data; everywhere else a refusal is a failure.
-/

namespace Mailroom

/-- The actions on every kind of record. -/
inductive CommonAction where
  | create
  | list
  | getById
  | update
  | delete
deriving DecidableEq

/-- The actions in the order of their names. -/
def CommonAction.all : List CommonAction :=
  [.create, .list, .getById, .update, .delete]

/-- What a client can ask a server for. -/
inductive Endpoint where
  | common (resource : Resource) (action : CommonAction)
  | manageLists
  | manageListsByQuery
  | blocklist
  | blocklistById
  | blocklistByQuery
  | deleteSubscribers
  | deleteSubscribersByQuery
  | exportSubscriber
  | sendOptin
  | subscriberBounces
  | deleteSubscriberBounces
  | previewCampaign
  | renderCampaign
  | renderCampaignText
  | setCampaignStatus
  | archiveCampaign
  | setCampaignContent
  | testCampaign
  | runningStats
  | analytics
  | setDefaultTemplate
  | previewTemplate
  | renderTemplate
  | uploadMedia
  | startImport
  | stopImport
  | importStatus
  | importLogs
  | listBounces
  | getBounce
  | deleteBounces
  | deleteBounce
  | sendMessage
  | getSettings
  | replaceSettings
  | testSmtp
  | dashboardCharts
  | dashboardCounts
  | serverConfig
  | serverLogs
  | reload
  | health
deriving DecidableEq

/-- The type of one record. -/
@[reducible]
def Resource.Item (r : Resource) : Type :=
  match r with
  | .list => MailingList
  | .subscriber => Subscriber
  | .campaign => Campaign
  | .template => Template
  | .media => Media

instance (r : Resource) : Model r.Item :=
  match r with
  | .list => inferInstanceAs (Model MailingList)
  | .subscriber => inferInstanceAs (Model Subscriber)
  | .campaign => inferInstanceAs (Model Campaign)
  | .template => inferInstanceAs (Model Template)
  | .media => inferInstanceAs (Model Media)

instance (r : Resource) : Tabular r.Item :=
  match r with
  | .list => inferInstanceAs (Tabular MailingList)
  | .subscriber => inferInstanceAs (Tabular Subscriber)
  | .campaign => inferInstanceAs (Tabular Campaign)
  | .template => inferInstanceAs (Tabular Template)
  | .media => inferInstanceAs (Tabular Media)

instance (r : Resource) : Detailed r.Item :=
  match r with
  | .list => inferInstanceAs (Detailed MailingList)
  | .subscriber => inferInstanceAs (Detailed Subscriber)
  | .campaign => inferInstanceAs (Detailed Campaign)
  | .template => inferInstanceAs (Detailed Template)
  | .media => inferInstanceAs (Detailed Media)

/-- The kinds of payloads: a truth value, a text, several lines, any document, a record or a page of
them. -/
inductive PayloadKind where
  | flag
  | text
  | lines
  | document
  | item (resource : Resource)
  | page (resource : Resource)
  | bounce
  | bouncePage

/-- The type of the payloads of a kind. -/
@[reducible]
def PayloadKind.Value (k : PayloadKind) : Type :=
  match k with
  | .flag => Bool
  | .text => String
  | .lines => List String
  | .document => Json
  | .item r => r.Item
  | .page r => Page r.Item
  | .bounce => Bounce
  | .bouncePage => Page Bounce

instance (k : PayloadKind) : Model k.Value :=
  match k with
  | .flag => inferInstanceAs (Model Bool)
  | .text => inferInstanceAs (Model String)
  | .lines => inferInstanceAs (Model (List String))
  | .document => inferInstanceAs (Model Json)
  | .item r => inferInstanceAs (Model r.Item)
  | .page r => inferInstanceAs (Model (Page r.Item))
  | .bounce => inferInstanceAs (Model Bounce)
  | .bouncePage => inferInstanceAs (Model (Page Bounce))

namespace Endpoint

/-- The five endpoints of a kind of record. -/
def ofResource (r : Resource) : List Endpoint :=
  CommonAction.all.map (common r)

/-- Every endpoint, in the order in which a client looks them up. -/
def all : List Endpoint :=
  ofResource .list ++
  ofResource .subscriber ++
    [manageLists, manageListsByQuery, blocklist, blocklistById, blocklistByQuery,
      deleteSubscribers, deleteSubscribersByQuery, exportSubscriber, sendOptin, subscriberBounces,
      deleteSubscriberBounces] ++
  ofResource .campaign ++
    [previewCampaign, renderCampaign, renderCampaignText, setCampaignStatus, archiveCampaign,
      setCampaignContent, testCampaign, runningStats, analytics] ++
  ofResource .template ++ [setDefaultTemplate, previewTemplate, renderTemplate] ++
  ofResource .media ++ [uploadMedia] ++
  [startImport, stopImport, importStatus, importLogs] ++
  [listBounces, getBounce, deleteBounces, deleteBounce] ++
  [sendMessage] ++
  [getSettings, replaceSettings, testSmtp] ++
  [dashboardCharts, dashboardCounts] ++
  [serverConfig, serverLogs, reload, health]

/-- No endpoint is left out. -/
theorem mem_all (e : Endpoint) : e ∈ all := by
  cases e with
  | common r a => cases r <;> cases a <;> decide
  | _ => decide

/-- The name of an action on a kind of record. -/
def commonName (r : Resource) (a : CommonAction) : String :=
  match a with
  | .create => r.operationNames.create
  | .list => r.operationNames.list
  | .getById => r.operationNames.getById
  | .update => r.operationNames.update
  | .delete => r.operationNames.delete

/-- The name under which an endpoint's operation stands in a table. -/
def operationName (e : Endpoint) : String :=
  match e with
  | common r a => commonName r a
  | manageLists => "manageSubscriberLists"
  | manageListsByQuery => "manageSubscriberListsByQuery"
  | blocklist => "blocklistSubscribers"
  | blocklistById => "blocklistSubscriberById"
  | blocklistByQuery => "blocklistSubscribersByQuery"
  | deleteSubscribers => "deleteSubscribers"
  | deleteSubscribersByQuery => "deleteSubscribersByQuery"
  | exportSubscriber => "exportSubscriberDataById"
  | sendOptin => "subscriberSendOptinById"
  | subscriberBounces => "getSubscriberBouncesById"
  | deleteSubscriberBounces => "deleteSubscriberBouncesById"
  | previewCampaign => "getCampaignPreviewById"
  | renderCampaign => "previewCampaignById"
  | renderCampaignText => "previewCampaignTextById"
  | setCampaignStatus => "updateCampaignStatusById"
  | archiveCampaign => "updateCampaignArchiveById"
  | setCampaignContent => "updateCampaignContentById"
  | testCampaign => "testCampaignById"
  | runningStats => "getRunningCampaignStats"
  | analytics => "getCampaignAnalytics"
  | setDefaultTemplate => "updateTemplateDefaultById"
  | previewTemplate => "getTemplatePreviewById"
  | renderTemplate => "previewTemplate"
  | uploadMedia => "uploadMedia"
  | startImport => "importSubscribers"
  | stopImport => "stopImportSubscribers"
  | importStatus => "getImportSubscribers"
  | importLogs => "getImportSubscriberLogs"
  | listBounces => "getBounces"
  | getBounce => "getBounceById"
  | deleteBounces => "deleteBounces"
  | deleteBounce => "deleteBounceById"
  | sendMessage => "transactWithSubscriber"
  | getSettings => "getSettings"
  | replaceSettings => "updateSettings"
  | testSmtp => "testSmtpSettings"
  | dashboardCharts => "getDashboardCharts"
  | dashboardCounts => "getDashboardCounts"
  | serverConfig => "getServerConfig"
  | serverLogs => "getLogs"
  | reload => "reloadApp"
  | health => "getHealthCheck"

/-- The kind of payload of an action on a kind of record. -/
def commonPayload (r : Resource) (a : CommonAction) : PayloadKind :=
  match a with
  | .create => .item r
  | .list => .page r
  | .getById => .item r
  | .update => .item r
  | .delete => .flag

/-- The kind of payload that an endpoint answers with. -/
def payloadKind (e : Endpoint) : PayloadKind :=
  match e with
  | common r a => commonPayload r a
  | exportSubscriber | subscriberBounces => .document
  | previewCampaign | renderCampaign | renderCampaignText => .text
  | setCampaignStatus => .item .campaign
  | archiveCampaign | setCampaignContent | runningStats | analytics => .document
  | setDefaultTemplate => .document
  | previewTemplate | renderTemplate => .text
  | uploadMedia => .item .media
  | startImport | stopImport | importStatus => .document
  | importLogs => .text
  | listBounces => .bouncePage
  | getBounce => .bounce
  | getSettings | testSmtp => .document
  | dashboardCharts | dashboardCounts => .document
  | serverConfig => .document
  | serverLogs => .lines
  | _ => .flag

/-- The type of the payload that an endpoint answers with. -/
abbrev Payload (e : Endpoint) : Type :=
  e.payloadKind.Value

/-- Whether an endpoint keeps a refusal as data. -/
def keepsRefusals (e : Endpoint) : Bool :=
  match e with
  | common _ .getById => true
  | common _ .update => true
  | _ => false

end Endpoint

end Mailroom
