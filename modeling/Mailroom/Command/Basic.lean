import Mailroom.Catalog.Resource
import Mailroom.Command.Body
import Mailroom.Record.Campaign
import Mailroom.Record.Import
import Mailroom.Record.Subscriber

/-!
# Commands

What a command line can ask for. Most commands talk to the server; the version and the completion of
command lines do not. The same five commands exist for every kind of record. Subscribers are
selected by their numbers, of which there is at least one, or by a query.
-/

namespace Mailroom

/-- Which subscribers a command takes. -/
inductive Selection where
  | ids (ids : List UInt64)
  | query (query : SubscriberQuery)

/-- The commands on every kind of record. -/
inductive RecordCommand where
  | list (query : PageQuery)
  | get (id : UInt64)
  | create (body : BodySource)
  | update (id : UInt64) (body : BodySource)
  | delete (id : UInt64)

/-- A message as a command describes it. -/
structure MessageSource where
  address : Option String
  subscriberId : Option UInt64
  templateId : UInt64
  fromEmail : Option String
  messenger : Option String
  contentType : Option String
  headers : List String
  data : BodySource

/-- The commands that talk to the server. -/
inductive ServerCommand where
  | records (resource : Resource) (command : RecordCommand)
  | manageLists (action : MembershipAction) (selection : Selection) (targetLists : List UInt64)
      (status : Option String)
  | blocklist (selection : Selection)
  | deleteMany (selection : Selection)
  | exportSubscriber (id : UInt64)
  | sendOptin (id : UInt64)
  | subscriberBounces (id : UInt64) (delete : Bool)
  | previewCampaign (id : UInt64) (plainText : Bool) (body : BodySource)
  | campaignStatus (id : UInt64) (status : CampaignStatus)
  | archiveCampaign (id : UInt64) (body : BodySource)
  | campaignContent (id : UInt64) (body : BodySource)
  | testCampaign (id : UInt64) (recipients : List String) (body : BodySource)
  | runningStats (ids : List UInt64)
  | analytics (kind : AnalyticsKind) (ids : List UInt64) (since upTo : Option String)
  | setDefaultTemplate (id : UInt64)
  | previewTemplate (id : Option UInt64) (body : BodySource)
  | uploadMedia (path : String) (mime : Option String)
  | listBounces (query : PageQuery) (campaign : Option UInt64) (source : Option String)
  | getBounce (id : UInt64)
  | deleteBounces (ids : List UInt64)
  | deleteAllBounces
  | startImport (path : String) (params : ImportParams)
  | stopImport
  | importStatus
  | importLogs
  | sendMessage (message : MessageSource)
  | getSettings (key : Option String)
  | updateSettings (body : BodySource)
  | testSmtp (body : BodySource)
  | dashboardCounts
  | dashboardCharts
  | serverConfig
  | serverLogs (tail : Option UInt64)
  | reload
  | health

/-- The body that a command on records has. -/
def RecordCommand.body? (c : RecordCommand) : Option BodySource :=
  match c with
  | create body => some body
  | update _ body => some body
  | _ => none

/-- The body that a command has. -/
def ServerCommand.body? (c : ServerCommand) : Option BodySource :=
  match c with
  | records _ command => command.body?
  | previewCampaign _ _ body => some body
  | archiveCampaign _ body => some body
  | campaignContent _ body => some body
  | testCampaign _ _ body => some body
  | previewTemplate _ body => some body
  | sendMessage message => some message.data
  | updateSettings body => some body
  | testSmtp body => some body
  | _ => none

/-- The name of the file that a command reads, a dash standing for the standard input. -/
def ServerCommand.inputName? (c : ServerCommand) : Option String :=
  match c with
  | uploadMedia path _ => some path
  | startImport path _ => some path
  | other => other.body?.bind BodySource.input

/-- What a command line asks for. -/
inductive Command where
  | server (command : ServerCommand)
  | completion (shell : String)
  | version

/-- The options that every command has. -/
structure CommonOptions where
  url : Option String
  username : Option String
  token : Option String
  timeout : Option UInt64
  headers : List String
  table : Bool
  wholeAnswer : Bool

/-- A command with its common options. -/
structure Invocation where
  common : CommonOptions
  command : Command

end Mailroom
