import Mailroom.Command.Basic
import Mailroom.CommandLine.Reading
import Mailroom.Terminal.Writer

/-!
# The command lines of the program

The levels of the program and their arguments, and the command that a reading of them stands for.
The arguments of a level are named for what they hold, and `commandOf?` takes each value by that
name.
-/

namespace Mailroom.CommandLine

/-- The arguments that every level has. -/
def common : List Argument := [
  .option "url" "url" .text,
  (Argument.option "username" "username" .text).orShort 'u',
  .option "token" "token" .text,
  .option "timeout" "timeout" .number,
  (Argument.options "header" "header" .text).orShort 'H',
  .flag "table" "table",
  { Argument.flag "envelope" "envelope" with excludes := ["table"] },
  { Argument.flag "help" "help" with role := .showHelp, short := some 'h' },
  { Argument.flag "version" "version" with role := .showVersion, short := some 'V' }]

/-- The arguments that give a body. -/
def bodyArguments : List Argument := [
  (Argument.options "field" "field" .text).orShort 'F',
  (Argument.options "raw-field" "raw-field" .text).orShort 'f',
  .option "input" "input" .path]

/-- The arguments that choose a page. -/
def pageArguments : List Argument := [
  (Argument.option "page" "page" .number).orShort 'p',
  .option "per-page" "per-page" .text,
  (Argument.options "param" "param" .text).orShort 'P']

/-- The number of a record. -/
def idArgument : Argument :=
  .positional "id" .number

/-- The arguments that select subscribers. -/
def selectionArguments : List Argument := [
  { (Argument.positional "ids" .number).listed with
    required := false, replacedBy := ["query"], excludes := ["query"] },
  (Argument.option "query" "query" .text).orShort 'q',
  { (Argument.option "in-list" "in-list" .number).listed with needs := ["query"] }]

/-- A level without others below it. -/
def leaf (name : String) (arguments : List Argument) : Level :=
  ⟨name, [], arguments, []⟩

/-- A level that only leads to others. -/
def group (name : String) (aliases : List String) (levels : List Level) : Level :=
  ⟨name, aliases, [], levels⟩

/-- The levels of every kind of record. -/
def recordLevels : List Level := [
  ⟨"list", ["ls"], pageArguments, []⟩,
  leaf "get" [idArgument],
  leaf "create" bodyArguments,
  leaf "update" (idArgument :: bodyArguments),
  ⟨"delete", ["rm"], [idArgument], []⟩]

/-- The further levels of subscribers. -/
def subscriberLevels : List Level := [
  leaf "lists" (
    .positional "action" (.readable fun s => (MembershipAction.parse s).isOk) ::
    selectionArguments ++
    [{ (Argument.option "to" "to" .number).listed with required := true },
      .option "status" "status" .text]),
  leaf "blocklist" selectionArguments,
  leaf "delete-many" selectionArguments,
  leaf "export" [idArgument],
  leaf "optin" [idArgument],
  leaf "bounces" [idArgument, .flag "delete" "delete"]]

/-- The further levels of campaigns. -/
def campaignLevels : List Level := [
  leaf "preview" (idArgument :: .flag "text" "text" :: bodyArguments),
  leaf "status" [idArgument,
    .positional "status" (.readable fun s => (CampaignStatus.parse s).isOk)],
  leaf "archive" (idArgument :: bodyArguments),
  leaf "content" (idArgument :: bodyArguments),
  leaf "test" (idArgument ::
    { (Argument.option "to" "to" .text).listed with required := true } :: bodyArguments),
  leaf "stats" [{ (Argument.positional "ids" .number).listed with required := false }],
  leaf "analytics" [
    .positional "kind" (.readable fun s => (AnalyticsKind.parse s).isOk),
    (Argument.positional "ids" .number).listed,
    .option "from" "from" .text, .option "to" "to" .text]]

/-- The further levels of templates. -/
def templateLevels : List Level := [
  leaf "set-default" [idArgument],
  leaf "preview" (
    { idArgument with required := false, replacedBy := ["field", "raw-field", "input"] } ::
    bodyArguments)]

/-- The further levels of uploaded files. -/
def mediaLevels : List Level := [
  leaf "upload" [.positional "file" .path, .option "mime" "mime" .text]]

/-- The levels of bounces. -/
def bounceLevels : List Level := [
  ⟨"list", ["ls"],
    pageArguments ++ [.option "campaign" "campaign" .number, .option "source" "source" .text], []⟩,
  leaf "get" [idArgument],
  ⟨"delete", ["rm"], [
    { (Argument.positional "ids" .number).listed with
      required := false, replacedBy := ["all"], excludes := ["all"] },
    .flag "all" "all"], []⟩]

/-- The levels of imports. -/
def importLevels : List Level := [
  leaf "start" [
    .positional "file" .path, .option "mode" "mode" (.choice (ImportMode.all.map ImportMode.text)),
    .option "status" "status" .text, .option "delim" "delim" .text,
    (Argument.option "lists" "lists" .number).listed, .flag "overwrite" "overwrite"],
  leaf "stop" [], leaf "status" [], leaf "logs" []]

/-- The levels of single messages. -/
def messageLevels : List Level := [
  leaf "send" ([
    { Argument.option "to" "to" .text with
      replacedBy := ["subscriber"], excludes := ["subscriber"] },
    .option "subscriber" "subscriber" .number,
    { (Argument.option "template" "template" .number).orShort 't' with required := true },
    .option "from" "from" .text, .option "messenger" "messenger" .text,
    .option "content-type" "content-type" .text,
    .options "mail-header" "mail-header" .text] ++ bodyArguments)]

/-- The levels of settings. -/
def settingLevels : List Level := [
  leaf "get" [{ Argument.positional "key" .text with required := false }],
  leaf "update" bodyArguments,
  leaf "test-smtp" bodyArguments]

/-- The levels of the server itself. -/
def systemLevels : List Level := [
  leaf "config" [],
  leaf "logs" [(Argument.option "tail" "tail" .number).orShort 'n'],
  leaf "reload" [], leaf "health" []]

/-- The shells whose command lines can be completed. -/
def shells : List String :=
  ["bash", "elvish", "fish", "powershell", "zsh"]

/-- The levels of the program. -/
def levels : List Level := [
  group "lists" ["l"] recordLevels,
  group "subscribers" ["subs"] (recordLevels ++ subscriberLevels),
  group "campaigns" ["c"] (recordLevels ++ campaignLevels),
  group "templates" [] (recordLevels ++ templateLevels),
  group "media" [] (recordLevels ++ mediaLevels),
  group "bounces" [] bounceLevels,
  group "import" [] importLevels,
  group "tx" [] messageLevels,
  group "settings" [] settingLevels,
  group "dashboard" [] [leaf "counts" [], leaf "charts" []],
  group "system" [] systemLevels,
  leaf "completion" [.positional "shell" (.choice shells)],
  leaf "version" []]

/-- The body that was given. -/
def bodyOf (g : Given) : BodySource :=
  ⟨g.texts "field", g.texts "raw-field", g.text? "input"⟩

/-- The page that was given. -/
def pageOf (g : Given) : PageQuery :=
  ⟨g.number? "page", g.text? "per-page", g.texts "param"⟩

/-- The selection that was given. -/
def selectionOf (g : Given) : Selection :=
  match g.text? "query" with
  | some query => .query ⟨query, g.numbers "in-list"⟩
  | none => .ids (g.numbers "ids")

/-- The mode of an import that was given. -/
def modeOf (g : Given) : ImportMode :=
  ((g.text? "mode").bind fun name => ImportMode.all.find? fun m => m.text = name).getD
    ImportParams.default.mode

/-- The parameters of an import that were given. -/
def importParamsOf (g : Given) : ImportParams where
  mode := modeOf g
  subscriptionStatus := (g.text? "status").getD ImportParams.default.subscriptionStatus
  delimiter := (g.text? "delim").getD ImportParams.default.delimiter
  lists := g.numbers "lists"
  overwrite := g.has "overwrite"

/-- The message that was given. -/
def messageOf (g : Given) (templateId : UInt64) : MessageSource where
  address := g.text? "to"
  subscriberId := g.number? "subscriber"
  templateId := templateId
  fromEmail := g.text? "from"
  messenger := g.text? "messenger"
  contentType := g.text? "content-type"
  headers := g.texts "mail-header"
  data := bodyOf g

/-- A command of every kind of record. -/
def recordCommandOf? (r : Resource) (name : String) (g : Given) : Option ServerCommand :=
  (match name with
    | "list" => some (RecordCommand.list (pageOf g))
    | "get" => (g.number? "id").map .get
    | "create" => some (.create (bodyOf g))
    | "update" => (g.number? "id").map fun id => .update id (bodyOf g)
    | "delete" => (g.number? "id").map .delete
    | _ => none).map (.records r)

/-- A further command of subscribers. -/
def subscriberCommandOf? (name : String) (g : Given) : Option ServerCommand :=
  match name with
  | "lists" =>
    (g.text? "action").bind fun text =>
      (MembershipAction.parse text).toOption.map fun action =>
        .manageLists action (selectionOf g) (g.numbers "to") (g.text? "status")
  | "blocklist" => some (.blocklist (selectionOf g))
  | "delete-many" => some (.deleteMany (selectionOf g))
  | "export" => (g.number? "id").map .exportSubscriber
  | "optin" => (g.number? "id").map .sendOptin
  | "bounces" => (g.number? "id").map fun id => .subscriberBounces id (g.has "delete")
  | _ => none

/-- A further command of campaigns. -/
def campaignCommandOf? (name : String) (g : Given) : Option ServerCommand :=
  match name with
  | "preview" => (g.number? "id").map fun id => .previewCampaign id (g.has "text") (bodyOf g)
  | "status" =>
    (g.number? "id").bind fun id =>
      (g.text? "status").bind fun text =>
        (CampaignStatus.parse text).toOption.map (.campaignStatus id)
  | "archive" => (g.number? "id").map fun id => .archiveCampaign id (bodyOf g)
  | "content" => (g.number? "id").map fun id => .campaignContent id (bodyOf g)
  | "test" => (g.number? "id").map fun id => .testCampaign id (g.texts "to") (bodyOf g)
  | "stats" => some (.runningStats (g.numbers "ids"))
  | "analytics" =>
    (g.text? "kind").bind fun text =>
      (AnalyticsKind.parse text).toOption.map fun kind =>
        .analytics kind (g.numbers "ids") (g.text? "from") (g.text? "to")
  | _ => none

/-- A command of bounces. -/
def bounceCommandOf? (name : String) (g : Given) : Option ServerCommand :=
  match name with
  | "list" => some (.listBounces (pageOf g) (g.number? "campaign") (g.text? "source"))
  | "get" => (g.number? "id").map .getBounce
  | "delete" => some (if g.has "all" then .deleteAllBounces else .deleteBounces (g.numbers "ids"))
  | _ => none

/-- A command of imports. -/
def importCommandOf? (name : String) (g : Given) : Option ServerCommand :=
  match name with
  | "start" => (g.text? "file").map fun path => .startImport path (importParamsOf g)
  | "stop" => some .stopImport
  | "status" => some .importStatus
  | "logs" => some .importLogs
  | _ => none

/-- A command of settings. -/
def settingCommandOf? (name : String) (g : Given) : Option ServerCommand :=
  match name with
  | "get" => some (.getSettings (g.text? "key"))
  | "update" => some (.updateSettings (bodyOf g))
  | "test-smtp" => some (.testSmtp (bodyOf g))
  | _ => none

/-- A command of the server itself. -/
def systemCommandOf? (name : String) (g : Given) : Option ServerCommand :=
  match name with
  | "config" => some .serverConfig
  | "logs" => some (.serverLogs (g.number? "tail"))
  | "reload" => some .reload
  | "health" => some .health
  | _ => none

/-- The command that talks to the server. -/
def serverCommandOf? (groupName name : String) (g : Given) : Option ServerCommand :=
  match groupName with
  | "lists" => recordCommandOf? .list name g
  | "subscribers" => (recordCommandOf? .subscriber name g).or (subscriberCommandOf? name g)
  | "campaigns" => (recordCommandOf? .campaign name g).or (campaignCommandOf? name g)
  | "templates" =>
    (recordCommandOf? .template name g).or
      (match name with
        | "set-default" => (g.number? "id").map .setDefaultTemplate
        | "preview" => some (.previewTemplate (g.number? "id") (bodyOf g))
        | _ => none)
  | "media" =>
    (recordCommandOf? .media name g).or
      (if name = "upload" then
        (g.text? "file").map fun path => .uploadMedia path (g.text? "mime")
      else none)
  | "bounces" => bounceCommandOf? name g
  | "import" => importCommandOf? name g
  | "tx" => (g.number? "template").map fun id => .sendMessage (messageOf g id)
  | "settings" => settingCommandOf? name g
  | "dashboard" => some (if name = "counts" then .dashboardCounts else .dashboardCharts)
  | "system" => systemCommandOf? name g
  | _ => none

/-- The command that a reading stands for. -/
def commandOf? (r : Reading) : Option Command :=
  match r.path with
  | ["version"] => some .version
  | ["completion"] => (r.given.text? "shell").map .completion
  | [groupName, name] => (serverCommandOf? groupName name r.given).map .server
  | _ => none

/-- The common options that were given. -/
def commonOf (g : Given) : CommonOptions where
  url := g.text? "url"
  username := g.text? "username"
  token := g.text? "token"
  timeout := g.number? "timeout"
  headers := g.texts "header"
  table := g.has "table"
  wholeAnswer := g.has "envelope"

/-- The exit code of a command line that is no command. -/
def Usage.exitCode (u : Usage) : Nat :=
  match u with
  | help => ExitCode.success
  | version _ => ExitCode.success
  | _ => ExitCode.usage

/-- What is written for a version that was asked for. -/
def Usage.output (u : Usage) : Option Terminal.Output :=
  match u with
  | version title => some (.result [title ++ " " ++ Mailroom.version])
  | _ => none

end Mailroom.CommandLine

namespace Mailroom

/-- The command that a command line asks for. -/
def Invocation.ofWords (words : List String) : Except CommandLine.Usage Invocation :=
  match CommandLine.read appName CommandLine.common CommandLine.levels words with
  | .error e => .error e
  | .ok reading =>
    match CommandLine.commandOf? reading with
    | some command => .ok ⟨CommandLine.commonOf reading.given, command⟩
    | none => .error .missingRequired

end Mailroom
