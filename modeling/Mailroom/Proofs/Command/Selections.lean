import Mailroom.Proofs.Call.Beyond
import Mailroom.Proofs.Command.Listing
import Mailroom.Proofs.CommandLine.Selections
import Mailroom.Proofs.Record.Membership
import Mailroom.Proofs.Record.Slot

/-!
# Selections in messages

A command that takes a selection of records sends one message, to one of two or three endpoints that
name the records in different places: a number in the path, numbers in the query or in the document,
or a condition in the document. Read back from all of these places, what a message takes is what the
command was given, whichever endpoint it goes to.
-/

namespace Mailroom

/-! ## What is read of a message -/

namespace Json

/-- The numbers of an array, one for each of its items. -/
def words (v : Json) : List (Option UInt64) :=
  match v with
  | .arr items => items.map fun item => (Decode.word item).toOption
  | _ => [none]

theorem words_ofWords (ns : List UInt64) : (ofWords ns).words = ns.map some := by
  have hword : ∀ n : UInt64, (Decode.word (ofWord n)).toOption = some n := by
    intro n
    have hkept := Decode.kept_word n true
    rw [ofWord, ofNat, listed_num] at hkept
    rw [ofWord, ofNat, hkept]
    rfl
  simp only [ofWords, words, List.map_map, Function.comp_def, hword]

end Json

/-- The records that a message takes, as they are read from what it says beyond its root: numbers
wherever they stand, a condition with its lists, and whether all are meant. -/
structure Taken where
  ids : List (Option UInt64)
  condition : Option Json
  lists : Option (List (Option UInt64))
  all : List String

namespace Taken

/-- The values of a name among pairs. -/
def values (query : List (String × String)) (name : String) : List String :=
  (query.filter (·.1 = name)).map Prod.snd

/-- Reads what a message says beyond its root. -/
def read (path : List String) (query : List (String × String)) (document : Option Json) :
    Taken where
  ids := (path.filterMap Text.readWord?).map some ++
    (values query "id").map Text.readWord? ++
    ((document.bind (·.field? "ids")).map Json.words).getD []
  condition := document.bind (·.field? "query")
  lists := (document.bind (·.field? "list_ids")).map Json.words
  all := values query "all"

end Taken

/-- What a message has to say about the records that a command takes. -/
def Target.taken (t : Target) : Taken :=
  match t with
  | ids ns => ⟨ns.map some, none, none, []⟩
  | query q =>
    ⟨[], some (.str q.query), if q.listIds = [] then none else some (q.listIds.map some), []⟩
  | every => ⟨[], none, none, ["true"]⟩

/-- A document names a change of lists. -/
structure Changes (document : Option Json) (action : MembershipAction) (targetLists : List UInt64)
    (status : Option String) : Prop where
  action : document.bind (·.field? "action") = some (.str action.text)
  lists : (document.bind (·.field? "target_list_ids")).map Json.words =
    some (targetLists.map some)
  status : document.bind (·.field? "status") = status.map .str

/-! ## How calls are stated -/

/-- A call is stated by an operation of the catalogue, with texts in its path that survive, pairs in
its query and a document that can be read back. -/
structure Call.Stated (call : Call) (op : Operation) (path : List String)
    (query : List (String × String)) (document : Option Json) : Prop where
  listed : op ∈ Catalog.operations
  named : op.name = call.endpoint.operationName
  survives : ∀ text ∈ path, Url.Survives text.toList
  exact : ∀ v ∈ document, Json.Exact 127 v
  options : ∃ options, call.options = .ok options ∧ options.headers = [] ∧
    options.body = document.map .json ∧
    Request.segments op.name (CallOptions.empty.layered options).path op.template = .ok path ∧
    Request.queryPairs (CallOptions.empty.layered options).query = query

namespace Call.Stated

variable {call : Call} {op : Operation} {path : List String}

theorem of_document {v : Json} (listed : op ∈ Catalog.operations)
    (named : op.name = call.endpoint.operationName)
    (hoptions : call.options = .ok (CallOptions.empty.withJson v))
    (hpath : Request.segments op.name [] op.template = .ok path)
    (survives : ∀ text ∈ path, Url.Survives text.toList) (exact : Json.Exact 127 v) :
    call.Stated op path [] (some v) :=
  ⟨listed, named, survives, fun _ hv => Option.some.inj hv ▸ exact, _, hoptions, rfl, rfl, hpath,
    rfl⟩

/-- The number of a record survives between any words of the template that do. -/
theorem of_record {id : UInt64} {before after : List String} (listed : op ∈ Catalog.operations)
    (named : op.name = call.endpoint.operationName) (hoptions : call.options = .ok (ofRecord id))
    (hpath : Request.segments op.name [("id", .ofWord id)] op.template =
      .ok (before ++ Text.ofNat id.toNat :: after))
    (survives : ∀ text ∈ before ++ after, Url.Survives text.toList) :
    call.Stated op (before ++ Text.ofNat id.toNat :: after) [] none := by
  refine ⟨listed, named, fun text htext => ?_, nofun, _, hoptions, rfl, rfl, hpath, rfl⟩
  rcases List.mem_append.mp htext with hbefore | hafter
  · exact survives text (List.mem_append_left _ hbefore)
  rcases List.mem_cons.mp hafter with rfl | hafter
  · exact Text.survives_ofNat _
  · exact survives text (List.mem_append_right _ hafter)

theorem of_parameter {name : String} {v : Json} (listed : op ∈ Catalog.operations)
    (named : op.name = call.endpoint.operationName)
    (hoptions : call.options = .ok (CallOptions.empty.withQuery name v))
    (hpath : Request.segments op.name [] op.template = .ok path)
    (survives : ∀ text ∈ path, Url.Survives text.toList) :
    call.Stated op path ((Request.parameterTexts v).map fun text => (name, text)) none :=
  ⟨listed, named, survives, nofun, _, hoptions, rfl, rfl, hpath,
    List.flatMap_singleton _ _⟩

end Call.Stated

namespace ServerCommand

/-- The methods and paths of the endpoints that a command with a selection goes to. -/
def endpoints (c : ServerCommand) : List (Method × String) :=
  match c with
  | manageLists _ _ _ _ => [(.put, "/subscribers/lists"), (.put, "/subscribers/query/lists")]
  | blocklist _ => [(.put, "/subscribers/blocklist"), (.put, "/subscribers/\x7bid\x7d/blocklist"),
      (.put, "/subscribers/query/blocklist")]
  | deleteMany _ => [(.delete, "/subscribers"), (.post, "/subscribers/query/delete")]
  | deleteBounces _ => [(.delete, "/bounces"), (.delete, "/bounces/\x7bid\x7d")]
  | deleteAllBounces => [(.delete, "/bounces")]
  | _ => []

/-- A status is given with a change of lists that adds nothing. -/
def MisplacesStatus (c : ServerCommand) : Prop :=
  match c with
  | manageLists action _ _ status => status.isSome = true ∧ action ≠ .add
  | _ => False

/-- What a command says of its selection: to one of its endpoints, the records to take and, where
lists are changed, the change. -/
structure Selects (c : ServerCommand) (t : Target) (op : Operation) (path : List String)
    (query : List (String × String)) (document : Option Json) : Prop where
  endpoint : (op.method, op.path) ∈ c.endpoints
  taken : Taken.read path query document = t.taken
  change : ∀ action selection targetLists status,
    c = .manageLists action selection targetLists status →
      Changes document action targetLists status

end ServerCommand

/-! ## The calls of selections -/

namespace Taken

variable {path : List String} (hpath : path.filterMap Text.readWord? = [])
include hpath

/-- Without parameters a message takes records by its document. -/
theorem read_document (v : Json) : read path [] (some v) =
    ⟨((v.field? "ids").map Json.words).getD [], v.field? "query",
      (v.field? "list_ids").map Json.words, []⟩ := by
  simp [read, hpath, values]

/-- A document of numbers takes the records of these numbers. -/
theorem read_numbers {ids : List UInt64} {v : Json} (hids : v.field? "ids" = some (.ofWords ids))
    (hquery : v.field? "query" = none) (hlists : v.field? "list_ids" = none) :
    read path [] (some v) = (Target.ids ids).taken := by
  rw [read_document hpath, hids, hquery, hlists]
  simp [Target.taken, Json.words_ofWords]

/-- A document that states a condition and no numbers takes the records of the condition. -/
theorem read_query (q : SubscriberQuery) {v : Json} (hids : v.field? "ids" = none)
    (hquery : v.field? "query" = Dict.find? q.entries "query")
    (hlists : v.field? "list_ids" = Dict.find? q.entries "list_ids") :
    read path [] (some v) = (Target.query q).taken := by
  rw [read_document hpath, hids, hquery, hlists, q.find?_entries, q.find?_entries]
  by_cases hnone : q.listIds = []
  · simp [Target.taken, hnone]
  · simp [Target.taken, hnone, Json.words_ofWords]

theorem read_condition (q : SubscriberQuery) :
    read path [] (some q.encode) = (Target.query q).taken := by
  refine read_query hpath q ?_ (q.field?_encode _) (q.field?_encode _)
  simp [q.field?_encode, q.find?_entries]

/-- Without a document a message takes records by the numbers in its query. -/
theorem read_ids (ids : List UInt64) :
    read path ((Request.parameterTexts (.ofWords ids)).map fun text => ("id", text)) none =
      (Target.ids ids).taken := by
  have htexts : (ids.map fun id => toString id.toNat).map Text.readWord? = ids.map some := by
    rw [List.map_map]
    refine List.map_congr_left fun id _ => ?_
    rw [Function.comp_apply, ← Text.ofNat_eq_toString, Text.readWord?_ofNat]
  have hvalues : ∀ texts : List String,
      values (texts.map fun text => ("id", text)) "id" = texts ∧
        values (texts.map fun text => ("id", text)) "all" = [] := by
    intro texts
    simp [values, List.filter_map, Function.comp_def]
  rw [BulkDeletion.parameterTexts_ofWords, read, (hvalues _).1, (hvalues _).2, hpath, htexts]
  simp [Target.taken]

/-- With one number in its path and nothing else a message takes one record. -/
theorem read_record (id : UInt64) {after : List String}
    (hafter : after.filterMap Text.readWord? = []) :
    read (path ++ Text.ofNat id.toNat :: after) [] none = (Target.ids [id]).taken := by
  simp [read, hpath, hafter, Text.readWord?_ofNat, values, Target.taken]

end Taken

/-- A change of lists by numbers is named by its document. -/
theorem changes_encode (m : ListMembership) :
    Changes (some m.encode) m.action m.targetLists m.status := by
  constructor <;> simp [m.field?_encode, Json.words_ofWords]

/-- A change of lists by a condition is named by its document. -/
theorem changes_change (q : SubscriberQuery) (action : MembershipAction)
    (targetLists : List UInt64) (status : Option String) :
    Changes (some (q.change action targetLists status)) action targetLists status := by
  constructor <;> simp [q.field?_change, q.find?_entries, Json.words_ofWords]

namespace ServerCommand

/-- A command states its selection with a call. -/
def Carries (c : ServerCommand) (t : Target) (call : Call) : Prop :=
  ∃ op path query document, call.Stated op path query document ∧
    c.Selects t op path query document

theorem carries_manageLists (action : MembershipAction) (selection : Selection)
    (targetLists : List UInt64) (status : Option String) :
    (manageLists action selection targetLists status).Carries (.ofSelection selection)
      (membershipCall action selection targetLists status) := by
  have hchange : ∀ {document}, Changes document action targetLists status → ∀ a s ts st,
      manageLists action selection targetLists status = manageLists a s ts st →
        Changes document a ts st := by
    rintro document hdocument _ _ _ _ h
    obtain ⟨rfl, -, rfl, rfl⟩ := manageLists.inj h
    exact hdocument
  cases selection with
  | ids ids =>
    let m : ListMembership := ⟨ids, action, targetLists, status⟩
    refine ⟨⟨"manageSubscriberLists", .put, "/subscribers/lists"⟩, ["subscribers", "lists"], [],
      some m.encode, .of_document (by decide +kernel) rfl rfl (by rfl) (by decide) m.exact_encode,
      by simp [endpoints], ?_, hchange (changes_encode m)⟩
    apply Taken.read_numbers (by decide) <;> simp [m.field?_encode, m]
  | query q =>
    refine ⟨⟨"manageSubscriberListsByQuery", .put, "/subscribers/query/lists"⟩,
      ["subscribers", "query", "lists"], [], some (q.change action targetLists status),
      .of_document (by decide +kernel) rfl rfl (by rfl) (by decide)
        (q.exact_change action targetLists status), by simp [endpoints], ?_,
      hchange (changes_change q action targetLists status)⟩
    apply Taken.read_query (by decide) q <;> simp [q.field?_change, q.find?_entries]

theorem carries_blocklist (selection : Selection) :
    (blocklist selection).Carries (.ofSelection selection) (blocklistCall selection) := by
  have hbulk : ∀ ids, (blocklist (.ids ids)).Carries (.ids ids) (.blocklist ids) := by
    intro ids
    refine ⟨⟨"blocklistSubscribers", .put, "/subscribers/blocklist"⟩, ["subscribers", "blocklist"],
      [], some (.obj [("ids", .ofWords ids)]),
      .of_document (by decide +kernel) rfl rfl (by rfl) (by decide)
        (@Json.exact_object _ [("ids", .ofWords ids)]
          (List.forall_mem_singleton.mpr (Json.exact_ofWords _ _))),
      by simp [endpoints], ?_, nofun⟩
    exact Taken.read_numbers (by decide) rfl rfl rfl
  match selection with
  | .query q =>
    exact ⟨⟨"blocklistSubscribersByQuery", .put, "/subscribers/query/blocklist"⟩,
      ["subscribers", "query", "blocklist"], [], some q.encode,
      .of_document (by decide +kernel) rfl rfl (by rfl) (by decide) q.exact_encode,
      by simp [endpoints], Taken.read_condition (by decide) q, nofun⟩
  | .ids [] => exact hbulk []
  | .ids [id] =>
    exact ⟨⟨"blocklistSubscriberById", .put, "/subscribers/\x7bid\x7d/blocklist"⟩,
      ["subscribers"] ++ Text.ofNat id.toNat :: ["blocklist"], [], none,
      .of_record (by decide +kernel) rfl rfl (by rfl) (by decide), by simp [endpoints],
      Taken.read_record (by decide) id (by decide), nofun⟩
  | .ids (first :: second :: rest) => exact hbulk (first :: second :: rest)

theorem carries_deleteMany (selection : Selection) :
    (deleteMany selection).Carries (.ofSelection selection) (deleteManyCall selection) := by
  cases selection with
  | ids ids =>
    exact ⟨⟨"deleteSubscribers", .delete, "/subscribers"⟩, ["subscribers"], _, none,
      .of_parameter (by decide +kernel) rfl rfl (by rfl) (by decide), by simp [endpoints],
      Taken.read_ids (by decide) ids, nofun⟩
  | query q =>
    exact ⟨⟨"deleteSubscribersByQuery", .post, "/subscribers/query/delete"⟩,
      ["subscribers", "query", "delete"], [], some q.encode,
      .of_document (by decide +kernel) rfl rfl (by rfl) (by decide) q.exact_encode,
      by simp [endpoints], Taken.read_condition (by decide) q, nofun⟩

theorem carries_deleteBounces {ids : List UInt64} (h : ids ≠ []) :
    (deleteBounces ids).Carries (.ids ids) (deleteBouncesCall ids) := by
  match ids, h with
  | [id], _ =>
    exact ⟨⟨"deleteBounceById", .delete, "/bounces/\x7bid\x7d"⟩,
      ["bounces"] ++ Text.ofNat id.toNat :: [], [], none,
      .of_record (by decide +kernel) rfl rfl (by rfl) (by decide), by simp [endpoints],
      Taken.read_record (by decide) id rfl, nofun⟩
  | first :: second :: rest, _ =>
    exact ⟨⟨"deleteBounces", .delete, "/bounces"⟩, ["bounces"], _, none,
      .of_parameter (by decide +kernel) rfl rfl (by rfl) (by decide), by simp [endpoints],
      Taken.read_ids (by decide) (first :: second :: rest), nofun⟩

theorem carries_deleteAllBounces :
    deleteAllBounces.Carries .every (.deleteBounces .every) :=
  ⟨⟨"deleteBounces", .delete, "/bounces"⟩, ["bounces"], [("all", "true")], none,
    .of_parameter (v := .bool true) (by decide +kernel) rfl rfl (by rfl) (by decide),
    by simp [endpoints], rfl, nofun⟩

/-! ## From a command line on -/

/-- A command that takes records, where it puts a status in its place, is planned as one step of a
call that states them. -/
theorem exists_plan_of_target {c : ServerCommand} {t : Target} (ht : c.target? = some t)
    (hchosen : t.IsChosen) (hstatus : ¬c.MisplacesStatus) (w : Terminal.Writer) (inputs : Inputs) :
    ∃ step : Step, c.plan w inputs = .ok (.once step) ∧ c.Carries t step.call := by
  cases c with
  | manageLists action selection targetLists status =>
    obtain rfl := Option.some.inj ht
    have hplan : (membershipPlan action selection targetLists status w) =
        .ok (.doing w (membershipCall action selection targetLists status)
          s!"Applied '{action.text}' to lists {numbersWord targetLists}") := by
      refine if_neg ?_
      simpa [MisplacesStatus] using hstatus
    exact ⟨_, hplan, carries_manageLists action selection targetLists status⟩
  | blocklist selection =>
    obtain rfl := Option.some.inj ht
    exact ⟨_, rfl, carries_blocklist selection⟩
  | deleteMany selection =>
    obtain rfl := Option.some.inj ht
    exact ⟨_, rfl, carries_deleteMany selection⟩
  | deleteBounces ids =>
    obtain rfl := Option.some.inj ht
    exact ⟨_, rfl, carries_deleteBounces hchosen⟩
  | deleteAllBounces =>
    obtain rfl := Option.some.inj ht
    exact ⟨_, rfl, carries_deleteAllBounces⟩
  | _ => cases ht

/-- A command of one step whose call is stated sends one message, and this says what is stated. -/
theorem exists_says_of_stated {c : ServerCommand} (hfirst : c.isPlannedFirst = false)
    {o : CommonOptions} {s : Surroundings} {x : Connection}
    (hconnection : o.connection s.environment = .ok x) (hweb : x.client.base.OnWeb) {step : Step}
    (hplan : c.plan (o.writer s.color) s.inputs = .ok (.once step)) {op : Operation}
    {path : List String} {query : List (String × String)} {document : Option Json}
    (hstated : step.call.Stated op path query document) (script : List Wire.Answer) :
    ∃ request m, (c.run o s script).sent = [m] ∧ Wire.Sent x.config x.client step.call request m ∧
      request.method = op.method ∧
      (∃ values, List.Forall₂ (Request.Gives values) op.template path) ∧
      Wire.Says x.client.base request m path query document := by
  obtain ⟨listed, named, survives, exact, options, hoptions, hheaders, hbody, hpath, rfl⟩ := hstated
  have hlegal : Wire.illegalBody? options.body = none := by
    rw [hbody]
    cases document <;> rfl
  have hlayered : (CallOptions.empty.layered options).body = document.map .json :=
    (CallOptions.layeredBody_none options.body).trans hbody
  have hbuild := (CommonOptions.connection_eq_ok hconnection).2.2
  have hparse := (Client.madeOf_of_build hbuild).usable.address
  obtain ⟨m, hsent, hmessage⟩ := exists_sent_of_once hfirst hconnection hplan listed named hoptions
    hheaders hlegal hpath script
  exact ⟨_, m, hsent, hmessage, rfl, ⟨_, Request.segments_eq_ok_iff.mp hpath⟩,
    Request.says_of_filled hparse hweb listed hpath survives hlayered exact hmessage.written⟩

/-- A status out of its place ends a change of lists before anything is sent. -/
theorem run_of_misplacesStatus {c : ServerCommand} (h : c.MisplacesStatus) {o : CommonOptions}
    {s : Surroundings} {x : Connection} (hconnection : o.connection s.environment = .ok x)
    (script : List Wire.Answer) :
    (c.run o s script).sent = [] ∧
      (c.run o s script).failure = some (.plain "--status only applies to 'add'") := by
  cases c with
  | manageLists action selection targetLists status =>
    have hplan : (manageLists action selection targetLists status).plan (o.writer s.color)
        s.inputs = .error (.plain "--status only applies to 'add'") := by
      refine if_pos ?_
      simpa [MisplacesStatus] using h
    have hprepared : (manageLists action selection targetLists status).prepared o s =
        .error (.plain "--status only applies to 'add'") := by
      simp only [prepared, isPlannedFirst, Bool.false_eq_true, if_false, hconnection, hplan]
      rfl
    rw [run, hprepared]
    exact ⟨rfl, rfl⟩
  | _ => cases h

/-- Over a connection to the web, a command that takes records sends one message that takes them. -/
theorem exists_selects_of_run {c : ServerCommand} {t : Target} (ht : c.target? = some t)
    (hchosen : t.IsChosen) (hstatus : ¬c.MisplacesStatus) {o : CommonOptions} {s : Surroundings}
    {x : Connection} (hconnection : o.connection s.environment = .ok x)
    (hweb : x.client.base.OnWeb) (script : List Wire.Answer) :
    ∃ call request m op path query document, (c.run o s script).sent = [m] ∧
      Wire.Sent x.config x.client call request m ∧ op ∈ Catalog.operations ∧
      request.method = op.method ∧
      (∃ values, List.Forall₂ (Request.Gives values) op.template path) ∧
      Wire.Says x.client.base request m path query document ∧
      c.Selects t op path query document := by
  obtain ⟨step, hplan, op, path, query, document, hstated, hselects⟩ :=
    exists_plan_of_target ht hchosen hstatus (o.writer s.color) s.inputs
  have hfirst : c.isPlannedFirst = false := by
    cases c with
    | sendMessage => cases ht
    | _ => rfl
  obtain ⟨request, m, hsent, hmessage, hmethod, hgives, hsays⟩ :=
    exists_says_of_stated hfirst hconnection hweb hplan hstated script
  exact ⟨_, request, m, op, path, query, document, hsent, hmessage, hstated.listed, hmethod, hgives,
    hsays, hselects⟩

/--
A command line that takes a selection of records takes one record at least, those of a condition, or
all. Where a change of lists adds nothing but has a status, it fails and sends nothing. Over a
connection to the web every other such command line sends one message, to an endpoint of its
command. What the message says beyond its root, in its path, its query and its document together,
are the numbers in their order and nothing else, or the condition with its lists, which are left out
if there are none, or that all are meant. A change of lists has its action, its lists and its status
too, whichever endpoint it goes to.
-/
theorem selection_of_words {words : List String} {i : Invocation}
    (hread : Invocation.ofWords words = .ok i) {c : ServerCommand}
    (hcommand : i.command = .server c) {t : Target} (ht : c.target? = some t) {s : Surroundings}
    {x : Connection} (hconnection : i.common.connection s.environment = .ok x)
    (hweb : x.client.base.OnWeb) (script : List Wire.Answer) :
    t.IsChosen ∧
    (c.MisplacesStatus → (i.run s script).sent = [] ∧
      (i.run s script).failure = some (.plain "--status only applies to 'add'")) ∧
    (¬c.MisplacesStatus → ∃ call request m op path query document, (i.run s script).sent = [m] ∧
      Wire.Sent x.config x.client call request m ∧ op ∈ Catalog.operations ∧
      request.method = op.method ∧
      (∃ values, List.Forall₂ (Request.Gives values) op.template path) ∧
      Wire.Says x.client.base request m path query document ∧
      c.Selects t op path query document) := by
  have hrun : i.run s script = c.run i.common s script := by
    rw [Invocation.run, hcommand]
  have hchosen : t.IsChosen := Invocation.isChosen_of_words hread hcommand ht
  rw [hrun]
  exact ⟨hchosen, fun hstatus => run_of_misplacesStatus hstatus hconnection script,
    fun hstatus => exists_selects_of_run ht hchosen hstatus hconnection hweb script⟩

/-- Three subscribers are put on a list with a status. -/
theorem selection_of_words_lists : ∃ i x request m path query document,
    Invocation.ofWords ["--token", "t", "subscribers", "lists", "add", "3,4", "5", "--to", "7",
      "--status", "confirmed"] = .ok i ∧
    i.common.connection Invocation.nowhere.environment = .ok x ∧
    (i.run Invocation.nowhere []).sent = [m] ∧
    Wire.Says x.client.base request m path query document ∧
    (Taken.read path query document).ids = [some 3, some 4, some 5] ∧
    Changes document .add [7] (some "confirmed") := by
  obtain ⟨x, hconnection⟩ := exists_connection_tokenOptions
  have hread : Invocation.ofWords ["--token", "t", "subscribers", "lists", "add", "3,4", "5",
      "--to", "7", "--status", "confirmed"] =
      .ok ⟨tokenOptions, .server (.manageLists .add (.ids [3, 4, 5]) [7] (some "confirmed"))⟩ := by
    rfl
  have hweb : x.client.base.OnWeb := by
    rw [Listing.base_tokenOptions hconnection]
    exact Or.inl rfl
  obtain ⟨-, -, hsends⟩ := selection_of_words hread rfl rfl hconnection hweb []
  obtain ⟨_, request, m, op, path, query, document, hsent, -, -, -, -, hsays, hselects⟩ :=
    hsends fun hstatus => hstatus.2 rfl
  exact ⟨_, x, request, m, path, query, document, hread, hconnection, hsent, hsays,
    congrArg Taken.ids hselects.taken, hselects.change _ _ _ _ rfl⟩

/-- Options with a root whose query has a number of its own. -/
def numberedOptions : CommonOptions :=
  { tokenOptions with url := some "http://localhost:9000/api?id=9" }

theorem exists_connection_numberedOptions :
    ∃ x, numberedOptions.connection Invocation.nowhere.environment = .ok x ∧
      x.client.base.OnWeb ∧ x.client.base.queryValues "id" = ["9"] := by
  have hconfig : numberedOptions.config Invocation.nowhere.environment =
      .ok { tokenConfig with baseUrl := "http://localhost:9000/api?id=9" } := by rfl
  have hvalidate : ({ tokenConfig with baseUrl := "http://localhost:9000/api?id=9" } :
      Config).validate = .ok { Client.tenantBase with query := some "id=9" } := by rfl
  have hlegal : ∀ e ∈ tokenConfig.requestHeaders,
      Header.isLegalName e.1 = true ∧ Header.isLegalValue e.2 = true := by
    decide +kernel
  obtain ⟨client, hbuild⟩ := Client.exists_build_standard ⟨_, hvalidate⟩ hlegal
  have hbase : client.base = { Client.tenantBase with query := some "id=9" } :=
    Except.ok.inj ((Config.validate_eq_ok_iff.mpr
      (Client.madeOf_of_build hbuild).usable).symm.trans hvalidate)
  refine ⟨_, CommonOptions.connection_of_build hconfig hbuild, ?_⟩
  change client.base.OnWeb ∧ client.base.queryValues "id" = ["9"]
  rw [hbase]
  exact ⟨Or.inl rfl, by decide +kernel⟩

/-- Not only the numbers of a selection stand in the query where the root has a number itself. -/
theorem not_alone_of_root_query : ¬∀ (words : List String) (i : Invocation) (ids : List UInt64)
    (s : Surroundings) (x : Connection) (script : List Wire.Answer) (call : Call)
    (request : Request) (m : Wire.Message), Invocation.ofWords words = .ok i →
    i.command = .server (.deleteMany (.ids ids)) →
    i.common.connection s.environment = .ok x → (i.run s script).sent = [m] →
    Wire.Sent x.config x.client call request m →
    request.url.queryValues "id" = ids.map fun id => toString id.toNat := by
  intro hclaim
  obtain ⟨x, hconnection, hweb, hroot⟩ := exists_connection_numberedOptions
  have hread : Invocation.ofWords ["--url", "http://localhost:9000/api?id=9", "--token", "t",
      "subscribers", "delete-many", "1", "2"] =
      .ok ⟨numberedOptions, .server (.deleteMany (.ids [1, 2]))⟩ := by
    rfl
  obtain ⟨call, request, m, op, path, query, document, hsent, hmessage, -, -, -, hsays, -⟩ :=
    exists_selects_of_run (c := .deleteMany (.ids [1, 2])) rfl (List.cons_ne_nil _ _) id hconnection
      hweb []
  have hvalues := hclaim _ _ [1, 2] _ x [] call request m hread rfl hconnection hsent hmessage
  rw [Url.queryValues, hsays.query, List.filter_append, List.map_append, ← Url.queryValues,
    hroot] at hvalues
  exact absurd (List.cons.inj hvalues).1 (by decide)

end ServerCommand

end Mailroom
