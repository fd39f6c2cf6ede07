import Mailroom.Proofs.Command.Accepted

/-!
# What is planned

Every plan of a command is one of five: a call whose answer is always shown; a look at one setting,
which may not exist; a check of the server, which may not be well; and two plans of two calls, the
plain text of a stored campaign and a change of settings. `planned_of_plan` says so, and says of
every answer that is shown what it puts on standard output: the payload in JSON or as the text that
it is, or the whole answer in JSON. A note on a refusal goes with the calls that keep it as data,
and with no others.
-/

namespace Mailroom

open Terminal (Output Writer)

/-! ## What is printed of an answer -/

/-- An answer with its payload in JSON. -/
def Envelope.encoded {α : Type} [Model α] (e : Envelope α) : Envelope Json :=
  e.withData (Model.encode e.data)

namespace Terminal

theorem Output.stdout_result (line : String) : (Output.result [line]).stdout = line ++ "\n" :=
  rfl

theorem Output.stdout_andThen_remark (o : Output) (line : String) :
    (o.andThen (.remark line)).stdout = o.stdout := by
  change o.stdout ++ "" = _
  exact String.append_empty

namespace Writer

/-- The text that is printed of an answer where results are JSON: the whole answer if that is asked
for, and else the payload, in JSON or as the text that it is. -/
def answerText (w : Writer) (verbatim : Bool) (e : Envelope Json) : String :=
  if w.wholeAnswer then (e.encode id).pretty
  else if verbatim then e.data.string?.getD ""
  else e.data.pretty

variable {α : Type} {w : Writer}

theorem stdout_value [Model α] (w : Writer) (e : Envelope α) :
    (w.value e).stdout = w.answerText false e.encoded ++ "\n" := by
  rw [value, json, Output.stdout_result, answerText]
  split <;> rfl

theorem stdout_text (w : Writer) (e : Envelope String) :
    (w.text e).stdout = w.answerText true e.encoded ++ "\n" := by
  unfold text answerText
  split
  · next hwhole =>
    rw [stdout_value, answerText, if_pos hwhole]
  · exact Output.stdout_result e.data

theorem stdout_record [Model α] [Detailed α] (hw : w.format = .json) (e : Envelope α) :
    (w.record e).stdout = w.answerText false e.encoded ++ "\n" := by
  rw [record, hw]
  exact stdout_value w e

theorem stdout_page [Model α] [Tabular α] (hw : w.format = .json) (e : Envelope (Page α)) :
    (w.page e).stdout = w.answerText false e.encoded ++ "\n" := by
  rw [page, hw]
  exact stdout_value w e

/-- A remark of success is not among the results where these are JSON. -/
theorem stdout_andThen_success (hw : w.format = .json) (o : Output) (text : String) :
    (o.andThen (w.success text)).stdout = o.stdout := by
  rw [success, hw]
  exact Output.stdout_andThen_remark o _

theorem stdout_done [Model α] (hw : w.format = .json) (e : Envelope α) (achieved : String) :
    (w.done e achieved).stdout = w.answerText false e.encoded ++ "\n" := by
  rw [done, stdout_andThen_success hw, stdout_value]

end Writer

end Terminal

/-! ## What a command shows -/

namespace BodySource

/-- There is nothing for a body exactly if neither fields nor a document are given. -/
theorem body_eq_ok_none_iff {b : BodySource} {inputs : Inputs} :
    b.body inputs = .ok none ↔ b.hasNoFields = true ∧ b.input = none := by
  constructor
  · intro h
    unfold body at h
    split at h
    · cases h
    · next document hdocument =>
      split at h
      · next hnone =>
        refine ⟨hnone, ?_⟩
        obtain rfl := Except.ok.inj h
        cases hname : b.input with
        | none => rfl
        | some name =>
          obtain ⟨v, hv, -⟩ := document_eq_ok hdocument name hname
          cases hv
      · split at h
        · cases h
        · obtain ⟨es, -, hes⟩ := Outcome.map_eq_ok_iff.mp h
          cases hes
  · rintro ⟨hnone, hname⟩
    unfold body document
    rw [hname, hnone]
    rfl

end BodySource

/-- The file that a call sends. -/
def Call.file? (call : Call) : Option FilePart :=
  match call with
  | uploadMedia file => some file
  | startImport _ file => some file
  | _ => none

namespace ServerCommand

/-- Whether a command reads something from the server before it makes its own call: a change of
settings does, and so does the plain text of a campaign without any other content. -/
def readsFirst (c : ServerCommand) : Bool :=
  match c with
  | previewCampaign _ plainText body => plainText && body.hasNoFields && body.input.isNone
  | updateSettings _ => true
  | _ => false

/-- Whether the payload of a command's answer is a text that is printed as it is: the rendering of a
campaign or a template, or a log. -/
def isVerbatim (c : ServerCommand) : Bool :=
  match c with
  | previewCampaign _ _ _ => true
  | previewTemplate _ _ => true
  | importLogs => true
  | serverLogs _ => true
  | _ => false

/-- What a command shows of a payload: all of it, but the one setting that is asked for, and the
lines of a log, as many of the last ones as are asked for, as one text. -/
def shown? (c : ServerCommand) (payload : Json) : Option Json :=
  match c, payload with
  | getSettings (some key), settings => settings.field? key
  | serverLogs tail, .arr lines =>
    some (.str ("\n".intercalate (tailLines tail (lines.filterMap Json.string?))))
  | _, payload => some payload

/-- What is on standard output shows the payload of an answer. -/
def Prints (c : ServerCommand) (w : Writer) (e : Envelope Json) (o : Output) : Prop :=
  ∃ shown, c.shown? e.data = some shown ∧
    o.stdout = w.answerText c.isVerbatim (e.withData shown) ++ "\n"

/-- How a command is planned. -/
inductive Planned (c : ServerCommand) (w : Writer) (inputs : Inputs) : Plan → Prop where
  | showing {call : Call} {note : Option String}
      {display : Envelope call.endpoint.Payload → Output} (reads : c.readsFirst = false)
      (noted : note.isSome = call.endpoint.keepsRefusals)
      (prints : w.format = .json → ∀ e, c.Prints w e.encoded (display e))
      (uploads : ∀ path mime, c.upload? = some (path, mime) →
        ∃ file, call.file? = some file ∧ file.mime = mime) :
      Planned c w inputs (.once ⟨call, note, fun e => .ok (display e)⟩)
  | setting (key : Option String) (command : c = .getSettings key) :
      Planned c w inputs (.once ⟨.getSettings, none, displaySettings key w⟩)
  | checking (command : c = .health) :
      Planned c w inputs (.once ⟨.health, none, displayHealth w⟩)
  | rendering {id : UInt64} {body : BodySource} {note : Option String}
      (command : c = .previewCampaign id true body) (reads : c.readsFirst = true)
      (noted : note.isSome = true) :
      Planned c w inputs
        (.afterReading (.getById .campaign (CallOptions.empty.withId id)) note fun stored =>
          .ok ⟨.renderCampaignText id (storedContent stored.data), none, fun e => .ok (w.text e)⟩)
  | updating {body : BodySource} (command : c = .updateSettings body) :
      Planned c w inputs
        (.afterReading .getSettings none fun current =>
          (body.settings inputs current.data).map fun settings =>
            ⟨.replaceSettings settings, none, fun e =>
              .ok ((w.done e "Settings updated").andThen
                (w.warning "The server restarts to apply the new settings"))⟩)

variable {c : ServerCommand} {w : Writer} {inputs : Inputs}

/-- What a command that shows all of a payload in JSON prints. -/
theorem prints_of_stdout {e : Envelope Json} {o : Output} (hshown : c.shown? e.data = some e.data)
    (hverbatim : c.isVerbatim = false) (h : o.stdout = w.answerText false e ++ "\n") :
    c.Prints w e o :=
  ⟨e.data, hshown, by rw [hverbatim]; exact h⟩

/-- What a command that shows a text as it is prints. -/
theorem prints_of_stdout_verbatim {e : Envelope Json} {o : Output}
    (hshown : c.shown? e.data = some e.data) (hverbatim : c.isVerbatim = true)
    (h : o.stdout = w.answerText true e ++ "\n") : c.Prints w e o :=
  ⟨e.data, hshown, by rw [hverbatim]; exact h⟩

/-- A command that neither reads first nor uploads and that shows all of a payload. -/
structure IsPlain (c : ServerCommand) : Prop where
  reads : c.readsFirst = false
  uploads : c.upload? = none
  shown : ∀ v, c.shown? v = some v

namespace Planned

/-- A plain command that shows a payload in JSON. -/
theorem of_value {call : Call} {note : Option String}
    {display : Envelope call.endpoint.Payload → Output} (plain : c.IsPlain)
    (verbatim : c.isVerbatim = false) (noted : note.isSome = call.endpoint.keepsRefusals)
    (prints : w.format = .json → ∀ e, (display e).stdout = w.answerText false e.encoded ++ "\n") :
    Planned c w inputs (.once ⟨call, note, fun e => .ok (display e)⟩) := by
  refine .showing plain.reads noted
    (fun hw e => prints_of_stdout (plain.shown _) verbatim (prints hw e)) fun path mime h => ?_
  rw [plain.uploads] at h
  cases h

/-- A plain command that shows a document. -/
theorem of_document {call : Call} (plain : c.IsPlain) (verbatim : c.isVerbatim = false)
    (kept : call.endpoint.keepsRefusals = false) : Planned c w inputs (.showing call w.value) :=
  of_value plain verbatim kept.symm fun _ e => Writer.stdout_value w e

/-- A plain command that says what was achieved. -/
theorem of_doing {call : Call} {achieved : String} (plain : c.IsPlain)
    (verbatim : c.isVerbatim = false) (kept : call.endpoint.keepsRefusals = false) :
    Planned c w inputs (.doing w call achieved) :=
  of_value plain verbatim kept.symm fun hw e => Writer.stdout_done hw e achieved

/-- A plain command that shows a text as it is. -/
theorem of_text {call : Call} {note : Option String}
    {display : Envelope call.endpoint.Payload → Output} (plain : c.IsPlain)
    (verbatim : c.isVerbatim = true) (noted : note.isSome = call.endpoint.keepsRefusals)
    (prints : ∀ e, (display e).stdout = w.answerText true e.encoded ++ "\n") :
    Planned c w inputs (.once ⟨call, note, fun e => .ok (display e)⟩) := by
  refine .showing plain.reads noted
    (fun _ e => prints_of_stdout_verbatim (plain.shown _) verbatim (prints e)) fun path mime h => ?_
  rw [plain.uploads] at h
  cases h

end Planned

/-! ## Plans of commands -/

theorem keepsRefusals_membershipCall (action : MembershipAction) (selection : Selection)
    (targetLists : List UInt64) (status : Option String) :
    (membershipCall action selection targetLists status).endpoint.keepsRefusals = false := by
  cases selection <;> rfl

theorem keepsRefusals_blocklistCall (selection : Selection) :
    (blocklistCall selection).endpoint.keepsRefusals = false := by
  unfold blocklistCall
  split <;> rfl

theorem keepsRefusals_deleteManyCall (selection : Selection) :
    (deleteManyCall selection).endpoint.keepsRefusals = false := by
  cases selection <;> rfl

theorem keepsRefusals_deleteBouncesCall (ids : List UInt64) :
    (deleteBouncesCall ids).endpoint.keepsRefusals = false := by
  unfold deleteBouncesCall
  split <;> rfl

theorem planned_of_recordPlan {r : Resource} {command : RecordCommand} {plan : Plan}
    (h : command.plan r w inputs = .ok plan) : Planned (records r command) w inputs plan := by
  cases command with
  | list query =>
    obtain ⟨options, -, rfl⟩ := Outcome.map_eq_ok_iff.mp h
    exact .of_value ⟨rfl, rfl, fun _ => rfl⟩ rfl rfl fun hw e => Writer.stdout_page hw e
  | get id =>
    obtain rfl := Except.ok.inj h
    exact .of_value ⟨rfl, rfl, fun _ => rfl⟩ rfl rfl fun hw e =>
      Writer.stdout_record (α := r.Item) hw e
  | create body =>
    obtain ⟨v, -, rfl⟩ := Outcome.map_eq_ok_iff.mp h
    exact .of_value ⟨rfl, rfl, fun _ => rfl⟩ rfl rfl fun hw e =>
      Writer.stdout_record (α := r.Item) hw e
  | update id body =>
    obtain ⟨v, -, rfl⟩ := Outcome.map_eq_ok_iff.mp h
    exact .of_value ⟨rfl, rfl, fun _ => rfl⟩ rfl rfl fun hw e =>
      Writer.stdout_record (α := r.Item) hw e
  | delete id =>
    obtain rfl := Except.ok.inj h
    refine .of_value ⟨rfl, rfl, fun _ => rfl⟩ rfl rfl fun hw e => ?_
    rw [Writer.stdout_andThen_success hw, hw]
    exact Writer.stdout_value w e

theorem planned_of_preview {id : UInt64} {plainText : Bool} {body : BodySource} {plan : Plan}
    (h : (previewCampaign id plainText body).plan w inputs = .ok plan) :
    Planned (previewCampaign id plainText body) w inputs plan := by
  obtain ⟨v, hv, rfl⟩ := Outcome.map_eq_ok_iff.mp h
  have hreads : (previewCampaign id plainText body).readsFirst = true ↔
      plainText = true ∧ v = none := by
    have hnone : body.body inputs = .ok none ↔ body.hasNoFields = true ∧ body.input = none :=
      BodySource.body_eq_ok_none_iff
    rw [hv, Except.ok.injEq] at hnone
    rw [hnone]
    simp [readsFirst, and_assoc]
  cases v with
  | none =>
    cases plainText with
    | false =>
      exact .of_text ⟨rfl, rfl, fun _ => rfl⟩ rfl rfl fun e => Writer.stdout_text w e
    | true => exact .rendering rfl (hreads.mpr ⟨rfl, rfl⟩) rfl
  | some v =>
    have hfalse : (previewCampaign id plainText body).readsFirst = false := by
      rw [← Bool.not_eq_true, hreads]
      simp
    cases plainText with
    | false => exact .of_text ⟨hfalse, rfl, fun _ => rfl⟩ rfl rfl fun e => Writer.stdout_text w e
    | true => exact .of_text ⟨hfalse, rfl, fun _ => rfl⟩ rfl rfl fun e => Writer.stdout_text w e

theorem planned_of_templatePreview {id : Option UInt64} {body : BodySource} {plan : Plan}
    (h : (previewTemplate id body).plan w inputs = .ok plan) :
    Planned (previewTemplate id body) w inputs plan := by
  obtain ⟨v, -, hplan⟩ := Outcome.bind_eq_ok_iff.mp h
  unfold templatePlan at hplan
  split at hplan
  · obtain rfl := Except.ok.inj hplan
    exact .of_text ⟨rfl, rfl, fun _ => rfl⟩ rfl rfl fun e => Writer.stdout_text w e
  · obtain rfl := Except.ok.inj hplan
    exact .of_text ⟨rfl, rfl, fun _ => rfl⟩ rfl rfl fun e => Writer.stdout_text w e
  · cases hplan

/-- The lines of a log are read back from their encoding. -/
theorem filterMap_string?_encode (lines : List String) :
    (lines.map Json.str).filterMap Json.string? = lines := by
  rw [List.filterMap_map]
  exact List.filterMap_some

theorem planned_of_serverLogs {tail : Option UInt64} :
    Planned (serverLogs tail) w inputs
      (.showing .serverLogs fun e =>
        w.text (e.withData ("\n".intercalate (tailLines tail e.data)))) := by
  refine .showing rfl rfl (fun _ e => ?_) fun _ _ h => by cases h
  refine ⟨.str ("\n".intercalate (tailLines tail e.data)), ?_, Writer.stdout_text w _⟩
  exact congrArg (fun lines => some (Json.str ("\n".intercalate (tailLines tail lines))))
    (filterMap_string?_encode e.data)

/-- Every plan of a command is one of the five. -/
theorem planned_of_plan {plan : Plan} (h : c.plan w inputs = .ok plan) :
    Planned c w inputs plan := by
  cases c with
  | records r command => exact planned_of_recordPlan h
  | manageLists action selection targetLists status =>
    change membershipPlan action selection targetLists status w = .ok plan at h
    unfold membershipPlan at h
    split at h
    · cases h
    · obtain rfl := Except.ok.inj h
      exact .of_doing ⟨rfl, rfl, fun _ => rfl⟩ rfl
        (keepsRefusals_membershipCall action selection targetLists status)
  | subscriberBounces id delete =>
    cases delete with
    | true =>
      obtain rfl := Except.ok.inj h
      exact .of_doing ⟨rfl, rfl, fun _ => rfl⟩ rfl rfl
    | false =>
      obtain rfl := Except.ok.inj h
      exact .of_document ⟨rfl, rfl, fun _ => rfl⟩ rfl rfl
  | previewCampaign id plainText body => exact planned_of_preview h
  | previewTemplate id body => exact planned_of_templatePreview h
  | campaignStatus id status =>
    obtain rfl := Except.ok.inj h
    refine .of_value ⟨rfl, rfl, fun _ => rfl⟩ rfl rfl fun hw e => ?_
    rw [Writer.stdout_andThen_success hw]
    exact Writer.stdout_record (α := Campaign) hw e
  | archiveCampaign id body =>
    obtain ⟨v, -, rfl⟩ := Outcome.map_eq_ok_iff.mp h
    exact .of_document ⟨rfl, rfl, fun _ => rfl⟩ rfl rfl
  | campaignContent id body =>
    obtain ⟨v, -, rfl⟩ := Outcome.map_eq_ok_iff.mp h
    exact .of_document ⟨rfl, rfl, fun _ => rfl⟩ rfl rfl
  | testCampaign id recipients body =>
    obtain ⟨v, -, rfl⟩ := Outcome.map_eq_ok_iff.mp h
    exact .of_doing ⟨rfl, rfl, fun _ => rfl⟩ rfl rfl
  | uploadMedia path mime =>
    obtain ⟨file, hfile, rfl⟩ := Outcome.map_eq_ok_iff.mp h
    refine .showing rfl rfl (fun hw e => prints_of_stdout rfl rfl ?_) fun path' mime' hu => ?_
    · rw [Writer.stdout_andThen_success hw]
      exact Writer.stdout_record (α := Media) hw e
    · obtain ⟨rfl, rfl⟩ := Prod.mk.inj (Option.some.inj hu)
      exact ⟨file, rfl, (file_of_upload hfile).2⟩
  | startImport path params =>
    obtain ⟨file, hfile, rfl⟩ := Outcome.map_eq_ok_iff.mp h
    refine .showing rfl rfl (fun hw e => prints_of_stdout rfl rfl ?_) fun path' mime' hu => ?_
    · exact Writer.stdout_done hw e _
    · obtain ⟨rfl, rfl⟩ := Prod.mk.inj (Option.some.inj hu)
      exact ⟨file, rfl, (file_of_upload hfile).2⟩
  | listBounces query campaign source =>
    obtain ⟨options, -, rfl⟩ := Outcome.map_eq_ok_iff.mp h
    exact .of_value ⟨rfl, rfl, fun _ => rfl⟩ rfl rfl fun hw e => Writer.stdout_page hw e
  | getBounce id =>
    obtain rfl := Except.ok.inj h
    exact .of_value ⟨rfl, rfl, fun _ => rfl⟩ rfl rfl fun hw e =>
      Writer.stdout_record (α := Bounce) hw e
  | importLogs =>
    obtain rfl := Except.ok.inj h
    exact .of_text ⟨rfl, rfl, fun _ => rfl⟩ rfl rfl fun e => Writer.stdout_text w e
  | serverLogs tail =>
    obtain rfl := Except.ok.inj h
    exact planned_of_serverLogs
  | sendMessage message =>
    obtain ⟨direct, -, rfl⟩ := Outcome.map_eq_ok_iff.mp h
    exact .of_doing ⟨rfl, rfl, fun _ => rfl⟩ rfl rfl
  | getSettings key =>
    obtain rfl := Except.ok.inj h
    exact .setting key rfl
  | updateSettings body =>
    change updateSettingsPlan body w inputs = .ok plan at h
    unfold updateSettingsPlan at h
    split at h
    · cases h
    · obtain rfl := Except.ok.inj h
      exact .updating rfl
  | testSmtp body =>
    obtain ⟨v, -, rfl⟩ := Outcome.map_eq_ok_iff.mp h
    exact .of_document ⟨rfl, rfl, fun _ => rfl⟩ rfl rfl
  | health =>
    obtain rfl := Except.ok.inj h
    exact .checking rfl
  | exportSubscriber _ | runningStats _ | analytics _ _ _ _ | stopImport | importStatus
  | dashboardCounts | dashboardCharts | serverConfig =>
    obtain rfl := Except.ok.inj h
    exact .of_document ⟨rfl, rfl, fun _ => rfl⟩ rfl rfl
  | blocklist selection =>
    obtain rfl := Except.ok.inj h
    exact .of_doing ⟨rfl, rfl, fun _ => rfl⟩ rfl (keepsRefusals_blocklistCall selection)
  | deleteMany selection =>
    obtain rfl := Except.ok.inj h
    exact .of_doing ⟨rfl, rfl, fun _ => rfl⟩ rfl (keepsRefusals_deleteManyCall selection)
  | deleteBounces ids =>
    obtain rfl := Except.ok.inj h
    exact .of_doing ⟨rfl, rfl, fun _ => rfl⟩ rfl (keepsRefusals_deleteBouncesCall ids)
  | sendOptin _ | setDefaultTemplate _ | deleteAllBounces | reload =>
    obtain rfl := Except.ok.inj h
    exact .of_doing ⟨rfl, rfl, fun _ => rfl⟩ rfl rfl

end ServerCommand

end Mailroom
