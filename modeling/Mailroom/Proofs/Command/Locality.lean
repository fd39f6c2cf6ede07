import Mailroom.Proofs.Command.Exchanges

/-!
# Failures without a server

Everything that comes before the first message fails for a local reason, if it fails: reading
fields, inputs and bodies, putting the configuration together, making the client, and planning.
What a command makes of an answer to show it, or to go on from it, fails for local reasons too. So
only an answer, or that there is none, can be another reason for the end of a run.
-/

namespace Mailroom

namespace Report

theorem isLocal_plain (message : String) : (plain message).IsLocal := by
  rintro e ⟨⟩

/-- Notes do not make a failure any less local. -/
theorem IsLocal.within {r : Report} (h : r.IsLocal) (note : String) : (r.within note).IsLocal :=
  h

/-- Something fails for a local reason, if it does. -/
def FailsLocally {α : Type} (x : Except Report α) : Prop :=
  ∀ r, x = .error r → r.IsLocal

namespace FailsLocally

variable {α β ε : Type} {x : Except Report α}

theorem ok (a : α) : FailsLocally (.ok a) := by
  rintro r ⟨⟩

theorem error {r : Report} (h : r.IsLocal) : FailsLocally (.error r : Except Report α) := by
  rintro r' ⟨⟩
  exact h

theorem plain (message : String) : FailsLocally (.error (.plain message) : Except Report α) :=
  error (isLocal_plain message)

theorem map (h : FailsLocally x) (f : α → β) : FailsLocally (x.map f) :=
  fun r hr => h r (Outcome.map_eq_error_iff.mp hr)

theorem bind (h : FailsLocally x) {f : α → Except Report β} (hf : ∀ a, FailsLocally (f a)) :
    FailsLocally (x.bind f) := by
  intro r hr
  rcases Outcome.bind_eq_error_iff.mp hr with hx | ⟨a, -, ha⟩
  · exact h r hx
  · exact hf a r ha

theorem mapError {f : ε → Report} (h : ∀ e, (f e).IsLocal) (y : Except ε α) :
    FailsLocally (y.mapError f) := by
  intro r hr
  obtain ⟨e, -, rfl⟩ := Outcome.mapError_eq_error_iff.mp hr
  exact h e

end FailsLocally

end Report

open Report (FailsLocally)

/-! ## Arguments and inputs -/

namespace Field

theorem failsLocally_split (field : String) : FailsLocally (split field) := by
  have hmalformed : (malformed field).IsLocal := Report.isLocal_plain _
  unfold split
  dsimp only
  split
  · exact .error hmalformed
  · split
    · exact .error hmalformed
    · exact .ok _

theorem failsLocally_readAll {α : Type} {read : String → Except Report α}
    (h : ∀ field, FailsLocally (read field)) (fields : List String) :
    FailsLocally (readAll read fields) := by
  induction fields with
  | nil => exact .ok _
  | cons field rest ih =>
    unfold readAll
    split
    · next e he => exact .error (h field e he)
    · exact ih.map _

theorem failsLocally_typed (field : String) : FailsLocally (typed field) :=
  (failsLocally_split field).map _

theorem failsLocally_plain (field : String) : FailsLocally (plain field) :=
  (failsLocally_split field).map _

theorem failsLocally_entries (typedFields plainFields : List String) :
    FailsLocally (entries typedFields plainFields) := by
  unfold entries
  split
  · next e he => exact .error (failsLocally_readAll failsLocally_typed typedFields e he)
  · exact (failsLocally_readAll failsLocally_plain plainFields).map _

end Field

namespace Inputs

variable (inputs : Inputs)

theorem failsLocally_document (name : String) : FailsLocally (inputs.document name) := by
  refine .bind ?_ fun content => .mapError (fun e => (Report.isLocal_plain _).within _) _
  unfold text
  split
  · exact .mapError (fun e => (Report.isLocal_plain _).within _) _
  · exact .mapError (fun e => (Report.isLocal_plain _).within _) _

theorem failsLocally_upload (path : String) (mime : Option String) :
    FailsLocally (inputs.upload path mime) := by
  unfold upload
  split
  · exact .ok _
  · exact .error ((Report.isLocal_ofApi_iff.mpr (Or.inr rfl)).within _)

end Inputs

namespace BodySource

variable (b : BodySource) (inputs : Inputs)

theorem failsLocally_document : FailsLocally (b.document inputs) := by
  unfold document
  split
  · exact .ok _
  · exact (inputs.failsLocally_document _).map _

theorem failsLocally_ground (document : Option Json) : FailsLocally (ground document) := by
  unfold ground
  split
  · exact .ok _
  · exact .ok _
  · exact .plain _

theorem failsLocally_body : FailsLocally (b.body inputs) := by
  unfold body
  split
  · next e he => exact .error (b.failsLocally_document inputs e he)
  · split
    · exact .ok _
    · split
      · next e he => exact .error (failsLocally_ground _ e he)
      · exact (Field.failsLocally_entries _ _).map _

theorem failsLocally_required : FailsLocally (b.required inputs) := by
  unfold required
  split
  · next e he => exact .error (b.failsLocally_body inputs e he)
  · exact .ok _
  · exact .plain _

theorem failsLocally_settings (current : Json) : FailsLocally (b.settings inputs current) := by
  unfold settings
  split
  · next e he => exact .error (b.failsLocally_document inputs e he)
  · split
    · exact (Field.failsLocally_entries _ _).map _
    · exact .plain _

end BodySource

theorem PageQuery.failsLocally_options (q : PageQuery) : FailsLocally q.options :=
  (Field.failsLocally_readAll Field.failsLocally_typed q.params).map _

theorem MessageSource.failsLocally_message (m : MessageSource) (inputs : Inputs) :
    FailsLocally (m.message inputs) := by
  unfold message
  split
  · next e he => exact .error (m.data.failsLocally_body inputs e he)
  · exact (Field.failsLocally_readAll Field.failsLocally_split m.headers).map _

/-! ## Plans -/

theorem RecordCommand.failsLocally_plan (c : RecordCommand) (r : Resource) (w : Terminal.Writer)
    (inputs : Inputs) : FailsLocally (c.plan r w inputs) := by
  cases c with
  | list query => exact query.failsLocally_options.map _
  | get id => exact .ok _
  | create body => exact (body.failsLocally_required inputs).map _
  | update id body => exact (body.failsLocally_required inputs).map _
  | delete id => exact .ok _

namespace ServerCommand

theorem failsLocally_membershipPlan (action : MembershipAction) (selection : Selection)
    (targetLists : List UInt64) (status : Option String) (w : Terminal.Writer) :
    FailsLocally (membershipPlan action selection targetLists status w) := by
  unfold membershipPlan
  split
  · exact .plain _
  · exact .ok _

theorem failsLocally_templatePlan (id : Option UInt64) (body : Option Json) (w : Terminal.Writer) :
    FailsLocally (templatePlan id body w) := by
  unfold templatePlan
  split
  · exact .ok _
  · exact .ok _
  · exact .plain _

theorem failsLocally_updateSettingsPlan (body : BodySource) (w : Terminal.Writer)
    (inputs : Inputs) : FailsLocally (updateSettingsPlan body w inputs) := by
  unfold updateSettingsPlan
  split
  · exact .plain _
  · exact .ok _

/-- A command that cannot be planned has wrong arguments or inputs. -/
theorem failsLocally_plan (c : ServerCommand) (w : Terminal.Writer) (inputs : Inputs) :
    FailsLocally (c.plan w inputs) := by
  cases c with
  | records r command => exact command.failsLocally_plan r w inputs
  | manageLists action selection targetLists status =>
    exact failsLocally_membershipPlan action selection targetLists status w
  | subscriberBounces id delete => cases delete <;> exact .ok _
  | previewCampaign id plainText body => exact (body.failsLocally_body inputs).map _
  | archiveCampaign id body => exact (body.failsLocally_required inputs).map _
  | campaignContent id body => exact (body.failsLocally_required inputs).map _
  | testCampaign id recipients body => exact (body.failsLocally_body inputs).map _
  | previewTemplate id body =>
    exact (body.failsLocally_body inputs).bind fun v => failsLocally_templatePlan id v w
  | uploadMedia path mime => exact (inputs.failsLocally_upload path mime).map _
  | startImport path params => exact (inputs.failsLocally_upload path none).map _
  | listBounces query campaign source => exact (query.failsLocally_options.map _).map _
  | sendMessage source => exact (source.failsLocally_message inputs).map _
  | updateSettings body => exact failsLocally_updateSettingsPlan body w inputs
  | testSmtp body => exact (body.failsLocally_required inputs).map _
  | _ => exact .ok _

theorem failsLocally_displaySettings (key : Option String) (w : Terminal.Writer)
    (e : Envelope Json) : FailsLocally (displaySettings key w e) := by
  unfold displaySettings
  split
  · exact .ok _
  · split
    · exact .ok _
    · exact .plain _

theorem failsLocally_displayHealth (w : Terminal.Writer) (e : Envelope Bool) :
    FailsLocally (displayHealth w e) := by
  unfold displayHealth
  split
  · exact .ok _
  · exact .plain _

end ServerCommand

/-! ## Connections -/

namespace CommonOptions

variable (o : CommonOptions) (env : Environment)

theorem failsLocally_config : FailsLocally (o.config env) := by
  unfold config
  split
  · next e he =>
    refine .error (FailsLocally.map (Field.failsLocally_readAll (fun field => ?_) _) _ e he)
    intro r hr
    obtain ⟨cause, hsplit, rfl⟩ := Outcome.mapError_eq_error_iff.mp hr
    exact (Field.failsLocally_split field cause hsplit).within _
  · exact .mapError (fun e => Report.isLocal_ofApi_iff.mpr (Or.inl rfl)) _

/-- There is no client only where the configuration cannot be used or the operations are not all
there. -/
theorem failsLocally_connection : FailsLocally (o.connection env) := by
  unfold connection
  split
  · next e he => exact .error (o.failsLocally_config env e he)
  · split
    · next e he =>
      refine .error (Report.isLocal_ofApi_iff.mpr ?_)
      cases Client.build_eq_error_iff.mp he with
      | config _ => exact Or.inl rfl
      | header _ _ _ _ _ => exact Or.inl rfl
      | operation _ _ _ _ _ => exact Or.inr rfl
    · exact .ok _

end CommonOptions

/-- A run that does not get as far as a client and a plan fails for a local reason. -/
theorem ServerCommand.failsLocally_prepared (c : ServerCommand) (o : CommonOptions)
    (s : Surroundings) : FailsLocally (c.prepared o s) := by
  have hconnection := o.failsLocally_connection s.environment
  have hplan := c.failsLocally_plan (o.writer s.color) s.inputs
  unfold prepared
  split
  · exact hplan.bind fun p => hconnection.map _
  · exact hconnection.bind fun x => hplan.map _

end Mailroom
