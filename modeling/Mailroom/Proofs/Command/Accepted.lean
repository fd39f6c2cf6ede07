import Mailroom.Command.Run
import Mailroom.Proofs.Command.Fields

/-!
# Arguments that are accepted

What the arguments and inputs of a command must be like for it to be carried out: every field is a
pair of a key and a value, every document that is named can be read and is an object where fields
are laid over it, and every file can be read. A command is planned only if its arguments are
accepted (`accepted_of_plan`), except that the ones of settings are looked at when the current
settings are there (`accepted_of_settings`).
-/

namespace Mailroom

/-! ## Bodies -/

namespace BodySource

/-- What a body comes from can be used: its fields are well formed, and its document can be read and
is an object where fields are laid over it. -/
structure Accepted (b : BodySource) (inputs : Inputs) : Prop where
  fields : ∀ field ∈ b.typedFields ++ b.plainFields, Field.WellFormed field
  document : ∀ name, b.input = some name → ∃ v, inputs.document name = .ok v ∧
    (b.hasNoFields = false → ∃ fields, v = .obj fields)

variable {b : BodySource} {inputs : Inputs}

theorem document_eq_ok {document : Option Json} (h : b.document inputs = .ok document) :
    ∀ name, b.input = some name →
      ∃ v, document = some v ∧ inputs.document name = .ok v := by
  intro name hname
  rw [BodySource.document, hname] at h
  obtain ⟨v, hv, hsome⟩ := Outcome.map_eq_ok_iff.mp h
  exact ⟨v, hsome.symm, hv⟩

theorem accepted_of_body {v : Option Json} (h : b.body inputs = .ok v) : b.Accepted inputs := by
  unfold body at h
  split at h
  · cases h
  · next document hdocument =>
    have hread := document_eq_ok hdocument
    split at h
    · next hnone =>
      obtain ⟨htyped, hplain⟩ := Bool.and_eq_true_iff.mp hnone
      refine ⟨?_, fun name hname => ?_⟩
      · rw [List.isEmpty_iff.mp htyped, List.isEmpty_iff.mp hplain]
        simp
      · obtain ⟨v, -, hv⟩ := hread name hname
        refine ⟨v, hv, fun hsome => ?_⟩
        rw [hnone] at hsome
        cases hsome
    · split at h
      · cases h
      · next fields hground =>
        obtain ⟨es, hentries, -⟩ := Outcome.map_eq_ok_iff.mp h
        refine ⟨Field.wellFormed_of_entries hentries, fun name hname => ?_⟩
        obtain ⟨v, rfl, hv⟩ := hread name hname
        refine ⟨v, hv, fun _ => ?_⟩
        cases v with
        | obj fields => exact ⟨fields, rfl⟩
        | _ => cases hground

theorem accepted_of_required {v : Json} (h : b.required inputs = .ok v) : b.Accepted inputs := by
  unfold required at h
  split at h
  · cases h
  · next hbody => exact accepted_of_body hbody
  · cases h

/-- Settings are replaced only by an object, over which well-formed fields are laid. -/
theorem accepted_of_settings {current v : Json} (h : b.settings inputs current = .ok v) :
    b.Accepted inputs ∧
      ∀ name, b.input = some name → ∃ fields, inputs.document name = .ok (.obj fields) := by
  unfold settings at h
  split at h
  · cases h
  · next document hdocument =>
    have hread := document_eq_ok hdocument
    split at h
    · next fields hfields =>
      obtain ⟨es, hentries, -⟩ := Outcome.map_eq_ok_iff.mp h
      have hobject : ∀ name, b.input = some name →
          ∃ fields, inputs.document name = .ok (.obj fields) := by
        intro name hname
        obtain ⟨v, rfl, hv⟩ := hread name hname
        obtain rfl : v = .obj fields := hfields
        exact ⟨fields, hv⟩
      refine ⟨⟨Field.wellFormed_of_entries hentries, fun name hname => ?_⟩, hobject⟩
      obtain ⟨fields, hv⟩ := hobject name hname
      exact ⟨_, hv, fun _ => ⟨fields, rfl⟩⟩
    · cases h

end BodySource

/-! ## Commands -/

namespace ServerCommand

/-- The pairs that a command takes beside its body: the parameters of a list and the headers of a
message. -/
def pairs (c : ServerCommand) : List String :=
  match c with
  | records _ (.list query) => query.params
  | listBounces query _ _ => query.params
  | sendMessage message => message.headers
  | _ => []

/-- The file that a command uploads, with the kind given for it. -/
def upload? (c : ServerCommand) : Option (String × Option String) :=
  match c with
  | uploadMedia path mime => some (path, mime)
  | startImport path _ => some (path, none)
  | _ => none

/-- The arguments and the inputs of a command can be used. -/
structure Accepted (c : ServerCommand) (inputs : Inputs) : Prop where
  body : ∀ b, c.body? = some b → b.Accepted inputs
  settings : ∀ b name, c = .updateSettings b → b.input = some name →
    ∃ fields, inputs.document name = .ok (.obj fields)
  pairs : ∀ field ∈ c.pairs, Field.WellFormed field
  upload : ∀ path mime, c.upload? = some (path, mime) →
    ∃ contents, inputs.file path = .ok contents

variable {c : ServerCommand} {inputs : Inputs}

/-- A command without any arguments to check. -/
theorem Accepted.of_none (hbody : c.body? = none) (hpairs : c.pairs = [])
    (hupload : c.upload? = none) : c.Accepted inputs where
  body b hb := by simp [hbody] at hb
  settings b _ hc _ := by simp [hc, ServerCommand.body?] at hbody
  pairs := by simp [hpairs]
  upload _ _ hu := by simp [hupload] at hu

/-- A command whose body is all there is to check. -/
theorem Accepted.of_body {b : BodySource} (hb : b.Accepted inputs) (hbody : c.body? = some b)
    (hsettings : ∀ b, c ≠ .updateSettings b) (hpairs : c.pairs = []) (hupload : c.upload? = none) :
    c.Accepted inputs where
  body b' hb' := by
    obtain rfl := Option.some.inj (hbody.symm.trans hb')
    exact hb
  settings b' _ hc _ := absurd hc (hsettings b')
  pairs := by simp [hpairs]
  upload _ _ hu := by simp [hupload] at hu

/-- A command whose parameters are all there is to check. -/
theorem Accepted.of_params {query : PageQuery} {options : CallOptions}
    (hoptions : query.options = .ok options) (hbody : c.body? = none)
    (hpairs : c.pairs = query.params) (hupload : c.upload? = none) : c.Accepted inputs where
  body b hb := by simp [hbody] at hb
  settings b _ hc _ := by simp [hc, ServerCommand.body?] at hbody
  pairs := by
    obtain ⟨es, hes, -⟩ := Outcome.map_eq_ok_iff.mp hoptions
    rw [hpairs]
    exact Field.wellFormed_of_readAll (fun _ _ => Field.split_of_typed) hes
  upload _ _ hu := by simp [hupload] at hu

theorem file_of_upload {path : String} {mime : Option String} {file : FilePart}
    (h : inputs.upload path mime = .ok file) :
    inputs.file path = .ok file.contents ∧ file.mime = mime := by
  unfold Inputs.upload at h
  split at h
  · next contents hcontents =>
    obtain rfl := Except.ok.inj h
    exact ⟨hcontents, rfl⟩
  · cases h

/-- A command whose file is all there is to check. -/
theorem Accepted.of_upload {path : String} {mime : Option String} {file : FilePart}
    (hfile : inputs.upload path mime = .ok file) (hbody : c.body? = none) (hpairs : c.pairs = [])
    (hupload : c.upload? = some (path, mime)) : c.Accepted inputs where
  body b hb := by simp [hbody] at hb
  settings b _ hc _ := by simp [hc, ServerCommand.body?] at hbody
  pairs := by simp [hpairs]
  upload path' mime' hu := by
    obtain ⟨rfl, rfl⟩ := Prod.mk.inj (Option.some.inj (hupload.symm.trans hu))
    exact ⟨_, (file_of_upload hfile).1⟩

theorem accepted_of_message {message : MessageSource} {direct : DirectMessage}
    (h : message.message inputs = .ok direct) : (sendMessage message).Accepted inputs := by
  unfold MessageSource.message at h
  split at h
  · cases h
  · next data hdata =>
    obtain ⟨headers, hheaders, -⟩ := Outcome.map_eq_ok_iff.mp h
    refine ⟨fun b hb => ?_, fun _ _ hc _ => (by cases hc), ?_, fun _ _ hu => (by cases hu)⟩
    · obtain rfl := Option.some.inj hb
      exact BodySource.accepted_of_body hdata
    · exact Field.wellFormed_of_readAll (fun _ e he => ⟨e, he⟩) hheaders

/-- The settings that replace the current ones come from arguments that can be used. -/
theorem accepted_of_settings {b : BodySource} {current v : Json}
    (h : b.settings inputs current = .ok v) : (updateSettings b).Accepted inputs := by
  obtain ⟨hb, hobject⟩ := BodySource.accepted_of_settings h
  refine ⟨fun b' hb' => ?_, fun b' name hc hname => ?_, by simp [pairs], fun _ _ hu => by cases hu⟩
  · obtain rfl := Option.some.inj hb'
    exact hb
  · obtain rfl := ServerCommand.updateSettings.inj hc
    exact hobject name hname

theorem accepted_of_recordPlan {r : Resource} {command : RecordCommand} {w : Terminal.Writer}
    {plan : Plan} (h : command.plan r w inputs = .ok plan) :
    (records r command).Accepted inputs := by
  cases command with
  | list query =>
    obtain ⟨options, hoptions, -⟩ := Outcome.map_eq_ok_iff.mp h
    exact .of_params hoptions rfl rfl rfl
  | create body =>
    obtain ⟨v, hv, -⟩ := Outcome.map_eq_ok_iff.mp h
    exact .of_body (BodySource.accepted_of_required hv) rfl (fun _ => nofun) rfl rfl
  | update id body =>
    obtain ⟨v, hv, -⟩ := Outcome.map_eq_ok_iff.mp h
    exact .of_body (BodySource.accepted_of_required hv) rfl (fun _ => nofun) rfl rfl
  | get id => exact .of_none rfl rfl rfl
  | delete id => exact .of_none rfl rfl rfl

/-- Any command but a change of settings is planned only if its arguments and inputs can be used. -/
theorem accepted_of_plan {w : Terminal.Writer} {plan : Plan} (h : c.plan w inputs = .ok plan)
    (hsettings : ∀ b, c ≠ .updateSettings b) : c.Accepted inputs := by
  cases c with
  | records r command => exact accepted_of_recordPlan h
  | previewCampaign id plainText body =>
    obtain ⟨v, hv, -⟩ := Outcome.map_eq_ok_iff.mp h
    exact .of_body (BodySource.accepted_of_body hv) rfl hsettings rfl rfl
  | archiveCampaign id body =>
    obtain ⟨v, hv, -⟩ := Outcome.map_eq_ok_iff.mp h
    exact .of_body (BodySource.accepted_of_required hv) rfl hsettings rfl rfl
  | campaignContent id body =>
    obtain ⟨v, hv, -⟩ := Outcome.map_eq_ok_iff.mp h
    exact .of_body (BodySource.accepted_of_required hv) rfl hsettings rfl rfl
  | testCampaign id recipients body =>
    obtain ⟨v, hv, -⟩ := Outcome.map_eq_ok_iff.mp h
    exact .of_body (BodySource.accepted_of_body hv) rfl hsettings rfl rfl
  | previewTemplate id body =>
    obtain ⟨v, hv, -⟩ := Outcome.bind_eq_ok_iff.mp h
    exact .of_body (BodySource.accepted_of_body hv) rfl hsettings rfl rfl
  | testSmtp body =>
    obtain ⟨v, hv, -⟩ := Outcome.map_eq_ok_iff.mp h
    exact .of_body (BodySource.accepted_of_required hv) rfl hsettings rfl rfl
  | listBounces query campaign source =>
    obtain ⟨options, hoptions, -⟩ := Outcome.map_eq_ok_iff.mp h
    obtain ⟨own, hown, -⟩ := Outcome.map_eq_ok_iff.mp hoptions
    exact .of_params hown rfl rfl rfl
  | uploadMedia path mime =>
    obtain ⟨file, hfile, -⟩ := Outcome.map_eq_ok_iff.mp h
    exact .of_upload hfile rfl rfl rfl
  | startImport path params =>
    obtain ⟨file, hfile, -⟩ := Outcome.map_eq_ok_iff.mp h
    exact .of_upload hfile rfl rfl rfl
  | sendMessage message =>
    obtain ⟨direct, hdirect, -⟩ := Outcome.map_eq_ok_iff.mp h
    exact accepted_of_message hdirect
  | updateSettings body => exact absurd rfl (hsettings body)
  | _ => exact .of_none rfl rfl rfl

end ServerCommand

end Mailroom
