import Mailroom.Proofs.Client.Rendering
import Mailroom.Proofs.Command.Printed
import Mailroom.Proofs.Json.Equality

/-!
# Changing settings

Settings are read, changed and written back whole. What is written has every setting that was read,
with the value of the last field that names it, and else with its own; the dots of a name lead
nowhere. Nothing is written unless the settings could be read, are an object, and every field is
well formed. Without any field nothing is even read.
-/

namespace Mailroom

open Terminal (Writer)

/-! ## What is read -/

/-- What an answer means is ordered. -/
theorem Wire.ordered_of_decode {answer : Wire.Answer} {raw : RawResponse}
    (h : Wire.decode answer = .ok raw) : raw.body.Ordered := by
  unfold decode at h
  split at h
  · next status bytes _ =>
    obtain rfl := Except.ok.inj h
    rcases readBody_cases (receivedText bytes) with ⟨-, hblank⟩ | ⟨-, v, hparse, hread⟩ | ⟨-, hread⟩
    · rw [RawResponse.ofStatus, hblank]
      exact .null
    · rw [RawResponse.ofStatus, hread]
      exact Json.parse_ordered hparse
    · rw [RawResponse.ofStatus, hread]
      exact .str _
  · cases h

/-- An object under `data` that has no `data` itself is the payload. -/
theorem Exchange.data_unwrapped {x : Exchange} {current : Dict Json}
    (hbody : x.response.body = .obj [("data", .obj current)])
    (horder : x.response.body.Ordered) (hnone : Dict.find? current "data" = none) :
    x.unwrapped.data = .obj current := by
  have hfield : (Json.obj current).field? "data" = none := hnone
  have hflat : Envelope.flatten (.obj [("data", x.response.body)]) =
      .obj [("data", .obj current)] := by
    rw [hbody] at horder ⊢
    rw [Envelope.flatten_wrap_of_contains horder rfl,
      Envelope.flatten_of_isNested_eq_false (Envelope.isNested_wrap_of_field?_eq_none hfield)]
  rw [Exchange.unwrapped_eq hflat rfl]

/-! ## What is written -/

/-- Without a document the settings are the current ones with the entries of the fields. -/
theorem BodySource.settings_eq_ok_iff {typed plain : List String} {inputs : Inputs}
    {current settings : Json} :
    (BodySource.mk typed plain none).settings inputs current = .ok settings ↔
      ∃ fields es, current = .obj fields ∧ Field.entries typed plain = .ok es ∧
        settings = .obj (Dict.insertAll fields es) := by
  unfold BodySource.settings document
  cases current with
  | obj fields =>
    change (Field.entries typed plain).map _ = .ok settings ↔ _
    rw [Outcome.map_eq_ok_iff]
    constructor
    · rintro ⟨es, hes, rfl⟩
      exact ⟨fields, es, rfl, hes, rfl⟩
    · rintro ⟨_, es, hfields, hes, rfl⟩
      obtain rfl := Json.obj.inj hfields
      exact ⟨es, hes, rfl⟩
  | _ => simp

/-- A configuration with a client is a connection. -/
theorem CommonOptions.connection_of_build {o : CommonOptions} {env : Environment} {config : Config}
    {client : Client} (hconfig : o.config env = .ok config)
    (hbuild : Client.build (.standard config) = .ok client) :
    o.connection env = .ok ⟨config, client⟩ := by
  rw [connection, hconfig]
  simp only [hbuild]

namespace ServerCommand

variable {typed plain : List String} {o : CommonOptions} {s : Surroundings}
  {script : List Wire.Answer} {x : Connection}

/-- The step that writes settings. -/
def writingStep (w : Writer) (settings : Json) : Step :=
  ⟨.replaceSettings settings, none, fun e =>
    .ok ((w.done e "Settings updated").andThen
      (w.warning "The server restarts to apply the new settings"))⟩

/-- A change of settings with a field is planned as reading them and then writing them. -/
theorem prepared_updateSettings (hconnection : o.connection s.environment = .ok x)
    (hfields : typed ++ plain ≠ []) :
    (updateSettings ⟨typed, plain, none⟩).prepared o s =
      .ok (x, .afterReading .getSettings none fun current =>
        ((BodySource.mk typed plain none).settings s.inputs current.data).map
          (writingStep (o.writer s.color))) := by
  have hplan : updateSettingsPlan ⟨typed, plain, none⟩ (o.writer s.color) s.inputs =
      .ok (.afterReading .getSettings none fun current =>
        ((BodySource.mk typed plain none).settings s.inputs current.data).map
          (writingStep (o.writer s.color))) := by
    have hsome : (BodySource.mk typed plain none).hasNoFields = false := by
      rw [← Bool.not_eq_true, BodySource.hasNoFields, Bool.and_eq_true, List.isEmpty_iff,
        List.isEmpty_iff, ← List.append_eq_nil_iff]
      exact hfields
    rw [updateSettingsPlan, hsome]
    rfl
  change (o.connection s.environment).bind (fun y =>
    (updateSettingsPlan ⟨typed, plain, none⟩ (o.writer s.color) s.inputs).map fun p => (y, p)) = _
  rw [hconnection, hplan]
  rfl

/-- Without a field there is nothing to change. -/
theorem run_updateSettings_nil (hconnection : o.connection s.environment = .ok x) :
    (updateSettings ⟨[], [], none⟩).run o s script = .failed (o.writer s.color)
      (.plain "Nothing to update: pass -F NAME=VALUE fields or --input FILE") [] := by
  have hprepared : (updateSettings ⟨[], [], none⟩).prepared o s =
      .error (.plain "Nothing to update: pass -F NAME=VALUE fields or --input FILE") := by
    change (o.connection s.environment).bind _ = _
    rw [hconnection]
    rfl
  unfold run
  rw [hprepared]

/-- Settings are read by a message without a body and written by one that holds them. -/
theorem exists_sent_settings {config : Config} {client : Client}
    (hbuild : Client.build (.standard config) = .ok client) :
    (∃ request g, Wire.Sent config client .getSettings request g ∧ g.method = .get ∧
      g.body = none) ∧
    ∀ settings, ∃ request m, Wire.Sent config client (.replaceSettings settings) request m ∧
      m.method = .put ∧ m.body = some settings.compact := by
  have hmade := Client.madeOf_of_build hbuild
  have htable := ClientSetup.table_standard config
  constructor
  · have hparams : (client.bound .getSettings).pathParams = [] :=
      hmade.pathParams_eq_nil htable (show _ = "getSettings" from rfl) (by decide +kernel)
    obtain ⟨request, g, hrequest, hwritten, hbody⟩ := hmade.exists_writes
      (show Call.getSettings.options = .ok .empty from rfl) rfl rfl
      (by rw [Call.endpoint, hparams]; exact List.forall_mem_nil _)
    have hsent : Wire.Sent config client .getSettings request g := ⟨hrequest, hwritten⟩
    exact ⟨request, g, hsent, hsent.method_eq_get hbuild List.mem_cons_self, hbody⟩
  · intro settings
    have hparams : (client.bound .replaceSettings).pathParams = [] :=
      hmade.pathParams_eq_nil htable (show _ = "updateSettings" from rfl) (by decide +kernel)
    obtain ⟨request, m, hrequest, hwritten, hbody⟩ := hmade.exists_writes
      (show (Call.replaceSettings settings).options = .ok (CallOptions.empty.withJson settings)
        from rfl) rfl rfl (by rw [Call.endpoint, hparams]; exact List.forall_mem_nil _)
    have hsent : Wire.Sent config client (.replaceSettings settings) request m :=
      ⟨hrequest, hwritten⟩
    have hmethod : m.method = .put :=
      hsent.method.trans (Client.method_bound hbuild Endpoint.method_of_reading.2.2)
    exact ⟨request, m, hsent, hmethod, hbody⟩

/-- A run that was prepared sends what its plan does. -/
theorem sent_of_prepared {c : ServerCommand} {plan : Plan} (h : c.prepared o s = .ok (x, plan)) :
    (c.run o s script).sent =
      (x.client.carryOut (Session.start script : Session (Wire.channel x.config)) plan).2.sent := by
  unfold run
  rw [h]
  exact Outcome.sent_of _ _ _

/-- Settings that can be read and changed are written back. -/
theorem sent_of_update (hconnection : o.connection s.environment = .ok x)
    (hfields : typed ++ plain ≠ []) {raw : RawResponse} {current settings : Json}
    (hanswer : Wire.decode (Wire.answerAt script 0) = .ok raw)
    (hsuccess : Http.isSuccess raw.status = true)
    (hdata : ∀ request, (Exchange.unwrapped ⟨request, raw⟩).data = current)
    (hsettings : (BodySource.mk typed plain none).settings s.inputs current = .ok settings) :
    ∃ g m, ((updateSettings ⟨typed, plain, none⟩).run o s script).sent = [g, m] ∧
      x.client.Writes (Wire.channel x.config) g .getSettings ∧ g.method = .get ∧ g.body = none ∧
      x.client.Writes (Wire.channel x.config) m (.replaceSettings settings) ∧ m.method = .put ∧
      m.body = some settings.compact := by
  have hbuild := (CommonOptions.connection_eq_ok hconnection).2.2
  obtain ⟨⟨reading, g, hg, hget, hnone⟩, hwriting⟩ := exists_sent_settings hbuild
  obtain ⟨writing, m, hm, hput, hbody⟩ := hwriting settings
  refine ⟨g, m, ?_, ⟨reading, hg.built, hg.written⟩, hget, hnone, ⟨writing, hm.built, hm.written⟩,
    hput, hbody⟩
  have hread : x.client.ask (.start script : Session (Wire.channel x.config)) .getSettings none =
      (.ok ((Exchange.unwrapped ⟨reading.info, raw⟩).withData current),
        (Session.start script).advance g) := by
    have hx : Exchange.isSuccess ⟨reading.info, raw⟩ = true := hsuccess
    rw [Client.ask_of_decode_eq_ok _ none hg.built hg.written hanswer,
      Endpoint.outcome_of_isSuccess hx, ← hdata reading.info]
    rfl
  have hwritten : ((x.client.carryOutStep ((Session.start script).advance g)
      (writingStep (o.writer s.color) settings)).2 : Session (Wire.channel x.config)) =
        ((Session.start script).advance g).advance m := by
    rw [Client.carryOutStep_eq_ask]
    exact Client.sent_ask_of_encode_eq_ok _ none hm.built hm.written
  rw [sent_of_prepared (prepared_updateSettings hconnection hfields),
    Client.carryOut_afterReading, hread]
  simp only [Except.bind, Envelope.withData, hsettings, Except.map]
  rw [hwritten]
  rfl

/-- What reads the settings changes nothing. -/
theorem method_of_asked {config : Config} {client : Client}
    (hbuild : Client.build (.standard config) = .ok client)
    {result : Except Report (Envelope Call.getSettings.endpoint.Payload)} {sent : List Wire.Message}
    (h : Asked config client script [] .getSettings result sent) {m : Wire.Message}
    (hm : m ∈ sent) : m.method = .get := by
  cases h with
  | unsent => cases hm
  | refused hsent =>
    obtain rfl := List.mem_singleton.mp hm
    exact hsent.method_eq_get hbuild List.mem_cons_self
  | answered hsent =>
    obtain rfl := List.mem_singleton.mp hm
    exact hsent.method_eq_get hbuild List.mem_cons_self

/-- Settings are only written after an object was read, and with fields that are well formed. -/
theorem readable_of_put {m : Wire.Message}
    (hm : m ∈ ((updateSettings ⟨typed, plain, none⟩).run o s script).sent)
    (hput : m.method = .put) :
    (∀ field ∈ typed ++ plain, Field.WellFormed field) ∧
      ∃ e : Exchange, Wire.decode (Wire.answerAt script 0) = .ok e.response ∧ e.isSuccess = true ∧
        ∃ fields, e.unwrapped.data = .obj fields := by
  rcases run_cases (updateSettings ⟨typed, plain, none⟩) o s script with
    ⟨r, hrun⟩ | ⟨x, plan, result, sent, hprepared, hcarried, hrun⟩
  · rw [hrun] at hm
    cases hm
  rw [hrun, Outcome.sent_of] at hm
  obtain ⟨hconnection, hplan⟩ := prepared_eq_ok hprepared
  have hbuild := (CommonOptions.connection_eq_ok hconnection).2.2
  have hread : ∀ {result : Except Report (Envelope Call.getSettings.endpoint.Payload)} {sent},
      Asked x.config x.client script [] .getSettings result sent → m ∉ sent := by
    intro result sent hasked hmem
    cases (method_of_asked hbuild hasked hmem).symm.trans hput
  change updateSettingsPlan _ _ _ = .ok plan at hplan
  unfold updateSettingsPlan at hplan
  split at hplan
  · cases hplan
  obtain rfl := Except.ok.inj hplan
  cases hcarried with
  | unread hasked => exact absurd hm (hread hasked)
  | stopped hasked => exact absurd hm (hread hasked)
  | continued hasked hgo hshown =>
    obtain ⟨settings, hsettings, -⟩ := Outcome.map_eq_ok_iff.mp hgo
    obtain ⟨fields, es, hdata, hentries, -⟩ := BodySource.settings_eq_ok_iff.mp hsettings
    cases hasked with
    | @answered request g raw e hsent hanswer hsuccess hfits =>
      obtain ⟨payload, hpayload, rfl⟩ := Envelope.decode_eq_ok hfits
      refine ⟨Field.wellFormed_of_entries hentries, ⟨request.info, raw⟩, hanswer, hsuccess, fields,
        ?_⟩
      rw [← hdata]
      exact Except.ok.inj hpayload

/--
A change of settings by well-formed fields, of which there is one at least, sends two messages where
the settings are read as an object: one that reads and one that writes. What is written has under
every name the value of the last field with that name, typed fields coming before plain ones, and
where there is none what was read. Nothing is written where a field is not well formed or no object
is read. Without any field nothing is sent at all.
-/
theorem settings_of_update (o : CommonOptions) (s : Surroundings) (script : List Wire.Answer)
    (typed plain : List String) :
    (∀ x raw (current : Dict Json), o.connection s.environment = .ok x → typed ++ plain ≠ [] →
      (∀ field ∈ typed ++ plain, Field.WellFormed field) →
      Wire.decode (Wire.answerAt script 0) = .ok raw → Http.isSuccess raw.status = true →
      raw.body = .obj [("data", .obj current)] → Dict.find? current "data" = none →
      ∃ (g m : Wire.Message) (updated : Dict Json),
        ((updateSettings ⟨typed, plain, none⟩).run o s script).sent = [g, m] ∧
        x.client.Writes (Wire.channel x.config) g .getSettings ∧ g.method = .get ∧ g.body = none ∧
        x.client.Writes (Wire.channel x.config) m (.replaceSettings (.obj updated)) ∧
        m.method = .put ∧ m.body = some (Json.compact (.obj updated)) ∧
        updated.Ascending ∧ ∃ first last, List.Forall₂ (Field.Gives Field.typedValue) typed first ∧
          List.Forall₂ (Field.Gives .str) plain last ∧
          ∀ name, Dict.find? updated name =
            (Dict.find? (first ++ last).reverse name).or (Dict.find? current name)) ∧
    ((∃ field ∈ typed ++ plain, ¬Field.WellFormed field) ∨
      (∀ e : Exchange, Wire.decode (Wire.answerAt script 0) = .ok e.response →
        e.isSuccess = true → ∀ fields, e.unwrapped.data ≠ .obj fields) →
      ∀ m ∈ ((updateSettings ⟨typed, plain, none⟩).run o s script).sent, m.method ≠ .put) ∧
    (typed ++ plain = [] → ∀ x, o.connection s.environment = .ok x →
      (updateSettings ⟨typed, plain, none⟩).run o s script = .failed (o.writer s.color)
        (.plain "Nothing to update: pass -F NAME=VALUE fields or --input FILE") []) := by
  refine ⟨fun x raw current hconnection hfields hwell hanswer hsuccess hbody hnone => ?_,
    fun hfault m hm hput => ?_, fun hnone x hconnection => ?_⟩
  · have horder := Wire.ordered_of_decode hanswer
    obtain ⟨es, hentries⟩ := Field.exists_entries_eq_ok_iff.mpr hwell
    have hdata : ∀ request, (Exchange.unwrapped ⟨request, raw⟩).data = .obj current :=
      fun request => Exchange.data_unwrapped hbody horder hnone
    obtain ⟨g, m, hsent, hg, hget, hempty, hm, hput, hupdated⟩ :=
      sent_of_update hconnection hfields hanswer hsuccess hdata
        (BodySource.settings_eq_ok_iff.mpr ⟨current, es, rfl, hentries, rfl⟩)
    obtain ⟨first, last, hfirst, hlast, rfl⟩ := Field.entries_eq_ok_iff.mp hentries
    rw [hbody] at horder
    have hcurrent : Dict.Ascending current :=
      (Json.ordered_obj_iff.mp ((Json.ordered_obj_iff.mp horder).2 _ List.mem_cons_self)).1
    exact ⟨g, m, _, hsent, hg, hget, hempty, hm, hput, hupdated, hcurrent.insertAll _, first, last,
      hfirst, hlast, Dict.find?_insertAll_eq_reverse current (first ++ last)⟩
  · obtain ⟨hwell, e, hdecode, hsuccess, fields, hdata⟩ := readable_of_put hm hput
    rcases hfault with ⟨field, hmem, hfield⟩ | hunread
    · exact hfield (hwell field hmem)
    · exact hunread e hdecode hsuccess fields hdata
  · obtain ⟨rfl, rfl⟩ := List.append_eq_nil_iff.mp hnone
    exact run_updateSettings_nil hconnection

/-- The options that give a token and nothing else. -/
def tokenOptions : CommonOptions :=
  ⟨none, none, some "t", none, [], false, false⟩

/-- What these options make of an environment without variables. -/
def tokenConfig : Config :=
  { Config.builtin with token := "t" }

theorem exists_connection_tokenOptions :
    ∃ x, tokenOptions.connection Invocation.nowhere.environment = .ok x := by
  have hconfig : tokenOptions.config Invocation.nowhere.environment = .ok tokenConfig := by rfl
  have hlegal : ∀ e ∈ tokenConfig.requestHeaders,
      Header.isLegalName e.1 = true ∧ Header.isLegalValue e.2 = true := by
    decide +kernel
  obtain ⟨client, hbuild⟩ := Client.exists_build_standard ⟨_, by rfl⟩ hlegal
  exact ⟨_, CommonOptions.connection_of_build hconfig hbuild⟩

/-- Settings with two entries. -/
def siteSettings : Dict Json :=
  [("app.lang", .str "en"), ("app.max", .ofNat 5)]

/-- The answer of a server that has these settings. -/
def siteAnswer : Wire.Answer :=
  .reply 200 (Text.utf8
    "\x7b\"data\":\x7b\"app.lang\":\"en\",\"app.max\":5\x7d\x7d".toList)

theorem decode_siteAnswer :
    Wire.decode siteAnswer = .ok (.ofStatus 200 (.obj [("data", .obj siteSettings)])) := by
  refine congrArg (fun body => Except.ok (RawResponse.ofStatus 200 body)) ?_
  decide +kernel

/-- Of two fields for one setting the last one counts, a name the server does not know is written as
well, and the setting that no field names stays. -/
theorem settings_of_update_site : ∃ (g m : Wire.Message) (updated : Dict Json),
    ((updateSettings ⟨["app.max=7", "app.max=20"], ["app.name=x"], none⟩).run tokenOptions
      Invocation.nowhere [siteAnswer]).sent = [g, m] ∧ g.method = .get ∧ m.method = .put ∧
    m.body = some (Json.compact (.obj updated)) ∧
    Dict.find? updated "app.lang" = some (.str "en") ∧
    Dict.find? updated "app.max" = some (.ofNat 20) ∧
    Dict.find? updated "app.name" = some (.str "x") := by
  obtain ⟨x, hconnection⟩ := exists_connection_tokenOptions
  have hseven : Field.split "app.max=7" = .ok ("app.max", "7") := by rfl
  have htwenty : Field.split "app.max=20" = .ok ("app.max", "20") := by rfl
  have hname : Field.split "app.name=x" = .ok ("app.name", "x") := by rfl
  have hwell : ∀ field ∈ ["app.max=7", "app.max=20"] ++ ["app.name=x"], Field.WellFormed field := by
    simp only [List.cons_append, List.nil_append, List.forall_mem_cons, List.not_mem_nil,
      false_implies, implies_true, and_true, ← Field.exists_split_eq_ok_iff]
    exact ⟨⟨_, hseven⟩, ⟨_, htwenty⟩, ⟨_, hname⟩⟩
  obtain ⟨g, m, updated, hsent, -, hget, -, -, hput, hwritten, -, first, last, hfirst, hlast,
    hfind⟩ := (settings_of_update tokenOptions Invocation.nowhere [siteAnswer]
      ["app.max=7", "app.max=20"] ["app.name=x"]).1 x _ siteSettings hconnection nofun hwell
      decode_siteAnswer rfl rfl (by decide)
  refine ⟨g, m, updated, hsent, hget, hput, hwritten, ?_⟩
  have hentries : Field.entries ["app.max=7", "app.max=20"] ["app.name=x"] =
      .ok (first ++ last) := Field.entries_eq_ok_iff.mpr ⟨first, last, hfirst, hlast, rfl⟩
  have hgiven : Field.entries ["app.max=7", "app.max=20"] ["app.name=x"] =
      .ok [("app.max", .ofNat 7), ("app.max", .ofNat 20), ("app.name", .str "x")] := by rfl
  simp only [hfind, ← Except.ok.inj (hgiven.symm.trans hentries)]
  exact ⟨by rfl, by rfl, by rfl⟩

/-- Without a field the settings are not even read. -/
theorem not_sent_of_no_fields : ¬∀ (o : CommonOptions) (s : Surroundings)
    (script : List Wire.Answer) (typed plain : List String) (x : Connection) (raw : RawResponse)
    (current : Dict Json), o.connection s.environment = .ok x →
      (∀ field ∈ typed ++ plain, Field.WellFormed field) →
      Wire.decode (Wire.answerAt script 0) = .ok raw → Http.isSuccess raw.status = true →
      raw.body = .obj [("data", .obj current)] → Dict.find? current "data" = none →
      ∃ g m, ((updateSettings ⟨typed, plain, none⟩).run o s script).sent = [g, m] ∧
        g.method = .get ∧ m.method = .put := by
  intro hclaim
  obtain ⟨x, hconnection⟩ := exists_connection_tokenOptions
  obtain ⟨g, m, hsent, -⟩ := hclaim tokenOptions Invocation.nowhere [siteAnswer] [] [] x _
    siteSettings hconnection nofun decode_siteAnswer rfl rfl (by decide)
  rw [run_updateSettings_nil hconnection] at hsent
  cases hsent

end ServerCommand

end Mailroom
