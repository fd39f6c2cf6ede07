import Mailroom.Proofs.Client.Readiness
import Mailroom.Proofs.Client.Rendering
import Mailroom.Proofs.Command.Printed

/-!
# Renderings on standard output

The commands that show a rendering ask for one in the end, one of them after it has read the
campaign. What they print is what the client gets, so a text that is neither blank nor JSON is
printed as it is, and of the others only a quoted string is printed at all, without its quotes.
-/

namespace Mailroom

open Terminal (Output Writer)

/-! ## Asking for a rendering -/

/-- The step that asks for a rendering and shows it. -/
def Rendering.step (w : Writer) (r : Rendering) : Step :=
  match r with
  | campaign id => ⟨.previewCampaign id, none, fun e => .ok (w.text e)⟩
  | campaignWith id body => ⟨.renderCampaign id body, none, fun e => .ok (w.text e)⟩
  | campaignText id body => ⟨.renderCampaignText id body, none, fun e => .ok (w.text e)⟩
  | template id => ⟨.previewTemplate id, none, fun e => .ok (w.text e)⟩
  | templateWith body => ⟨.renderTemplate body, none, fun e => .ok (w.text e)⟩

/-- What is shown of a rendering that came back. -/
def Rendering.shown (w : Writer) (result : Except ApiError (Attempt String)) :
    Except Report Output :=
  (result.mapError Report.ofApi).bind fun a => (a.accepted none).map w.text

/-- The step of a rendering shows what the client gets. -/
theorem Client.carryOutStep_step {c : Channel} (client : Client) (s : Session c) (w : Writer)
    (r : Rendering) :
    (client.carryOutStep s (r.step w)).1 = Rendering.shown w (client.render s r).1 := by
  have hshown : ∀ (call : Call) (display : Envelope call.endpoint.Payload → Output),
      (client.carryOutStep s ⟨call, none, fun e => .ok (display e)⟩).1 =
        ((client.perform s call).1.mapError Report.ofApi).bind fun a =>
          (a.accepted none).map display := by
    intro call display
    unfold carryOutStep ask
    rcases client.perform s call with ⟨result, next⟩
    cases result with
    | error e => rfl
    | ok a => cases a <;> rfl
  cases r with
  | campaign id => exact hshown (.previewCampaign id) w.text
  | campaignWith id body => exact hshown (.renderCampaign id body) w.text
  | campaignText id body => exact hshown (.renderCampaignText id body) w.text
  | template id => exact hshown (.previewTemplate id) w.text
  | templateWith body => exact hshown (.renderTemplate body) w.text

namespace ServerCommand

/-- Whether a command shows a rendering. -/
def isRendering (c : ServerCommand) : Bool :=
  match c with
  | previewCampaign _ _ _ => true
  | previewTemplate _ _ => true
  | _ => false

/-- A run gets as far as asking for a rendering over a session. -/
inductive Reaches (c : ServerCommand) (o : CommonOptions) (s : Surroundings)
    (script : List Wire.Answer) (x : Connection) :
    Rendering → Session (Wire.channel x.config) → Prop where
  | once {r : Rendering} (prepared : c.prepared o s = .ok (x, .once (r.step (o.writer s.color)))) :
      Reaches c o s script x r (.start script)
  | reading {r : Rendering} {call : Call} {note : Option String}
      {next : Envelope call.endpoint.Payload → Except Report Step}
      {e : Envelope call.endpoint.Payload} {after : Session (Wire.channel x.config)}
      (prepared : c.prepared o s = .ok (x, .afterReading call note next))
      (read : x.client.ask (.start script) call note = (.ok e, after))
      (go : next e = .ok (r.step (o.writer s.color))) : Reaches c o s script x r after

variable {c : ServerCommand} {o : CommonOptions} {s : Surroundings} {script : List Wire.Answer}
  {x : Connection}

/-- A run that asks for a rendering comes to what is shown of it. -/
theorem run_of_reaches {r : Rendering} {before : Session (Wire.channel x.config)}
    (h : c.Reaches o s script x r before) :
    ∃ sent, c.run o s script =
      .of (o.writer s.color)
        (Rendering.shown (o.writer s.color) (x.client.render before r).1) sent := by
  rw [← Client.carryOutStep_step]
  refine ⟨(x.client.carryOutStep before (r.step (o.writer s.color))).2.sent, ?_⟩
  unfold run
  cases h with
  | once prepared =>
    rw [prepared]
    rfl
  | reading prepared read go =>
    rw [prepared]
    simp only [Client.carryOut, read, go]

/-- A run that cannot read what it has to read first fails. -/
theorem run_of_unread {call : Call} {note : Option String}
    {next : Envelope call.endpoint.Payload → Except Report Step}
    (prepared : c.prepared o s = .ok (x, .afterReading call note next)) {report : Report}
    {after : Session (Wire.channel x.config)}
    (unread : x.client.ask (.start script) call note = (.error report, after)) :
    c.run o s script = .failed (o.writer s.color) report after.sent := by
  unfold run
  rw [prepared]
  simp only [Client.carryOut, unread]
  rfl

/-- A client of a run is a client of the catalogue. -/
theorem build_of_prepared {plan : Plan} (h : c.prepared o s = .ok (x, plan)) :
    Client.build (.standard x.config) = .ok x.client :=
  (CommonOptions.connection_eq_ok (prepared_eq_ok h).1).2.2

theorem Reaches.build {r : Rendering} {before : Session (Wire.channel x.config)}
    (h : c.Reaches o s script x r before) :
    Client.build (.standard x.config) = .ok x.client := by
  cases h with
  | once prepared => exact build_of_prepared prepared
  | reading prepared => exact build_of_prepared prepared

/-- A command that shows renderings asks for one, unless it reads a campaign first and fails to. -/
theorem reaches_of_prepared (script : List Wire.Answer) (hc : c.isRendering = true) {plan : Plan}
    (h : c.prepared o s = .ok (x, plan)) :
    (∃ r before, c.Reaches o s script x r before) ∨
    c.readsFirst = true ∧
      ∃ report sent, c.run o s script = .failed (o.writer s.color) report sent := by
  have hplan := (prepared_eq_ok h).2
  cases c with
  | previewCampaign id plainText body =>
    obtain ⟨v, hv, rfl⟩ := Outcome.map_eq_ok_iff.mp hplan
    match v, plainText with
    | some v, true => exact Or.inl ⟨.campaignText id v, _, .once h⟩
    | some v, false => exact Or.inl ⟨.campaignWith id v, _, .once h⟩
    | none, false => exact Or.inl ⟨.campaign id, _, .once h⟩
    | none, true =>
      have hreads : (previewCampaign id true body).readsFirst = true := by
        simp [readsFirst, BodySource.body_eq_ok_none_iff.mp hv]
      rcases hread : x.client.ask (.start script : Session (Wire.channel x.config))
        (.getById .campaign (CallOptions.empty.withId id))
        (some s!"Failed to get campaign {numberWord id}") with ⟨result, after⟩
      cases result with
      | error report => exact Or.inr ⟨hreads, report, _, run_of_unread h hread⟩
      | ok stored => exact Or.inl ⟨.campaignText id _, after, .reading h hread rfl⟩
  | previewTemplate id body =>
    obtain ⟨v, -, htemplate⟩ := Outcome.bind_eq_ok_iff.mp hplan
    unfold templatePlan at htemplate
    split at htemplate
    · obtain rfl := Except.ok.inj htemplate
      exact Or.inl ⟨.templateWith _, _, .once h⟩
    · obtain rfl := Except.ok.inj htemplate
      exact Or.inl ⟨.template _, _, .once h⟩
    · cases htemplate
  | _ => cases hc

end ServerCommand

/-! ## What is printed -/

namespace Outcome

/-- A run ended well and printed a text and the end of its line. -/
def Prints (result : Outcome) (text : String) : Prop :=
  result.exitCode = 0 ∧ result.output.stdout = text ++ "\n"

/-- What is printed of a rendering whose text is no JSON object. -/
structure PrintsRendering (text : String) (result : Outcome) : Prop where
  verbatim : result.Prints text ↔ Wire.IsVerbatim text
  quoted : ∀ inner, Text.isBlank text = false → Json.parse text = .ok (.str inner) →
    inner.length < text.length ∧ result.Prints inner
  unreadable : (Text.isBlank text = true ∨
      ∃ v, Json.parse text = .ok v ∧ ∀ inner, v ≠ .str inner) →
    result.exitCode ≠ 0 ∧ result.output.stdout = ""

end Outcome

namespace Rendering

variable {w : Writer}

theorem of_shown_found (hw : w.wholeAnswer = false) (e : Envelope String)
    (sent : List Wire.Message) :
    (Outcome.of w (shown w (.ok (.found e))) sent).Prints e.data := by
  refine ⟨rfl, ?_⟩
  change (w.text e).stdout = _
  rw [Writer.text, hw]
  rfl

theorem of_shown_error (failure : ApiError) (sent : List Wire.Message) :
    (Outcome.of w (shown w (.error failure)) sent).exitCode ≠ 0 ∧
    (Outcome.of w (shown w (.error failure)) sent).output.stdout = "" :=
  ⟨(Report.ofApi failure).exitCode_ne_success, rfl⟩

/-- A run that shows what came back prints what came back. -/
theorem printsRendering_of_rendered (hw : w.wholeAnswer = false) {text operation : String}
    {result : Except ApiError (Attempt String)} (h : Client.Rendered text operation result)
    (sent : List Wire.Message) :
    Outcome.PrintsRendering text (.of w (shown w result) sent) := by
  have hfound : ∀ {inner}, (∃ e, result = .ok (.found e) ∧ e.data = inner) →
      (Outcome.of w (shown w result) sent).Prints inner := by
    rintro inner ⟨e, rfl, rfl⟩
    exact of_shown_found hw e sent
  have hfailed : ∀ {failure}, result = .error failure →
      (Outcome.of w (shown w result) sent).exitCode ≠ 0 ∧
      (Outcome.of w (shown w result) sent).output.stdout = "" := by
    rintro failure rfl
    exact of_shown_error failure sent
  have hunreadable : (Text.isBlank text = true ∨
      ∃ v, Json.parse text = .ok v ∧ ∀ inner, v ≠ .str inner) →
      ∃ failure, result = .error failure := by
    intro hcases
    cases hblank : Text.isBlank text with
    | true => exact ⟨_, h.blank hblank⟩
    | false =>
      rcases hcases with hfull | ⟨v, hparse, hv⟩
      · rw [hblank] at hfull
        cases hfull
      · exact ⟨_, h.other v hblank hparse hv⟩
  refine ⟨⟨fun hprints => ?_, fun hv => hfound (h.verbatim.mpr hv)⟩,
    fun inner hblank hparse => ?_, fun hcases => ?_⟩
  · rcases Wire.readBody_cases text with ⟨hblank, -⟩ | ⟨hblank, v, hparse, -⟩ | ⟨hv, -⟩
    · obtain ⟨failure, hfailure⟩ := hunreadable (Or.inl hblank)
      exact absurd hprints.1 (hfailed hfailure).1
    · by_cases hstr : ∃ inner, v = .str inner
      · obtain ⟨inner, rfl⟩ := hstr
        obtain ⟨hlength, hquoted⟩ := h.quoted inner hblank hparse
        have hlines := hprints.2.symm.trans (hfound hquoted).2
        have hsame := String.toList_inj.mpr hlines
        simp only [String.toList_append, List.append_left_inj, String.toList_inj] at hsame
        rw [hsame] at hlength
        exact absurd hlength (Nat.lt_irrefl _)
      · obtain ⟨failure, hfailure⟩ := hunreadable
          (Or.inr ⟨v, hparse, fun inner hinner => hstr ⟨inner, hinner⟩⟩)
        exact absurd hprints.1 (hfailed hfailure).1
    · exact hv
  · obtain ⟨hlength, hquoted⟩ := h.quoted inner hblank hparse
    exact ⟨hlength, hfound hquoted⟩
  · obtain ⟨failure, hfailure⟩ := hunreadable hcases
    exact hfailed hfailure

/--
A rendering whose text is no JSON object comes back as that text, and is printed as that text,
exactly if the text is neither blank nor JSON. A quoted string comes back without its quotes and
what they escape; a blank text and other JSON are failures. What a server sends is received but for
a mark in front of it; a client of the catalogue asks for every rendering it is asked for, and so
does a command, unless it reads the campaign first and fails to.
-/
theorem text_of_reply {bytes : List UInt8}
    (hobj : ∀ fields, Json.parse (Wire.receivedText bytes) ≠ .ok (.obj fields)) :
    (∀ text : String, text.toList.head? ≠ some '\ufeff' → bytes = Text.utf8 text.toList →
      Wire.receivedText bytes = text) ∧
    (∀ config client, Client.build (.standard config) = .ok client → ∀ r : Rendering,
      ∃ m, client.Writes (Wire.channel config) m r.call) ∧
    (∀ (client : Client) config (s : Session (Wire.channel config)) (r : Rendering) m,
      client.Writes (Wire.channel config) m r.call → s.nextAnswer = .reply 200 bytes →
      Client.Rendered (Wire.receivedText bytes) (client.bound r.call.endpoint).name
        (client.render s r).1) ∧
    ∀ (c : ServerCommand) (o : CommonOptions) (s : Surroundings) script, c.isRendering = true →
      o.wholeAnswer = false → ∀ x plan, c.prepared o s = .ok (x, plan) →
      (c.readsFirst = true ∧
        ∃ report sent, c.run o s script = .failed (o.writer s.color) report sent) ∨
      ∃ r before, c.Reaches o s script x r before ∧ (before.nextAnswer = .reply 200 bytes →
        Outcome.PrintsRendering (Wire.receivedText bytes) (c.run o s script)) := by
  refine ⟨?_, fun _ _ h => Client.exists_writes_rendering h,
    fun _ _ _ _ _ h hanswer => Client.rendered_of_reply h hanswer hobj, ?_⟩
  · rintro text hmark rfl
    exact Wire.receivedText_utf8 hmark
  · intro c o s script hc hwhole x plan hprepared
    rcases ServerCommand.reaches_of_prepared script hc hprepared with
      ⟨r, before, hreaches⟩ | hunread
    · refine Or.inr ⟨r, before, hreaches, fun hanswer => ?_⟩
      obtain ⟨m, hm⟩ := Client.exists_writes_rendering hreaches.build r
      obtain ⟨sent, hrun⟩ := ServerCommand.run_of_reaches hreaches
      rw [hrun]
      exact printsRendering_of_rendered hwhole (Client.rendered_of_reply hm hanswer hobj) sent
    · exact Or.inl hunread

/-- A paragraph comes back as it is. -/
theorem text_of_paragraph :
    (∀ fields, Json.parse (Wire.receivedText (Text.utf8 "<p>Hi</p>".toList)) ≠ .ok (.obj fields)) ∧
    ∃ client, Client.build (.standard Client.tenantConfig) = .ok client ∧
      ∃ e, (client.render (.start [.reply 200 (Text.utf8 "<p>Hi</p>".toList)] :
        Session (Wire.channel Client.tenantConfig)) (.template 1)).1 = .ok (.found e) ∧
        e.data = "<p>Hi</p>" := by
  have hreceived : Wire.receivedText (Text.utf8 "<p>Hi</p>".toList) = "<p>Hi</p>" := by
    decide +kernel
  have hparse : ∀ v, Json.parse "<p>Hi</p>" ≠ .ok v := by
    intro v hv
    have hnone : (Json.parse "<p>Hi</p>").toOption.isNone = true := by decide +kernel
    rw [hv] at hnone
    cases hnone
  have hobj : ∀ fields,
      Json.parse (Wire.receivedText (Text.utf8 "<p>Hi</p>".toList)) ≠ .ok (.obj fields) := by
    rw [hreceived]
    exact fun _ => hparse _
  obtain ⟨-, hwrites, hrendered, -⟩ := text_of_reply hobj
  obtain ⟨client, hclient⟩ := Client.exists_build_tenantConfig
  obtain ⟨m, hm⟩ := hwrites _ client hclient (.template 1)
  have hcomes := hrendered client _ (.start [.reply 200 (Text.utf8 "<p>Hi</p>".toList)]) _ m hm rfl
  rw [hreceived] at hcomes
  exact ⟨hobj, client, hclient, hcomes.verbatim.mpr ⟨by decide, hparse⟩⟩

/-- Not every rendering whose text is no JSON object comes back as that text: a number does not. -/
theorem not_verbatim_of_number :
    ¬∀ (config : Config) (client : Client) (s : Session (Wire.channel config)) (r : Rendering)
      (text : String), Client.build (.standard config) = .ok client →
      (∀ fields, Json.parse text ≠ .ok (.obj fields)) →
      s.nextAnswer = .reply 200 (Text.utf8 text.toList) →
      ∃ e, (client.render s r).1 = .ok (.found e) ∧ e.data = text := by
  intro h
  have hreceived : Wire.receivedText (Text.utf8 "42".toList) = "42" := by
    decide +kernel
  obtain ⟨v, hparse, hv⟩ : ∃ v, Json.parse "42" = .ok v ∧ v.fields? = none := by
    have hnumber : (Json.parse "42").toOption.any (·.fields?.isNone) = true := by decide +kernel
    cases hresult : Json.parse "42" with
    | error e =>
      rw [hresult] at hnumber
      cases hnumber
    | ok v =>
      rw [hresult] at hnumber
      exact ⟨v, rfl, Option.isNone_iff_eq_none.mp hnumber⟩
  have hobj : ∀ fields, Json.parse "42" ≠ .ok (.obj fields) := by
    intro fields hfields
    cases hparse.symm.trans hfields
    cases hv
  obtain ⟨client, hclient⟩ := Client.exists_build_tenantConfig
  obtain ⟨m, hm⟩ := Client.exists_writes_rendering hclient (.campaign 1)
  have hcomes := h _ client (.start [.reply 200 (Text.utf8 "42".toList)]) (.campaign 1) "42" hclient
    hobj rfl
  have hrendered := Client.rendered_of_reply hm (s := .start [.reply 200 (Text.utf8 "42".toList)])
    rfl (hreceived ▸ hobj)
  rw [hreceived] at hrendered
  exact (hrendered.verbatim.mp hcomes).2 _ hparse

end Rendering

end Mailroom
