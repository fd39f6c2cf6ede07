import Mailroom.Proofs.Client.Readiness
import Mailroom.Proofs.Config.Layers
import Mailroom.Proofs.Failure.Classification

/-!
# Reasons of refusals

The body of an answer may give a reason for a refusal in several places, of which the first that has
a text is looked at. Whether that text is blank plays no part in the choice. A failure passes over a
blank reason and is described by the status line, whatever the later places say; a refusal that is
given back as data shows the blank reason as it is. So a refusal and its failure have one
description exactly where the first text is not blank, and a blank `message` hides what stands under
`error`.
-/

namespace Mailroom

namespace Failure

/-! ## Where a body gives a reason -/

/-- The text under a key of a body. -/
def textAt (body : Json) (key : String) : Option String :=
  (body.field? key).bind Json.string?

/-- The reasons an object may give, the first one first: under `message`, under `error`, and under
`message` of an object that stands under `error`. -/
def reasons (body : Json) : List (Option String) :=
  [textAt body "message", textAt body "error", (body.field? "error").bind (textAt · "message")]

/-- The first reason that a body gives, blank or not. A body that is a text gives itself, unless it
is empty. -/
def firstReason? (body : Json) : Option String :=
  (reasons body ++ [body.string?.filter (· ≠ "")]).findSome? id

/-- What stands under `error` is a text, or has one under its `message`, but not both. -/
theorem nested_eq_none {body : Json} {text : String} (h : textAt body "error" = some text) :
    (body.field? "error").bind (textAt · "message") = none := by
  obtain ⟨v, hv, htext⟩ := Option.bind_eq_some_iff.mp h
  rw [hv]
  cases v with
  | str s => rfl
  | _ => cases htext

/-- A body with something under a key is no text itself. -/
theorem string?_eq_none_of_field? {body v : Json} {key : String} (h : body.field? key = some v) :
    body.string? = none := by
  cases body with
  | obj fields => rfl
  | _ => cases h

/-- The reason taken from a body is the first one it gives. -/
theorem bodyMessage?_eq_firstReason? (body : Json) : bodyMessage? body = firstReason? body := by
  unfold bodyMessage? firstReason? reasons textAt
  cases (body.field? "message").bind Json.string? with
  | some text => rfl
  | none =>
    cases herror : body.field? "error" with
    | none => cases body.string?.filter (· ≠ "") <;> rfl
    | some v =>
      rw [string?_eq_none_of_field? herror]
      cases v with
      | str text => rfl
      | obj nested =>
        change ((Json.obj nested).field? "message").bind Json.string? =
          [none, none, ((Json.obj nested).field? "message").bind Json.string?, none].findSome? id
        cases ((Json.obj nested).field? "message").bind Json.string? <;> rfl
      | _ => rfl

/-- An object gives its first reason under `message` if that is a text, and else under `error`. -/
theorem firstReason?_obj (fields : Dict Json) :
    firstReason? (.obj fields) = (textAt (.obj fields) "message").or
      ((textAt (.obj fields) "error").or
        (((Json.obj fields).field? "error").bind (textAt · "message"))) := by
  unfold firstReason? reasons
  cases textAt (.obj fields) "message" with
  | some text => rfl
  | none =>
    cases textAt (.obj fields) "error" with
    | some text => rfl
    | none => cases ((Json.obj fields).field? "error").bind (textAt · "message") <;> rfl

end Failure

/-! ## Messages -/

namespace ResponseInfo

theorem defaultMessage_eq (r : ResponseInfo) :
    r.defaultMessage = s!"HTTP {r.status}: {r.statusText}" := by
  change r.message none = _
  exact r.message_of_missing (by simp)

/-- A reason is passed over if it is blank. -/
theorem message_of_blank (r : ResponseInfo) {text : String} (h : Text.isBlank text = true) :
    r.message (some text) = r.defaultMessage := by
  rw [message, Option.filter_some, h]
  rfl

/-- The message of a failure is never blank. -/
theorem isBlank_message (r : ResponseInfo) (reason : Option String) :
    Text.isBlank (r.message reason) = false := by
  cases reason with
  | none => exact r.isBlank_defaultMessage
  | some text =>
    cases h : Text.isBlank text with
    | true => rw [r.message_of_blank h, r.isBlank_defaultMessage]
    | false => rw [r.message_of_given h, h]

/-- A reason, or the status line without one, is the message exactly if it is not blank. -/
theorem getD_eq_message_iff (r : ResponseInfo) (reason : Option String) :
    reason.getD r.defaultMessage = r.message reason ↔
      Text.isBlank (reason.getD r.defaultMessage) = false := by
  constructor
  · intro h
    rw [h, r.isBlank_message]
  · intro h
    cases reason with
    | none => rfl
    | some text => exact (r.message_of_given h).symm

theorem isBlank_getD_iff (r : ResponseInfo) (reason : Option String) :
    Text.isBlank (reason.getD r.defaultMessage) = true ↔
      ∃ text, reason = some text ∧ Text.isBlank text = true := by
  cases reason with
  | none => simp [r.isBlank_defaultMessage]
  | some text => simp

/-- A given reason is the message unless it is blank, and then the status line is. -/
theorem firstGiven_message_some (r : ResponseInfo) (text : String) {rest : List (Option String)}
    (hrest : Config.FirstGiven r.defaultMessage rest r.defaultMessage) :
    Config.FirstGiven r.defaultMessage (some text :: rest) (r.message (some text)) := by
  cases hblank : Text.isBlank text with
  | true =>
    rw [r.message_of_blank hblank]
    exact .later (fun _ heq => Option.some.inj heq ▸ hblank) hrest
  | false =>
    rw [r.message_of_given hblank]
    exact .here hblank

/-- Of two reasons of which one at most is given, the first that is not blank is the message. -/
theorem firstGiven_message_or (r : ResponseInfo) {first second : Option String}
    (h : ∀ text, first = some text → second = none) :
    Config.FirstGiven r.defaultMessage [first, second] (r.message (first.or second)) := by
  cases first with
  | some text =>
    rw [h text rfl, Option.or_none]
    exact r.firstGiven_message_some text (.later nofun .absent)
  | none =>
    refine .later nofun ?_
    cases second with
    | some text => exact r.firstGiven_message_some text .absent
    | none => exact .later nofun .absent

/-- In front of further reasons, the first reason that is not blank is the message exactly if no
blank hides it. -/
theorem firstGiven_message_cons_iff (r : ResponseInfo) {first second : Option String}
    {rest : List (Option String)}
    (hrest : Config.FirstGiven r.defaultMessage rest (r.message second)) :
    Config.FirstGiven r.defaultMessage (first :: rest) (r.message (first.or second)) ↔
      ∀ text, first = some text → Text.isBlank text = true →
        Config.FirstGiven r.defaultMessage rest r.defaultMessage := by
  cases first with
  | none => exact iff_of_true (.later nofun hrest) nofun
  | some text =>
    refine ⟨fun h other heq hblank => ?_, fun h => ?_⟩
    · obtain rfl := Option.some.inj heq
      rw [Option.some_or, r.message_of_blank hblank] at h
      cases h with
      | here given => cases hblank.symm.trans given
      | later _ hlater => exact hlater
    · cases hblank : Text.isBlank text with
      | true => exact r.firstGiven_message_some text (h text rfl hblank)
      | false =>
        rw [Option.some_or, r.message_of_given hblank]
        exact .here hblank

end ResponseInfo

namespace Exchange

/-- The failure of an answer is described by the first reason that the body gives. -/
theorem message_failure (x : Exchange) : x.failure.message =
    x.response.info.message (Failure.firstReason? x.response.body) := by
  rw [← Failure.bodyMessage?_eq_firstReason?]
  exact (Refusal.keeps_ofResponse _ _ _).message_eq

/-- The refusal of an answer shows the first reason that the body gives as it is. -/
theorem message_rejection (x : Exchange) : x.rejection.message =
    (Failure.firstReason? x.response.body).getD x.response.info.defaultMessage := by
  rw [← Failure.bodyMessage?_eq_firstReason?]
  rfl

end Exchange

namespace Session

variable {c : Channel} {s : Session c} {client : Client} {call : Call} {request : Request}
  {raw : RawResponse}

/-- A server that is a list of answers gives the first one to any request. -/
theorem answers_start (request : Request) (status : Nat) (body : Json) :
    (start [(status, body)] : Session .memory).Answers request (.ofStatus status body) :=
  rfl

/--
Where refusals are data, every answer that is no success is given back as a refusal, which shows the
first reason of the body, or the status line if there is none. The failure that the refusal amounts
to is never described by a blank, and it is described as the refusal shows exactly if that is not
blank, that is, unless the first reason of the body is a blank text; then the status line describes
the failure.
-/
theorem message_of_rejection {resource : Resource} {options : CallOptions}
    (hcall : call = .getById resource options ∨ call = .update resource options)
    (hr : client.request call = .ok request) (ha : s.Answers request raw)
    (hrefused : ¬(200 ≤ raw.status ∧ raw.status ≤ 299)) :
    ∃ r, (client.perform s call).1 = .ok (.rejected r) ∧
      r.message = (Failure.firstReason? raw.body).getD
        s!"HTTP {raw.status}: {raw.statusText}" ∧
      Text.isBlank r.toError.message = false ∧
      (r.message = r.toError.message ↔ Text.isBlank r.message = false) ∧
      (Text.isBlank r.message = true ↔
        ∃ text, Failure.firstReason? raw.body = some text ∧ Text.isBlank text = true) ∧
      (Text.isBlank r.message = true →
        r.toError.message = s!"HTTP {raw.status}: {raw.statusText}") := by
  have hkeeps : call.endpoint.keepsRefusals = true := by
    rcases hcall with rfl | rfl <;> rfl
  have hperform := perform_of_refused hr ha hrefused
  rw [if_pos hkeeps] at hperform
  have hblank := raw.info.isBlank_getD_iff (Failure.firstReason? raw.body)
  refine ⟨_, hperform, ?_, ?_⟩
  · rw [Exchange.message_rejection, ResponseInfo.defaultMessage_eq]
    rfl
  · rw [Exchange.toError_rejection, Exchange.message_rejection, Exchange.message_failure]
    refine ⟨ResponseInfo.isBlank_message _ _, ResponseInfo.getD_eq_message_iff _ _, hblank, ?_⟩
    intro hshown
    obtain ⟨text, hreason, htext⟩ := hblank.mp hshown
    rw [hreason, ResponseInfo.message_of_blank _ htext, ResponseInfo.defaultMessage_eq]
    rfl

/-- A list that is gone for the reason under `error` is given back with that reason. -/
theorem message_of_rejection_nested :
    ∃ client r, Client.build (.standard Client.tenantConfig) = .ok client ∧
      (client.perform (c := .memory)
        (.start [(404, .obj [("error", .obj [("message", .str "List 9 is gone")])])])
        (.getById .list (Call.ofRecord 9))).1 = .ok (.rejected r) ∧
      r.message = "List 9 is gone" ∧ r.toError.message = "List 9 is gone" := by
  obtain ⟨client, hbuild⟩ := Client.exists_build_tenantConfig
  obtain ⟨-, request, hrequest⟩ := Client.exists_request_tenantConfig hbuild
  obtain ⟨r, hr, hmessage, -, hsame, -⟩ := message_of_rejection (Or.inl rfl) hrequest
    (answers_start request 404 (.obj [("error", .obj [("message", .str "List 9 is gone")])]))
    (by decide)
  have hshown : r.message = "List 9 is gone" := hmessage
  refine ⟨client, r, hbuild, hr, hshown, ?_⟩
  rw [← hsame.mpr (by rw [hshown]; decide +kernel), hshown]

/-- Not every refusal shows the message of its failure: a blank reason is shown as it is. -/
theorem not_shown_of_blank :
    ¬∀ (setup : ClientSetup) (client : Client), Client.build setup = .ok client →
      ∀ (s : Session .memory) (call : Call) (resource : Resource) (options : CallOptions)
        (request : Request) (raw : RawResponse),
        call = .getById resource options ∨ call = .update resource options →
        client.request call = .ok request → s.Answers request raw →
        ¬(200 ≤ raw.status ∧ raw.status ≤ 299) →
        ∃ r, (client.perform s call).1 = .ok (.rejected r) ∧ r.message = r.toError.message ∧
          Text.isBlank r.message = false := by
  intro hshown
  obtain ⟨client, hbuild⟩ := Client.exists_build_tenantConfig
  obtain ⟨-, request, hrequest⟩ := Client.exists_request_tenantConfig hbuild
  have hanswers := answers_start request 404 (.obj [("message", .str " ")])
  obtain ⟨r, hr, -, hblank⟩ :=
    hshown _ client hbuild _ _ _ _ request _ (Or.inl rfl) hrequest hanswers (by decide)
  rw [perform_of_refused hrequest hanswers (by decide)] at hr
  obtain rfl : _ = r := Attempt.rejected.inj (Except.ok.inj hr)
  change Text.isBlank " " = false at hblank
  exact absurd hblank (by decide +kernel)

/--
A call that is refused with an object as the body fails. Unless the text under `message` is blank,
the failure is described by the first of the reasons that is not blank, or by the status line if
there is none. A blank text there makes the status line the description, whatever the later reasons
say. So the first reason that is not blank is missed exactly if it stands behind a blank `message`
and is not the status line itself.
-/
theorem reason_of_refusal {fields : Dict Json} (hr : client.request call = .ok request)
    (ha : s.Answers request raw) (hrefused : ¬(200 ≤ raw.status ∧ raw.status ≤ 299))
    (hbody : raw.body = .obj fields) :
    let line := s!"HTTP {raw.status}: {raw.statusText}"
    ∃ e, (client.perform s call).1.bind Attempt.toResult = .error e ∧
      (call.endpoint.keepsRefusals = false → (client.perform s call).1 = .error e) ∧
      ((∀ text, Failure.textAt raw.body "message" = some text → Text.isBlank text = false) →
        Config.FirstGiven line (Failure.reasons raw.body) e.message) ∧
      (∀ text, Failure.textAt raw.body "message" = some text → Text.isBlank text = true →
        e.message = line) ∧
      (Config.FirstGiven line (Failure.reasons raw.body) e.message ↔
        ∀ text, Failure.textAt raw.body "message" = some text → Text.isBlank text = true →
          Config.FirstGiven line (Failure.reasons raw.body).tail line) := by
  intro line
  have hline : raw.info.defaultMessage = line := raw.info.defaultMessage_eq
  refine ⟨_, toResult_perform_of_refused hr ha hrefused, ?_, ?_⟩
  · intro hkeeps
    rw [perform_of_refused hr ha hrefused, hkeeps]
    rfl
  rw [Exchange.message_failure, hbody, Failure.firstReason?_obj, ← hline]
  have hnested := raw.info.firstGiven_message_or fun text
      (h : Failure.textAt (.obj fields) "error" = some text) => Failure.nested_eq_none h
  have hiff : Config.FirstGiven raw.info.defaultMessage (Failure.reasons (.obj fields)) _ ↔ _ :=
    raw.info.firstGiven_message_cons_iff hnested
  refine ⟨fun hgiven => hiff.mpr fun text htext hblank => ?_, fun text htext hblank => ?_, hiff⟩
  · cases hblank.symm.trans (hgiven text htext)
  · rw [htext]
    exact raw.info.message_of_blank hblank

/-- A server that is unwell says so under `error`, while its `message` is `null`. -/
def unwell : Json :=
  .obj [("error", .obj [("message", .str "database is down")]), ("message", .null)]

/-- A failed question for the state of the server has the reason under `error`. -/
theorem reason_of_refusal_unwell :
    ∃ client e, Client.build (.standard Client.tenantConfig) = .ok client ∧
      (client.perform (c := .memory) (.start [(503, unwell)]) .health).1 = .error e ∧
      e.message = "database is down" := by
  obtain ⟨client, hbuild⟩ := Client.exists_build_tenantConfig
  obtain ⟨⟨request, hrequest⟩, -⟩ := Client.exists_request_tenantConfig hbuild
  obtain ⟨e, -, he, hgiven, -⟩ :=
    reason_of_refusal hrequest (answers_start request 503 unwell) (by decide) rfl
  refine ⟨client, e, hbuild, he rfl, ?_⟩
  exact (hgiven nofun).unique (.later nofun (.later nofun (.here (by decide +kernel))))

/-- Not every failure has the first reason that is not blank: an empty `message` hides a later one.
-/
theorem not_first_of_blank :
    ¬∀ (setup : ClientSetup) (client : Client), Client.build setup = .ok client →
      ∀ (s : Session .memory) (call : Call) (request : Request) (raw : RawResponse)
        (fields : Dict Json) (e : ApiError),
        client.request call = .ok request → s.Answers request raw →
        ¬(200 ≤ raw.status ∧ raw.status ≤ 299) → raw.body = .obj fields →
        (client.perform s call).1 = .error e →
        Config.FirstGiven s!"HTTP {raw.status}: {raw.statusText}" (Failure.reasons raw.body)
          e.message := by
  intro hfirst
  obtain ⟨client, hbuild⟩ := Client.exists_build_tenantConfig
  obtain ⟨⟨request, hrequest⟩, -⟩ := Client.exists_request_tenantConfig hbuild
  have hanswers := answers_start request 500
    (.obj [("error", .str "database is down"), ("message", .str "")])
  have hgiven := hfirst _ client hbuild _ _ request _ _ _ hrequest hanswers (by decide) rfl
    (perform_of_refused hrequest hanswers (by decide))
  have hsecond : Config.FirstGiven "HTTP 500: Internal Server Error"
      [some "", some "database is down", none] "database is down" :=
    .later (by simp [Text.isBlank]) (.here (by decide +kernel))
  have hsame := hgiven.unique hsecond
  rw [Exchange.message_failure] at hsame
  change ResponseInfo.message ⟨500, "Internal Server Error"⟩ (some "") = _ at hsame
  exact absurd hsame (by decide +kernel)

end Session

end Mailroom
