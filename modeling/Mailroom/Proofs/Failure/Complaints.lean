import Mathlib.Data.List.Forall2
import Mailroom.Proofs.Failure.Reason

/-!
# Complaints by field

A refused validation lists its complaints field by field under `errors`, or under `fields` where
there is nothing under `errors`. Each field keeps all its complaints in their order, a text as it is
and anything else in JSON. What stands under `errors` is taken before it is known to be an object,
so one that is none, such as `null`, hides the complaints under `fields`.
-/

namespace Mailroom

namespace Failure

/-! ## What a body lists -/

/-- A value is shown as a text: a text as it is, anything else in JSON. -/
inductive ShownAs : Json → String → Prop where
  | text (s : String) : ShownAs (.str s) s
  | other {v : Json} (h : v.string? = none) : ShownAs v v.compact

/-- The complaints that stand under a field: one for each item of an array, or the value itself. -/
inductive Lists : Json → List String → Prop where
  | items {items : List Json} {texts : List String} (each : List.Forall₂ ShownAs items texts) :
      Lists (.arr items) texts
  | single {v : Json} {text : String} (h : ∀ items, v ≠ .arr items) (shown : ShownAs v text) :
      Lists v [text]

/-- The complaints by field that entries list: each field with all of its own, in their order, and
none at all where there is no entry. -/
inductive ComplaintsOf : Option (Dict Json) → Option (Dict (List String)) → Prop where
  | missing : ComplaintsOf none none
  | empty : ComplaintsOf (some []) none
  | listed {fields : Dict Json} {listed : Dict (List String)} (nonempty : fields ≠ [])
      (each : List.Forall₂ (fun e c => c.1 = e.1 ∧ Lists e.2 c.2) fields listed) :
      ComplaintsOf (some fields) (some listed)

/-- The entries of the object under a key of a body. -/
def entriesAt (body : Json) (key : String) : Option (Dict Json) :=
  (body.field? key).bind Json.fields?

/-- Something under `errors` that is no object stands in front of complaints under `fields`. -/
def HidesFields (body : Json) : Prop :=
  ∃ v fields, body.field? "errors" = some v ∧ v.fields? = none ∧
    entriesAt body "fields" = some fields ∧ fields ≠ []

theorem shownAs_iff {v : Json} {text : String} : ShownAs v text ↔ complaint v = text := by
  constructor
  · rintro (_ | h)
    · rfl
    · cases v with
      | str s => cases h
      | _ => rfl
  · rintro rfl
    cases v with
    | str s => exact .text s
    | _ => exact .other rfl

private theorem forall₂_iff_map_eq {α β : Type} {R : α → β → Prop} (f : α → β)
    (h : ∀ a b, R a b ↔ f a = b) {l : List α} {l' : List β} :
    List.Forall₂ R l l' ↔ l.map f = l' := by
  rw [← List.forall₂_eq_eq_eq, List.forall₂_map_left_iff]
  exact ⟨List.Forall₂.imp fun a b => (h a b).mp, List.Forall₂.imp fun a b => (h a b).mpr⟩

theorem lists_iff {v : Json} {texts : List String} : Lists v texts ↔ complaints v = texts := by
  constructor
  · rintro (each | ⟨h, shown⟩)
    · exact (forall₂_iff_map_eq complaint fun _ _ => shownAs_iff).mp each
    · rw [← shownAs_iff.mp shown]
      cases v with
      | arr items => exact absurd rfl (h items)
      | _ => rfl
  · rintro rfl
    cases v with
    | arr items => exact .items ((forall₂_iff_map_eq complaint fun _ _ => shownAs_iff).mpr rfl)
    | _ => exact .single nofun (shownAs_iff.mpr rfl)

/-- The complaints that entries list are made entry by entry, and dropped if there is none. -/
theorem complaintsOf_iff {fields : Option (Dict Json)} {listed : Option (Dict (List String))} :
    ComplaintsOf fields listed ↔
      (fields.map (Dict.mapValues complaints)).filter (!·.isEmpty) = listed := by
  have heach : ∀ (e : String × Json) (c : String × List String),
      (c.1 = e.1 ∧ Lists e.2 c.2) ↔ (e.1, complaints e.2) = c := by
    intro e c
    rw [lists_iff, Prod.ext_iff, eq_comm]
  constructor
  · rintro (_ | _ | ⟨nonempty, each⟩)
    · rfl
    · rfl
    · rw [← (forall₂_iff_map_eq _ heach).mp each]
      obtain ⟨e, rest, rfl⟩ := List.exists_cons_of_ne_nil nonempty
      rfl
  · rintro rfl
    rcases fields with _ | _ | ⟨e, rest⟩
    · exact .missing
    · exact .empty
    · exact .listed (List.cons_ne_nil _ _) ((forall₂_iff_map_eq _ heach).mpr rfl)

/-- Nothing is listed exactly where there is no entry. -/
theorem complaintsOf_none_iff {fields : Option (Dict Json)} :
    ComplaintsOf fields none ↔ ∀ entries, fields = some entries → entries = [] := by
  constructor
  · rintro (_ | _)
    · nofun
    · exact fun _ h => (Option.some.inj h).symm
  · intro h
    cases fields with
    | none => exact .missing
    | some entries =>
      rw [h entries rfl]
      exact .empty

/-- What a body lists is taken from `errors` if there is anything, and else from `fields`. -/
theorem complaintsOf_bodyFields? (body : Json) :
    (body.field? "errors" = none → ComplaintsOf (entriesAt body "fields") (bodyFields? body)) ∧
    ∀ v, body.field? "errors" = some v → ComplaintsOf v.fields? (bodyFields? body) := by
  refine ⟨fun h => ?_, fun v h => ?_⟩
  · rw [complaintsOf_iff, bodyFields?, h]
    rfl
  · rw [complaintsOf_iff, bodyFields?, h]
    rfl

/-- All complaints of a body are read, of `errors` or else of `fields`, unless some are hidden. -/
theorem complaintsOf_or_iff (body : Json) :
    ComplaintsOf ((entriesAt body "errors").or (entriesAt body "fields")) (bodyFields? body) ↔
      ¬HidesFields body := by
  obtain ⟨hunlisted, hlisted⟩ := complaintsOf_bodyFields? body
  cases h : body.field? "errors" with
  | none =>
    have herrors : entriesAt body "errors" = none := by rw [entriesAt, h]; rfl
    rw [herrors, Option.none_or]
    refine iff_of_true (hunlisted h) ?_
    rintro ⟨v, -, hv, -⟩
    cases h.symm.trans hv
  | some v =>
    have herrors : entriesAt body "errors" = v.fields? := by rw [entriesAt, h]; rfl
    have hread := hlisted v h
    rw [herrors]
    cases hv : v.fields? with
    | some entries =>
      rw [hv] at hread
      refine iff_of_true hread ?_
      rintro ⟨other, -, hother, hnone, -⟩
      rw [Option.some.inj (hother.symm.trans h), hv] at hnone
      cases hnone
    | none =>
      rw [hv, complaintsOf_iff] at hread
      rw [← hread, Option.none_or]
      change ComplaintsOf _ none ↔ _
      rw [complaintsOf_none_iff]
      constructor
      · rintro hempty ⟨-, fields, -, -, hfields, hne⟩
        exact hne (hempty fields hfields)
      · intro hshown entries hentries
        by_contra hne
        exact hshown ⟨v, entries, h, hv, hentries, hne⟩

end Failure

namespace Session

variable {c : Channel} {s : Session c} {client : Client} {call : Call} {request : Request}
  {raw : RawResponse}

/--
A call that is answered with status 400 is a refused validation with the body as it came. The
complaints are those of the object under `errors`, of the one under `fields` if there is nothing
under `errors`, and none at all where there is no such object or no entry in it: each field of the
object with all its complaints in their order. So they are those of whichever of the two is an
object, `errors` before `fields`, exactly unless `errors` is something else and hides complaints
under `fields`.
-/
theorem complaints_of_validation (hr : client.request call = .ok request)
    (ha : s.Answers request raw) (hstatus : raw.status = 400) :
    ∃ message listed,
      (client.perform s call).1.bind Attempt.toResult =
        .error (.refused (.validation message listed (some raw.body))) ∧
      (call.endpoint.keepsRefusals = false → (client.perform s call).1 =
        .error (.refused (.validation message listed (some raw.body)))) ∧
      (raw.body.field? "errors" = none →
        Failure.ComplaintsOf (Failure.entriesAt raw.body "fields") listed) ∧
      (∀ v, raw.body.field? "errors" = some v → Failure.ComplaintsOf v.fields? listed) ∧
      (Failure.ComplaintsOf ((Failure.entriesAt raw.body "errors").or
        (Failure.entriesAt raw.body "fields")) listed ↔ ¬Failure.HidesFields raw.body) := by
  have hrefused : ¬(200 ≤ raw.status ∧ raw.status ≤ 299) := by omega
  have hfailure : Exchange.failure ⟨request.info, raw⟩ = .refused (.validation
      (raw.info.message (Failure.bodyMessage? raw.body)) (Failure.bodyFields? raw.body)
      (some raw.body)) := by
    rw [Exchange.failure, Refusal.ofResponse, Refusal.ofStatus]
    exact congrArg ApiError.refused (if_pos hstatus)
  have hfolded := toResult_perform_of_refused hr ha hrefused
  have hfailed := perform_of_refused hr ha hrefused
  rw [hfailure] at hfolded hfailed
  refine ⟨_, _, hfolded, fun hkeeps => ?_, ?_⟩
  · rw [hfailed, hkeeps]
    rfl
  · obtain ⟨hunlisted, hlisted⟩ := Failure.complaintsOf_bodyFields? raw.body
    exact ⟨hunlisted, hlisted, Failure.complaintsOf_or_iff raw.body⟩

/-- Complaints about an address and about a name, of which one is a number. -/
def twoFields : Json :=
  .obj [("errors", .obj [("email", .arr [.str "is required", .ofNat 7]),
    ("name", .str "too long")])]

/-- Complaints about a name, behind an `errors` that is `null`. -/
def behindNull : Json :=
  .obj [("errors", .null), ("fields", .obj [("name", .arr [.str "is required"])])]

/-- Of a refused validation all complaints are kept, a number among them in JSON. -/
theorem complaints_of_validation_twoFields :
    ∃ client message, Client.build (.standard Client.tenantConfig) = .ok client ∧
      (client.perform (c := .memory) (.start [(400, twoFields)]) .health).1 =
        .error (.refused (.validation message
          (some [("email", ["is required", "7"]), ("name", ["too long"])]) (some twoFields))) := by
  obtain ⟨client, hbuild⟩ := Client.exists_build_tenantConfig
  obtain ⟨⟨request, hrequest⟩, -⟩ := Client.exists_request_tenantConfig hbuild
  obtain ⟨message, listed, -, hfails, -, hlisted, -⟩ :=
    complaints_of_validation hrequest (answers_start request 400 twoFields) rfl
  have hshown : Failure.bodyFields? twoFields =
      some [("email", ["is required", "7"]), ("name", ["too long"])] := by
    decide +kernel
  obtain rfl := (Failure.complaintsOf_iff.mp (hlisted _ rfl)).symm.trans hshown
  exact ⟨client, message, hbuild, hfails rfl⟩

/-- Not all complaints are read: an `errors` that is `null` hides those under `fields`. -/
theorem not_read_behind_null :
    ¬∀ (setup : ClientSetup) (client : Client), Client.build setup = .ok client →
      ∀ (s : Session .memory) (call : Call) (request : Request) (raw : RawResponse),
        client.request call = .ok request → s.Answers request raw → raw.status = 400 →
        ∃ message listed, (client.perform s call).1.bind Attempt.toResult =
            .error (.refused (.validation message listed (some raw.body))) ∧
          Failure.ComplaintsOf ((Failure.entriesAt raw.body "errors").or
            (Failure.entriesAt raw.body "fields")) listed := by
  intro hreads
  obtain ⟨client, hbuild⟩ := Client.exists_build_tenantConfig
  obtain ⟨⟨request, hrequest⟩, -⟩ := Client.exists_request_tenantConfig hbuild
  have hanswers := answers_start request 400 behindNull
  obtain ⟨message, listed, hfails, hread⟩ :=
    hreads _ client hbuild _ _ request _ hrequest hanswers rfl
  rw [toResult_perform_of_refused hrequest hanswers (by decide)] at hfails
  cases hfails
  exact (Failure.complaintsOf_or_iff behindNull).mp hread
    ⟨.null, _, rfl, rfl, rfl, List.cons_ne_nil _ _⟩

end Session

end Mailroom
