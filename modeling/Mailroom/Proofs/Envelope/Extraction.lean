import Mailroom.Call.Exchange
import Mailroom.Proofs.Envelope.Layers

/-!
# Extraction of the payload

A body becomes an envelope by being wrapped once more, flattened and split at `data`. Wrapping it
again adds a layer without siblings, which flattening takes away, so the payload and its siblings do
not depend on how often a server wraps them. The body put together from them again is extracted to
the same two parts.
-/

namespace Mailroom

namespace Envelope

/-- A body wrapped in `data` a number of times. -/
def wrapped (times : Nat) (body : Json) : Json :=
  match times with
  | 0 => body
  | n + 1 => .obj [("data", wrapped n body)]

/-- A wrapped body flattens to what the body flattens to when it is wrapped once. -/
theorem flatten_wrapped {body : Json} (hb : body.Ordered) (n : Nat) :
    (wrapped n body).Ordered ∧
      flatten (.obj [("data", wrapped n body)]) = flatten (.obj [("data", body)]) := by
  induction n with
  | zero => exact ⟨hb, rfl⟩
  | succ n ih =>
    have ho : (wrapped (n + 1) body).Ordered := Json.ordered_obj_singleton "data" ih.1
    have hstep : unwrapOnce? (.obj [("data", wrapped (n + 1) body)]) =
        some (.obj [("data", wrapped n body)]) := rfl
    exact ⟨ho, (flatten_of_unwrapOnce?_eq_some (Json.ordered_obj_singleton "data" ho) hstep).trans
      ih.2⟩

/-- Wrapping an object that has `data` once more does not change what it flattens to. -/
theorem flatten_wrap_of_contains {fields : Dict Json} (hb : Json.Ordered (.obj fields))
    (hc : Dict.contains fields "data" = true) :
    flatten (.obj [("data", .obj fields)]) = flatten (.obj fields) := by
  have hasc := (Json.ordered_obj_iff.mp hb).1
  obtain ⟨value, hvalue⟩ := Dict.contains_eq_true_iff.mp hc
  have hmerged : Dict.insertAll [("data", Json.obj fields)] fields = fields := by
    refine ((Dict.ascending_nil.insert "data" _).insertAll fields).ext hasc fun key => ?_
    rw [Dict.find?_insertAll _ hasc, Dict.find?_insert]
    by_cases hkey : key = "data"
    · rw [hkey, hvalue, Option.some_or]
    · rw [if_neg hkey, Dict.find?_nil, Option.or_none]
  refine flatten_of_unwrapOnce?_eq_some (Json.ordered_obj_singleton "data" hb) ?_
  rw [unwrapOnce?_obj, nextLayer?_eq_some_iff.mpr ⟨rfl, hc⟩, Option.map_some, hmerged]

/-- Wrapping a value without `data` makes one layer. -/
theorem isNested_wrap_of_field?_eq_none {body : Json} (h : body.field? "data" = none) :
    isNested (.obj [("data", body)]) = false := by
  rw [isNested, nestedParts?_obj, Option.isSome_map, Option.isSome_eq_false_iff,
    Option.isNone_iff_eq_none]
  cases hn : nextLayer? [("data", body)] with
  | none => rfl
  | some inner =>
    have hparts := nextLayer?_eq_some_iff.mp hn
    have hbody : body = .obj inner := Option.some.inj hparts.1
    obtain ⟨value, hvalue⟩ := Dict.contains_eq_true_iff.mp hparts.2
    rw [hbody] at h
    exact absurd (h.symm.trans hvalue) (by simp)

/-- Where nothing is nested, an object in `data` has no `data` itself. -/
theorem contains_eq_false_of_isNested_eq_false {fields inner : Dict Json}
    (h : isNested (.obj fields) = false) (hf : Dict.find? fields "data" = some (.obj inner)) :
    Dict.contains inner "data" = false := by
  rw [isNested, nestedParts?_obj, Option.isSome_map] at h
  cases hc : Dict.contains inner "data" with
  | false => rfl
  | true =>
    rw [nextLayer?_eq_some_iff.mpr ⟨hf, hc⟩] at h
    cases h

/-- A wrapped body flattens to an object whose `data` is no object with `data`. -/
theorem flatten_wrap {body : Json} (hb : body.Ordered) :
    ∃ fields value, flatten (.obj [("data", body)]) = .obj fields ∧
      Json.Ordered (.obj fields) ∧ isNested (.obj fields) = false ∧
      Dict.find? fields "data" = some value := by
  have ho := Json.ordered_obj_singleton "data" hb
  obtain ⟨depth, fields, -, -, hflat, hfind⟩ := flatten_eq_deepest ho rfl
  have hdata : (Dict.find? fields "data").isSome = true := by
    rw [hfind, isSome_deepest?_iff]
    exact ⟨0, Nat.zero_le _, rfl⟩
  obtain ⟨value, hvalue⟩ := Option.isSome_iff_exists.mp hdata
  exact ⟨fields, value, hflat, hflat ▸ flatten_ordered ho, hflat ▸ isNested_flatten ho, hvalue⟩

end Envelope

namespace Exchange

/-- The envelope of an answer is split off the fields that the wrapped body flattens to. -/
theorem unwrapped_eq {x : Exchange} {fields : Dict Json} {value : Json}
    (hflat : Envelope.flatten (.obj [("data", x.response.body)]) = .obj fields)
    (hvalue : Dict.find? fields "data" = some value) :
    x.unwrapped = ⟨value, Dict.erase fields "data", x.request, x.response.info⟩ := by
  simp only [unwrapped, hflat, Json.fields?, Option.getD_some, hvalue]

/-- A body without `data` is the payload, with nothing beside it. -/
theorem unwrapped_of_field?_eq_none {x : Exchange} (h : x.response.body.field? "data" = none) :
    x.unwrapped = ⟨x.response.body, [], x.request, x.response.info⟩ :=
  unwrapped_eq
    (Envelope.flatten_of_isNested_eq_false (Envelope.isNested_wrap_of_field?_eq_none h)) rfl

/-- A success is taken as its envelope either way. -/
theorem envelope_of_isSuccess {x : Exchange} (h : x.isSuccess = true) :
    x.envelope = .ok x.unwrapped ∧ x.attempt = .found x.unwrapped :=
  ⟨if_pos h, if_pos h⟩

/--
The envelope of a success does not depend on how often the body is wrapped in `data`. Its payload is
no object with `data`, and there is no `data` beside it; a body without `data` is the payload, with
nothing beside it. Payload and siblings put together again make a body with the same envelope.
-/
theorem envelope_of_wrapped_body (request : RequestInfo) (status : Nat) (statusText : String)
    (body : Json) (hs : Http.isSuccess status = true) (hb : body.Ordered) :
    ∃ e : Envelope Json,
      (∀ n, envelope ⟨request, ⟨status, statusText, Envelope.wrapped n body⟩⟩ = .ok e ∧
        attempt ⟨request, ⟨status, statusText, Envelope.wrapped n body⟩⟩ = .found e) ∧
      (∀ fields, e.data = .obj fields → Dict.contains fields "data" = false) ∧
      Dict.contains e.siblings "data" = false ∧
      (body.field? "data" = none → e.data = body ∧ e.siblings = []) ∧
      envelope ⟨request, ⟨status, statusText, .obj (Dict.insert e.siblings "data" e.data)⟩⟩ =
        .ok e := by
  obtain ⟨fields, value, hflat, ho, hflatend, hvalue⟩ := Envelope.flatten_wrap hb
  have hsuccess : ∀ body', isSuccess ⟨request, ⟨status, statusText, body'⟩⟩ = true := fun _ => hs
  have hunwrapped : ∀ body', Envelope.flatten (.obj [("data", body')]) = .obj fields →
      unwrapped ⟨request, ⟨status, statusText, body'⟩⟩ =
        ⟨value, Dict.erase fields "data", request, ⟨status, statusText⟩⟩ :=
    fun body' h => unwrapped_eq h hvalue
  refine ⟨⟨value, Dict.erase fields "data", request, ⟨status, statusText⟩⟩, fun n => ?_,
    fun inner hinner => ?_, ?_, fun hnone => ?_, ?_⟩
  · rw [← hunwrapped _ ((Envelope.flatten_wrapped hb n).2.trans hflat)]
    exact envelope_of_isSuccess (hsuccess _)
  · exact Envelope.contains_eq_false_of_isNested_eq_false hflatend
      (hvalue.trans (congrArg some hinner))
  · rw [Dict.contains_eq_false_iff, Dict.find?_erase, if_pos rfl]
  · rw [Envelope.flatten_of_isNested_eq_false
      (Envelope.isNested_wrap_of_field?_eq_none hnone)] at hflat
    cases hflat
    exact ⟨(Option.some.inj hvalue).symm, rfl⟩
  · have hfields : Dict.insert (Dict.erase fields "data") "data" value = fields :=
      Dict.insert_erase (Json.ordered_obj_iff.mp ho).1 hvalue
    have hcontains : Dict.contains fields "data" = true :=
      Dict.contains_eq_true_iff.mpr ⟨value, hvalue⟩
    have hagain : Envelope.flatten (.obj [("data", .obj fields)]) = .obj fields := by
      rw [Envelope.flatten_wrap_of_contains ho hcontains,
        Envelope.flatten_of_isNested_eq_false hflatend]
    rw [hfields, ← hunwrapped _ hagain]
    exact (envelope_of_isSuccess (hsuccess _)).1

theorem envelope_of_threeLayers_wrapped : Http.isSuccess 201 = true ∧
    Json.Ordered Envelope.threeLayers ∧
    ∃ e : Envelope Json,
      envelope ⟨⟨"getLists", "GET", ""⟩, ⟨201, "Created", Envelope.threeLayers⟩⟩ = .ok e ∧
      envelope ⟨⟨"getLists", "GET", ""⟩,
        ⟨201, "Created", Envelope.wrapped 5 Envelope.threeLayers⟩⟩ = .ok e := by
  obtain ⟨e, he, -⟩ := envelope_of_wrapped_body ⟨"getLists", "GET", ""⟩ 201 "Created"
    Envelope.threeLayers rfl Envelope.threeLayers_ordered
  exact ⟨rfl, Envelope.threeLayers_ordered, e, (he 0).1, (he 5).1⟩

end Exchange

end Mailroom
