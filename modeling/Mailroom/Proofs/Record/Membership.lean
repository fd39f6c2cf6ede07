import Mailroom.Proofs.Json.Compact
import Mailroom.Record.Subscriber

/-!
# Documents of memberships

A change of lists and a condition are stated in documents whose keys differ, so each key has what
its entry says. All of them can be read back from the text that is sent.
-/

namespace Mailroom

/-- In the object of entries with different keys every key has its own. -/
theorem Json.field?_object {entries : List (String × Json)} (h : (Dict.keys entries).Nodup)
    (key : String) : (object entries).field? key = Dict.find? entries key :=
  (Dict.find?_insertAll_of_nodup [] h key).trans Option.or_none

/-! ## The status of a membership -/

theorem find?_status (status : Option String) (key : String) :
    Dict.find? (status.map fun s => ("status", Json.str s)).toList key =
      if "status" = key then status.map .str else none := by
  cases status with
  | none => exact (ite_self _).symm
  | some s => rfl

theorem exact_status (status : Option String) (depth : Nat) :
    ∀ e ∈ (status.map fun s => ("status", Json.str s)).toList, Json.Exact depth e.2 := by
  cases status with
  | none => exact List.forall_mem_nil _
  | some s => exact List.forall_mem_singleton.mpr (.str s)

/-! ## Changes by numbers -/

namespace ListMembership

/-- The fields of a change of lists by numbers. -/
theorem field?_encode (m : ListMembership) (key : String) :
    m.encode.field? key =
      if "ids" = key then some (.ofWords m.ids)
      else if "action" = key then some (.str m.action.text)
      else if "target_list_ids" = key then some (.ofWords m.targetLists)
      else if "status" = key then m.status.map .str
      else none := by
  have hkeys : (Dict.keys ([("ids", .ofWords m.ids), ("action", .str m.action.text),
      ("target_list_ids", .ofWords m.targetLists)] ++
      (m.status.map fun s => ("status", Json.str s)).toList)).Nodup := by
    cases m.status <;> simp [Dict.keys]
  rw [encode, Json.field?_object hkeys, Dict.find?_append, find?_status, Dict.find?_cons,
    Dict.find?_cons, Dict.find?_cons, Dict.find?_nil]
  split_ifs <;> rfl

theorem exact_encode (m : ListMembership) : Json.Exact 127 m.encode := by
  refine Json.exact_object fun e he => ?_
  rcases List.mem_append.mp he with he | he
  · simp only [List.mem_cons, List.not_mem_nil, or_false] at he
    rcases he with rfl | rfl | rfl
    · exact Json.exact_ofWords _ _
    · exact .str _
    · exact Json.exact_ofWords _ _
  · exact exact_status m.status _ e he

end ListMembership

/-! ## Conditions -/

namespace SubscriberQuery

theorem find?_entries (q : SubscriberQuery) (key : String) :
    Dict.find? q.entries key =
      if "query" = key then some (.str q.query)
      else if "list_ids" = key then if q.listIds = [] then none else some (.ofWords q.listIds)
      else none := by
  rw [entries, Dict.find?_cons]
  cases q.listIds with
  | nil => simp
  | cons id ids => rfl

theorem keys_entries (q : SubscriberQuery) :
    Dict.keys q.entries = "query" :: if q.listIds = [] then [] else ["list_ids"] := by
  cases h : q.listIds <;> simp [entries, h, Dict.keys]

theorem exact_entries (q : SubscriberQuery) (depth : Nat) :
    ∀ e ∈ q.entries, Json.Exact (depth + 1) e.2 := by
  refine List.forall_mem_cons.mpr ⟨.str _, fun e he => ?_⟩
  split at he
  · cases he
  · rw [List.mem_singleton.mp he]
    exact Json.exact_ofWords _ _

/-- The fields of a condition. -/
theorem field?_encode (q : SubscriberQuery) (key : String) :
    q.encode.field? key = Dict.find? q.entries key := by
  refine Json.field?_object ?_ key
  rw [q.keys_entries]
  split <;> simp

theorem exact_encode (q : SubscriberQuery) : Json.Exact 127 q.encode :=
  Json.exact_object (q.exact_entries 125)

/-! ## Changes by conditions -/

/-- A change of the lists of the subscribers of a condition. -/
def change (q : SubscriberQuery) (action : MembershipAction) (targetLists : List UInt64)
    (status : Option String) : Json :=
  .object (q.entries ++
    [("action", .str action.text), ("target_list_ids", .ofWords targetLists)] ++
    (status.map fun s => ("status", Json.str s)).toList)

section Change

variable (q : SubscriberQuery) (action : MembershipAction) (targetLists : List UInt64)
  (status : Option String)

/-- The fields of a change of lists by a condition. -/
theorem field?_change (key : String) :
    (q.change action targetLists status).field? key =
      (Dict.find? q.entries key).or
        (if "action" = key then some (.str action.text)
        else if "target_list_ids" = key then some (.ofWords targetLists)
        else if "status" = key then status.map .str
        else none) := by
  have hkeys : (Dict.keys (q.entries ++ [("action", .str action.text),
      ("target_list_ids", .ofWords targetLists)] ++
      (status.map fun s => ("status", Json.str s)).toList)).Nodup := by
    have happend : ∀ d d' : Dict Json, Dict.keys (d ++ d') = Dict.keys d ++ Dict.keys d' :=
      fun d d' => List.map_append
    rw [happend, happend, q.keys_entries]
    cases status <;> split <;> simp [Dict.keys]
  rw [change, Json.field?_object hkeys, Dict.find?_append, Dict.find?_append, Option.or_assoc,
    find?_status, Dict.find?_cons, Dict.find?_cons, Dict.find?_nil]
  congr 1
  split_ifs <;> rfl

theorem exact_change : Json.Exact 127 (q.change action targetLists status) := by
  refine Json.exact_object fun e he => ?_
  rcases List.mem_append.mp he with he | he
  · rcases List.mem_append.mp he with he | he
    · exact q.exact_entries 125 e he
    · simp only [List.mem_cons, List.not_mem_nil, or_false] at he
      rcases he with rfl | rfl
      · exact .str _
      · exact Json.exact_ofWords _ _
  · exact exact_status status _ e he

end Change

end SubscriberQuery

end Mailroom
