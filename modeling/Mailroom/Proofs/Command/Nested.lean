import Mailroom.Command.Body
import Mailroom.Proofs.Dict.Order
import Mailroom.Proofs.Text.Split

/-!
# Values at paths

The dots of a key lead into objects. A value that is stored at a path is found there, and it stays
there whatever is stored afterwards at paths that neither lead on from it nor lead to it. `Stored`
says of every path what stands there once a value was stored at one of them.
-/

namespace Mailroom

/-- The value that stands at a path of a value. -/
def Json.at? (v : Json) (path : List String) : Option Json :=
  match path with
  | [] => some v
  | key :: rest => (v.field? key).bind fun w => w.at? rest

/-- A path that leads on from another one leads there from the value at the other one. -/
theorem Json.at?_append (v : Json) (p q : List String) :
    v.at? (p ++ q) = (v.at? p).bind fun w => w.at? q := by
  induction p generalizing v with
  | nil => rfl
  | cons key p ih =>
    change ((v.field? key).bind fun w => w.at? (p ++ q)) =
      (((v.field? key).bind fun w => w.at? p).bind fun w => w.at? q)
    simp only [ih, Option.bind_assoc]

theorem Json.at?_obj_cons (fields : Dict Json) (key : String) (p : List String) :
    (Json.obj fields).at? (key :: p) = (Dict.find? fields key).bind fun w => w.at? p := rfl

theorem Json.at?_insert_self (fields : Dict Json) (key : String) (w : Json) (p : List String) :
    (Json.obj (Dict.insert fields key w)).at? (key :: p) = w.at? p := by
  rw [at?_obj_cons, Dict.find?_insert_self, Option.bind_some]

theorem Json.at?_insert_of_ne (fields : Dict Json) {key other : String} (h : other ≠ key)
    (w : Json) (p : List String) : (Json.obj (Dict.insert fields key w)).at? (other :: p) =
      (Json.obj fields).at? (other :: p) := by
  rw [at?_obj_cons, Dict.find?_insert_of_ne fields w h, at?_obj_cons]

namespace Field

/-! ## Paths -/

/-- Neither of two paths leads on from the other. -/
def Apart (p q : List String) : Prop :=
  ¬p <+: q ∧ ¬q <+: p

instance (p q : List String) : Decidable (Apart p q) :=
  inferInstanceAs (Decidable (¬p <+: q ∧ ¬q <+: p))

theorem apart_cons_self_iff {key : String} {p q : List String} :
    Apart (key :: p) (key :: q) ↔ Apart p q := by
  simp [Apart, List.cons_prefix_cons]

theorem Apart.ne_nil {p q : List String} (h : Apart p q) : p ≠ [] ∧ q ≠ [] := by
  refine ⟨?_, ?_⟩
  · rintro rfl
    exact h.1 List.nil_prefix
  · rintro rfl
    exact h.2 List.nil_prefix

theorem path_ne_nil (key : String) : path key ≠ [] := by
  rw [path, ne_eq, List.map_eq_nil_iff]
  exact Text.parts_ne_nil '.' key.toList

/-- The path of a key is made of the texts without dots between the dots of the key. -/
theorem path_eq_iff {key : String} {segments : List String} :
    path key = segments ↔ segments ≠ [] ∧ (∀ segment ∈ segments, '.' ∉ segment.toList) ∧
      ".".intercalate segments = key := by
  constructor
  · rintro rfl
    refine ⟨path_ne_nil key, fun segment hsegment => ?_, ?_⟩
    · obtain ⟨part, hpart, rfl⟩ := List.mem_map.mp hsegment
      rw [String.toList_ofList]
      exact Text.not_mem_of_mem_parts hpart
    · rw [← String.toList_inj, String.toList_intercalate, path, List.map_map,
        Text.parts_eq_splitOn]
      simp only [Function.comp_def, String.toList_ofList, List.map_id']
      exact List.intercalate_splitOn '.'
  · rintro ⟨hne, hfree, rfl⟩
    have hparts := List.splitOn_intercalate '.' (List.forall_mem_map.mpr hfree)
      (mt List.map_eq_nil_iff.mp hne)
    rw [path, String.toList_intercalate, Text.parts_eq_splitOn]
    change (List.splitOn '.' (['.'].intercalate (segments.map String.toList))).map _ = segments
    rw [hparts, List.map_map]
    simp [Function.comp_def]

/-! ## One value -/

/-- Behind a key more of a path is stored inside the object that stands there. -/
theorem setAt_cons {key : String} {rest : List String} (h : rest ≠ []) (fields : Dict Json)
    (v : Json) : setAt fields (key :: rest) v =
      Dict.insert fields key (.obj (setAt (inner fields key) rest v)) := by
  cases rest with
  | nil => exact absurd rfl h
  | cons next rest => rfl

/-- A value that is stored at a path goes under its first key, by what stands there. -/
theorem exists_setAt_cons (key : String) (rest : List String) (v : Json) :
    ∃ change : Dict Json → Json, ∀ fields,
      setAt fields (key :: rest) v = Dict.insert fields key (change (inner fields key)) := by
  by_cases hrest : rest = []
  · exact ⟨fun _ => v, fun fields => by rw [hrest]; rfl⟩
  · exact ⟨fun inside => .obj (setAt inside rest v), fun fields => setAt_cons hrest fields v⟩

/-- A stored value is found at its path. -/
theorem at?_setAt_self (fields : Dict Json) {p : List String} (h : p ≠ []) (v : Json) :
    (Json.obj (setAt fields p v)).at? p = some v := by
  induction p generalizing fields with
  | nil => exact absurd rfl h
  | cons key rest ih =>
    by_cases hrest : rest = []
    · subst hrest
      exact Json.at?_insert_self fields key v []
    · rw [setAt_cons hrest, Json.at?_insert_self, ih (inner fields key) hrest]

/-- Inside an object, or where none stands, a path leads where it does behind the key. -/
theorem at?_inner (fields : Dict Json) (key : String) {q : List String} (h : q ≠ []) :
    (Json.obj (inner fields key)).at? q = (Json.obj fields).at? (key :: q) := by
  cases q with
  | nil => exact absurd rfl h
  | cons next q =>
    rw [Json.at?_obj_cons, Json.at?_obj_cons, inner]
    cases Dict.find? fields key with
    | none => rfl
    | some w => cases w <;> rfl

/-- Storing a value leaves what stands at a path apart from its own. -/
theorem at?_setAt_of_apart (fields : Dict Json) {p q : List String} (h : Apart p q) (v : Json) :
    (Json.obj (setAt fields p v)).at? q = (Json.obj fields).at? q := by
  induction p generalizing fields q with
  | nil => exact absurd rfl h.ne_nil.1
  | cons key rest ih =>
    cases q with
    | nil => exact absurd rfl h.ne_nil.2
    | cons other q =>
      by_cases hkey : other = key
      · subst hkey
        have hapart := apart_cons_self_iff.mp h
        rw [setAt_cons hapart.ne_nil.1, Json.at?_insert_self, ih (inner fields other) hapart,
          at?_inner fields other hapart.ne_nil.2]
      · obtain ⟨change, hchange⟩ := exists_setAt_cons key rest v
        rw [hchange, Json.at?_insert_of_ne fields hkey]

/-- The object that stands at a path, or an empty one. -/
def objectAt (fields : Dict Json) (path : List String) : Dict Json :=
  (((Json.obj fields).at? path).bind Json.fields?).getD []

/-- Objects inside one another, each with a single key, down to a value. -/
def branch (path : List String) (v : Json) : Json :=
  path.foldr (fun key inside => .obj [(key, inside)]) v

theorem objectAt_inner (fields : Dict Json) (key : String) (p : List String) :
    objectAt (inner fields key) p = objectAt fields (key :: p) := by
  by_cases hp : p = []
  · subst hp
    change inner fields key = (((Dict.find? fields key).bind some).bind Json.fields?).getD []
    rw [Option.bind_fun_some, inner]
  · rw [objectAt, at?_inner fields key hp, objectAt]

/-- What stands on the way to a value is the object of before with the value stored inside. -/
theorem at?_setAt_append (fields : Dict Json) (p : List String) {rest : List String}
    (h : rest ≠ []) (v : Json) : (Json.obj (setAt fields (p ++ rest) v)).at? p =
      some (.obj (setAt (objectAt fields p) rest v)) := by
  induction p generalizing fields with
  | nil => rfl
  | cons key p ih =>
    rw [List.cons_append, setAt_cons (by simp [h]), Json.at?_insert_self, ih, objectAt_inner]

/-- In an empty object a value stands alone at its path. -/
theorem setAt_nil {p : List String} (h : p ≠ []) (v : Json) :
    Json.obj (setAt [] p v) = branch p v := by
  induction p with
  | nil => exact absurd rfl h
  | cons key rest ih =>
    by_cases hrest : rest = []
    · subst hrest
      rfl
    · rw [setAt_cons hrest]
      change Json.obj [(key, .obj (setAt [] rest v))] = .obj [(key, branch rest v)]
      rw [ih hrest]

/-- What an object holds after a value was stored at a path: the value there, with all that is
inside it, and what it held before at every path apart from it, so next to each key of the path. An
object on the way has the value stored inside, and where none stood there is one that leads to the
value and to nothing else. -/
structure Stored (before after : Dict Json) (path : List String) (v : Json) : Prop where
  value : ∀ q, (Json.obj after).at? (path ++ q) = v.at? q
  apart : ∀ q, Apart path q → (Json.obj after).at? q = (Json.obj before).at? q
  beside : ∀ p key rest other, path = p ++ key :: rest → other ≠ key →
    (Json.obj after).at? (p ++ [other]) = (Json.obj before).at? (p ++ [other])
  through : ∀ p rest fields, path = p ++ rest → rest ≠ [] →
    (Json.obj before).at? p = some (.obj fields) →
    (Json.obj after).at? p = some (.obj (setAt fields rest v))
  opened : ∀ p rest, path = p ++ rest → rest ≠ [] →
    (∀ fields, (Json.obj before).at? p ≠ some (.obj fields)) →
    (Json.obj after).at? p = some (branch rest v)

/-- Paths that go different ways behind a common part are apart. -/
theorem apart_append {key other : String} (h : other ≠ key) (p rest more : List String) :
    Apart (p ++ key :: rest) (p ++ other :: more) := by
  simp [Apart, List.prefix_append_right_inj, List.cons_prefix_cons, h, h.symm]

/-- What `setAt` leaves behind is such an object. -/
theorem stored_setAt (fields : Dict Json) {p : List String} (h : p ≠ []) (v : Json) :
    Stored fields (setAt fields p v) p v where
  value q := by rw [Json.at?_append, at?_setAt_self fields h, Option.bind_some]
  apart q hq := at?_setAt_of_apart fields hq v
  beside q key rest other hp hother := by
    rw [hp]
    exact at?_setAt_of_apart fields (apart_append hother q rest []) v
  through q rest inside hp hrest hq := by
    rw [hp, at?_setAt_append fields q hrest, objectAt, hq]
    rfl
  opened q rest hp hrest hq := by
    have hnone : objectAt fields q = [] := by
      rw [objectAt]
      cases hv : (Json.obj fields).at? q with
      | none => rfl
      | some w =>
        cases w with
        | obj inside => exact absurd hv (hq inside)
        | _ => rfl
    rw [hp, at?_setAt_append fields q hrest, hnone, setAt_nil hrest]

/-! ## Two values -/

theorem inner_insert_self (fields : Dict Json) (key : String) (inside : Dict Json) :
    inner (Dict.insert fields key (.obj inside)) key = inside := by
  rw [inner, Dict.find?_insert_self]
  rfl

theorem inner_insert_of_ne (fields : Dict Json) {key other : String} (h : other ≠ key) (v : Json) :
    inner (Dict.insert fields key v) other = inner fields other := by
  rw [inner, Dict.find?_insert_of_ne fields v h, inner]

/-- Of two values that are stored at one path the second one stays. -/
theorem setAt_setAt_self (fields : Dict Json) (p : List String) (v w : Json) :
    setAt (setAt fields p v) p w = setAt fields p w := by
  induction p generalizing fields with
  | nil => rfl
  | cons key rest ih =>
    by_cases hrest : rest = []
    · subst hrest
      exact Dict.insert_insert_self fields key v w
    · rw [setAt_cons hrest, setAt_cons hrest, setAt_cons hrest, inner_insert_self, ih,
        Dict.insert_insert_self]

/-- Values at paths apart from one another may be stored in either order. -/
theorem setAt_comm (fields : Dict Json) {p q : List String} (h : Apart p q) (v w : Json) :
    setAt (setAt fields p v) q w = setAt (setAt fields q w) p v := by
  induction p generalizing fields q with
  | nil => exact absurd rfl h.ne_nil.1
  | cons key p ih =>
    cases q with
    | nil => exact absurd rfl h.ne_nil.2
    | cons other q =>
      by_cases hkey : other = key
      · subst hkey
        have hapart := apart_cons_self_iff.mp h
        obtain ⟨hp, hq⟩ := hapart.ne_nil
        simp only [setAt_cons hp, setAt_cons hq, inner_insert_self, Dict.insert_insert_self,
          ih (inner fields other) hapart]
      · obtain ⟨change, hchange⟩ := exists_setAt_cons key p v
        obtain ⟨change', hchange'⟩ := exists_setAt_cons other q w
        rw [hchange, hchange', hchange', hchange, inner_insert_of_ne fields hkey,
          inner_insert_of_ne fields (Ne.symm hkey), Dict.insert_comm fields (Ne.symm hkey)]

/-! ## Many values -/

/-- Entries that are stored one after the other leave what stands at a path apart from all of
theirs. -/
theorem at?_putAll_of_apart (fields : Dict Json) {entries : List (String × Json)} {q : List String}
    (h : ∀ e ∈ entries, Apart (path e.1) q) :
    (Json.obj (putAll fields entries)).at? q = (Json.obj fields).at? q := by
  induction entries generalizing fields with
  | nil => rfl
  | cons e rest ih =>
    obtain ⟨hfirst, hrest⟩ := List.forall_mem_cons.mp h
    exact (ih (put fields e.1 e.2) hrest).trans (at?_setAt_of_apart fields hfirst e.2)

/-- An entry whose path no later one touches is found there in the end. -/
theorem at?_putAll (fields : Dict Json) (before : List (String × Json)) {key : String} (v : Json)
    {after : List (String × Json)} (h : ∀ e ∈ after, Apart (path e.1) (path key)) :
    (Json.obj (putAll fields (before ++ (key, v) :: after))).at? (path key) = some v := by
  have hsplit : putAll fields (before ++ (key, v) :: after) =
      putAll (put (putAll fields before) key v) after := by
    rw [putAll, List.foldl_append]
    rfl
  rw [hsplit, at?_putAll_of_apart _ h]
  exact at?_setAt_self _ (path_ne_nil key) v

end Field

end Mailroom
