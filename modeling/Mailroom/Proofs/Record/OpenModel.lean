import Mathlib.Data.List.Nodup
import Mailroom.Proofs.Record.Slot
import Mailroom.Record.Model

/-!
# Models that keep what they do not declare

An open model declares some fields of an object and keeps the others beside them. `Laws` says what
that is good for: a model survives being written and read, nothing unknown is lost or altered, what
is not declared never matters for what is, and a collection may as well be null or missing. A model
that is described by a list of slots, one for every declared field, obeys the laws
(`Described.laws`), so each model needs no more than its description.
-/

namespace Mailroom

/-- A model of objects that declares some of their fields and keeps all others. -/
class OpenModel (α : Type) extends Model α where
  /-- The keys of the declared fields. -/
  declared : List String
  /-- The keys of the nullable collections, each with the empty collection. -/
  collections : List (String × Json)
  /-- The fields that are not declared. -/
  extra : α → Dict Json
  withExtra : α → Dict Json → α

namespace Decode

theorem find?_undeclared (declared : List String) (fields : Dict Json) (key : String) :
    Dict.find? (undeclared declared fields) key =
      if key ∈ declared then none else Dict.find? fields key := by
  induction fields with
  | nil => simp [undeclared]
  | cons e rest ih =>
    obtain ⟨k, v⟩ := e
    rw [undeclared] at ih ⊢
    by_cases hk : k ∈ declared
    · rw [List.filter_cons_of_neg (by simpa using hk), ih, Dict.find?_cons]
      by_cases hkey : k = key
      · rw [if_pos (hkey ▸ hk), if_pos (hkey ▸ hk)]
      · rw [if_neg hkey]
    · rw [List.filter_cons_of_pos (by simpa using hk), Dict.find?_cons, Dict.find?_cons, ih]
      by_cases hkey : k = key
      · rw [if_pos hkey, if_pos hkey, if_neg (hkey ▸ hk)]
      · rw [if_neg hkey, if_neg hkey]

theorem ascending_undeclared {fields : Dict Json} (h : fields.Ascending) (declared : List String) :
    (undeclared declared fields).Ascending :=
  List.Pairwise.filter _ h

/-- Storing something under a declared key changes nothing that is not declared. -/
theorem undeclared_insert {declared : List String} {key : String} (h : key ∈ declared)
    (fields : Dict Json) (v : Json) :
    undeclared declared (Dict.insert fields key v) = undeclared declared fields := by
  induction fields with
  | nil => simp [undeclared, Dict.insert, h]
  | cons e rest ih =>
    obtain ⟨k, w⟩ := e
    rw [undeclared] at ih ⊢
    unfold Dict.insert
    split
    · next hk =>
      subst hk
      rw [undeclared, List.filter_cons, List.filter_cons, if_neg (by simp [h]),
        if_neg (by simp [h])]
    · split
      · rw [undeclared, List.filter_cons_of_neg (by simp [h])]
      · rw [undeclared, List.filter_cons, List.filter_cons, ih, undeclared]

theorem undeclared_erase {declared : List String} {key : String} (h : key ∈ declared)
    (fields : Dict Json) :
    undeclared declared (Dict.erase fields key) = undeclared declared fields := by
  rw [undeclared, Dict.erase, List.filter_filter, undeclared]
  refine List.filter_congr fun e he => ?_
  by_cases hk : e.1 = key
  · simp [hk, h]
  · simp [hk]

end Decode

namespace OpenModel

variable (α : Type) [OpenModel α]

/-- What holds of a model that keeps the fields it does not declare. -/
structure Laws : Prop where
  /-- What is read is read again from what it is written as. -/
  decode_encode : ∀ (v : Json) (m : α) (inOrder : Bool), v.Ordered → Model.decode v = .ok m →
    Model.decode ((Model.encode m).listed inOrder) = .ok m
  /-- Exactly the declared fields and those of the value that are not declared are written, the
  latter as they were. -/
  encode_fields : ∀ (v : Json) (m : α) (inOrder : Bool), v.Ordered → Model.decode v = .ok m →
    ∃ fields : Dict Json, (Model.encode m).listed inOrder = .obj fields ∧ fields.keys.Nodup ∧
      (∀ key, key ∉ declared α → Dict.find? fields key = v.field? key) ∧
      ∀ key, key ∈ fields.keys ↔ key ∈ declared α ∨ (v.field? key).isSome = true
  /-- Objects that agree in the declared keys are read alike but for what is not declared. -/
  decode_congr : ∀ (fields fields' : Dict Json),
    (∀ key ∈ declared α, Dict.find? fields' key = Dict.find? fields key) →
    ∀ m' : α, Model.decode (.obj fields') = .ok m' ↔
      ∃ m : α, Model.decode (.obj fields) = .ok m ∧
        m' = withExtra m (Decode.undeclared (declared α) fields')
  /-- A collection is read the same from null, from nothing and from an empty collection. -/
  decode_collection : ∀ (fields : Dict Json) (key : String) (empty : Json),
    (key, empty) ∈ collections α → ∀ m : α,
      (Model.decode (.obj (Dict.insert fields key .null)) = .ok m ↔
        Model.decode (.obj (Dict.erase fields key)) = .ok m) ∧
      (Model.decode (.obj (Dict.insert fields key empty)) = .ok m ↔
        Model.decode (.obj (Dict.erase fields key)) = .ok m)

variable {α}

/-- A model is described by slots: it is read from and written to its slots and what is left. For a
plain record the keys, the encoding and the laws of what is left hold by computation. -/
structure Described (slots : List (Slot α)) : Prop where
  keys : slots.map Slot.key = declared α := by rfl
  nodup : (declared α).Nodup := by decide
  decode_eq_ok_iff : ∀ (v : Json) (m : α), Model.decode v = .ok m ↔
    ∃ fields, v = .obj fields ∧ (∀ s ∈ slots, s.holds (Dict.find? fields s.key) m) ∧
      extra m = Decode.undeclared (declared α) fields
  encode_eq : ∀ m : α,
    Model.encode m = .obj (slots.map (fun s => (s.key, s.written m)) ++ extra m) := by intro; rfl
  stable : ∀ s ∈ slots, s.Stable
  holds_withExtra : ∀ s ∈ slots, ∀ v m e, s.holds v (withExtra m e) ↔ s.holds v m
  extra_withExtra : ∀ (m : α) e, extra (withExtra m e) = e := by intros; rfl
  withExtra_withExtra : ∀ (m : α) e e', withExtra (withExtra m e) e' = withExtra m e' := by
    intros; rfl
  withExtra_extra : ∀ m : α, withExtra m (extra m) = m := by intro; rfl
  collections : ∀ e ∈ collections α, ∃ s ∈ slots, s.key = e.1 ∧ ∀ m,
    (s.holds (some .null) m ↔ s.holds none m) ∧ (s.holds (some e.2) m ↔ s.holds none m)

namespace Described

variable {slots : List (Slot α)} (hd : Described slots)
include hd

theorem key_mem {s : Slot α} (hs : s ∈ slots) : s.key ∈ declared α := by
  rw [← hd.keys]
  exact List.mem_map_of_mem hs

/-- No two slots have the same key. -/
theorem eq_of_key_eq {s s' : Slot α} (hs : s ∈ slots) (hs' : s' ∈ slots) (h : s.key = s'.key) :
    s = s' :=
  List.inj_on_of_nodup_map (hd.keys ▸ hd.nodup) hs hs' h

/-- What is written under the key of a slot. -/
theorem find?_written {s : Slot α} (hs : s ∈ slots) (m : α) :
    Dict.find? (slots.map (fun s => (s.key, s.written m)) ++ extra m) s.key =
      some (s.written m) := by
  have hnodup : (Dict.keys (slots.map fun s => (s.key, s.written m))).Nodup := by
    rw [Dict.keys, List.map_map]
    exact hd.keys ▸ hd.nodup
  rw [Dict.find?_append, Dict.find?_eq_some_of_mem hnodup (List.mem_map_of_mem hs)]
  rfl

/-- What is written under a key that is not declared. -/
theorem find?_written_of_not_mem {key : String} (h : key ∉ declared α) (m : α) :
    Dict.find? (slots.map (fun s => (s.key, s.written m)) ++ extra m) key =
      Dict.find? (extra m) key := by
  have hnone : Dict.find? (slots.map fun s => (s.key, s.written m)) key = none := by
    rw [Dict.find?_eq_none_iff_not_mem_keys, Dict.keys, List.map_map]
    exact hd.keys ▸ h
  rw [Dict.find?_append, hnone, Option.none_or]

/-- No key is written twice. -/
theorem nodup_keys_written {m : α} {fields : Dict Json} (hf : fields.Ascending)
    (hextra : extra m = Decode.undeclared (declared α) fields) :
    (Dict.keys (slots.map (fun s => (s.key, s.written m)) ++ extra m)).Nodup := by
  have hkeys : Dict.keys (slots.map (fun s => (s.key, s.written m)) ++ extra m) =
      declared α ++ (extra m).keys := by
    rw [← hd.keys]
    simp [Dict.keys]
  rw [hkeys, List.nodup_append]
  refine ⟨hd.nodup, ?_, fun key hkey other hother heq => ?_⟩
  · rw [hextra]
    exact (Decode.ascending_undeclared hf _).nodup_keys
  · rw [← heq, ← Dict.isSome_find?_iff, hextra, Decode.find?_undeclared, if_pos hkey] at hother
    cases hother

/-- What an object that was read is written as, however that is listed. -/
theorem exists_written {fields : Dict Json} (hf : (Json.obj fields).Ordered) {m : α}
    (hextra : extra m = Decode.undeclared (declared α) fields) (inOrder : Bool) :
    ∃ written : Dict Json, (Model.encode m).listed inOrder = .obj written ∧
      written.keys.Nodup ∧
      (∀ s ∈ slots, Dict.find? written s.key = some ((s.written m).listed inOrder)) ∧
      ∀ key, key ∉ declared α → Dict.find? written key = Dict.find? fields key := by
  have hascending := (Json.ordered_obj_iff.mp hf).1
  obtain ⟨written, hlisted, hnodup, hfind⟩ :=
    Json.exists_listed_obj inOrder (hd.nodup_keys_written hascending hextra)
  refine ⟨written, by rw [hd.encode_eq, hlisted], hnodup, fun s hs => ?_, fun key hkey => ?_⟩
  · rw [hfind, hd.find?_written hs]
    rfl
  · rw [hfind, hd.find?_written_of_not_mem hkey, hextra, Decode.find?_undeclared, if_neg hkey]
    cases hfound : Dict.find? fields key with
    | none => rfl
    | some v => rw [Option.map_some, (hf.of_find?_eq_some hfound).listed_eq]

/-- What is written of a model that was read holds the same undeclared fields. -/
theorem undeclared_written {fields : Dict Json} (hf : (Json.obj fields).Ordered) {m : α}
    (hextra : extra m = Decode.undeclared (declared α) fields) {inOrder : Bool}
    {written : Dict Json} (hlisted : (Model.encode m).listed inOrder = .obj written)
    (hfind : ∀ key, key ∉ declared α → Dict.find? written key = Dict.find? fields key) :
    Decode.undeclared (declared α) written = extra m := by
  rw [hd.encode_eq] at hlisted
  cases inOrder with
  | false =>
    obtain rfl := Json.obj.inj hlisted
    rw [Decode.undeclared, List.filter_append, List.filter_eq_nil_iff.mpr, List.nil_append,
      List.filter_eq_self.mpr]
    · intro e he
      rw [hextra] at he
      exact (List.mem_filter.mp he).2
    · intro e he
      obtain ⟨s, hs, rfl⟩ := List.mem_map.mp he
      simpa using hd.key_mem hs
  | true =>
    -- In order, the undeclared fields stand among the declared ones, so both sides are compared by
    -- what is found in them.
    have hascending : written.Ascending := by
      rw [← Json.obj.inj hlisted, Json.sortedFields_eq_insertAll]
      exact Dict.ascending_ofList _
    rw [hextra]
    refine (Decode.ascending_undeclared hascending _).ext
      (Decode.ascending_undeclared (Json.ordered_obj_iff.mp hf).1 _) fun key => ?_
    rw [Decode.find?_undeclared, Decode.find?_undeclared]
    split
    · rfl
    · next hkey => exact hfind key hkey

/-- Two objects that say the same in every slot and of what is not declared are read the same. -/
theorem decode_eq_ok_iff_of_holds_iff {fields fields' : Dict Json} {m : α}
    (hholds : ∀ s ∈ slots, s.holds (Dict.find? fields' s.key) m ↔
      s.holds (Dict.find? fields s.key) m)
    (hextra : Decode.undeclared (declared α) fields' = Decode.undeclared (declared α) fields) :
    Model.decode (.obj fields') = .ok m ↔ Model.decode (.obj fields) = .ok m := by
  simp only [hd.decode_eq_ok_iff, Json.obj.injEq, exists_eq_left']
  rw [hextra]
  exact and_congr_left fun _ => forall₂_congr hholds

/-- A described model obeys the laws. -/
theorem laws : Laws α where
  decode_encode := by
    intro v m inOrder hv h
    obtain ⟨fields, rfl, hholds, hextra⟩ := (hd.decode_eq_ok_iff v m).mp h
    obtain ⟨written, hlisted, -, hslots, hothers⟩ := hd.exists_written hv hextra inOrder
    refine (hd.decode_eq_ok_iff _ m).mpr ⟨written, hlisted, fun s hs => ?_, ?_⟩
    · rw [hslots s hs]
      exact hd.stable s hs _ m (fun w hw => hv.of_find?_eq_some hw) (hholds s hs) inOrder
    · exact (hd.undeclared_written hv hextra hlisted hothers).symm
  encode_fields := by
    intro v m inOrder hv h
    obtain ⟨fields, rfl, -, hextra⟩ := (hd.decode_eq_ok_iff v m).mp h
    obtain ⟨written, hlisted, hnodup, hslots, hothers⟩ := hd.exists_written hv hextra inOrder
    refine ⟨written, hlisted, hnodup, hothers, fun key => ?_⟩
    rw [← Dict.isSome_find?_iff]
    by_cases hkey : key ∈ declared α
    · rw [← hd.keys] at hkey
      obtain ⟨s, hs, rfl⟩ := List.mem_map.mp hkey
      rw [hslots s hs]
      exact iff_of_true rfl (Or.inl (hd.key_mem hs))
    · rw [hothers key hkey]
      exact (or_iff_right hkey).symm
  decode_congr := by
    intro fields fields' hsame m'
    have hslots : ∀ s ∈ slots, Dict.find? fields' s.key = Dict.find? fields s.key :=
      fun s hs => hsame s.key (hd.key_mem hs)
    simp only [hd.decode_eq_ok_iff, Json.obj.injEq, exists_eq_left']
    constructor
    · rintro ⟨hholds, hextra⟩
      refine ⟨withExtra m' (Decode.undeclared (declared α) fields), ⟨fun s hs => ?_, ?_⟩, ?_⟩
      · rw [hd.holds_withExtra s hs, ← hslots s hs]
        exact hholds s hs
      · rw [hd.extra_withExtra]
      · rw [hd.withExtra_withExtra, ← hextra, hd.withExtra_extra]
    · rintro ⟨m, ⟨hholds, -⟩, rfl⟩
      refine ⟨fun s hs => ?_, hd.extra_withExtra m _⟩
      rw [hd.holds_withExtra s hs, hslots s hs]
      exact hholds s hs
  decode_collection := by
    intro fields key empty hcollection m
    obtain ⟨s, hs, rfl, hempty⟩ := hd.collections _ hcollection
    have hinsert : ∀ v, (s.holds (some v) m ↔ s.holds none m) →
        (Model.decode (.obj (Dict.insert fields s.key v)) = .ok m ↔
          Model.decode (.obj (Dict.erase fields s.key)) = .ok m) := by
      intro v hv
      refine hd.decode_eq_ok_iff_of_holds_iff (fun s' hs' => ?_) ?_
      · rw [Dict.find?_insert, Dict.find?_erase]
        by_cases hkey : s'.key = s.key
        · obtain rfl := hd.eq_of_key_eq hs' hs hkey
          rw [if_pos rfl, if_pos rfl]
          exact hv
        · rw [if_neg hkey, if_neg hkey]
      · rw [Decode.undeclared_insert (hd.key_mem hs), Decode.undeclared_erase (hd.key_mem hs)]
    exact ⟨hinsert _ (hempty m).1, hinsert _ (hempty m).2⟩

end Described

end OpenModel

end Mailroom
