import Mailroom.Json.Decode
import Mailroom.Proofs.Json.Sorted
import Mailroom.Proofs.Outcome

/-!
# Declared fields

A declared field is a `Slot`: its key, what a stored value says about the field of a model, and how
the field is written. A slot is stable if what is written says the same of the model as the value
that was read. That holds of every slot whose item decoder is stable: the encoding of what it read
is read as the same again, in whatever order the encoding lists its fields.
-/

namespace Mailroom

namespace Decode

variable {α : Type}

/-- What a stored value is read as, or what takes its place where there is none. -/
def stored (absent : α) (item : Decoder α) (v : Option Json) : Except Mismatch α :=
  match v with
  | none => .ok absent
  | some v => item v

theorem field_eq_stored (fields : Dict Json) (key : String) (absent : α) (item : Decoder α) :
    field fields key absent item = stored absent item (Dict.find? fields key) := by
  unfold field stored
  cases Dict.find? fields key <;> rfl

/-- A value is read back from its encoding, however that is listed. -/
def Kept (item : Decoder α) (enc : α → Json) (a : α) : Prop :=
  ∀ inOrder, item ((enc a).listed inOrder) = .ok a

/-- What is read out of an ordered value is read back from its encoding. -/
def Stable (item : Decoder α) (enc : α → Json) : Prop :=
  ∀ v a, v.Ordered → item v = .ok a → Kept item enc a

/-! ## Items -/

theorem kept_text (s : String) : Kept text .str s := by
  intro inOrder
  rw [Json.listed_str]
  rfl

theorem kept_bool (b : Bool) : Kept bool .bool b := by
  intro inOrder
  rw [Json.listed_bool]
  rfl

theorem kept_word (n : UInt64) : Kept word .ofWord n := by
  intro inOrder
  have hbound : n.toNat < bitBound 64 := n.toNat_lt
  rw [Json.ofWord, Json.ofNat, Json.listed_num, word, if_pos (by omega)]
  simp

theorem stable_text : Stable text .str :=
  fun _ s _ _ => kept_text s

theorem stable_bool : Stable bool .bool :=
  fun _ b _ _ => kept_bool b

theorem stable_word : Stable word .ofWord :=
  fun _ n _ _ => kept_word n

theorem stable_value : Stable value (fun v => v) := by
  intro v a hv h inOrder
  obtain rfl := Except.ok.inj h
  rw [hv.listed_eq, h]

theorem stable_dict : Stable dict .obj := by
  intro v fields hv h inOrder
  unfold dict at h
  split at h
  · obtain rfl := Except.ok.inj h
    rw [hv.listed_eq]
    rfl
  · cases h

/-! ## Items in collections -/

/-- Every item read comes from some item of the array. -/
theorem exists_of_mem_items {item : Decoder α} {vs : List Json} {as : List α}
    (h : items item vs = .ok as) {a : α} (ha : a ∈ as) : ∃ v ∈ vs, item v = .ok a := by
  induction vs generalizing as with
  | nil =>
    obtain rfl := Except.ok.inj h
    cases ha
  | cons v rest ih =>
    unfold items at h
    split at h
    · cases h
    · next first hfirst =>
      obtain ⟨others, hothers, rfl⟩ := Outcome.map_eq_ok_iff.mp h
      rcases List.mem_cons.mp ha with rfl | ha
      · exact ⟨v, List.mem_cons_self, hfirst⟩
      · obtain ⟨w, hmem, hw⟩ := ih hothers ha
        exact ⟨w, List.mem_cons_of_mem _ hmem, hw⟩

theorem items_map {item : Decoder α} {f : α → Json} {as : List α}
    (h : ∀ a ∈ as, item (f a) = .ok a) : items item (as.map f) = .ok as := by
  induction as with
  | nil => rfl
  | cons a rest ih =>
    rw [List.map_cons, items, h a List.mem_cons_self]
    simp only [ih fun b hb => h b (List.mem_cons_of_mem _ hb)]
    rfl

theorem stable_list {item : Decoder α} {enc : α → Json} (h : Stable item enc) :
    Stable (list item) (fun as => .arr (as.map enc)) := by
  intro v as hv has inOrder
  unfold list at has
  split at has
  · rw [Json.listed_arr, List.map_map]
    refine items_map fun a ha => ?_
    obtain ⟨w, hmem, hw⟩ := exists_of_mem_items has ha
    exact h w a (Json.ordered_arr_iff.mp hv w hmem) hw inOrder
  · cases has

/-- A value that is not null is read by the decoder of the item. -/
theorem optional_of_ne_null {item : Decoder α} {v : Json} (h : v ≠ .null) :
    optional item v = (item v).map some := by
  cases v with
  | null => exact absurd rfl h
  | _ => rfl

theorem nullable_of_ne_null {empty : α} {item : Decoder α} {v : Json} (h : v ≠ .null) :
    nullable empty item v = item v := by
  cases v with
  | null => exact absurd rfl h
  | _ => rfl

/-- An optional item is stable if no item is written as null that was not read from null. -/
theorem stable_optional {item : Decoder α} {enc : α → Json} (h : Stable item enc)
    (hnull : ∀ v a, item v = .ok a → v ≠ .null → enc a ≠ .null) :
    Stable (optional item) (.ofOption enc) := by
  intro v x hv hx inOrder
  by_cases hv' : v = .null
  · subst hv'
    obtain rfl := Except.ok.inj hx
    rw [Json.ofOption, Json.listed_null]
    rfl
  · rw [optional_of_ne_null hv'] at hx
    obtain ⟨a, ha, rfl⟩ := Outcome.map_eq_ok_iff.mp hx
    have hne : (enc a).listed inOrder ≠ .null :=
      fun hlisted => hnull v a ha hv' (Json.listed_eq_null_iff.mp hlisted)
    rw [Json.ofOption, optional_of_ne_null hne, h v a hv ha inOrder]
    rfl

/-- A nullable item is stable if the empty one is kept and none is written as null. -/
theorem stable_nullable {empty : α} {item : Decoder α} {enc : α → Json} (h : Stable item enc)
    (hempty : Kept item enc empty) (hnull : ∀ a, enc a ≠ .null) :
    Stable (nullable empty item) enc := by
  intro v a hv ha inOrder
  rw [nullable_of_ne_null fun hlisted => hnull a (Json.listed_eq_null_iff.mp hlisted)]
  by_cases hv' : v = .null
  · subst hv'
    obtain rfl := Except.ok.inj ha
    exact hempty inOrder
  · rw [nullable_of_ne_null hv'] at ha
    exact h v a hv ha inOrder

end Decode

/-! ## Slots -/

/-- A declared field of a model. -/
structure Slot (α : Type) where
  key : String
  /-- What the value under the key, or none, says about the field. -/
  holds : Option Json → α → Prop
  written : α → Json

namespace Slot

variable {α β : Type}

/-- What is written into a slot says the same as the ordered value that was read. -/
def Stable (s : Slot α) : Prop :=
  ∀ v m, (∀ w, v = some w → w.Ordered) → s.holds v m →
    ∀ inOrder, s.holds (some ((s.written m).listed inOrder)) m

/-- The slot of a field that is read by a decoder and has a value where it is absent. -/
def of (key : String) (absent : β) (item : Decoder β) (enc : β → Json) (get : α → β) : Slot α where
  key := key
  holds v m := Decode.stored absent item v = .ok (get m)
  written m := enc (get m)

theorem stable_of {key : String} {absent : β} {item : Decoder β} {enc : β → Json} {get : α → β}
    (h : Decode.Stable item enc) (habsent : Decode.Kept item enc absent) :
    (of key absent item enc get).Stable := by
  intro v m hv hm inOrder
  change item ((enc (get m)).listed inOrder) = .ok (get m)
  cases v with
  | none =>
    rw [← Except.ok.inj hm]
    exact habsent inOrder
  | some v => exact h v (get m) (hv v rfl) hm inOrder

@[simp] theorem key_of (key : String) (absent : β) (item : Decoder β) (enc : β → Json)
    (get : α → β) : (of key absent item enc get).key = key := rfl

@[simp] theorem holds_of (key : String) (absent : β) (item : Decoder β) (enc : β → Json)
    (get : α → β) (v : Option Json) (m : α) :
    (of key absent item enc get).holds v m ↔ Decode.stored absent item v = .ok (get m) :=
  Iff.rfl

/-- A number of 64 bits, or zero. -/
abbrev word (key : String) (get : α → UInt64) : Slot α :=
  of key 0 Decode.word .ofWord get

/-- A text, or the empty one. -/
abbrev text (key : String) (get : α → String) : Slot α :=
  of key "" Decode.text .str get

/-- A truth value, or false. -/
abbrev flag (key : String) (get : α → Bool) : Slot α :=
  of key false Decode.bool .bool get

/-- A value that may be missing. -/
abbrev optional (key : String) (item : Decoder β) (enc : β → Json) (get : α → Option β) : Slot α :=
  of key none (Decode.optional item) (.ofOption enc) get

/-- A collection, for which null stands for the empty one. -/
abbrev collection (key : String) (item : Decoder (List β)) (enc : List β → Json)
    (get : α → List β) : Slot α :=
  of key [] (Decode.nullable [] item) enc get

@[simp] theorem stable_word (key : String) (get : α → UInt64) : (word key get).Stable :=
  stable_of Decode.stable_word (Decode.kept_word 0)

@[simp] theorem stable_text (key : String) (get : α → String) : (text key get).Stable :=
  stable_of Decode.stable_text (Decode.kept_text "")

@[simp] theorem stable_flag (key : String) (get : α → Bool) : (flag key get).Stable :=
  stable_of Decode.stable_bool (Decode.kept_bool false)

/-- The slot of a value that is written as null only if it was null. -/
theorem stable_optional {key : String} {item : Decoder β} {enc : β → Json} {get : α → Option β}
    (h : Decode.Stable item enc) (hnull : ∀ v a, item v = .ok a → v ≠ .null → enc a ≠ .null) :
    (optional key item enc get).Stable := by
  refine stable_of (Decode.stable_optional h hnull) fun inOrder => ?_
  rw [Json.ofOption, Json.listed_null]
  rfl

@[simp] theorem stable_optionalText (key : String) (get : α → Option String) :
    (optional key Decode.text .str get).Stable :=
  stable_optional Decode.stable_text fun _ _ _ _ => Json.noConfusion

@[simp] theorem stable_optionalWord (key : String) (get : α → Option UInt64) :
    (optional key Decode.word .ofWord get).Stable :=
  stable_optional Decode.stable_word fun _ _ _ _ => Json.noConfusion

@[simp] theorem stable_optionalValue (key : String) (get : α → Option Json) :
    (optional key Decode.value (fun v => v) get).Stable := by
  refine stable_optional Decode.stable_value fun v a ha hv => ?_
  rwa [← Except.ok.inj ha]

/-- The slot of a collection whose items are kept and whose empty collection is read as such. -/
theorem stable_collection {key : String} {item : Decoder (List β)} {enc : List β → Json}
    {get : α → List β} (h : Decode.Stable item enc) (hempty : Decode.Kept item enc [])
    (hnull : ∀ as, enc as ≠ .null) : (collection key item enc get).Stable := by
  refine stable_of (Decode.stable_nullable h hempty hnull) fun inOrder => ?_
  rw [Decode.nullable_of_ne_null fun hlisted => hnull [] (Json.listed_eq_null_iff.mp hlisted)]
  exact hempty inOrder

/-- The slot of an array of stable items. -/
theorem stable_array {key : String} {item : Decoder β} {enc : β → Json} {get : α → List β}
    (h : Decode.Stable item enc) :
    (collection key (Decode.list item) (fun as => .arr (as.map enc)) get).Stable := by
  refine stable_collection (Decode.stable_list h) (fun inOrder => ?_) fun _ => Json.noConfusion
  rw [Json.listed_arr]
  rfl

@[simp] theorem stable_texts (key : String) (get : α → List String) :
    (collection key (Decode.list Decode.text) .ofStrings get).Stable :=
  stable_array Decode.stable_text

/-- The slot of an object of free fields. -/
@[simp] theorem stable_dict (key : String) (get : α → Dict Json) :
    (collection key Decode.dict .obj get).Stable := by
  refine stable_collection Decode.stable_dict (fun inOrder => ?_) fun _ => Json.noConfusion
  cases inOrder <;> rfl

/-- Among slots there is one that says the same for null, for nothing and for the empty
collection. -/
theorem exists_collection {slots : List (Slot α)} {key : String} {empty : Json}
    (item : Decoder (List β)) (enc : List β → Json) (get : α → List β)
    (hmem : collection key item enc get ∈ slots) (hempty : item empty = .ok [])
    (hne : empty ≠ .null) :
    ∃ s ∈ slots, s.key = key ∧ ∀ m,
      (s.holds (some .null) m ↔ s.holds none m) ∧ (s.holds (some empty) m ↔ s.holds none m) := by
  refine ⟨_, hmem, rfl, fun m => ⟨Iff.rfl, ?_⟩⟩
  change Decode.nullable [] item empty = .ok (get m) ↔ Except.ok [] = .ok (get m)
  rw [Decode.nullable_of_ne_null hne, hempty]

end Slot

end Mailroom
