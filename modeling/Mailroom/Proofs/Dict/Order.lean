import Mailroom.Dict

/-!
# Ascending dictionaries

Every operation on dictionaries keeps the keys in strictly ascending order, and an ascending
dictionary is determined by its lookups. So an equation between dictionaries is proved key by key,
and `find?_insertAll` and `find?_erase` say all that is needed of the two bulk operations.
-/

namespace Mailroom.Dict

variable {α : Type}

/-! ## Lookups and entries -/

/-- A value that is found is an entry of the dictionary. -/
theorem mem_of_find?_eq_some {d : Dict α} {key : String} {value : α}
    (h : find? d key = some value) : (key, value) ∈ d := by
  induction d with
  | nil => simp at h
  | cons e rest ih =>
    obtain ⟨k, v⟩ := e
    rw [find?_cons] at h
    split at h
    · next hk =>
      rw [hk, Option.some.inj h]
      exact List.mem_cons_self
    · exact List.mem_cons_of_mem _ (ih h)

/-- A key is absent exactly if no entry has it. -/
theorem find?_eq_none_iff {d : Dict α} {key : String} :
    find? d key = none ↔ ∀ e ∈ d, e.1 ≠ key := by
  induction d with
  | nil => simp
  | cons e rest ih =>
    obtain ⟨k, v⟩ := e
    rw [find?_cons]
    by_cases hk : k = key <;> simp [hk, ih]

theorem contains_eq_true_iff {d : Dict α} {key : String} :
    contains d key = true ↔ ∃ value, find? d key = some value := by
  rw [contains, Option.isSome_iff_exists]

theorem contains_eq_false_iff {d : Dict α} {key : String} :
    contains d key = false ↔ find? d key = none := by
  rw [contains, Option.isSome_eq_false_iff, Option.isNone_iff_eq_none]

theorem find?_eq_none_iff_not_mem_keys {d : Dict α} {key : String} :
    find? d key = none ↔ key ∉ d.keys := by
  rw [find?_eq_none_iff, keys, List.mem_map]
  exact ⟨fun h ⟨e, he, hk⟩ => h e he hk, fun h e he hk => h ⟨e, he, hk⟩⟩

theorem isSome_find?_iff {d : Dict α} {key : String} :
    (find? d key).isSome = true ↔ key ∈ d.keys := by
  rw [← Option.ne_none_iff_isSome, Ne, find?_eq_none_iff_not_mem_keys, Decidable.not_not]

/-! ## The order of the keys -/

theorem ascending_nil : Ascending ([] : Dict α) :=
  List.Pairwise.nil

theorem ascending_cons {k : String} {v : α} {rest : Dict α} :
    Ascending ((k, v) :: rest) ↔ (∀ e ∈ rest, k < e.1) ∧ Ascending rest :=
  List.pairwise_cons

/-- No key of an ascending dictionary occurs twice. -/
theorem Ascending.nodup_keys {d : Dict α} (h : Ascending d) : d.keys.Nodup := by
  refine List.pairwise_map.mpr (List.Pairwise.imp (fun hlt heq => ?_) h)
  rw [heq] at hlt
  exact String.lt_irrefl _ hlt

/-- The first key of an ascending dictionary does not occur again. -/
theorem find?_eq_none_of_ascending_cons {k : String} {v : α} {rest : Dict α}
    (h : Ascending ((k, v) :: rest)) : find? rest k = none := by
  rw [find?_eq_none_iff]
  intro e he hk
  have hlt := (ascending_cons.mp h).1 e he
  rw [hk] at hlt
  exact String.lt_irrefl k hlt

/-- An entry is found if no other has its key. -/
theorem find?_eq_some_of_mem {d : Dict α} (h : d.keys.Nodup) {key : String} {value : α}
    (hmem : (key, value) ∈ d) : find? d key = some value := by
  induction d with
  | nil => cases hmem
  | cons e rest ih =>
    obtain ⟨k, v⟩ := e
    have hparts := List.nodup_cons.mp h
    rw [find?_cons]
    rcases List.mem_cons.mp hmem with he | hmem
    · obtain ⟨rfl, rfl⟩ := Prod.mk.inj he
      exact if_pos rfl
    · have hne : k ≠ key := by
        rintro rfl
        exact hparts.1 (List.mem_map.mpr ⟨_, hmem, rfl⟩)
      rw [if_neg hne, ih hparts.2 hmem]

/-- In an ascending dictionary the entries are what is found. -/
theorem find?_eq_some_iff {d : Dict α} (h : Ascending d) {key : String} {value : α} :
    find? d key = some value ↔ (key, value) ∈ d :=
  ⟨mem_of_find?_eq_some, find?_eq_some_of_mem h.nodup_keys⟩

/-- The entries after an insertion are the new one and some of those before. -/
theorem mem_insert {d : Dict α} {key : String} {value : α} {e : String × α}
    (h : e ∈ insert d key value) : e = (key, value) ∨ e ∈ d := by
  induction d with
  | nil => simpa [insert] using h
  | cons first rest ih =>
    obtain ⟨k, v⟩ := first
    unfold insert at h
    split at h
    · exact (List.mem_cons.mp h).imp_right (List.mem_cons_of_mem _)
    · split at h
      · exact List.mem_cons.mp h
      · rcases List.mem_cons.mp h with rfl | h
        · exact Or.inr List.mem_cons_self
        · exact (ih h).imp_right (List.mem_cons_of_mem _)

/-- The entries after many insertions are among those inserted and those before. -/
theorem mem_of_mem_insertAll {d : Dict α} {entries : List (String × α)} {e : String × α}
    (h : e ∈ insertAll d entries) : e ∈ entries ∨ e ∈ d := by
  induction entries generalizing d with
  | nil => exact Or.inr h
  | cons first rest ih =>
    rcases ih h with hrest | hinsert
    · exact Or.inl (List.mem_cons_of_mem _ hrest)
    · rcases mem_insert hinsert with rfl | hd
      · exact Or.inl List.mem_cons_self
      · exact Or.inr hd

/-- A new key adds its entry to those before and takes none away. -/
theorem mem_insert_iff_of_find?_eq_none {d : Dict α} {key : String} {value : α}
    (h : find? d key = none) {e : String × α} :
    e ∈ insert d key value ↔ e = (key, value) ∨ e ∈ d := by
  induction d with
  | nil => simp [insert]
  | cons first rest ih =>
    obtain ⟨k, v⟩ := first
    have hparts : k ≠ key ∧ find? rest key = none := by
      rw [find?_cons] at h
      split at h
      · cases h
      · next hk => exact ⟨hk, h⟩
    rw [insert, if_neg hparts.1]
    split
    · exact List.mem_cons
    · rw [List.mem_cons, ih hparts.2, List.mem_cons, or_left_comm]

/-- A new key whose entry is dropped leaves what is kept as it was. -/
theorem filter_insert_of_find?_eq_none {p : String × α → Bool} {d : Dict α} {key : String}
    {value : α} (h : find? d key = none) (hp : p (key, value) = false) :
    (insert d key value).filter p = List.filter p d := by
  induction d with
  | nil => simp [insert, hp]
  | cons first rest ih =>
    obtain ⟨k, v⟩ := first
    rw [find?_cons] at h
    split at h
    · cases h
    · next hk =>
      rw [insert, if_neg hk]
      split
      · rw [List.filter_cons_of_neg (by simp [hp])]
      · rw [List.filter_cons, List.filter_cons, ih h]

/-- Where no other entry is kept, a new one is the only one. -/
theorem filter_insert_of_forall {p : String × α → Bool} {d : Dict α} {key : String} {value : α}
    (h : ∀ e ∈ d, p e = false) (hp : p (key, value) = true) :
    (insert d key value).filter p = [(key, value)] := by
  induction d with
  | nil => simp [insert, hp]
  | cons first rest ih =>
    obtain ⟨k, v⟩ := first
    have hparts := List.forall_mem_cons.mp h
    have hrest : List.filter p rest = [] := List.filter_eq_nil_iff.mpr (by simpa using hparts.2)
    rw [insert]
    split
    · rw [List.filter_cons_of_pos hp, hrest]
    · split
      · rw [List.filter_cons_of_pos hp, List.filter_cons_of_neg (by simp [hparts.1]), hrest]
      · rw [List.filter_cons_of_neg (by simp [hparts.1]), ih hparts.2]

/-- What holds of any two entries still does with one more that is related to all of them. -/
theorem pairwise_insert {R : String × α → String × α → Prop} (hsymm : ∀ {a b}, R a b → R b a)
    {d : Dict α} {key : String} {value : α} (hd : List.Pairwise R d)
    (hnew : ∀ e ∈ d, R (key, value) e) : List.Pairwise R (insert d key value) := by
  induction d with
  | nil => exact List.pairwise_singleton R _
  | cons first rest ih =>
    obtain ⟨k, v⟩ := first
    have hparts := List.pairwise_cons.mp hd
    have hrest : ∀ e ∈ rest, R (key, value) e :=
      fun e he => hnew e (List.mem_cons_of_mem _ he)
    unfold Dict.insert
    split
    · exact List.pairwise_cons.mpr ⟨hrest, hparts.2⟩
    · split
      · exact List.pairwise_cons.mpr ⟨hnew, hd⟩
      · refine List.pairwise_cons.mpr ⟨fun e he => ?_, ih hparts.2 hrest⟩
        rcases mem_insert he with rfl | he
        · exact hsymm (hnew (k, v) List.mem_cons_self)
        · exact hparts.1 e he

/-- Storing a value keeps the keys ascending. -/
theorem Ascending.insert {d : Dict α} (h : Ascending d) (key : String) (value : α) :
    Ascending (insert d key value) := by
  induction d with
  | nil => exact ascending_cons.mpr ⟨by simp, h⟩
  | cons first rest ih =>
    obtain ⟨k, v⟩ := first
    have hrest := ascending_cons.mp h
    unfold Dict.insert
    split
    · next hk => exact ascending_cons.mpr ⟨hk ▸ hrest.1, hrest.2⟩
    · next hk =>
      split
      · next hlt =>
        refine ascending_cons.mpr ⟨fun e he => ?_, h⟩
        rcases List.mem_cons.mp he with rfl | he
        · exact hlt
        · exact String.lt_trans hlt (hrest.1 e he)
      · next hlt =>
        refine ascending_cons.mpr ⟨fun e he => ?_, ih hrest.2⟩
        rcases mem_insert he with rfl | he
        · exact Decidable.not_not.mp fun hge =>
            hk (String.le_antisymm (String.not_lt.mp hlt) (String.not_lt.mp hge))
        · exact hrest.1 e he

/-- Removing a key keeps the keys ascending. -/
theorem Ascending.erase {d : Dict α} (h : Ascending d) (key : String) :
    Ascending (erase d key) :=
  List.Pairwise.filter _ h

/-- Storing many values keeps the keys ascending. -/
theorem Ascending.insertAll {d : Dict α} (h : Ascending d) (entries : List (String × α)) :
    Ascending (insertAll d entries) := by
  induction entries generalizing d with
  | nil => exact h
  | cons e rest ih => exact ih (h.insert e.1 e.2)

/-- The keys ascend whatever is done to the values. -/
theorem ascending_mapValues_iff {β : Type} {f : α → β} {d : Dict α} :
    Ascending (mapValues f d) ↔ Ascending d :=
  List.pairwise_map

/-- A dictionary made of entries is ascending, whatever their order. -/
theorem ascending_ofList (entries : List (String × α)) : Ascending (ofList entries) :=
  ascending_nil.insertAll entries

/-- Ascending dictionaries with the same lookups are equal. -/
theorem Ascending.ext {d d' : Dict α} (h : Ascending d) (h' : Ascending d')
    (hf : ∀ key, find? d key = find? d' key) : d = d' := by
  have hmem : ∀ e, e ∈ d ↔ e ∈ d' := by
    intro e
    rw [← find?_eq_some_iff h, ← find?_eq_some_iff h', hf]
  induction d generalizing d' with
  | nil =>
    cases d' with
    | nil => rfl
    | cons e rest => exact absurd ((hmem e).mpr List.mem_cons_self) (by simp)
  | cons e rest ih =>
    cases d' with
    | nil => exact absurd ((hmem e).mp List.mem_cons_self) (by simp)
    | cons e' rest' =>
      have hrest := ascending_cons.mp h
      have hrest' := ascending_cons.mp h'
      -- Each first entry is the other one or comes after it, and both cannot be later.
      have he : e = e' := by
        rcases List.mem_cons.mp ((hmem e).mp List.mem_cons_self) with he | hlater
        · exact he
        · rcases List.mem_cons.mp ((hmem e').mpr List.mem_cons_self) with he | hlater'
          · exact he.symm
          · exact absurd (hrest.1 _ hlater') (String.lt_asymm (hrest'.1 _ hlater))
      subst he
      have htail : ∀ key, find? rest key = find? rest' key := by
        intro key
        have hkey := hf key
        rw [find?_cons, find?_cons] at hkey
        split at hkey
        · next hk =>
          rw [← hk, find?_eq_none_of_ascending_cons h, find?_eq_none_of_ascending_cons h']
        · exact hkey
      rw [ih hrest.2 hrest'.2 htail fun e => by
        rw [← find?_eq_some_iff hrest.2, ← find?_eq_some_iff hrest'.2, htail]]

/-- Ascending dictionaries with the same entries are equal. -/
theorem Ascending.ext_of_mem {d d' : Dict α} (h : Ascending d) (h' : Ascending d')
    (hmem : ∀ e, e ∈ d ↔ e ∈ d') : d = d' := by
  refine h.ext h' fun key => Option.ext fun value => ?_
  rw [find?_eq_some_iff h, find?_eq_some_iff h', hmem]

/-! ## The order of storing -/

/-- Of two values that are stored under one key the second one stays. -/
theorem insert_insert_self (d : Dict α) (key : String) (v w : α) :
    insert (insert d key v) key w = insert d key w := by
  induction d with
  | nil => simp [insert]
  | cons e rest ih =>
    obtain ⟨k, x⟩ := e
    by_cases hk : k = key
    · simp [insert, hk]
    · by_cases hlt : key < k
      · simp [insert, hk, hlt]
      · simp [insert, hk, hlt, ih]

private theorem insert_comm_of_lt (d : Dict α) {k l : String} (h : k < l) (v w : α) :
    insert (insert d k v) l w = insert (insert d l w) k v := by
  have hne : k ≠ l := fun heq => String.lt_irrefl l (heq ▸ h)
  have hasymm : ¬l < k := String.lt_asymm h
  induction d with
  | nil => simp [insert, hne, hne.symm, h, hasymm]
  | cons e rest ih =>
    obtain ⟨m, x⟩ := e
    -- The smaller key takes the place of the first entry, comes in front of it or behind it.
    by_cases hmk : m = k
    · subst hmk
      simp [insert, hne, hasymm]
    by_cases hkm : k < m
    · by_cases hml : m = l
      · simp [insert, hml, hne, hne.symm, h, hasymm]
      · by_cases hlm : l < m <;> simp [insert, hmk, hml, hne, hne.symm, h, hkm, hlm, hasymm]
    · have hlm : ¬l < m := fun hlt => hkm (String.lt_trans h hlt)
      have hml : m ≠ l := fun heq => hkm (heq ▸ h)
      simp [insert, hmk, hkm, hml, hlm, ih]

/-- Values under two keys may be stored in either order. -/
theorem insert_comm (d : Dict α) {k l : String} (h : k ≠ l) (v w : α) :
    insert (insert d k v) l w = insert (insert d l w) k v := by
  by_cases hlt : k < l
  · exact insert_comm_of_lt d hlt v w
  · have hgt : l < k := by
      refine Classical.byContradiction fun hgt => h ?_
      exact String.le_antisymm (String.not_lt.mp hgt) (String.not_lt.mp hlt)
    exact (insert_comm_of_lt d hgt w v).symm

/-! ## Lookups after bulk operations -/

/-- After storing entries of distinct keys, these come before what was stored already. -/
theorem find?_insertAll_of_nodup (d : Dict α) {entries : Dict α} (h : entries.keys.Nodup)
    (key : String) :
    find? (insertAll d entries) key = (find? entries key).or (find? d key) := by
  induction entries generalizing d with
  | nil => rfl
  | cons e rest ih =>
    obtain ⟨k, v⟩ := e
    have hparts := List.nodup_cons.mp h
    change find? (insertAll (insert d k v) rest) key = _
    rw [ih _ hparts.2, find?_cons, find?_insert]
    by_cases hk : key = k
    · subst hk
      simp [find?_eq_none_iff_not_mem_keys.mpr hparts.1]
    · simp [hk, Ne.symm hk]

/-- After storing the entries of a dictionary, these come before what was stored already. -/
theorem find?_insertAll (d : Dict α) {entries : Dict α} (h : Ascending entries) (key : String) :
    find? (insertAll d entries) key = (find? entries key).or (find? d key) :=
  find?_insertAll_of_nodup d h.nodup_keys key

/-- Of three dictionaries, one over the other, the upper two may be put together first. -/
theorem Ascending.insertAll_assoc {a b c : Dict α} (ha : Ascending a) (hb : Ascending b)
    (hc : Ascending c) :
    Dict.insertAll (Dict.insertAll a b) c = Dict.insertAll a (Dict.insertAll b c) := by
  refine ((ha.insertAll b).insertAll c).ext (ha.insertAll _) fun key => ?_
  rw [find?_insertAll _ hc, find?_insertAll _ hb, find?_insertAll _ (hb.insertAll c),
    find?_insertAll _ hc, Option.or_assoc]

/-- Storing the entries of a dictionary one after the other gives the dictionary. -/
theorem Ascending.ofList_eq {d : Dict α} (h : Ascending d) : ofList d = d := by
  refine (ascending_ofList d).ext h fun key => ?_
  rw [ofList, find?_insertAll _ h, find?_nil, Option.or_none]

/-- A lookup after replacing every value. -/
theorem find?_mapValues {β : Type} (f : α → β) (d : Dict α) (key : String) :
    find? (mapValues f d) key = (find? d key).map f := by
  induction d with
  | nil => rfl
  | cons e rest ih =>
    obtain ⟨k, v⟩ := e
    rw [find?_cons, apply_ite (Option.map f), ← ih]
    rfl

@[simp] theorem keys_mapValues {β : Type} (f : α → β) (d : Dict α) :
    (mapValues f d).keys = d.keys := by
  simp [keys, mapValues]

/-- A lookup in two dictionaries, one after the other. -/
theorem find?_append (d d' : Dict α) (key : String) :
    find? (d ++ d') key = (find? d key).or (find? d' key) := by
  induction d with
  | nil => rfl
  | cons e rest ih =>
    obtain ⟨k, v⟩ := e
    rw [List.cons_append, find?_cons, find?_cons, ih]
    split <;> rfl

/-- After storing entries one after the other, the last one of a key is found, and else what was
stored already. -/
theorem find?_insertAll_eq_reverse (d : Dict α) (entries : List (String × α)) (key : String) :
    find? (insertAll d entries) key = (find? entries.reverse key).or (find? d key) := by
  induction entries generalizing d with
  | nil => rfl
  | cons e rest ih =>
    obtain ⟨k, v⟩ := e
    change find? (insertAll (insert d k v) rest) key = _
    rw [ih, find?_insert, List.reverse_cons, find?_append, Option.or_assoc, find?_cons, find?_nil]
    by_cases hk : key = k
    · rw [if_pos hk, if_pos hk.symm, Option.some_or]
    · rw [if_neg hk, if_neg (Ne.symm hk), Option.none_or]

/-- A value stands in the last entry of a key in a list. -/
inductive LastEntry : List (String × α) → String → α → Prop where
  | here {key : String} {value : α} {rest : List (String × α)} (none : ∀ e ∈ rest, e.1 ≠ key) :
      LastEntry ((key, value) :: rest) key value
  | later {first : String × α} {key : String} {value : α} {rest : List (String × α)}
      (last : LastEntry rest key value) : LastEntry (first :: rest) key value

theorem LastEntry.mapValues {β : Type} {entries : List (String × α)} {key : String} {value : α}
    (h : LastEntry entries key value) (f : α → β) :
    LastEntry (Dict.mapValues f entries) key (f value) := by
  induction h with
  | here hnone => exact .here (List.forall_mem_map.mpr hnone)
  | later _ ih => exact .later ih

/-- Entries of other keys behind it leave a last entry the last one. -/
theorem LastEntry.append {entries others : List (String × α)} {key : String} {value : α}
    (h : LastEntry entries key value) (hothers : ∀ e ∈ others, e.1 ≠ key) :
    LastEntry (entries ++ others) key value := by
  induction h with
  | here hnone => exact .here (List.forall_mem_append.mpr ⟨hnone, hothers⟩)
  | later _ ih => exact .later (ih hothers)

/-- A dictionary made of entries has under a key the value of the last entry of the key. -/
theorem find?_ofList_eq_some_iff {entries : List (String × α)} {key : String} {value : α} :
    find? (ofList entries) key = some value ↔ LastEntry entries key value := by
  rw [ofList, find?_insertAll_eq_reverse, find?_nil, Option.or_none]
  induction entries with
  | nil =>
    refine ⟨fun h => ?_, fun h => ?_⟩ <;> cases h
  | cons first rest ih =>
    obtain ⟨k, v⟩ := first
    rw [List.reverse_cons, find?_append, Option.or_eq_some_iff, ih, find?_eq_none_iff, find?_cons,
      find?_nil]
    constructor
    · rintro (hlast | ⟨hnone, hfirst⟩)
      · exact .later hlast
      · split at hfirst
        · next hk =>
          obtain rfl := Option.some.inj hfirst
          exact hk ▸ .here fun e he => hk ▸ hnone e (List.mem_reverse.mpr he)
        · cases hfirst
    · intro hlast
      cases hlast with
      | here hnone => exact Or.inr ⟨fun e he => hnone e (List.mem_reverse.mp he), if_pos rfl⟩
      | later hlast => exact Or.inl hlast

/-- A key that occurs in a list has a last entry there. -/
theorem exists_lastEntry {entries : List (String × α)} {e : String × α} (h : e ∈ entries) :
    ∃ value, LastEntry entries e.1 value := by
  induction entries generalizing e with
  | nil => cases h
  | cons first rest ih =>
    by_cases hrest : ∃ other ∈ rest, other.1 = e.1
    · obtain ⟨other, hother, hkey⟩ := hrest
      obtain ⟨value, hlast⟩ := ih hother
      exact ⟨value, hkey ▸ .later hlast⟩
    · rcases List.mem_cons.mp h with rfl | h
      · exact ⟨e.2, .here fun other hother hkey => hrest ⟨other, hother, hkey⟩⟩
      · exact absurd ⟨e, h, rfl⟩ hrest

/-- Removing a key removes it and nothing else. -/
theorem find?_erase (d : Dict α) (key other : String) :
    find? (erase d key) other = if other = key then none else find? d other := by
  induction d with
  | nil => simp [erase]
  | cons e rest ih =>
    obtain ⟨k, v⟩ := e
    simp only [erase, List.filter_cons, decide_eq_true_eq] at ih ⊢
    by_cases hk : k = key
    · subst hk
      by_cases ho : other = k
      · simpa [ho] using ih
      · simpa [ho, find?_cons, Ne.symm ho] using ih
    · by_cases ho : other = key
      · subst ho
        simpa [hk, find?_cons] using ih
      · by_cases hko : k = other <;> simp_all [find?_cons]

/-- Storing a removed value again restores the dictionary. -/
theorem insert_erase {d : Dict α} (h : Ascending d) {key : String} {value : α}
    (hf : find? d key = some value) : insert (erase d key) key value = d := by
  refine ((h.erase key).insert key value).ext h fun other => ?_
  rw [find?_insert, find?_erase]
  by_cases ho : other = key
  · rw [if_pos ho, ho, hf]
  · rw [if_neg ho, if_neg ho]

end Mailroom.Dict
