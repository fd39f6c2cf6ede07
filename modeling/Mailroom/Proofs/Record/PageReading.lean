import Mailroom.Proofs.Record.Models
import Mailroom.Proofs.Text.Numeral
import Mailroom.Record.Page

/-!
# Reading pages

Of a page only the results can be wrong: they are nothing, null or an array whose items all fit. A
count is a whole number of 64 bits, or a numeral of one, and whatever else stands in its place
counts as zero. What other keys an object has never matters, and a page is read back from what it is
written as. All this holds of pages of any items that can be read back themselves.
-/

namespace Mailroom

namespace Decode

variable {α : Type} {item : Decoder α}

/-- The items of an array are read one by one. -/
theorem items_eq_ok_iff {vs : List Json} {as : List α} :
    items item vs = .ok as ↔ List.Forall₂ (fun v a => item v = .ok a) vs as := by
  induction vs generalizing as with
  | nil => simp [items, eq_comm]
  | cons v rest ih =>
    rw [items, List.forall₂_cons_left_iff]
    simp only [← ih]
    cases item v with
    | error e => simp
    | ok a => cases items item rest <;> simp [Except.map, eq_comm]

/-- All items are read exactly if each one is. -/
theorem exists_items_iff {vs : List Json} :
    (∃ as, items item vs = .ok as) ↔ ∀ v ∈ vs, ∃ a, item v = .ok a := by
  induction vs with
  | nil => simp [items]
  | cons v rest ih =>
    rw [List.forall_mem_cons, ← ih, items]
    cases item v with
    | error e => simp
    | ok a => simp [Outcome.map_eq_ok_iff]

end Decode

namespace Page

variable {α : Type}

/-! ## Counts -/

/-- What a value is counted as: a whole number of 64 bits as itself, a numeral of one as its number,
and everything else as zero. -/
inductive CountsAs : Option Json → UInt64 → Prop where
  | whole (n : UInt64) : CountsAs (some (.num (.int n.toNat))) n
  | numeral {text : String} {n : UInt64} (spells : Text.Spells text n.toNat) :
      CountsAs (some (.str text)) n
  | other {v : Option Json} (notWhole : ∀ n : UInt64, v ≠ some (.num (.int n.toNat)))
      (notNumeral : ∀ text (n : UInt64), v = some (.str text) → ¬Text.Spells text n.toNat) :
      CountsAs v 0

theorem countAt_ofWord (n : UInt64) : countAt (some (.ofWord n)) = n := by
  have hbound : n.toNat < bitBound 64 := n.toNat_lt
  rw [countAt, Json.ofWord, Json.ofNat, count, if_pos (by omega)]
  exact UInt64.ofNat_toNat

/-- A value that is neither a number nor a text counts as zero. -/
theorem countsAs_zero {v : Option Json} (hnumber : ∀ k, v ≠ some (.num (.int k)))
    (htext : ∀ text, v ≠ some (.str text)) : CountsAs v 0 :=
  .other (fun _ => hnumber _) fun text _ h => absurd h (htext text)

theorem countsAs_countAt (v : Option Json) : CountsAs v (countAt v) := by
  cases v with
  | none => exact countsAs_zero (by simp) (by simp)
  | some v =>
    rw [countAt]
    cases v with
    | null | bool | arr | obj => exact countsAs_zero (by simp) (by simp)
    | num x =>
      cases x with
      | float x => exact countsAs_zero (by simp) (by simp)
      | int k =>
        rw [count]
        split
        · next hrange =>
          have hword : ((k.toNat.toUInt64).toNat : Int) = k := by
            rw [Nat.toUInt64, UInt64.toNat_ofNat_of_lt' (show k.toNat < bitBound 64 by omega)]
            omega
          simpa only [hword] using CountsAs.whole k.toNat.toUInt64
        · next hrange =>
          refine .other (fun n h => hrange ?_) (by simp)
          have hbound : n.toNat < bitBound 64 := n.toNat_lt
          cases h
          omega
    | str text =>
      rw [count]
      cases hread : Text.readWord? text with
      | some n => exact .numeral (Text.readWord?_eq_some_iff.mp hread)
      | none =>
        refine .other (by simp) fun text' n h hspells => ?_
        cases h
        rw [Text.readWord?_eq_some_iff.mpr hspells] at hread
        cases hread

theorem CountsAs.unique {v : Option Json} {n m : UInt64} (hn : CountsAs v n)
    (hm : CountsAs v m) : n = m := by
  cases hn with
  | whole =>
    generalize hv : some (Json.num (.int n.toNat)) = v at hm
    cases hm with
    | whole =>
      simp only [Option.some.injEq, Json.num.injEq, Number.int.injEq, Int.natCast_inj] at hv
      exact UInt64.toNat_inj.mp hv
    | numeral => cases hv
    | other notWhole _ => exact absurd hv.symm (notWhole n)
  | numeral spells =>
    cases hm with
    | numeral spells' =>
      exact Option.some.inj ((Text.readWord?_eq_some_iff.mpr spells).symm.trans
        (Text.readWord?_eq_some_iff.mpr spells'))
    | other _ notNumeral => exact absurd spells (notNumeral _ _ rfl)
  | other notWhole notNumeral =>
    cases hm with
    | whole => exact absurd rfl (notWhole m)
    | numeral spells => exact absurd spells (notNumeral _ _ rfl)
    | other => rfl

/-- A count is read as what its value counts as. -/
theorem countAt_eq_iff {v : Option Json} {n : UInt64} : countAt v = n ↔ CountsAs v n := by
  constructor
  · rintro rfl
    exact countsAs_countAt v
  · exact (countsAs_countAt v).unique

/-! ## Results -/

/-- What the results of a page are read as: none where they are absent or null, and the items of an
array one by one. -/
inductive ResultsAs (item : Decoder α) : Option Json → List α → Prop where
  | absent : ResultsAs item none []
  | null : ResultsAs item (some .null) []
  | items {vs : List Json} {as : List α} (each : List.Forall₂ (fun v a => item v = .ok a) vs as) :
      ResultsAs item (some (.arr vs)) as

theorem readResults_arr (item : Decoder α) (vs : List Json) :
    readResults item (some (.arr vs)) = Decode.items item vs := rfl

theorem readResults_eq_ok_iff {item : Decoder α} {v : Option Json} {as : List α} :
    readResults item v = .ok as ↔ ResultsAs item v as := by
  constructor
  · intro h
    cases v with
    | none =>
      obtain rfl := Except.ok.inj h
      exact .absent
    | some v =>
      cases v with
      | null =>
        obtain rfl := Except.ok.inj h
        exact .null
      | arr vs => exact .items (Decode.items_eq_ok_iff.mp h)
      | bool | num | str | obj => cases h
  · intro h
    cases h with
    | absent | null => rfl
    | items each => exact Decode.items_eq_ok_iff.mpr each

/-- Results can be read exactly if they are absent, null or an array of items that can. -/
theorem exists_readResults_iff {item : Decoder α} {v : Option Json} :
    (∃ as, readResults item v = .ok as) ↔
      v = none ∨ v = some .null ∨ ∃ vs, v = some (.arr vs) ∧ ∀ w ∈ vs, ∃ a, item w = .ok a := by
  constructor
  · rintro ⟨as, h⟩
    cases readResults_eq_ok_iff.mp h with
    | absent => exact Or.inl rfl
    | null => exact Or.inr (Or.inl rfl)
    | items each =>
      exact Or.inr (Or.inr ⟨_, rfl, Decode.exists_items_iff.mp ⟨as, h⟩⟩)
  · rintro (rfl | rfl | ⟨vs, rfl, hall⟩)
    · exact ⟨[], rfl⟩
    · exact ⟨[], rfl⟩
    · exact Decode.exists_items_iff.mpr hall

/-! ## Pages -/

theorem decode_eq_ok_iff {item : Decoder α} {fields : Dict Json} {p : Page α} :
    decode item (.obj fields) = .ok p ↔
      ResultsAs item (Dict.find? fields "results") p.results ∧
      CountsAs (Dict.find? fields "total") p.total ∧ CountsAs (Dict.find? fields "page") p.page ∧
      CountsAs (Dict.find? fields "per_page") p.perPage := by
  obtain ⟨results, total, page, perPage⟩ := p
  simp only [decode, Outcome.map_eq_ok_iff, mk.injEq, ← readResults_eq_ok_iff, ← countAt_eq_iff]
  constructor
  · rintro ⟨_, hresults, rfl, htotal, hpage, hperPage⟩
    exact ⟨hresults, htotal, hpage, hperPage⟩
  · rintro ⟨hresults, htotal, hpage, hperPage⟩
    exact ⟨results, hresults, rfl, htotal, hpage, hperPage⟩

/-- A page is read back from what it is written as if its items are. -/
theorem decode_encode_of_kept {item : Decoder α} {enc : α → Json} {p : Page α}
    (h : ∀ a ∈ p.results, Decode.Kept item enc a) (inOrder : Bool) :
    decode item ((encode enc p).listed inOrder) = .ok p := by
  have hkeys : (Dict.keys [("results", Json.arr (p.results.map enc)), ("total", .ofWord p.total),
      ("page", .ofWord p.page), ("per_page", .ofWord p.perPage)]).Nodup := by
    change ["results", "total", "page", "per_page"].Nodup
    decide
  obtain ⟨fields, hlisted, -, hfind⟩ := Json.exists_listed_obj inOrder hkeys
  have hresults : readResults item (Dict.find? fields "results") = .ok p.results := by
    rw [hfind]
    change readResults item (some ((Json.arr (p.results.map enc)).listed inOrder)) = _
    rw [Json.listed_arr, readResults_arr, List.map_map]
    exact Decode.items_map fun a ha => h a ha inOrder
  have hcount : ∀ n : UInt64, countAt (some ((Json.ofWord n).listed inOrder)) = n := by
    intro n
    rw [Json.ofWord, Json.ofNat, Json.listed_num]
    exact countAt_ofWord n
  rw [encode, hlisted, decode_eq_ok_iff]
  refine ⟨readResults_eq_ok_iff.mp hresults, ?_, ?_, ?_⟩ <;> rw [hfind, ← countAt_eq_iff]
  · exact hcount p.total
  · exact hcount p.page
  · exact hcount p.perPage

/-- The items of results that are read out of an ordered object are kept. -/
theorem ResultsAs.kept {item : Decoder α} {enc : α → Json} (hitem : Decode.Stable item enc)
    {fields : Dict Json} (hfields : (Json.obj fields).Ordered) {as : List α}
    (h : ResultsAs item (Dict.find? fields "results") as) :
    ∀ a ∈ as, Decode.Kept item enc a := by
  intro a ha
  generalize hv : Dict.find? fields "results" = v at h
  cases h with
  | absent | null => cases ha
  | items each =>
    obtain ⟨w, hmem, hw⟩ := Decode.exists_of_mem_items (Decode.items_eq_ok_iff.mpr each) ha
    have hvs := hfields.of_find?_eq_some hv
    exact hitem w a (Json.ordered_arr_iff.mp hvs w hmem) hw

/-- What holds of pages of some items. -/
structure Laws (α : Type) [Model α] : Prop where
  /-- The results and the three counts are read one by one. -/
  decode_eq_ok_iff : ∀ (fields : Dict Json) (p : Page α), Model.decode (.obj fields) = .ok p ↔
    ResultsAs Model.decode (Dict.find? fields "results") p.results ∧
    CountsAs (Dict.find? fields "total") p.total ∧ CountsAs (Dict.find? fields "page") p.page ∧
    CountsAs (Dict.find? fields "per_page") p.perPage
  /-- Only the results decide whether there is a page. -/
  exists_decode_iff : ∀ fields : Dict Json,
    (∃ p : Page α, Model.decode (.obj fields) = .ok p) ↔
      Dict.find? fields "results" = none ∨ Dict.find? fields "results" = some .null ∨
      ∃ vs, Dict.find? fields "results" = some (.arr vs) ∧
        ∀ w ∈ vs, ∃ a : α, Model.decode w = .ok a
  /-- Other keys decide neither on the page nor on the complaint. -/
  decode_congr : ∀ fields fields' : Dict Json,
    (∀ key ∈ ["results", "total", "page", "per_page"],
      Dict.find? fields' key = Dict.find? fields key) →
    (Model.decode (.obj fields') : Except Mismatch (Page α)) = Model.decode (.obj fields)
  /-- What is read is read again from what it is written as. -/
  decode_encode : ∀ (fields : Dict Json) (p : Page α) (inOrder : Bool), (Json.obj fields).Ordered →
    Model.decode (.obj fields) = .ok p → Model.decode ((Model.encode p).listed inOrder) = .ok p

/-- Pages of items that can be read back obey the laws. -/
theorem laws_of_stable [Model α] (h : Decode.Stable (α := α) Model.decode Model.encode) :
    Laws α where
  decode_eq_ok_iff _ _ := decode_eq_ok_iff
  exists_decode_iff fields := by
    rw [← exists_readResults_iff]
    constructor
    · rintro ⟨p, hp⟩
      exact ⟨p.results, readResults_eq_ok_iff.mpr (decode_eq_ok_iff.mp hp).1⟩
    · rintro ⟨as, has⟩
      exact ⟨_, Outcome.map_eq_ok_iff.mpr ⟨as, has, rfl⟩⟩
  decode_congr fields fields' hsame := by
    simp only [List.forall_mem_cons] at hsame
    obtain ⟨hresults, htotal, hpage, hperPage, -⟩ := hsame
    change decode Model.decode _ = decode Model.decode _
    rw [decode, decode, hresults, htotal, hpage, hperPage]
  decode_encode _ _ inOrder hfields hp :=
    decode_encode_of_kept ((decode_eq_ok_iff.mp hp).1.kept h hfields) inOrder

theorem laws_of_openModel [OpenModel α] (h : OpenModel.Laws α) : Laws α :=
  laws_of_stable fun v m hv hm inOrder => h.decode_encode v m inOrder hv hm

/-- Pages of any values and of every model are read as far as their results are, with counts that
are zero where they are unusable, whatever else an object holds, and are read back from what they
are written as. -/
theorem laws_of_pages :
    Laws Json ∧ Laws MailingList ∧ Laws Subscriber ∧ Laws Campaign ∧ Laws Template ∧ Laws Media ∧
      Laws Bounce :=
  ⟨laws_of_stable Decode.stable_value, laws_of_openModel MailingList.described.laws,
    laws_of_openModel Subscriber.described.laws, laws_of_openModel Campaign.described.laws,
    laws_of_openModel Template.described.laws, laws_of_openModel Media.described.laws,
    laws_of_openModel Bounce.described.laws⟩

example : (Model.decode (.obj [("per_page", .str "all"), ("results", .null),
    ("total", .str "+07")]) : Except Mismatch (Page Json)) = .ok ⟨[], 7, 0, 0⟩ := by
  rfl

end Page

end Mailroom
