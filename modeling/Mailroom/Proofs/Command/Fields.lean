import Mathlib.Data.List.Forall2
import Mailroom.Command.Field
import Mailroom.Proofs.Outcome
import Mailroom.Proofs.Text.Split

/-!
# Fields as they are written

A field names a key and gives a text for it. The key stands before the first equals sign; blanks
around it do not count, and there has to be something else (`WellFormed`). What comes of a list of
fields is one entry each, in their order, and nothing if a single one is not well formed.
-/

namespace Mailroom.Field

/-! ## One field -/

/-- A field is a key that is not blank, an equals sign and a value. -/
def WellFormed (field : String) : Prop :=
  ∃ key value : List Char, field.toList = key ++ '=' :: value ∧ '=' ∉ key ∧
    ∃ c ∈ key, Text.isBlankChar c = false

/-- A field gives a text for a name: the name, maybe between blanks, stands before the first equals
sign, and the text behind it. -/
def Names (field name text : String) : Prop :=
  ∃ key : List Char, field.toList = key ++ '=' :: text.toList ∧ '=' ∉ key ∧
    Text.trimChars key = name.toList ∧ name ≠ ""

theorem takeWhile_eq_of_not_mem {key : List Char} (h : '=' ∉ key) (value : List Char) :
    (key ++ '=' :: value).takeWhile (· ≠ '=') = key ∧
      (key ++ '=' :: value).dropWhile (· ≠ '=') = '=' :: value := by
  have hkey : ∀ c ∈ key, decide (c ≠ '=') = true := by
    intro c hc
    exact decide_eq_true fun heq => h (heq ▸ hc)
  rw [List.takeWhile_append_of_pos hkey, List.dropWhile_append_of_pos hkey]
  simp

/-- A text with an equals sign in it is what stands before the first one and what stands behind. -/
theorem eq_append_of_dropWhile {cs rest : List Char} {c : Char}
    (h : cs.dropWhile (· ≠ '=') = c :: rest) :
    cs = cs.takeWhile (· ≠ '=') ++ '=' :: rest ∧ '=' ∉ cs.takeWhile (· ≠ '=') := by
  have hne : cs.dropWhile (· ≠ '=') ≠ [] := by
    rw [h]
    exact List.cons_ne_nil c rest
  have hhead := List.head_dropWhile_not _ hne
  simp only [h, List.head_cons] at hhead
  obtain rfl : c = '=' := by simpa using hhead
  refine ⟨?_, fun hmem => ?_⟩
  · rw [← h, List.takeWhile_append_dropWhile]
  · simpa using List.mem_takeWhile_imp hmem

/-- Splitting a field gives its name and its text. -/
theorem split_eq_ok_iff {field name text : String} :
    split field = .ok (name, text) ↔ Names field name text := by
  constructor
  · intro h
    simp only [split] at h
    split at h
    · cases h
    · next c value hrest =>
      split at h
      · cases h
      · next hkey =>
        obtain ⟨rfl, rfl⟩ := Prod.mk.inj (Except.ok.inj h)
        obtain ⟨hfield, hmem⟩ := eq_append_of_dropWhile hrest
        refine ⟨_, by rw [String.toList_ofList]; exact hfield, hmem,
          String.toList_ofList.symm, fun hnil => hkey ?_⟩
        rw [← String.toList_inj, String.toList_ofList] at hnil
        rw [hnil]
        rfl
  · rintro ⟨key, hfield, hmem, hname, hne⟩
    obtain ⟨htake, hdrop⟩ := takeWhile_eq_of_not_mem hmem text.toList
    have hkey : name.toList.isEmpty = false := by
      rw [← Bool.not_eq_true, List.isEmpty_iff]
      exact fun hnil => hne (String.toList_inj.mp hnil)
    simp only [split]
    rw [hfield, htake, hdrop, hname, hkey]
    simp

/-- A field gives one text for one name. -/
theorem Names.unique {field name name' text text' : String} (h : Names field name text)
    (h' : Names field name' text') : name = name' ∧ text = text' := by
  have hsame := split_eq_ok_iff.mpr h
  rw [split_eq_ok_iff.mpr h'] at hsame
  exact Prod.mk.inj (Except.ok.inj hsame.symm)

/-- Exactly the well-formed fields are split. -/
theorem exists_split_eq_ok_iff (field : String) :
    (∃ e, split field = .ok e) ↔ WellFormed field := by
  constructor
  · rintro ⟨⟨name, text⟩, h⟩
    obtain ⟨key, hfield, hmem, hname, hne⟩ := split_eq_ok_iff.mp h
    refine ⟨key, text.toList, hfield, hmem, Classical.byContradiction fun hblank => hne ?_⟩
    rw [← String.toList_inj, ← hname]
    refine (Text.trimChars_eq_nil_iff key).mpr fun c hc => ?_
    exact Bool.not_eq_false _ ▸ fun h => hblank ⟨c, hc, h⟩
  · rintro ⟨key, value, hfield, hmem, c, hc, hblank⟩
    refine ⟨(String.ofList (Text.trimChars key), String.ofList value), split_eq_ok_iff.mpr
      ⟨key, by rw [String.toList_ofList]; exact hfield, hmem, String.toList_ofList.symm, ?_⟩⟩
    intro hnil
    rw [← String.toList_inj, String.toList_ofList] at hnil
    rw [(Text.trimChars_eq_nil_iff key).mp hnil c hc] at hblank
    cases hblank

/-- What starts with a bracket or a brace is no number. -/
theorem not_number_of_head {text : String}
    (h : text.toList.head? = some '[' ∨ text.toList.head? = some '\x7b') :
    Text.readSigned? (bitBound 63) text = none ∧ Binary64.ofSpelled? text = none := by
  obtain ⟨c, rest, hrest, hc⟩ : ∃ c rest, text.toList = c :: rest ∧ (c = '[' ∨ c = '\x7b') := by
    cases hcs : text.toList with
    | nil => simp [hcs] at h
    | cons c rest => exact ⟨c, rest, rfl, by simpa [hcs] using h⟩
  constructor
  · rcases hc with rfl | rfl <;>
      simp [Text.readSigned?, hrest, Text.readDigits?, Text.readDigitsFrom?, Text.digitValue?]
  · rcases hc with rfl | rfl <;>
      simp [Binary64.ofSpelled?, hrest, Binary64.takeSign, Binary64.takeFraction, Text.isDigit,
        Text.digitValue?, Text.readDigits?]

/-! ## Many fields -/

/-- Fields are read one by one. -/
theorem readAll_eq_ok_iff {α : Type} {read : String → Except Report α} {fields : List String}
    {as : List α} :
    readAll read fields = .ok as ↔ List.Forall₂ (fun field a => read field = .ok a) fields as := by
  induction fields generalizing as with
  | nil => simp [readAll, eq_comm]
  | cons field rest ih =>
    rw [readAll, List.forall₂_cons_left_iff]
    simp only [← ih]
    cases read field with
    | error e => simp
    | ok a => cases readAll read rest <;> simp [Except.map, eq_comm]

/-- All fields are read exactly if each one is. -/
theorem exists_readAll_eq_ok_iff {α : Type} {read : String → Except Report α}
    {fields : List String} :
    (∃ as, readAll read fields = .ok as) ↔ ∀ field ∈ fields, ∃ a, read field = .ok a := by
  simp only [readAll_eq_ok_iff]
  induction fields with
  | nil => simp
  | cons field rest ih =>
    rw [List.forall_mem_cons, ← ih]
    constructor
    · rintro ⟨_, hall⟩
      obtain ⟨a, as, hfirst, hrest, -⟩ := List.forall₂_cons_left_iff.mp hall
      exact ⟨⟨a, hfirst⟩, as, hrest⟩
    · rintro ⟨⟨a, hfirst⟩, as, hrest⟩
      exact ⟨a :: as, .cons hfirst hrest⟩

/-- A reading of fields that splits them first accepts well-formed ones only. -/
theorem wellFormed_of_readAll {α : Type} {read : String → Except Report α} {fields : List String}
    {as : List α} (hread : ∀ field a, read field = .ok a → ∃ e, split field = .ok e)
    (h : readAll read fields = .ok as) : ∀ field ∈ fields, WellFormed field := by
  intro field hmem
  obtain ⟨a, ha⟩ := exists_readAll_eq_ok_iff.mp ⟨as, h⟩ field hmem
  exact (exists_split_eq_ok_iff field).mp (hread field a ha)

/-! ## Entries -/

/-- A field gives an entry: what is made of its text, under its name. -/
def Gives (value : String → Json) (field : String) (e : String × Json) : Prop :=
  ∃ text, Names field e.1 text ∧ value text = e.2

theorem map_split_eq_ok_iff {value : String → Json} {field : String} {e : String × Json} :
    (split field).map (fun pair => (pair.1, value pair.2)) = .ok e ↔ Gives value field e := by
  rw [Outcome.map_eq_ok_iff]
  constructor
  · rintro ⟨⟨name, text⟩, hsplit, rfl⟩
    exact ⟨text, split_eq_ok_iff.mp hsplit, rfl⟩
  · rintro ⟨text, hnames, hvalue⟩
    exact ⟨(e.1, text), split_eq_ok_iff.mpr hnames, Prod.ext rfl hvalue⟩

/-- Fields that are read for entries give them one by one. -/
theorem readAll_entry_eq_ok_iff {value : String → Json} {fields : List String}
    {es : List (String × Json)} :
    readAll (fun field => (split field).map fun pair => (pair.1, value pair.2)) fields = .ok es ↔
      List.Forall₂ (Gives value) fields es := by
  simp only [readAll_eq_ok_iff, map_split_eq_ok_iff]

/-- Exactly well-formed fields are read for entries. -/
theorem exists_readAll_entry_iff {value : String → Json} {fields : List String} :
    (∃ es, readAll (fun field => (split field).map fun pair => (pair.1, value pair.2)) fields =
      .ok es) ↔ ∀ field ∈ fields, WellFormed field := by
  simp only [exists_readAll_eq_ok_iff, Outcome.map_eq_ok_iff]
  refine forall₂_congr fun field _ => ?_
  rw [← exists_split_eq_ok_iff]
  constructor
  · rintro ⟨_, pair, hsplit, -⟩
    exact ⟨pair, hsplit⟩
  · rintro ⟨pair, hsplit⟩
    exact ⟨_, pair, hsplit, rfl⟩

/-- The entries of fields are those of the typed ones, in their order, and then those of the plain
ones. -/
theorem entries_eq_ok_iff {typedFields plainFields : List String} {es : List (String × Json)} :
    entries typedFields plainFields = .ok es ↔ ∃ first last,
      List.Forall₂ (Gives typedValue) typedFields first ∧
      List.Forall₂ (Gives .str) plainFields last ∧ first ++ last = es := by
  simp only [← readAll_entry_eq_ok_iff]
  change entries typedFields plainFields = .ok es ↔ ∃ first last,
    readAll typed typedFields = .ok first ∧ readAll plain plainFields = .ok last ∧
      first ++ last = es
  unfold entries
  cases readAll typed typedFields with
  | error e => simp
  | ok first => simp [Outcome.map_eq_ok_iff]

/-- Exactly well-formed fields give entries. -/
theorem exists_entries_eq_ok_iff {typedFields plainFields : List String} :
    (∃ es, entries typedFields plainFields = .ok es) ↔
      ∀ field ∈ typedFields ++ plainFields, WellFormed field := by
  rw [List.forall_mem_append, ← @exists_readAll_entry_iff typedValue,
    ← @exists_readAll_entry_iff Json.str]
  simp only [entries_eq_ok_iff, ← readAll_entry_eq_ok_iff]
  constructor
  · rintro ⟨_, first, last, hfirst, hlast, -⟩
    exact ⟨⟨first, hfirst⟩, last, hlast⟩
  · rintro ⟨⟨first, hfirst⟩, last, hlast⟩
    exact ⟨_, first, last, hfirst, hlast, rfl⟩

/-- The pair of a typed field comes of a split. -/
theorem split_of_typed {field : String} {e : String × Json} (h : typed field = .ok e) :
    ∃ e, split field = .ok e := by
  obtain ⟨e, he, -⟩ := Outcome.map_eq_ok_iff.mp h
  exact ⟨e, he⟩

/-- The fields that give entries are well formed. -/
theorem wellFormed_of_entries {typedFields plainFields : List String}
    {es : List (String × Json)} (h : entries typedFields plainFields = .ok es) :
    ∀ field ∈ typedFields ++ plainFields, WellFormed field :=
  exists_entries_eq_ok_iff.mp ⟨es, h⟩

end Mailroom.Field
