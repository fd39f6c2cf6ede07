/-!
# Dictionaries ordered by key

A dictionary is a list of entries in ascending order of their keys, compared character by character.
`insert` keeps that order and replaces an entry of the same key, so iteration order never depends on
the order of insertion. Two lookup equations, `find?_insert_self` and `find?_insert_of_ne`, say all
that later modules need of `insert`; `Ascending` is the order itself.
-/

namespace Mailroom

/-- Entries of distinct keys in ascending order. -/
abbrev Dict (α : Type) := List (String × α)

namespace Dict

variable {α : Type}

/-- The value stored under a key. -/
def find? (d : Dict α) (key : String) : Option α :=
  match d with
  | [] => none
  | (k, v) :: rest => if k = key then some v else find? rest key

/-- Whether a key is stored. -/
def contains (d : Dict α) (key : String) : Bool :=
  (find? d key).isSome

/-- Stores a value under a key, in the place its key has in the order. -/
def insert (d : Dict α) (key : String) (value : α) : Dict α :=
  match d with
  | [] => [(key, value)]
  | (k, v) :: rest =>
    if k = key then (key, value) :: rest
    else if key < k then (key, value) :: (k, v) :: rest
    else (k, v) :: insert rest key value

/-- Removes a key. -/
def erase (d : Dict α) (key : String) : Dict α :=
  List.filter (fun e => e.1 ≠ key) d

/-- Stores every entry of a list in turn, so that the last of two equal keys stays. -/
def insertAll (d : Dict α) (entries : List (String × α)) : Dict α :=
  entries.foldl (fun acc e => insert acc e.1 e.2) d

/-- The dictionary of a list of entries. -/
def ofList (entries : List (String × α)) : Dict α :=
  insertAll [] entries

/-- The keys in ascending order. -/
def keys (d : Dict α) : List String :=
  List.map Prod.fst d

/-- Every value replaced in place. -/
def mapValues {β : Type} (f : α → β) (d : Dict α) : Dict β :=
  List.map (fun e => (e.1, f e.2)) d

/-- The keys of a dictionary ascend strictly. -/
def Ascending (d : Dict α) : Prop :=
  List.Pairwise (fun a b => a.1 < b.1) d

@[simp] theorem find?_nil (key : String) : find? ([] : Dict α) key = none := rfl

theorem find?_cons (k : String) (v : α) (rest : Dict α) (key : String) :
    find? ((k, v) :: rest) key = if k = key then some v else find? rest key := rfl

/-- A stored value is found. -/
@[simp] theorem find?_insert_self (d : Dict α) (key : String) (value : α) :
    find? (insert d key value) key = some value := by
  induction d with
  | nil => simp [insert, find?_cons]
  | cons e rest ih =>
    obtain ⟨k, v⟩ := e
    unfold insert
    split
    · simp [find?_cons]
    · split
      · simp [find?_cons]
      · rw [find?_cons, if_neg ‹_›, ih]

/-- Storing a value leaves every other key as it was. -/
theorem find?_insert_of_ne (d : Dict α) {key other : String} (value : α) (h : other ≠ key) :
    find? (insert d key value) other = find? d other := by
  induction d with
  | nil => simp [insert, find?_cons, Ne.symm h]
  | cons e rest ih =>
    obtain ⟨k, v⟩ := e
    unfold insert
    split
    · next hk => subst hk; simp [find?_cons, Ne.symm h]
    · split
      · simp [find?_cons, Ne.symm h]
      · simp [find?_cons, ih]

theorem find?_insert (d : Dict α) (key other : String) (value : α) :
    find? (insert d key value) other = if other = key then some value else find? d other := by
  by_cases h : other = key
  · subst h; simp
  · rw [if_neg h, find?_insert_of_ne d value h]

end Dict

end Mailroom
