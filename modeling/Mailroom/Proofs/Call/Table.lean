import Mathlib.Data.List.Induction
import Mailroom.Call.Operation
import Mailroom.Proofs.Dict.Order

/-!
# Tables and how they came about

A table is made of operations and then changed any number of times. Only what was done last for a
name matters: the table has an operation exactly if that was added and its name was not touched
again (`get?_edited_iff`).
-/

namespace Mailroom.OperationTable

/-- A change of a table. -/
inductive Edit where
  | add (op : Operation)
  | drop (name : String)

namespace Edit

/-- The name that a change is about. -/
def name (edit : Edit) : String :=
  match edit with
  | add op => op.name
  | drop name => name

/-- A table after a change. -/
def apply (t : OperationTable) (edit : Edit) : OperationTable :=
  match edit with
  | add op => t.adding op
  | drop name => t.without name

end Edit

/-- A table made of operations and then changed. -/
def edited (ops : List Operation) (edits : List Edit) : OperationTable :=
  edits.foldl Edit.apply (ofOperations ops)

@[simp] theorem edited_nil (ops : List Operation) : edited ops [] = ofOperations ops := rfl

/-- A history is everything that was done to a table, the operations it was made of included. -/
def history (ops : List Operation) (edits : List Edit) : List Edit :=
  ops.map .add ++ edits

/-- An operation was added in a history, and afterwards its name was not touched. -/
def Stands (history : List Edit) (op : Operation) : Prop :=
  ∃ before after, history = before ++ .add op :: after ∧ ∀ edit ∈ after, edit.name ≠ op.name

/-- Nothing stands in a table without a history. -/
theorem not_stands_nil (op : Operation) : ¬Stands [] op := by
  rintro ⟨before, after, h, -⟩
  exact absurd h.symm (by simp)

/-- After one more change the operation that it added stands, and those of other names. -/
theorem stands_concat_iff {done : List Edit} {edit : Edit} {op : Operation} :
    Stands (done ++ [edit]) op ↔ edit = .add op ∨ edit.name ≠ op.name ∧ Stands done op := by
  constructor
  · rintro ⟨before, after, h, huntouched⟩
    rcases List.eq_nil_or_concat after with rfl | ⟨after, last, rfl⟩
    · exact Or.inl (List.head_eq_of_cons_eq (List.append_inj_right' h rfl))
    · rw [List.concat_eq_append, ← List.cons_append, ← List.append_assoc] at h
      obtain rfl := List.head_eq_of_cons_eq (List.append_inj_right' h rfl)
      refine Or.inr ⟨huntouched edit (by simp), before, after, List.append_inj_left' h rfl, ?_⟩
      exact fun other hother => huntouched other (by simp [hother])
  · rintro (rfl | ⟨hname, before, after, rfl, huntouched⟩)
    · exact ⟨done, [], rfl, by simp⟩
    · refine ⟨before, after ++ [edit], by simp, fun other hother => ?_⟩
      rcases List.mem_append.mp hother with hother | hother
      · exact huntouched other hother
      · rwa [List.mem_singleton.mp hother]

theorem get?_apply (t : OperationTable) (edit : Edit) {name : String} :
    (edit.apply t).get? name = if name = edit.name then
      match edit with
      | .add op => some op
      | .drop _ => none
    else t.get? name := by
  cases edit with
  | add op => exact Dict.find?_insert t op.name name op
  | drop dropped => exact Dict.find?_erase t dropped name

/-- Making a table of operations is the same as adding them one after the other. -/
theorem edited_eq_foldl (ops : List Operation) (edits : List Edit) :
    edited ops edits = (history ops edits).foldl Edit.apply [] := by
  rw [history, List.foldl_append, List.foldl_map, edited, ofOperations, Dict.ofList,
    Dict.insertAll, List.foldl_map]
  rfl

/-- A table has the operations that stand in its history. -/
theorem get?_edited_iff {ops : List Operation} {edits : List Edit} {name : String}
    {op : Operation} :
    (edited ops edits).get? name = some op ↔ Stands (history ops edits) op ∧ op.name = name := by
  rw [edited_eq_foldl]
  generalize history ops edits = done
  induction done using List.reverseRecOn with
  | nil => simp [get?, not_stands_nil]
  | append_singleton done edit ih =>
    rw [List.foldl_append, List.foldl_cons, List.foldl_nil, get?_apply, stands_concat_iff]
    by_cases hname : name = edit.name
    · rw [if_pos hname]
      cases edit with
      | add added =>
        simp only [Option.some.injEq, Edit.add.injEq]
        constructor
        · rintro rfl
          exact ⟨Or.inl rfl, hname.symm⟩
        · rintro ⟨rfl | ⟨hother, -⟩, hop⟩
          · rfl
          · exact absurd (hname.symm.trans hop.symm) hother
      | drop dropped =>
        refine iff_of_false nofun ?_
        rintro ⟨hadded | ⟨hother, -⟩, hop⟩
        · cases hadded
        · exact hother (hname.symm.trans hop.symm)
    · rw [if_neg hname, ih]
      constructor
      · rintro ⟨hstands, rfl⟩
        exact ⟨Or.inr ⟨Ne.symm hname, hstands⟩, rfl⟩
      · rintro ⟨rfl | ⟨-, hstands⟩, hop⟩
        · exact absurd hop.symm hname
        · exact ⟨hstands, hop⟩

/-- What a table that was not changed has under a name is one of its operations, of that name. -/
theorem mem_of_get?_ofOperations {ops : List Operation} {name : String} {op : Operation}
    (h : (ofOperations ops).get? name = some op) : op ∈ ops ∧ op.name = name := by
  rw [← edited_nil, get?_edited_iff] at h
  obtain ⟨⟨before, after, hhistory, -⟩, hname⟩ := h
  have hmem : Edit.add op ∈ history ops [] := hhistory ▸ by simp
  rw [history, List.append_nil] at hmem
  obtain ⟨op', hop', heq⟩ := List.mem_map.mp hmem
  cases heq
  exact ⟨hop', hname⟩

/-- A table has something under the name of each of the operations it is made of. -/
theorem exists_get?_ofOperations {ops : List Operation} {op : Operation} (h : op ∈ ops) :
    ∃ found, (ofOperations ops).get? op.name = some found := by
  rw [← edited_nil, edited_eq_foldl, history, List.append_nil]
  induction ops using List.reverseRecOn with
  | nil => cases h
  | append_singleton ops last ih =>
    rw [List.map_append, List.foldl_append]
    change ∃ found, OperationTable.get? (Edit.apply _ (.add last)) op.name = some found
    rw [get?_apply]
    split
    · exact ⟨last, rfl⟩
    · next hname =>
      refine ih ((List.mem_append.mp h).resolve_right fun hlast => hname ?_)
      rw [List.mem_singleton.mp hlast]
      rfl

end Mailroom.OperationTable
