import Mailroom.Record.Model
import Mailroom.Terminal.Table
import Mailroom.Text.Decimal

/-!
# Pages of results

A list comes in pages, counted from one. The three counts are read leniently: a text of digits
counts as its number and anything unusable as zero, so a page that holds everything has a size of
zero and is the only one. The results are read strictly.
-/

namespace Mailroom

/-- One page of a list. -/
structure Page (α : Type) where
  results : List α
  total : UInt64
  page : UInt64
  perPage : UInt64

namespace Page

variable {α : Type}

/-- The number of pages, at least one. -/
def totalPages (p : Page α) : UInt64 :=
  if p.perPage = 0 then 1
  else
    let full := p.total / p.perPage
    max (if p.total % p.perPage = 0 then full else full + 1) 1

/-- Whether no page follows. -/
def isLastPage (p : Page α) : Bool :=
  p.totalPages ≤ p.page

/-- The number of the page that follows. -/
def nextPage? (p : Page α) : Option UInt64 :=
  if p.isLastPage then none else some (p.page + 1)

/-- Reads a count, taking what is none for zero. -/
def count (v : Json) : UInt64 :=
  match v with
  | .num (.int n) => if 0 ≤ n ∧ n < bitBound 64 then n.toNat.toUInt64 else 0
  | .str s => (Text.readWord? s).getD 0
  | _ => 0

/-- Reads a count that may be absent. -/
def countAt (v : Option Json) : UInt64 :=
  match v with
  | some v => count v
  | none => 0

/-- Reads the results, of which there are none if they are absent or null. -/
def readResults (item : Decoder α) (v : Option Json) : Except Mismatch (List α) :=
  match v with
  | some v => Decode.nullable [] (Decode.list item) v
  | none => .ok []

/-- Reads a page from an object, or from an array of the results and the counts. -/
def decode (item : Decoder α) : Decoder (Page α)
  | .obj fields =>
    (readResults item (Dict.find? fields "results")).map fun results =>
      ⟨results, countAt (Dict.find? fields "total"), countAt (Dict.find? fields "page"),
        countAt (Dict.find? fields "per_page")⟩
  | .arr vs =>
    match readResults item vs[0]? with
    | .error e => .error e
    | .ok results =>
      if vs.length > 4 then .error (.invalidLength vs.length "fewer elements in array")
      else .ok ⟨results, countAt vs[1]?, countAt vs[2]?, countAt vs[3]?⟩
  | v => .error (.invalidType v "struct Page")

/-- Writes a page. -/
def encode (item : α → Json) (p : Page α) : Json :=
  .obj [("results", .arr (p.results.map item)), ("total", .ofWord p.total),
    ("page", .ofWord p.page), ("per_page", .ofWord p.perPage)]

instance [Model α] : Model (Page α) := ⟨decode Model.decode, encode Model.encode⟩

/-- The results of a page as a table. -/
def table [Tabular α] (color : Bool) (rows : List α) : String :=
  Terminal.table (Tabular.titles α) (rows.map (Tabular.cells color))

end Page

end Mailroom
