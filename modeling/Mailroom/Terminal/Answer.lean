import Mailroom.Envelope.Basic
import Mailroom.Record.Page
import Mailroom.Terminal.Writer

/-!
# Writing answers

How the answers of the server are shown. Documents are shown in JSON in either format, and so is
everything where results are JSON; the payload alone, or the whole answer if that is asked for.
Where results are tables, a record has its own view, and a page is a table with a remark on its
place. Texts are shown as they are unless the whole answer is asked for.
-/

namespace Mailroom.Terminal.Writer

variable {α : Type}

/-- Writes an answer in JSON. -/
def value [Model α] (w : Writer) (e : Envelope α) : Output :=
  json (if w.wholeAnswer then e.encode Model.encode else Model.encode e.data)

/-- Writes an answer with a single record. -/
def record [Model α] [Detailed α] (w : Writer) (e : Envelope α) : Output :=
  match w.format with
  | .json => w.value e
  | .table => .result (Detailed.lines w.color e.data)

/-- The remark on the place of a page. -/
def placeText (p : Page α) : String :=
  s!"Page {Text.ofNat (max p.page 1).toNat} of {Text.ofNat p.totalPages.toNat} " ++
    s!"({Text.ofNat p.total.toNat} total)"

/-- Writes a page as a table. -/
def pageTable [Tabular α] (w : Writer) (p : Page α) : Output :=
  if p.results.isEmpty then w.info "No results"
  else (Output.result [Page.table w.color p.results]).andThen (.remark (placeText p))

/-- Writes an answer with a page. -/
def page [Model α] [Tabular α] (w : Writer) (e : Envelope (Page α)) : Output :=
  match w.format with
  | .json => w.value e
  | .table => w.pageTable e.data

/-- Writes an answer with a text. -/
def text (w : Writer) (e : Envelope String) : Output :=
  if w.wholeAnswer then w.value e else .result [e.data]

/-- Writes an answer in JSON and what was achieved. -/
def done [Model α] (w : Writer) (e : Envelope α) (achieved : String) : Output :=
  (w.value e).andThen (w.success achieved)

end Mailroom.Terminal.Writer
