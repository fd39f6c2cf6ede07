import Mailroom.Json.Printer
import Mailroom.Terminal.Style

/-!
# Writing results

What a command writes goes to two streams: the result to standard output, and remarks to standard
error. Only where results are tables does a remark of success stand among them.
-/

namespace Mailroom.Terminal

/-- How results are written. -/
inductive Format where
  | json
  | table
deriving DecidableEq

/-- The text written to each stream. -/
structure Output where
  stdout : String
  stderr : String

namespace Output

/-- Nothing written. -/
def nothing : Output :=
  ⟨"", ""⟩

/-- One output after another. -/
def andThen (a b : Output) : Output :=
  ⟨a.stdout ++ b.stdout, a.stderr ++ b.stderr⟩

/-- Lines on standard output. -/
def result (lines : List String) : Output :=
  ⟨"".intercalate (lines.map (· ++ "\n")), ""⟩

/-- A line on standard error. -/
def remark (line : String) : Output :=
  ⟨"", line ++ "\n"⟩

end Output

/-- How a command writes: the format, whether colours are on, and whether the whole answer is shown.
-/
structure Writer where
  format : Format
  color : Bool
  wholeAnswer : Bool

namespace Writer

/-- A remark under a coloured label. -/
def labelled (w : Writer) (style : Style) (label text : String) : String :=
  paint w.color [style, .bold] label ++ " " ++ text

/-- Writes what went wrong. -/
def error (w : Writer) (text : String) : Output :=
  .remark (w.labelled .red "error:" text)

/-- Writes what should be noticed. -/
def warning (w : Writer) (text : String) : Output :=
  .remark (w.labelled .yellow "warning:" text)

/-- Writes a plain remark. -/
def info (_w : Writer) (text : String) : Output :=
  .remark text

/-- Writes that something went well. -/
def success (w : Writer) (text : String) : Output :=
  let line := w.labelled .green "✓" text
  match w.format with
  | .json => .remark line
  | .table => .result [line]

/-- Writes a value as JSON. -/
def json (v : Json) : Output :=
  .result [v.pretty]

end Writer

end Mailroom.Terminal
