import Mailroom.Failure.Report
import Mailroom.Json.Parser
import Mailroom.Text.Basic
import Mailroom.Text.Utf8

/-!
# What a command reads

Files and the standard input. A document is named by its file or, by a dash, the standard input. The
reasons why a file cannot be read are those of the operating system. A `Folder` holds files by their
paths and answers for paths below it.
-/

namespace Mailroom

/-- Why a file cannot be read. -/
inductive FileError where
  | notFound
  | isDirectory
  | notDirectory
  | other (reason : String)

/-- The description of a reason. -/
def FileError.message (e : FileError) : String :=
  match e with
  | notFound => "No such file or directory (os error 2)"
  | isDirectory => "Is a directory (os error 21)"
  | notDirectory => "Not a directory (os error 20)"
  | other reason => reason

/-- The files and the standard input of a command. -/
structure Inputs where
  file : String → Except FileError (List UInt8)
  standard : List UInt8

namespace Inputs

/-- The text of some bytes, which must be UTF-8. -/
def textOf (bytes : List UInt8) : Except FileError String :=
  match Text.utf8Chars? bytes with
  | some cs => .ok (String.ofList cs)
  | none => .error (.other "stream did not contain valid UTF-8")

/-- The name that stands for the standard input. -/
def standardName : String := "-"

/-- The text of a file or of the standard input. -/
def text (inputs : Inputs) (name : String) : Except Report String :=
  if name = standardName then
    (textOf inputs.standard).mapError fun e =>
      (Report.plain e.message).within "Failed to read stdin"
  else
    ((inputs.file name).bind textOf).mapError fun e =>
      (Report.plain e.message).within s!"Failed to read {name}"

/-- The document in a file or in the standard input. -/
def document (inputs : Inputs) (name : String) : Except Report Json :=
  (inputs.text name).bind fun content =>
    (Json.parse content).mapError fun e =>
      (Report.plain e.message).within s!"{name} is not valid JSON"

/-- The name of a file without the folders it lies in. -/
def baseName (path : String) : String :=
  let names := ((Text.parts '/' path.toList).map String.ofList).filter fun n => n ≠ "" ∧ n ≠ "."
  match names.getLast? with
  | some name => if name = ".." then "upload" else name
  | none => "upload"

end Inputs

/-- Files by their paths in a folder. -/
abbrev Folder := Dict (List UInt8)

namespace Folder

/-- Whether some file lies below a path. -/
def hasBelow (folder : Folder) (path : String) : Bool :=
  folder.any fun e => (path ++ "/").isPrefixOf e.1

/-- Follows the steps of a path from a place in the folder. -/
def walk (folder : Folder) (place steps : List String) : Except FileError (List UInt8) :=
  match steps with
  | [] => .error .isDirectory
  | "" :: rest => walk folder place rest
  | "." :: rest => walk folder place rest
  | ".." :: rest =>
    if place.isEmpty && !rest.isEmpty then .error .notFound else walk folder place.dropLast rest
  | name :: rest =>
    let here := place ++ [name]
    let path := "/".intercalate here
    match Dict.find? folder path with
    | some bytes => if rest.isEmpty then .ok bytes else .error .notDirectory
    | none => if hasBelow folder path then walk folder here rest else .error .notFound

/-- Reads the file at a path, which leads out of the folder if it starts with a slash. -/
def read (folder : Folder) (path : String) : Except FileError (List UInt8) :=
  let steps := (Text.parts '/' path.toList).map String.ofList
  match steps with
  | "" :: rest => if rest.all (· = "") then .error .isDirectory else .error .notFound
  | _ => walk folder [] steps

end Folder

end Mailroom
