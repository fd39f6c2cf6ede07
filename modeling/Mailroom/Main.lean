import Mailroom.Command.Run
import Mailroom.CommandLine.Language

/-!
# The program

Reads the command line, the environment and the file that the command needs, runs the command and
writes what came of it. There is no network behind the program: a request ends as with a server that
closes the connection. Log lines are not written: by default such a run has none.
-/

open Mailroom

/-- The variables that configure a client, as far as they are set. -/
def setVariables : IO Environment := do
  let names := [Environment.baseUrlName, Environment.usernameName, Environment.tokenName,
    Environment.timeoutName, Environment.retriesName, Environment.headersName]
  let values ← names.mapM fun name => do return (name, ← IO.getEnv name)
  return Dict.ofList (values.filterMap fun e => e.2.map fun value => (e.1, value))

/-- Why the operating system did not give a file. -/
def reasonOf (e : IO.Error) : FileError :=
  match e with
  | .noFileOrDirectory .. => .notFound
  | .inappropriateType _ code _ => if code = 21 then .isDirectory else .notDirectory
  | other => .other (toString other)

/-- The contents of a file, or why it cannot be read. -/
def readContents (name : String) : IO (Except FileError (List UInt8)) := do
  try
    let bytes ← IO.FS.readBinFile name
    return .ok bytes.toList
  catch e => return .error (reasonOf e)

/-- The inputs of a command, of which it reads one at most. -/
def readInputs (command : Command) : IO Inputs := do
  match command with
  | .server c =>
    match c.inputName? with
    | some name =>
      if name = Inputs.standardName && c.body?.isSome then
        let bytes ← (← IO.getStdin).readBinToEnd
        return ⟨fun _ => .error .notFound, bytes.toList⟩
      else
        let contents ← readContents name
        return ⟨fun _ => contents, []⟩
    | none => return ⟨fun _ => .error .notFound, []⟩
  | _ => return ⟨fun _ => .error .notFound, []⟩

/-- Writes text to the two streams. -/
def emit (o : Terminal.Output) : IO Unit := do
  IO.print o.stdout
  IO.eprint o.stderr

/-- The program. -/
def main (args : List String) : IO UInt32 := do
  match Invocation.ofWords args with
  | .error u =>
    match u.output with
    | some o => emit o
    | none => pure ()
    return u.exitCode.toUInt32
  | .ok invocation =>
    let surroundings : Surroundings :=
      ⟨← setVariables, ← readInputs invocation.command, ← (← IO.getStdout).isTty⟩
    let o := invocation.run surroundings (List.replicate 2 .dropped)
    emit o.output
    return o.exitCode.toUInt32
