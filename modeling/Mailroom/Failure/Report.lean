import Mailroom.Failure.Chain

/-!
# Reports of failures

A report is a failure together with what was being done when it came about, the last added note
first. It is shown in one line, from the outermost note down to the failure and the causes behind
it. The first failed call in its chain of errors decides the exit code.
-/

namespace Mailroom

/-- What went wrong in the end. -/
inductive RootCause where
  | api (e : ApiError)
  | config (e : ConfigError)
  | plain (message : String)

/-- A failure with notes on what was being done, the outermost first. -/
structure Report where
  notes : List String
  cause : RootCause

namespace Report

/-- A failure without notes. -/
def ofApi (e : ApiError) : Report :=
  ⟨[], .api e⟩

/-- A failure that is only described. -/
def plain (message : String) : Report :=
  ⟨[], .plain message⟩

/-- Adds an outer note. -/
def within (note : String) (r : Report) : Report :=
  ⟨note :: r.notes, r.cause⟩

/-- The descriptions of the failure and of the causes behind it. -/
def causeTexts (r : Report) : List String :=
  match r.cause with
  | .api e => e.message :: e.causes
  | .config e => [e.message]
  | .plain message => [message]

/-- Every description, from the outermost note down. -/
def texts (r : Report) : List String :=
  r.notes ++ r.causeTexts

/-- The outermost description alone. -/
def headline (r : Report) : String :=
  r.texts.headD ""

/-- All descriptions in one line. -/
def line (r : Report) : String :=
  ": ".intercalate r.texts

/-- The failure and the causes behind it as a chain of errors. -/
def causeChain (r : Report) : ErrorChain :=
  match r.cause with
  | .api e => .ofTexts (.api e) e.causes
  | .config e => .root (.other e.message)
  | .plain message => .root (.other message)

/-- A report as a chain of errors. -/
def chain (r : Report) : ErrorChain :=
  r.notes.foldr ErrorChain.within r.causeChain

/-- The failed call behind a report, if there is one. -/
def apiError? (r : Report) : Option ApiError :=
  match r.cause with
  | .api e => some e
  | _ => none

end Report

namespace ExitCode

/-- Everything went well. -/
def success : Nat := 0

/-- A failure of no special kind. -/
def failure : Nat := 1

/-- A command line that cannot be understood. -/
def usage : Nat := 2

/-- The server did not accept the credentials. -/
def authentication : Nat := 4

/-- The record does not exist. -/
def notFound : Nat := 8

/-- The server asks for fewer requests. -/
def rateLimit : Nat := 32

/-- The exit code of a kind of failure. -/
def ofKind (k : FailureKind) : Nat :=
  match k with
  | .authentication => authentication
  | .notFound => notFound
  | .rateLimit => rateLimit
  | _ => failure

end ExitCode

/-- The exit code of a chain of errors. -/
def ErrorChain.exitCode (c : ErrorChain) : Nat :=
  match c.layers.findSome? ErrorLayer.api? with
  | some e => ExitCode.ofKind e.kind
  | none => ExitCode.failure

/-- The exit code of a report. -/
def Report.exitCode (r : Report) : Nat :=
  r.chain.exitCode

end Mailroom
