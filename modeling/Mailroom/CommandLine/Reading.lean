import Mailroom.CommandLine.Grammar

/-!
# Reading command lines

A command line is read word by word. An option waits for its value, and its values are stored when
the next argument is met; a positional argument collects values in the same way. Words that name a
level lead into it. At the end the innermost level is finished first.

The values of an argument are stored by `store`, which refuses an option without a value, an
argument that is given twice and takes one value, and a value that cannot be read, in this order.
-/

namespace Mailroom.CommandLine

/-- A level on which words are being read. -/
structure Progress where
  given : Given
  /-- An argument whose values are not stored yet; an option without values waits for one. -/
  pending : Option (Argument × List String)
  /-- The place of the next positional argument. -/
  place : Nat
  /-- Whether only positional arguments follow. -/
  trailing : Bool

namespace Progress

/-- A level before its first word. -/
def start : Progress :=
  ⟨[], none, 0, false⟩

/-- Stores values of an argument. -/
def store (given : Given) (a : Argument) (values : List String) : Except Usage Given :=
  let earlier := Dict.find? given a.name
  if a.takesValue && values.isEmpty then .error .invalidValue
  else if a.role ≠ .several && earlier.isSome then .error .conflict
  else
    let values := a.separated values
    match values.findSome? a.form.fault? with
    | some e => .error e
    | none => .ok (Dict.insert given a.name (earlier.getD [] ++ values))

/-- Stores the values of the argument that is not stored yet. -/
def settled (p : Progress) : Except Usage Progress :=
  match p.pending with
  | none => .ok p
  | some (a, values) =>
    (store p.given a values).map fun given => { p with given := given, pending := none }

/-- Whether an option waits for its value. -/
def isWaiting (p : Progress) : Bool :=
  match p.pending with
  | some (_, values) => values.isEmpty
  | none => false

/-- Meets an argument together with all its values. -/
def complete (p : Progress) (title : String) (a : Argument) (values : List String) :
    Except Usage Progress :=
  match p.settled with
  | .error e => .error e
  | .ok p =>
    match a.role with
    | .showHelp => .error .help
    | .showVersion => .error (.version title)
    | _ => (store p.given a values).map fun given => { p with given := given }

/-- Meets an option whose value follows. -/
def awaitValue (p : Progress) (a : Argument) : Except Usage Progress :=
  p.settled.map fun p => { p with pending := some (a, []) }

/-- Meets a long option. -/
def long (p : Progress) (scope : Scope) (name : String) (value : Option String) :
    Except Usage Progress :=
  match scope.long? name with
  | none => .error .unknownArgument
  | some a =>
    match value with
    | some value => if a.takesValue then p.complete scope.title a [value] else .error .unneededValue
    | none => if a.takesValue then p.awaitValue a else p.complete scope.title a []

/-- Meets short options written together; what follows one that takes a value is its value. -/
def shorts (p : Progress) (scope : Scope) (names : List Char) : Except Usage Progress :=
  match names with
  | [] => .ok p
  | c :: rest =>
    match scope.short? c with
    | none => .error .unknownArgument
    | some a =>
      if a.takesValue then
        match rest with
        | [] => p.awaitValue a
        | '=' :: value => p.complete scope.title a [String.ofList value]
        | value => p.complete scope.title a [String.ofList value]
      else (p.complete scope.title a []).bind fun p => p.shorts scope rest

/-- Takes a word as the value of the option that waits for one. -/
def take (p : Progress) (word : String) : Progress :=
  { p with pending := p.pending.map fun e => (e.1, e.2 ++ [word]) }

/-- Whether further values of a positional argument are being collected. -/
def isCollecting (p : Progress) (a : Argument) : Bool :=
  match p.pending with
  | some (b, _) => b.name = a.name && a.role = .several
  | none => false

/-- Meets a word that stands for a positional argument. -/
def positional (p : Progress) (scope : Scope) (word : String) : Except Usage Progress :=
  match scope.positional? p.place with
  | none => .error (scope.unexpected p.trailing word)
  | some a =>
    if p.isCollecting a then .ok (p.take word)
    else
      p.settled.map fun q =>
        { q with
          pending := some (a, [word])
          place := if a.role = .several then q.place else q.place + 1 }

end Progress

/-- What a word of a command line is. -/
inductive Word where
  | separator
  | long (name : String) (value : Option String)
  | shorts (names : List Char)
  | plain

/-- The kind of a word. -/
def Word.ofString (word : String) : Word :=
  match word.toList with
  | ['-', '-'] => .separator
  | '-' :: '-' :: rest =>
    .long (String.ofList (rest.takeWhile (· ≠ '=')))
      (match rest.dropWhile (· ≠ '=') with
        | [] => none
        | _ :: value => some (String.ofList value))
  | '-' :: c :: rest => .shorts (c :: rest)
  | _ => .plain

/-- The name of the level below every other that shows the help of one. -/
def helpName : String := "help"

/-- What asking for the help of a level by its names leads to. -/
def helpTopic (levels : List Level) (names : List String) : Usage :=
  match names with
  | [] => .help
  | name :: rest =>
    if name = helpName && !levels.isEmpty then helpTopic [] rest
    else
      match level? levels name with
      | some l => helpTopic l.levels rest
      | none => .unknownSubcommand

/-- The scope of a level below another one; the common arguments belong to every level. -/
def Scope.below (outer : Scope) (common : List Argument) (l : Level) : Scope :=
  ⟨outer.title ++ "-" ++ l.name, l.arguments ++ common, l.levels⟩

/-- What was given on a command line: the names of the levels and the values. -/
structure Reading where
  path : List String
  given : Given

/-- A level that was left for one below it. -/
structure Outer where
  scope : Scope
  progress : Progress

/-- Finishes a level. -/
def finish (scope : Scope) (p : Progress) (entered : Bool) : Except Usage Given :=
  match p.settled with
  | .error e => .error e
  | .ok p =>
    match scope.fault? p.given entered with
    | some e => .error e
    | none => .ok p.given

/-- Finishes the levels that were left, from the innermost outwards; inner values count. -/
def finishOuter (given : Given) (outer : List Outer) : Except Usage Given :=
  match outer with
  | [] => .ok given
  | o :: rest =>
    match finish o.scope o.progress true with
    | .error e => .error e
    | .ok found => finishOuter (Dict.insertAll found given) rest

/-- What a word leads to. -/
inductive Next where
  | stay (p : Progress)
  | enter (l : Level)
  | topic

/-- Reads a word that is no option. -/
def readPlain (scope : Scope) (p : Progress) (word : String) : Except Usage Next :=
  if p.isWaiting then .ok (.stay (p.take word))
  else
    match level? scope.levels word with
    | some l => .ok (.enter l)
    | none =>
      if word = helpName && !scope.levels.isEmpty then .ok .topic
      else (p.positional scope word).map .stay

/-- Reads one word. -/
def readWord (scope : Scope) (p : Progress) (word : String) : Except Usage Next :=
  if p.trailing then (p.positional scope word).map .stay
  else
    match Word.ofString word with
    | .separator => .ok (.stay { p with trailing := true })
    | .long name value => (p.long scope name value).map .stay
    | .shorts names => (p.shorts scope names).map .stay
    | .plain => readPlain scope p word

/-- Reads the words that are left on a level with others around it. -/
def readWords (common : List Argument) (path : List String) (outer : List Outer) (scope : Scope)
    (p : Progress) (words : List String) : Except Usage Reading :=
  match words with
  | [] =>
    match finish scope p false with
    | .error e => .error e
    | .ok given => (finishOuter given outer).map fun given => ⟨path, given⟩
  | word :: rest =>
    match readWord scope p word with
    | .error e => .error e
    | .ok .topic => .error (helpTopic scope.levels rest)
    | .ok (.stay q) => readWords common path outer scope q rest
    | .ok (.enter l) =>
      readWords common (path ++ [l.name]) (⟨scope, p⟩ :: outer) (scope.below common l) .start rest

/-- Reads a command line of a program with some levels; the common arguments belong to every level.
-/
def read (program : String) (common : List Argument) (levels : List Level) (words : List String) :
    Except Usage Reading :=
  readWords common [] [] ⟨program, common, levels⟩ .start words

end Mailroom.CommandLine
