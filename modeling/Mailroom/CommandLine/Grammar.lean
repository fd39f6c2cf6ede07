import Mailroom.Dict
import Mailroom.Text.Basic
import Mailroom.Text.Decimal

/-!
# Grammars of command lines

A command line is read level by level. A level has a name, arguments and further levels below it. An
argument is an option with a long or a short name, or else it is positional; it takes no value, one
or several. `usage` errors name the ways in which reading ends without a command.
-/

namespace Mailroom.CommandLine

/-- How reading a command line ends without a command. -/
inductive Usage where
  | help
  /-- The version was asked for, of the program or of the level with this title. -/
  | version (title : String)
  | helpForMissing
  | missingSubcommand
  | missingRequired
  | unknownSubcommand
  | unknownArgument
  | conflict
  | invalidValue
  | unreadableValue
  | unneededValue
deriving DecidableEq

/-- What a value has to look like. -/
inductive ValueForm where
  | text
  | path
  | number
  | choice (names : List String)
  | readable (reads : String → Bool)

/-- What is wrong with a value. -/
def ValueForm.fault? (form : ValueForm) (value : String) : Option Usage :=
  match form with
  | text => none
  | path => if value = "" then some .invalidValue else none
  | number => if (Text.readWord? value).isSome then none else some .unreadableValue
  | choice names => if names.contains value then none else some .invalidValue
  | readable reads => if reads value then none else some .unreadableValue

/-- What giving an argument does. -/
inductive Role where
  | flag
  | single
  | several
  | showHelp
  | showVersion
deriving DecidableEq

/-- An argument of a level. -/
structure Argument where
  name : String
  long : Option String
  short : Option Char
  role : Role
  form : ValueForm
  /-- Whether commas separate several values in one. -/
  delimited : Bool
  required : Bool
  /-- Arguments of which one makes this one needless; it is required if there are some and none is
  given. -/
  replacedBy : List String
  excludes : List String
  needs : List String

namespace Argument

/-- A positional argument that has to be given. -/
def positional (name : String) (form : ValueForm) : Argument :=
  ⟨name, none, none, .single, form, false, true, [], [], []⟩

/-- An option with one value. -/
def option (name long : String) (form : ValueForm) : Argument :=
  ⟨name, some long, none, .single, form, false, false, [], [], []⟩

/-- An option that may be given several times. -/
def options (name long : String) (form : ValueForm) : Argument :=
  { option name long form with role := .several }

/-- An option without a value. -/
def flag (name long : String) : Argument :=
  { option name long .text with role := .flag }

/-- The same argument with a short name too. -/
def orShort (a : Argument) (short : Char) : Argument :=
  { a with short := some short }

/-- Several values separated by commas or given one after the other. -/
def listed (a : Argument) : Argument :=
  { a with role := .several, delimited := true }

/-- Whether an argument is given by its place. -/
def isPositional (a : Argument) : Bool :=
  a.long.isNone && a.short.isNone

/-- Whether an argument takes values. -/
def takesValue (a : Argument) : Bool :=
  a.role = .single || a.role = .several

/-- The values that some given values stand for. -/
def separated (a : Argument) (values : List String) : List String :=
  if a.delimited then
    values.flatMap fun value => (Text.parts ',' value.toList).map String.ofList
  else values

end Argument

/-- A level of a command line. -/
structure Level where
  name : String
  aliases : List String
  arguments : List Argument
  levels : List Level

/-- The level that a word names. -/
def level? (levels : List Level) (word : String) : Option Level :=
  levels.find? fun l => l.name = word || l.aliases.contains word

/-- A level as it is being read: its title from the program's name on, and all its arguments. -/
structure Scope where
  title : String
  arguments : List Argument
  levels : List Level

namespace Scope

/-- The positional argument at a place. -/
def positional? (s : Scope) (place : Nat) : Option Argument :=
  (s.arguments.filter Argument.isPositional)[place]?

/-- The option of a long name. -/
def long? (s : Scope) (name : String) : Option Argument :=
  s.arguments.find? fun a => a.long = some name

/-- The option of a short name. -/
def short? (s : Scope) (name : Char) : Option Argument :=
  s.arguments.find? fun a => a.short = some name

/-- What is wrong with a word that has no place. -/
def unexpected (s : Scope) (trailing : Bool) (word : String) : Usage :=
  if s.levels.isEmpty || (trailing && (level? s.levels word).isSome) then .unknownArgument
  else .unknownSubcommand

end Scope

/-- The values given on a level, by the names of their arguments. -/
abbrev Given := Dict (List String)

namespace Given

/-- Whether an argument was given. -/
def has (g : Given) (name : String) : Bool :=
  Dict.contains g name

/-- The values of an argument. -/
def texts (g : Given) (name : String) : List String :=
  (Dict.find? g name).getD []

/-- The value of an argument. -/
def text? (g : Given) (name : String) : Option String :=
  (g.texts name).head?

/-- The number given for an argument. -/
def number? (g : Given) (name : String) : Option UInt64 :=
  (g.text? name).bind Text.readWord?

/-- The numbers given for an argument. -/
def numbers (g : Given) (name : String) : List UInt64 :=
  (g.texts name).filterMap Text.readWord?

end Given

/-! ## Rules on the arguments of a level

Once a level is read, the arguments given on it are checked: two that exclude each other are a
conflict, and one that has to be given must not be missing. An argument that another one needs, or
that is always required, may be missing where one that is given excludes it.
-/

namespace Scope

/-- Whether two arguments exclude each other. -/
def excludes (a b : Argument) : Bool :=
  a.excludes.contains b.name || b.excludes.contains a.name

/-- The arguments that were given. -/
def present (s : Scope) (given : Given) : List Argument :=
  s.arguments.filter fun a => given.has a.name

/-- Whether two arguments that exclude each other were given. -/
def hasConflict (s : Scope) (given : Given) : Bool :=
  let present := s.present given
  present.any fun a => present.any fun b => excludes a b

/-- Whether an argument has to be given, itself or because one that was given needs it. -/
def isDemanded (s : Scope) (given : Given) (a : Argument) : Bool :=
  a.required || (s.present given).any fun b => b.needs.contains a.name

/-- Whether an argument is missing. -/
def isMissing (s : Scope) (given : Given) (a : Argument) : Bool :=
  !given.has a.name &&
    ((s.isDemanded given a && !(s.present given).any fun b => excludes a b) ||
      (!a.replacedBy.isEmpty && !a.replacedBy.any given.has))

/-- What is wrong with the arguments of a level; a level with others below it needs one of them. -/
def fault? (s : Scope) (given : Given) (entered : Bool) : Option Usage :=
  if !entered && !s.levels.isEmpty then
    some (if given.isEmpty then .helpForMissing else .missingSubcommand)
  else if s.hasConflict given then some .conflict
  else if s.arguments.any (s.isMissing given) then some .missingRequired
  else none

end Scope

end Mailroom.CommandLine
