import Mailroom.Failure.ApiError

/-!
# Chains of errors

An error may have a source, the error behind it, which may have a source again. A note on what was
being done is an error whose source is the one it was added to. A failed call is looked for from
source to source (`find?`) or among all the errors of the chain (`layers`).
-/

namespace Mailroom

/-- One error of a chain: a failed call, or any other error. -/
inductive ErrorLayer where
  | api (e : ApiError)
  | other (text : String)

namespace ErrorLayer

/-- The failed call. -/
def api? (l : ErrorLayer) : Option ApiError :=
  match l with
  | api e => some e
  | other _ => none

/-- The description of an error. -/
def text (l : ErrorLayer) : String :=
  match l with
  | api e => e.message
  | other text => text

end ErrorLayer

/-- An error and the errors behind it. -/
inductive ErrorChain where
  | root (layer : ErrorLayer)
  | onto (layer : ErrorLayer) (source : ErrorChain)

namespace ErrorChain

/-- The error itself. -/
def layer (c : ErrorChain) : ErrorLayer :=
  match c with
  | root l => l
  | onto l _ => l

/-- The error right behind an error. -/
def source? (c : ErrorChain) : Option ErrorChain :=
  match c with
  | root _ => none
  | onto _ source => some source

/-- The errors of a chain, the outermost first. -/
def layers (c : ErrorChain) : List ErrorLayer :=
  match c with
  | root l => [l]
  | onto l source => l :: source.layers

/-- An error behind which stand others that are only described. -/
def ofTexts (l : ErrorLayer) (behind : List String) : ErrorChain :=
  match behind with
  | [] => root l
  | text :: rest => onto l (ofTexts (.other text) rest)

/-- Adds an outer note. -/
def within (note : String) (c : ErrorChain) : ErrorChain :=
  onto (.other note) c

/-- The first failed call from source to source. -/
def find? (c : ErrorChain) : Option ApiError :=
  match c with
  | root l => l.api?
  | onto l source =>
    match l.api? with
    | some e => some e
    | none => source.find?

/-- Whether an error, or one behind it, is a failed call. -/
def isApiError (c : ErrorChain) : Bool :=
  c.find?.isSome

/-- Whether any error of a chain is a failed call. -/
def hasApiError (c : ErrorChain) : Bool :=
  c.layers.any fun l => l.api?.isSome

end ErrorChain

end Mailroom
