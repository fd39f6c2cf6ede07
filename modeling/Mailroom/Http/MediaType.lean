import Mailroom.Http.Header

/-!
# Media types

A media type is two words with a slash between them and parameters behind semicolons. The value of a
parameter is a word or a quoted text.
-/

namespace Mailroom.MediaType

/-- Whether a character may stand in a quoted text. -/
def isQuotable (c : Char) : Bool :=
  c.toNat ≥ 0x20 && c.toNat ≠ 0x7F

/-- What follows a quoted text after its opening quote; its first character is never the closing
one. -/
def afterQuoted? (cs : List Char) : Option (List Char) :=
  match cs with
  | [] => none
  | first :: rest =>
    if !isQuotable first then none
    else
      match rest.dropWhile fun c => c ≠ '"' && isQuotable c with
      | '"' :: after => some after
      | _ => none

/-- Whether the rest of a media type after a semicolon consists of parameters; `fuel` bounds them.
-/
def areParameters (fuel : Nat) (cs : List Char) : Bool :=
  match fuel with
  | 0 => false
  | n + 1 =>
    match cs with
    | [] => true
    | ' ' :: rest => areParameters n rest
    | _ =>
      let name := cs.takeWhile Header.isNameChar
      match cs.drop name.length with
      | '=' :: '"' :: rest =>
        !name.isEmpty &&
          (match (afterQuoted? rest).map (·.dropWhile (· = ' ')) with
            | some [] => true
            | some (';' :: after) => areParameters n after
            | _ => false)
      | '=' :: rest =>
        let value := rest.takeWhile Header.isNameChar
        !name.isEmpty &&
          (match rest.drop value.length with
            | [] => true
            | ';' :: after => !value.isEmpty && areParameters n after
            | _ => false)
      | _ => false

/-- Whether a text is a media type. -/
def isValid (s : String) : Bool :=
  let cs := s.toList
  let main := cs.takeWhile Header.isNameChar
  match cs.drop main.length with
  | '/' :: rest =>
    let sub := rest.takeWhile Header.isNameChar
    !main.isEmpty &&
      (match rest.drop sub.length with
        | [] => true
        | ';' :: after => !sub.isEmpty && areParameters (cs.length + 1) after
        | _ => false)
  | _ => false

end Mailroom.MediaType
