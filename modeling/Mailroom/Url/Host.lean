import Mailroom.Domain.Basic
import Mailroom.Text.Decimal
import Mailroom.Url.Percent

/-!
# Hosts

The host of a URL is an address of four or of sixteen bytes, or a name. Addresses are brought to one
form: four decimal numbers, or groups of hexadecimal digits of which the longest row of zeros is
left out. Names of the web's own schemes are domains: percent-decoded and brought to the form in
which they are looked up; a domain whose last label is a number is an address. Names of other
schemes are kept as they are. The faults of a host stand together with all others that a text can
have that should be an absolute URL.
-/

namespace Mailroom.Url

/-! ## Faults -/

/-- What is wrong with the text of a URL. -/
inductive Fault where
  | emptyHost
  | badDomain
  | badPort
  | badIpv4
  | badIpv6
  | badHostCharacter
  | relative
deriving DecidableEq

/-- The description of a fault. -/
def Fault.message (e : Fault) : String :=
  match e with
  | emptyHost => "empty host"
  | badDomain => "invalid international domain name"
  | badPort => "invalid port number"
  | badIpv4 => "invalid IPv4 address"
  | badIpv6 => "invalid IPv6 address"
  | badHostCharacter => "invalid domain character"
  | relative => "relative URL without a base"

/-! ## Addresses and names -/

/-- The number written by digits of a base. -/
def readBase? (base : Nat) (cs : List Char) : Option Nat :=
  cs.foldl (fun acc c =>
    acc.bind fun n => ((hexValue? c).filter (· < base)).map fun d => n * base + d) (some 0)

/-- The number of one part of an address: hexadecimal after `0x`, octal after `0`, else decimal. -/
def readIpv4Part? (cs : List Char) : Option Nat :=
  match cs with
  | [] => none
  | '0' :: 'x' :: rest => readBase? 16 rest
  | '0' :: 'X' :: rest => readBase? 16 rest
  | '0' :: c :: rest => readBase? 8 (c :: rest)
  | _ => readBase? 10 cs

/-- The parts of a domain, an empty last one left out. -/
def domainParts (cs : List Char) : List (List Char) :=
  let parts := Text.parts '.' cs
  if parts.getLast? = some [] then parts.dropLast else parts

/-- Whether the last part of a domain is a number. -/
def endsInNumber (cs : List Char) : Bool :=
  match (domainParts cs).getLast? with
  | none => false
  | some last =>
    (!last.isEmpty && last.all Text.isDigit) || (readIpv4Part? last).isSome

/-- An address as four decimal numbers. -/
def ipv4Text (address : Nat) : List Char :=
  Text.natDigits (address / bitBound 24) ++ '.' :: Text.natDigits (address / bitBound 16 % 256) ++
    '.' :: Text.natDigits (address / bitBound 8 % 256) ++ '.' :: Text.natDigits (address % 256)

/-- The number of an address of one to four parts, of which the last fills what the others leave. -/
def readIpv4? (cs : List Char) : Option Nat :=
  let parts := domainParts cs
  if parts.length > 4 then none
  else
    match parts.mapM readIpv4Part? with
    | none => none
    | some numbers =>
      match numbers.getLast? with
      | none => none
      | some last =>
        let leading := numbers.dropLast
        let room := bitBound (8 * (4 - leading.length))
        if last < room && leading.all (· < 256) then
          some (leading.foldl (fun acc n => acc * 256 + n) 0 * room + last)
        else none

/-- One group of an address of sixteen bytes: its value, its digits and what follows. -/
def readGroup (cs : List Char) : Nat × Nat × List Char :=
  let digits := (cs.take 4).takeWhile fun c => (hexValue? c).isSome
  ((readBase? 16 digits).getD 0, digits.length, cs.drop digits.length)

/-- A decimal number below 256 without leading zeros. -/
def readByte? (cs : List Char) : Option (Nat × List Char) :=
  let digits := cs.takeWhile Text.isDigit
  match Text.readDigits? digits with
  | none => none
  | some n =>
    if n > 255 || (digits.length > 1 && digits.head? = some '0') then none
    else some (n, cs.drop digits.length)

/-- The two groups of four decimal numbers at the end of an address. -/
def readDottedGroups? (cs : List Char) : Option (List Nat) :=
  match readByte? cs with
  | some (a, '.' :: rest) =>
    match readByte? rest with
    | some (b, '.' :: rest) =>
      match readByte? rest with
      | some (c, '.' :: rest) =>
        match readByte? rest with
        | some (d, []) => some [a * 256 + b, c * 256 + d]
        | _ => none
      | _ => none
    | _ => none
  | _ => none

/--
Reads the groups that follow: those before the gap, those after it and whether there was one. A gap
is written by two colons and may occur once; `fuel` bounds the number of groups and colons.
-/
def readGroups? (fuel : Nat) (done : List Nat) (gap : Option Nat) (cs : List Char) :
    Option (List Nat × Option Nat) :=
  match fuel with
  | 0 => none
  | n + 1 =>
    match cs with
    | [] => some (done, gap)
    | ':' :: rest => if gap.isSome then none else readGroups? n done (some done.length) rest
    | _ =>
      match readGroup cs with
      | (value, count, rest) =>
        match rest with
        | '.' :: _ =>
          if count = 0 || done.length > 6 then none
          else (readDottedGroups? cs).map fun two => (done ++ two, gap)
        | ':' :: [] => none
        | ':' :: rest => if count = 0 then none else readGroups? n (done ++ [value]) gap rest
        | [] => some (done ++ [value], gap)
        | _ => none

/-- The eight groups of an address of sixteen bytes. -/
def readIpv6? (cs : List Char) : Option (List Nat) :=
  let start :=
    match cs with
    | ':' :: ':' :: rest => readGroups? (cs.length + 1) [] (some 0) rest
    | ':' :: _ => none
    | _ => readGroups? (cs.length + 1) [] none cs
  match start with
  | none => none
  | some (groups, none) => if groups.length = 8 then some groups else none
  | some (groups, some gap) =>
    if groups.length ≥ 8 then none
    else some (groups.take gap ++ List.replicate (8 - groups.length) 0 ++ groups.drop gap)

/-- The hexadecimal digits of a group. -/
def groupDigits (n : Nat) : List Char :=
  let digit (d : Nat) : Char := if d < 10 then Char.ofNat (48 + d) else Char.ofNat (87 + d)
  match [digit (n / 4096), digit (n / 256 % 16), digit (n / 16 % 16)].dropWhile (· = '0') with
  | [] => [digit (n % 16)]
  | leading => leading ++ [digit (n % 16)]

/-- The number of zeros that a list starts with. -/
def zeroRun (groups : List Nat) : Nat :=
  (groups.takeWhile (· = 0)).length

/-- The longest row of zeros, the first of equally long ones: where it starts and its length. -/
def longestZeros (index : Nat) (best : Nat × Nat) (groups : List Nat) : Nat × Nat :=
  match groups with
  | [] => best
  | g :: rest =>
    let run := zeroRun (g :: rest)
    longestZeros (index + 1) (if run > best.2 then (index, run) else best) rest

/-- Groups with colons between them. -/
def joinGroups (groups : List Nat) : List Char :=
  [':'].intercalate (groups.map groupDigits)

/-- An address of sixteen bytes in brackets; a row of at least two zero groups is left out. -/
def ipv6Text (groups : List Nat) : List Char :=
  let zeros := longestZeros 0 (0, 1) groups
  let body :=
    if zeros.2 < 2 then joinGroups groups
    else
      joinGroups (groups.take zeros.1) ++ ':' :: ':' :: joinGroups (groups.drop (zeros.1 + zeros.2))
  '[' :: body ++ [']']

/-- The host in brackets, if it is an address of sixteen bytes. -/
def bracketedHost (cs : List Char) : Except Fault (List Char) :=
  if cs.getLast? = some ']' then
    match readIpv6? cs.dropLast.tail with
    | some groups => .ok (ipv6Text groups)
    | none => .error .badIpv6
  else .error .badIpv6

/-- A domain in the form in which it is looked up. -/
def domainOf (cs : List Char) : Except Fault (List Char) :=
  match (Text.utf8Chars? (decode cs)).bind Domain.toAscii? with
  | some domain => .ok domain
  | none => .error .badDomain

/-- The host of one of the web's own schemes. -/
def specialHost (cs : List Char) : Except Fault (List Char) :=
  match cs with
  | '[' :: _ => bracketedHost cs
  | _ =>
    match domainOf cs with
    | .error e => .error e
    | .ok domain =>
      if domain.isEmpty then .error .emptyHost
      else if endsInNumber domain then
        match readIpv4? domain with
        | some address => .ok (ipv4Text address)
        | none => .error .badIpv4
      else .ok domain

/-- The host of any other scheme. -/
def otherHost (cs : List Char) : Except Fault (List Char) :=
  match cs with
  | '[' :: _ => bracketedHost cs
  | _ =>
    if cs.any fun c => c.toNat = 0 || " #/:<>?@[\\]^|".toList.contains c then
      .error .badHostCharacter
    else .ok (encode isPlain cs)

end Mailroom.Url
