import RdfXml.Iri.Characters
import RdfXml.Text.Separated

/-
  Authorities: user information, host, and port.

  Key definitions include:
    * `Iri.isIpv4`
    * `Iri.isIpv6`
    * `Iri.checkAddress`
    * `Iri.checkAuthority`
-/

------------------------------------------------------------
-- Splitting
------------------------------------------------------------

namespace RdfXml

namespace Iri

/- What precedes and what follows the first two colons in a row. -/
def splitDoubleColon :
    List Char → Option (List Char × List Char)
| [] => none
| [_] => none
| a :: b :: rest =>
    if a = ':' && b = ':' then
      some ([], rest)
    else
      (splitDoubleColon (b :: rest)).map
        (fun parts => (a :: parts.1, parts.2))

------------------------------------------------------------
-- Addresses
------------------------------------------------------------

/- A decimal number below 256 without leading zeros. -/
def isIpv4Part (part : List Char) : Bool :=
  match part with
  | [a] => isAsciiDigit a
  | [a, b] => isAsciiDigit a && a != '0' && isAsciiDigit b
  | [a, b, c] =>
      isAsciiDigit a && a != '0' && isAsciiDigit b &&
        isAsciiDigit c &&
          ((String.ofList part).toNat?.getD 256) < 256
  | _ => false

/- Four decimal numbers separated by dots. -/
def isIpv4 (address : List Char) : Bool :=
  let parts := splitOn '.' address
  parts.length == 4 && parts.all isIpv4Part

/- One to four hexadecimal digits. -/
def isIpv6Group (group : List Char) : Bool :=
  1 ≤ group.length && group.length ≤ 4 &&
    group.all isHexDigit

/-
  The number of 16-bit groups of a part of an IPv6 address;
  an IPv4 address, which counts as two, may stand at its end
  when `last` allows it.
-/
def ipv6Groups?
    (last : Bool) :
    List (List Char) → Option Nat
| [] => some 0
| [group] =>
    if isIpv6Group group then some 1
    else if last && isIpv4 group then some 2
    else none
| group :: rest =>
    if isIpv6Group group then
      (ipv6Groups? last rest).map (· + 1)
    else
      none

/- The groups of a part, where an empty part has none. -/
def ipv6Part?
    (last : Bool)
    (part : List Char) : Option Nat :=
  if part.isEmpty then some 0
  else ipv6Groups? last (splitOn ':' part)

/- Eight groups, or fewer around two colons in a row. -/
def isIpv6 (address : List Char) : Bool :=
  match splitDoubleColon address with
  | none =>
      !address.isEmpty && ipv6Part? true address == some 8
  | some (front, back) =>
      match ipv6Part? false front, ipv6Part? true back with
      | some m, some n => m + n ≤ 7
      | _, _ => false

/- Characters of an address in a later format: ASCII alone. -/
def isFutureAddressChar (c : Char) : Bool :=
  c.toNat < 128 && isUserChar c

/-
  An address in a later format, after its first letter: a
  hexadecimal version, a dot, and more.
-/
def checkFutureAddress
    (address : List Char) : Except Fault Unit :=
  let version := address.takeWhile (· != '.')
  let rest := address.drop (version.length + 1)
  match version.find? (fun c => !isHexDigit c) with
  | some c => .error (.hostCharacter c)
  | none =>
      if version.isEmpty || rest.isEmpty then
        .error (.hostCharacter (rest.head?.getD ']'))
      else
        match rest.find? (fun c => !isFutureAddressChar c) with
        | some c => .error (.hostCharacter c)
        | none => .ok ()

/- An address between brackets. -/
def checkAddress (address : List Char) : Except Fault Unit :=
  match address with
  | 'v' :: rest => checkFutureAddress rest
  | 'V' :: rest => checkFutureAddress rest
  | address =>
      if isIpv6 address then .ok () else .error .hostAddress

------------------------------------------------------------
-- Authorities
------------------------------------------------------------

/- A port is any number of digits. -/
def checkPort (port : List Char) : Except Fault Unit :=
  match port.find? (fun c => !isAsciiDigit c) with
  | some c => .error (.portCharacter c)
  | none => .ok ()

/- What follows the bracket that closes an address. -/
def checkAfterAddress :
    List Char → Except Fault Unit
| [] => .ok ()
| c :: rest =>
    if c = ':' then checkPort rest
    else .error (.hostCharacter c)

/-
  An address, after its opening bracket.  It reaches up to a
  closing bracket, which may stand far behind.
-/
def checkBracketed
    (behind input : List Char) : Except Fault Unit :=
  let text := input ++ behind
  let address := text.takeWhile (· != ']')
  if address.length = text.length then
    .error (.hostCharacter '[')
  else
    match checkAddress address with
    | .error fault => .error fault
    | .ok () =>
        checkAfterAddress (input.drop (address.length + 1))

/- A host name, possibly empty, and its port. -/
def checkNamedHost
    (behind input : List Char) : Except Fault Unit := do
  let name := input.takeWhile (· != ':')
  checkChars isPlain (input.drop name.length ++ behind) name
  checkPort (input.drop (name.length + 1))

/- A host, by address or by name, and its port. -/
def checkHost
    (behind : List Char) : List Char → Except Fault Unit
| '[' :: rest => checkBracketed behind rest
| input => checkNamedHost behind input

/-
  The part of an authority before an at sign, unless a
  bracketed address comes first.
-/
def userPart (authority : List Char) : List Char :=
  authority.takeWhile (fun c => c != '@' && c != '[')

/- An authority with optional user information and port. -/
def checkAuthority
    (behind authority : List Char) : Except Fault Unit := do
  let user := userPart authority
  let rest := authority.drop user.length
  checkChars isUserChar (rest ++ behind) user
  match rest with
  | '@' :: host => checkHost behind host
  | _ => checkHost behind authority

end Iri

end RdfXml
