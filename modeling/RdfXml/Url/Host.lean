import RdfXml.Domain.Name
import RdfXml.Iri.Host
import RdfXml.Url.PercentEncoding

/-
  Hosts of URLs in their normal form.

  Key definitions include:
    * `Url.normalIpv4?`
    * `Url.normalIpv6?`
    * `Url.normalHost?`
-/

------------------------------------------------------------
-- IPv4
------------------------------------------------------------

namespace RdfXml

namespace Url

/- The number of some digits, or nothing. -/
def number?
    (radix : Nat)
    (text : List Char) : Option Nat :=
  text.foldlM
    (fun value c =>
      match hexDigit? c with
      | some d =>
          if d < radix then some (value * radix + d) else none
      | none => none)
    0

/- A part of an IPv4 address: decimal, octal, or hexadecimal. -/
def ipv4Number? : List Char → Option Nat
| [] => none
| '0' :: 'x' :: rest => number? 16 rest
| '0' :: 'X' :: rest => number? 16 rest
| ['0'] => some 0
| '0' :: rest => number? 8 rest
| text => number? 10 text

/- The parts of a domain, without an empty one at its end. -/
def domainParts (domain : List Char) : List (List Char) :=
  let parts := splitOn '.' domain
  if 1 < parts.length && parts.getLast? = some [] then
    parts.dropLast
  else
    parts

/- A domain whose last part is a number is an address. -/
def endsInNumber (domain : List Char) : Bool :=
  match (domainParts domain).getLast? with
  | some part =>
      !part.isEmpty &&
        (part.all isAsciiDigit || (ipv4Number? part).isSome)
  | none => false

/- Four bytes of a number, the first one first. -/
def dottedText (address : Nat) : List Char :=
  (".".intercalate
    ([address / 256 / 256 / 256, address / 256 / 256 % 256,
      address / 256 % 256, address % 256].map
        toString)).toList

/- The number of values that some bytes have. -/
def valuesOfBytes : Nat → Nat
| 0 => 1
| count + 1 => 256 * valuesOfBytes count

/-
  The number of the parts of an address.  The last part takes
  all bytes that the others leave.
-/
def ipv4Address? (parts : List Nat) : Option Nat :=
  let front := parts.dropLast
  let last := parts.getLast?.getD 0
  let room := valuesOfBytes (5 - parts.length)
  if parts.length ≤ 4 && front.all (· ≤ 255) &&
      last < room then
    some
      (front.foldl (fun value part => value * 256 + part) 0
        * room + last)
  else
    none

/- The normal form of an IPv4 address. -/
def normalIpv4? (domain : List Char) : Option (List Char) :=
  ((domainParts domain).mapM ipv4Number?).bind
    (fun parts => (ipv4Address? parts).map dottedText)

------------------------------------------------------------
-- IPv6
------------------------------------------------------------

/- The 16-bit numbers of a group of an IPv6 address. -/
def groupValues (group : List Char) : List Nat :=
  if Iri.isIpv6Group group then
    [(number? 16 group).getD 0]
  else
    let parts :=
      (splitOn '.' group).map
        (fun part => (number? 10 part).getD 0)
    match parts with
    | [a, b, c, d] => [a * 256 + b, c * 256 + d]
    | _ => []

/- The 16-bit numbers of a part of an IPv6 address. -/
def partValues (part : List Char) : List Nat :=
  if part.isEmpty then []
  else (splitOn ':' part).flatMap groupValues

/- The eight numbers of an IPv6 address. -/
def ipv6Values (address : List Char) : List Nat :=
  match Iri.splitDoubleColon address with
  | none => partValues address
  | some (front, back) =>
      let front := partValues front
      let back := partValues back
      front ++
        List.replicate (8 - front.length - back.length) 0 ++
          back

/- The number of zeros at the start of a list. -/
def leadingZeros (values : List Nat) : Nat :=
  (values.takeWhile (· == 0)).length

/-
  The start and the length of the first longest run of zeros
  in a list that begins at an index.
-/
def longestZeros :
    Nat → List Nat → Nat × Nat
| _, [] => (0, 0)
| index, value :: rest =>
    let here := leadingZeros (value :: rest)
    let later := longestZeros (index + 1) rest
    if later.2 ≤ here then (index, here) else later

/- Groups separated by colons. -/
def groupsText (values : List Nat) : List Char :=
  (":".intercalate
    (values.map
      (fun v => String.ofList (Nat.toDigits 16 v)))).toList

/- The normal form of eight numbers. -/
def ipv6Text (values : List Nat) : List Char :=
  let (start, length) := longestZeros 0 values
  if length < 2 then
    groupsText values
  else
    groupsText (values.take start) ++ [':', ':'] ++
      groupsText (values.drop (start + length))

/- The normal form of an IPv6 address. -/
def normalIpv6? (address : List Char) : Option (List Char) :=
  if Iri.isIpv6 address then
    some (ipv6Text (ipv6Values address))
  else
    none

------------------------------------------------------------
-- Hosts
------------------------------------------------------------

/- Characters that no host may hold. -/
def isForbiddenInHost (c : Char) : Bool :=
  c.toNat = 0 || "\t\n\r #/:<>?@[\\]^|".toList.contains c

/- The normal form of a domain or an IPv4 address. -/
def normalDomain? (host : List Char) : Option (List Char) :=
  let decoded :=
    (Utf8.decodeLossy (percentDecode host)).toList
  match Domain.toAscii? decoded with
  | some domain =>
      if domain.isEmpty then none
      else if endsInNumber domain then normalIpv4? domain
      else some domain
  | none => none

/- The normal form of a host without a known meaning. -/
def normalOtherHost?
    (host : List Char) : Option (List Char) :=
  if host.any isForbiddenInHost then none
  else some (encodeWith inControlSet host)

/- The normal form of a host. -/
def normalHost?
    (isSpecial : Bool)
    (host : List Char) : Option (List Char) :=
  match host with
  | '[' :: rest =>
      if rest.getLast? = some ']' then
        (normalIpv6? rest.dropLast).map
          (fun address => '[' :: address ++ [']'])
      else
        none
  | host =>
      if isSpecial then normalDomain? host
      else normalOtherHost? host

end Url

end RdfXml
