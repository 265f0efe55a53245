import RdfXml.Domain.Joiner
import RdfXml.Domain.Mapping
import RdfXml.Domain.Punycode

/-
  Labels of a domain.

  A label is read as the text that it stands for, which its
  ASCII form may encode, and written in its ASCII form.

  Key definitions include:
    * `Domain.decoded?`
    * `Domain.label?`
    * `Domain.asciiForm`
-/

------------------------------------------------------------
-- Reading
------------------------------------------------------------

namespace RdfXml

namespace Domain

/- A code of ASCII. -/
def isAscii (code : Nat) : Bool :=
  code < 128

/- What an encoded label begins with. -/
def encodedMark : List Nat :=
  "xn--".toList.map Char.toNat

/- The length from which on encoded labels are refused. -/
def encodedLimit : Nat :=
  2000

/- The length from which on labels are not encoded. -/
def plainLimit : Nat :=
  1000

/- The dot between labels. -/
def dot : Nat :=
  '.'.toNat

/-
  The label that an encoded one stands for.  It must need its
  encoding and be in the form that mapping leaves alone.
-/
def decoded? (encoded : List Nat) : Option (List Nat) :=
  if encoded.getLast? == some '-'.toNat || encoded.isEmpty ||
      encodedLimit < encoded.length ||
      !encoded.all isAscii then
    none
  else
    (Punycode.decode? (encoded.map Char.ofNat)).filter
      (fun label => isMapped label && !label.contains dot)

/- A label of mapped characters as the text it stands for. -/
def unicodeForm? (label : List Nat) : Option (List Nat) :=
  if label.take 4 == encodedMark then
    decoded? (label.drop 4)
  else
    some label

/- A label may be written as it is. -/
def isWellFormed (label : List Nat) : Bool :=
  label.all isAscii ||
    (!label.head?.any isMark && hasUsefulJoiners label &&
      label.length ≤ plainLimit)

/- The text of a label, unless it is malformed. -/
def label? (label : List Nat) : Option (List Nat) :=
  (unicodeForm? label).filter isWellFormed

------------------------------------------------------------
-- Writing
------------------------------------------------------------

/- The ASCII form of a label. -/
def asciiForm (label : List Nat) : List Char :=
  if label.all isAscii then
    label.map Char.ofNat
  else
    encodedMark.map Char.ofNat ++ Punycode.encode label

end Domain

end RdfXml
