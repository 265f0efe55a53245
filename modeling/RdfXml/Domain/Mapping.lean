import RdfXml.Domain.Disallowed
import RdfXml.Domain.MappingTable
import RdfXml.Text.Composition

/-
  The characters that the characters of a domain stand for.

  Key definitions include:
    * `Domain.mapCode?`
    * `Domain.isKept`
    * `Domain.mapped?`
-/

------------------------------------------------------------
-- Single Characters
------------------------------------------------------------

namespace RdfXml

namespace Domain

/- The small letter that follows a capital of a pair. -/
def smallLetter? (code : Nat) : Option Nat :=
  match
    capitalPairs.ranges.find?
      (fun range => range.1 ≤ code && code ≤ range.2)
  with
  | some range =>
      if (code - range.1) % 2 = 0 then some (code + 1)
      else none
  | none => none

/-
  The codes that a code stands for, none if it is dropped; no
  answer for a code that is refused.
-/
def mapCode? (code : Nat) : Option (List Nat) :=
  if isForbidden code then
    none
  else if ignored.containsCode code then
    some []
  else
    match smallLetter? code with
    | some small => some [small]
    | none =>
        match replacementTable.find? code with
        | some codes => some codes
        | none =>
            if disallowed.containsCode code then none
            else some [code]

/- A code that stands for itself. -/
def isKept (code : Nat) : Bool :=
  mapCode? code == some [code]

------------------------------------------------------------
-- Texts
------------------------------------------------------------

/- The text that a text stands for, in composed form. -/
def mapped? (codes : List Nat) : Option (List Nat) :=
  (codes.mapM mapCode?).map
    (fun parts => composedForm parts.flatten)

/- A text that stands for itself. -/
def isMapped (codes : List Nat) : Bool :=
  codes.all isKept && composedForm codes == codes

end Domain

end RdfXml
