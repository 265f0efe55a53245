import RdfXml.Domain.Direction
import RdfXml.Domain.Label

/-
  Domain names with characters of any language.

  Key definitions include:
    * `Domain.labels?`
    * `Domain.toAscii?`
-/

------------------------------------------------------------
-- Labels Of A Name
------------------------------------------------------------

namespace RdfXml

namespace Domain

/- The labels between the dots of a text. -/
def splitLabels (codes : List Nat) : List (List Nat) :=
  (splitOn '.' (codes.map Char.ofNat)).map
    (fun label => label.map Char.toNat)

/- The labels of a domain name as the texts they stand for. -/
def labels? (name : List Char) : Option (List (List Nat)) :=
  (mapped? (name.map Char.toNat)).bind
    (fun codes => (splitLabels codes).mapM label?)

------------------------------------------------------------
-- ASCII Names
------------------------------------------------------------

/- The ASCII form of a domain name that is well-formed. -/
def toAscii? (name : List Char) : Option (List Char) :=
  ((labels? name).filter areReadable).map
    (fun labels =>
      ['.'].intercalate (labels.map asciiForm))

end Domain

end RdfXml
