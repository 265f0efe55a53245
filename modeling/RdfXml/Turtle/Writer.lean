import RdfXml.Iri.Relative
import RdfXml.Turtle.Abbreviation

/-
  Turtle documents, one triple at a time.

  Triples in a row with the same subject share it, and those
  with the same predicate as well share both.

  Key definitions include:
    * `Turtle.Base`
    * `Turtle.termText`
    * `Turtle.Writer`
    * `Turtle.Writer.write`
    * `Turtle.Writer.finish`
    * `Turtle.document`
-/

------------------------------------------------------------
-- Terms
------------------------------------------------------------

namespace RdfXml

namespace Turtle

/- The base of a document, as written and by components. -/
structure Base where
  text : String
  parts : Iri.Parts
deriving DecidableEq, Repr

/- An IRI in brackets, relative where a base is in effect. -/
def iriText
    (base? : Option Base)
    (iri : String) : String :=
  match base? with
  | some base =>
      "<" ++ Iri.relativeTo base.parts iri ++ ">"
  | none => "<" ++ iri ++ ">"

/- An IRI in brackets, or a blank node. -/
def resourceText
    (base? : Option Base) : Resource → String
| .iri text => iriText base? text
| .blankNode label => blankNodeReference label

/- A predicate, of which the type has a short form. -/
def predicateText
    (base? : Option Base)
    (iri : String) : String :=
  if iri = Rdf.typeIri then "a" else iriText base? iri

/- A digit of a hexadecimal number, in capitals. -/
def hexChar (digit : Nat) : Char :=
  if digit < 10 then Char.ofNat (digit + '0'.toNat)
  else Char.ofNat (digit - 10 + 'A'.toNat)

/- A control character by its code number. -/
def controlText (c : Char) : String :=
  "\\u00" ++
    String.ofList
      [hexChar (c.toNat / 16), hexChar (c.toNat % 16)]

/- A character between double quotes. -/
def quotedChar (c : Char) : String :=
  if c = Char.ofNat 8 then "\\b"
  else if c = '\t' then "\\t"
  else if c = '\n' then "\\n"
  else if c = Char.ofNat 12 then "\\f"
  else if c = '\r' then "\\r"
  else if c = '"' then "\\\""
  else if c = '\\' then "\\\\"
  else if c.toNat < 32 || c.toNat = 127 then controlText c
  else String.singleton c

/- A text between double quotes. -/
def quotedText (value : String) : String :=
  "\"" ++ String.join (value.toList.map quotedChar) ++ "\""

/- A literal, without quotes where Turtle allows it. -/
def literalText
    (base? : Option Base) : Literal → String
| .plain value => quotedText value
| .typed value datatype =>
    if isAbbreviated value datatype then
      value
    else
      quotedText value ++ "^^" ++ iriText base? datatype
| .tagged value language =>
    quotedText value ++ "@" ++ language

/- An object. -/
def termText
    (base? : Option Base) : Term → String
| .resource r => resourceText base? r
| .literal l => literalText base? l

------------------------------------------------------------
-- Documents
------------------------------------------------------------

/-
  A writer knows its base, which begins the document, and the
  subject and the predicate written last.
-/
structure Writer where
  base? : Option Base := none
  current? : Option (Resource × String) := none
  hasBegun : Bool := false
deriving DecidableEq, Repr

namespace Writer

/- What precedes the first triple. -/
def prelude (w : Writer) : String :=
  match w.hasBegun, w.base? with
  | false, some base => "@base <" ++ base.text ++ "> .\n"
  | _, _ => ""

/- A predicate and an object. -/
def predicateAndObject
    (w : Writer)
    (triple : Triple) : String :=
  predicateText w.base? triple.predicate ++ " " ++
    termText w.base? triple.object

/- A whole triple. -/
def tripleText
    (w : Writer)
    (triple : Triple) : String :=
  resourceText w.base? triple.subject ++ " " ++
    w.predicateAndObject triple

/- A triple as it continues the document. -/
def continuation
    (w : Writer)
    (triple : Triple) : String :=
  match w.current? with
  | none => w.tripleText triple
  | some (subject, predicate) =>
      if subject != triple.subject then
        " .\n" ++ w.tripleText triple
      else if predicate != triple.predicate then
        " ;\n\t" ++ w.predicateAndObject triple
      else
        " , " ++ termText w.base? triple.object

/- Write a triple. -/
def write
    (w : Writer)
    (triple : Triple) : Writer × String :=
  ({ w with
      current? := some (triple.subject, triple.predicate)
      hasBegun := true },
    w.prelude ++ w.continuation triple)

/- What ends the document. -/
def finish (w : Writer) : String :=
  if w.current?.isSome then " .\n" else ""

/- The pieces of text that the remaining triples give. -/
def texts : Writer → List Triple → List String
| w, [] => [w.finish]
| w, triple :: rest =>
    let (next, text) := w.write triple
    text :: texts next rest

end Writer

/- The document with some triples in order. -/
def document
    (base? : Option Base)
    (triples : List Triple) : String :=
  String.join (Writer.texts { base? } triples)

end Turtle

end RdfXml
