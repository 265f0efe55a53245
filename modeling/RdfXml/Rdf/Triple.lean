import RdfXml.Iri.Parts
import RdfXml.Rdf.BlankNodeLabel
import RdfXml.Rdf.LanguageTag
import RdfXml.Rdf.Statement

/-
  Triples of valid terms, made from statements.

  Key definitions include:
    * `Resource`
    * `Literal`
    * `Term`
    * `Triple`
    * `TermError`
    * `Statement.toTriple`
-/

------------------------------------------------------------
-- Terms
------------------------------------------------------------

namespace RdfXml

/- An IRI, or a blank node by its label. -/
inductive Resource where
| iri (iri : String)
| blankNode (label : String)
deriving DecidableEq, Repr

/-
  A literal.  A plain one has the datatype of strings, which
  `typed` therefore never holds.
-/
inductive Literal where
| plain (value : String)
| typed (value datatype : String)
| tagged (value language : String)
deriving DecidableEq, Repr

/- What may be an object. -/
inductive Term where
| resource (resource : Resource)
| literal (literal : Literal)
deriving DecidableEq, Repr

/- A subject, a predicate IRI, and an object. -/
structure Triple where
  subject : Resource
  predicate : String
  object : Term
deriving DecidableEq, Repr

namespace Literal

/- A literal with a datatype. -/
def ofDatatype (value datatype : String) : Literal :=
  if datatype = Xsd.stringIri then .plain value
  else .typed value datatype

/- The text of a literal. -/
def value : Literal → String
| .plain value => value
| .typed value _ => value
| .tagged value _ => value

/- The datatype of a literal. -/
def datatype : Literal → String
| .plain _ => Xsd.stringIri
| .typed _ datatype => datatype
| .tagged _ _ => Rdf.langStringIri

/- The language of a literal, or nothing. -/
def language : Literal → String
| .tagged _ language => language
| _ => ""

end Literal

------------------------------------------------------------
-- Errors
------------------------------------------------------------

/- Why a statement is no triple. -/
inductive TermError where
| iri (iri : String)
| blankNode (reference : String)
| language (tag : String) (cause : LanguageTag.Fault)
deriving DecidableEq, Repr

namespace TermError

/- A term with the reason why it is refused. -/
def invalidTerm (term reason : String) : String :=
  "Invalid term `" ++ term ++ "`: " ++ reason

/- The text of an error. -/
def message : TermError → String
| .iri text => "IRI parse error: `" ++ text ++ "`"
| .blankNode reference =>
    invalidTerm reference
      "The blank node identifier is invalid"
| .language tag cause => invalidTerm tag cause.message

end TermError

------------------------------------------------------------
-- Conversion
------------------------------------------------------------

/- A text that is an IRI. -/
def validIri (iri : String) : Except TermError String :=
  if Iri.isValid iri then .ok iri else .error (.iri iri)

/- A blank node with the label of a reference. -/
def validBlankNode
    (reference label : String) :
    Except TermError Resource :=
  if BlankNodeLabel.isValid label then .ok (.blankNode label)
  else .error (.blankNode reference)

/- The resource that a reference denotes. -/
def validResource
    (reference : String) : Except TermError Resource :=
  match blankNodeLabel? reference with
  | some label => validBlankNode reference label
  | none => (validIri reference).map .iri

/- A literal with a datatype, a language, or neither. -/
def validLiteral
    (value datatype language : String) :
    Except TermError Literal :=
  if datatype != "" then
    (validIri datatype).map (Literal.ofDatatype value)
  else if language != "" then
    match LanguageTag.check (lowerString language) with
    | .ok () => .ok (.tagged value (lowerString language))
    | .error cause => .error (.language language cause)
  else
    .ok (.plain value)

namespace Object

/- The term that an object denotes. -/
def toTerm : Object → Except TermError Term
| .iri reference =>
    (validIri reference).map (fun iri => .resource (.iri iri))
| .blankNode reference =>
    (validBlankNode reference
      ((blankNodeLabel? reference).getD reference)).map
        .resource
| .literal value datatype language =>
    (validLiteral value datatype language).map .literal

end Object

namespace Statement

/-
  The triple of a statement.  The object is checked first,
  then the subject, then the predicate.
-/
def toTriple
    (statement : Statement) : Except TermError Triple := do
  let object ← statement.object.toTerm
  let subject ← validResource statement.subject
  let predicate ← validIri statement.predicate
  return { subject, predicate, object }

end Statement

end RdfXml
