import RdfXml.Iri.Parts
import RdfXml.Rdf.Statement
import RdfXml.Text.Alphanumeric

/-
  Settings of a parser.

  Key definitions include:
    * `Options`
    * `OptionsError`
    * `Options.withBaseIri`
    * `Options.withBlankNodePrefix`
-/

------------------------------------------------------------
-- Options
------------------------------------------------------------

namespace RdfXml

/- What generated blank nodes begin with unless told so. -/
def defaultBlankNodePrefix : String := "_:b"

/-
  The base of a document, which may be empty, and what the
  number of a generated blank node is appended to.
-/
structure Options where
  baseIri : String := ""
  blankNodePrefix : String := defaultBlankNodePrefix
deriving DecidableEq, Repr

/- Why a setting is refused. -/
inductive OptionsError where
| baseIri (iri : String) (cause : Iri.Fault)
| blankNodePrefix (text : String)
deriving DecidableEq, Repr

namespace OptionsError

/- The text of an error. -/
def message : OptionsError → String
| .baseIri iri _ => "IRI parse error: `" ++ iri ++ "`"
| .blankNodePrefix text =>
    "Invalid blank node prefix `" ++ text ++
      "`: it must start with `_:`"

end OptionsError

namespace Options

/- Characters that a blank node prefix may hold. -/
def isPrefixChar (c : Char) : Bool :=
  isAlphanumeric c || c == '_' || c == '-' || c == '.'

/- The label part of a blank node prefix. -/
def isLabelStart (label : List Char) : Bool :=
  label.all isPrefixChar &&
    label.head? != some '-' && label.head? != some '.'

/- A text that generated blank nodes may begin with. -/
def isBlankNodePrefix (text : String) : Bool :=
  match blankNodeLabel? text with
  | some label => isLabelStart label.toList
  | none => false

/- Set the base, which has to be an IRI. -/
def withBaseIri
    (options : Options)
    (iri : String) : Except OptionsError Options :=
  match Iri.parse iri with
  | .ok _ => .ok { options with baseIri := iri }
  | .error cause => .error (.baseIri iri cause)

/- Set what generated blank nodes begin with. -/
def withBlankNodePrefix
    (options : Options)
    (text : String) : Except OptionsError Options :=
  if isBlankNodePrefix text then
    .ok { options with blankNodePrefix := text }
  else
    .error (.blankNodePrefix text)

end Options

end RdfXml
