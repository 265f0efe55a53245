import RdfXml.Rdf.Vocabulary

/-
  Statements as a document makes them, and their N-Triples
  lines.

  All positions are plain texts.  A resource is an IRI or a
  blank node reference, which begins with an underscore and
  a colon.

  Key definitions include:
    * `blankNodeLabel?`
    * `Object`
    * `Object.ofResource`
    * `Statement`
    * `Statement.line`
-/

------------------------------------------------------------
-- Statements
------------------------------------------------------------

namespace RdfXml

/- The label of a blank node reference. -/
def blankNodeLabel? (reference : String) : Option String :=
  match reference.toList with
  | '_' :: ':' :: label => some (String.ofList label)
  | _ => none

/- The reference to a blank node with a label. -/
def blankNodeReference (label : String) : String :=
  "_:" ++ label

/-
  The object of a statement.  The datatype and the language of
  a literal are empty when they do not apply; a datatype wins
  over a language.
-/
inductive Object where
| iri (reference : String)
| blankNode (reference : String)
| literal (value datatype language : String)
deriving DecidableEq, Repr

namespace Object

/- A resource as an object. -/
def ofResource (reference : String) : Object :=
  if (blankNodeLabel? reference).isSome then
    .blankNode reference
  else
    .iri reference

/- A literal without a datatype. -/
def plain (value language : String) : Object :=
  .literal value "" language

/- An object is a literal. -/
def isLiteral : Object → Bool
| .literal _ _ _ => true
| _ => false

end Object

/- A subject, a predicate, and an object. -/
structure Statement where
  subject : String
  predicate : String
  object : Object
deriving DecidableEq, Repr

------------------------------------------------------------
-- N-Triples
------------------------------------------------------------

/- A blank node reference as it is, or an IRI in brackets. -/
def resourceText (reference : String) : String :=
  if (blankNodeLabel? reference).isSome then
    reference
  else
    "<" ++ reference ++ ">"

/- A character of a literal between double quotes. -/
def literalChar (c : Char) : List Char :=
  if c = '"' then ['\\', '"']
  else if c = '\\' then ['\\', '\\']
  else if c = '\n' then ['\\', 'n']
  else if c = '\r' then ['\\', 'r']
  else [c]

/- A literal's value between double quotes. -/
def literalText (value : String) : String :=
  "\"" ++
    String.ofList (value.toList.flatMap literalChar) ++ "\""

/- The datatype or the language of a literal. -/
def literalSuffix (datatype language : String) : String :=
  if datatype != "" then "^^<" ++ datatype ++ ">"
  else if language != "" then "@" ++ language
  else ""

namespace Object

/- The text of an object in a line. -/
def text : Object → String
| .iri reference => resourceText reference
| .blankNode reference => resourceText reference
| .literal value datatype language =>
    literalText value ++ literalSuffix datatype language

end Object

namespace Statement

/- The line of a statement, without the line feed. -/
def line (statement : Statement) : String :=
  resourceText statement.subject ++
    " <" ++ statement.predicate ++ "> " ++
      statement.object.text ++ " ."

end Statement

end RdfXml
