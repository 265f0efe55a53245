/-
  Names of the RDF vocabulary and of XML Schema datatypes.

  Key definitions include:
    * `Rdf.space`
    * `Rdf.typeIri`
    * `Rdf.statementIri`
    * `Rdf.firstIri`
    * `Rdf.xmlLiteralIri`
    * `Xsd.stringIri`
-/

------------------------------------------------------------
-- RDF
------------------------------------------------------------

namespace RdfXml

namespace Rdf

/- The RDF namespace. -/
def space : String :=
  "http://www.w3.org/1999/02/22-rdf-syntax-ns#"

/- The type of a resource. -/
def typeIri : String := space ++ "type"

/- The class of statements that are described. -/
def statementIri : String := space ++ "Statement"

/- The subject of a statement that is described. -/
def subjectIri : String := space ++ "subject"

/- The predicate of a statement that is described. -/
def predicateIri : String := space ++ "predicate"

/- The object of a statement that is described. -/
def objectIri : String := space ++ "object"

/- The first member of a list. -/
def firstIri : String := space ++ "first"

/- The list without its first member. -/
def restIri : String := space ++ "rest"

/- The empty list. -/
def nilIri : String := space ++ "nil"

/- The datatype of XML content. -/
def xmlLiteralIri : String := space ++ "XMLLiteral"

/- The datatype of literals with a language. -/
def langStringIri : String := space ++ "langString"

end Rdf

------------------------------------------------------------
-- XML Schema
------------------------------------------------------------

namespace Xsd

/- The namespace of XML Schema datatypes. -/
def space : String :=
  "http://www.w3.org/2001/XMLSchema#"

/- The datatype of plain literals. -/
def stringIri : String := space ++ "string"

/- The datatype of truth values. -/
def booleanIri : String := space ++ "boolean"

/- The datatype of integers. -/
def integerIri : String := space ++ "integer"

/- The datatype of decimal fractions. -/
def decimalIri : String := space ++ "decimal"

/- The datatype of floating point numbers. -/
def doubleIri : String := space ++ "double"

end Xsd

end RdfXml
