import RdfXml.Xml.Name

/-
  Events of a document with namespaces resolved.

  Key definitions include:
    * `Declaration`
    * `Attribute`
    * `StartTag`
    * `Event`
-/

------------------------------------------------------------
-- Events
------------------------------------------------------------

namespace RdfXml

/-
  A namespace declaration.  One without a prefix declares the
  default namespace.
-/
structure Declaration where
  label? : Option String
  uri : String
deriving DecidableEq, Repr

/- An attribute that is no namespace declaration. -/
structure Attribute where
  name : Name
  value : String
deriving DecidableEq, Repr

/-
  The start of an element: its name, the namespaces that it
  declares, and its other attributes, in document order.
-/
structure StartTag where
  name : Name
  declarations : List Declaration
  attributes : List Attribute
deriving DecidableEq, Repr

/-
  What a document consists of.  Adjacent `characters` events
  belong to one run of text.
-/
inductive Event where
| startElement (tag : StartTag)
| endElement (name : Name)
| characters (text : String)
deriving DecidableEq, Repr

end RdfXml
