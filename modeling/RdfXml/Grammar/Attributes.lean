import RdfXml.Rdf.Vocabulary
import RdfXml.Xml.Bindings

/-
  The attributes of an element by what they mean in RDF/XML.

  Key definitions include:
    * `PropertyAttribute`
    * `ElementAttributes`
    * `ElementAttributes.add`
    * `ElementAttributes.ofList`
    * `unqualifiedNames`
-/

------------------------------------------------------------
-- Attributes Of An Element
------------------------------------------------------------

namespace RdfXml

/- An attribute that stands for a property. -/
structure PropertyAttribute where
  predicate : String
  value : String
deriving DecidableEq, Repr

/-
  Attributes with a meaning of their own, and the others as
  properties in document order.
-/
structure ElementAttributes where
  about? : Option String := none
  id? : Option String := none
  nodeId? : Option String := none
  resource? : Option String := none
  datatype? : Option String := none
  parseType? : Option String := none
  lang? : Option String := none
  base? : Option String := none
  properties : List PropertyAttribute := []
deriving DecidableEq, Repr

namespace ElementAttributes

/- Add a property. -/
def addProperty
    (attributes : ElementAttributes)
    (a : Attribute) : ElementAttributes :=
  { attributes with
    properties := attributes.properties ++
      [⟨a.name.expanded, a.value⟩] }

/- Add an attribute of the RDF namespace. -/
def addRdf
    (attributes : ElementAttributes)
    (a : Attribute) : ElementAttributes :=
  let localName := a.name.localName
  let value := some a.value
  if localName = "about" then
    { attributes with about? := value }
  else if localName = "ID" then
    { attributes with id? := value }
  else if localName = "nodeID" then
    { attributes with nodeId? := value }
  else if localName = "resource" then
    { attributes with resource? := value }
  else if localName = "datatype" then
    { attributes with datatype? := value }
  else if localName = "parseType" then
    { attributes with parseType? := value }
  else
    attributes.addProperty a

/- Add an attribute of the XML namespace. -/
def addXml
    (attributes : ElementAttributes)
    (a : Attribute) : ElementAttributes :=
  if a.name.localName = "lang" then
    { attributes with lang? := some a.value }
  else if a.name.localName = "base" then
    { attributes with base? := some a.value }
  else
    attributes

/-
  Add an attribute.  The last one with a meaning counts, and
  one without a namespace has no meaning.
-/
def add
    (attributes : ElementAttributes)
    (a : Attribute) : ElementAttributes :=
  match a.name.space? with
  | none => attributes
  | some space =>
      if space = Rdf.space then attributes.addRdf a
      else if space = xmlNamespace then attributes.addXml a
      else attributes.addProperty a

/- The attributes of an element. -/
def ofList (list : List Attribute) : ElementAttributes :=
  list.foldl add {}

/- The object of a property is given by an attribute. -/
def hasObject (attributes : ElementAttributes) : Bool :=
  attributes.resource?.isSome || attributes.nodeId?.isSome ||
    !attributes.properties.isEmpty

end ElementAttributes

/- The names of the attributes without a namespace. -/
def unqualifiedNames (list : List Attribute) : List String :=
  (list.filter (fun a => a.name.space?.isNone)).map
    (fun a => a.name.localName)

end RdfXml
