import RdfXml.Grammar.Machine
import RdfXml.Proofs.Xml.Tree

/-
  The RDF/XML grammar over element trees.

  Elements are nodes and properties by turns.  The statements
  of a document are given by recursion over its tree, in
  document order, with the supply of blank nodes handed from
  one element to the next.

  Main declarations:
    * `Parent`
    * `PropertyForm`
    * `Grammar.nodes`
    * `Grammar.properties`
    * `Grammar.document`
-/

------------------------------------------------------------
-- Contents
------------------------------------------------------------

namespace RdfXml

namespace Content

/- The text of a content that is in no element of it. -/
def directText : Content → String
| .nil => ""
| .text run rest => run ++ rest.directText
| .element _ _ rest => rest.directText

/- An element stands in the content. -/
def hasElement : Content → Bool
| .nil => false
| .text _ rest => rest.hasElement
| .element _ _ _ => true

/- The content as it is written in a document. -/
def markup : Content → String
| .nil => ""
| .text run rest => Reference.escape run ++ rest.markup
| .element tag inner rest =>
    Machine.startTagText tag ++
      (inner.markup ++
        (Machine.endTagText tag.name ++ rest.markup))

end Content

------------------------------------------------------------
-- Single Elements
------------------------------------------------------------

/-
  The scope of an element with these attributes inside of
  another scope.
-/
def Scope.enter
    (scope : Scope)
    (attributes : ElementAttributes) : Scope where
  lang := attributes.lang?.getD scope.lang
  base :=
    match attributes.base? with
    | some base => Iri.resolve scope.base base
    | none => scope.base

/-
  What a node stands in: the document, or a property or a
  collection of a subject.
-/
inductive Parent where
| document
| property (link : Link) (subject : String)
| collection (link : Link) (subject : String)
deriving DecidableEq, Repr

/-
  Where the object of a property comes from: from its content
  as a node without a tag, as a list, or as markup, from its
  attributes, or from its content as a node or as text.
-/
inductive PropertyForm where
| resource
| collection
| literal
| object
| plain
deriving DecidableEq, Repr

/- The form of a property with these attributes. -/
def PropertyForm.ofAttributes
    (attributes : ElementAttributes) : PropertyForm :=
  match attributes.parseType? with
  | some parseType =>
      if parseType = "Resource" then .resource
      else if parseType = "Collection" then .collection
      else .literal
  | none => if attributes.hasObject then .object else .plain

namespace Grammar

/- The subject of a node, and the supply after it. -/
def subjectOf
    (attributes : ElementAttributes)
    (base : String)
    (supply : BlankNodes) : String × BlankNodes :=
  match attributes.about?, attributes.id?,
      attributes.nodeId? with
  | some about, _, _ => (about, supply)
  | none, some id, _ => (Machine.idIri base id, supply)
  | none, none, some nodeId =>
      (blankNodeReference nodeId, supply)
  | none, none, none => (supply.next, supply.advance)

/- The object that a property's attributes give. -/
def objectOf
    (attributes : ElementAttributes)
    (base : String)
    (supply : BlankNodes) : String × BlankNodes :=
  match attributes.resource?, attributes.nodeId? with
  | some resource, _ => (Iri.resolve base resource, supply)
  | none, some nodeId =>
      (blankNodeReference nodeId, supply)
  | none, none => (supply.next, supply.advance)

/- The statement of a property attribute. -/
def attributeStatement
    (scope : Scope)
    (subject : String)
    (property : PropertyAttribute) : Statement :=
  if property.predicate = Rdf.typeIri then
    ⟨subject, property.predicate,
      .ofResource (Iri.resolve scope.base property.value)⟩
  else
    ⟨subject, property.predicate,
      .plain property.value scope.lang⟩

/-
  Link a node to what it stands in.  `tail?` is the last list
  node of a collection so far.
-/
def attach
    (parent : Parent)
    (tail? : Option String)
    (supply : BlankNodes)
    (node : String) :
    List Statement × Option String × BlankNodes :=
  match parent with
  | .document => ([], tail?, supply)
  | .property link subject =>
      (link.statements subject (.ofResource node), tail?,
        supply)
  | .collection link subject =>
      let cell := supply.next
      let links :=
        match tail? with
        | none =>
            link.statements subject (.ofResource cell)
        | some tail =>
            [⟨tail, Rdf.restIri, .ofResource cell⟩]
      (links ++
          [⟨cell, Rdf.firstIri, .ofResource node⟩],
        some cell, supply.advance)

/- The end of a collection with this last list node. -/
def collectionEnd
    (link : Link)
    (subject : String)
    (tail? : Option String) : List Statement :=
  match tail? with
  | none =>
      link.statements subject (.ofResource Rdf.nilIri)
  | some tail =>
      [⟨tail, Rdf.restIri, .ofResource Rdf.nilIri⟩]

/- The number of members after a property with this name. -/
def countMember
    (name : Name)
    (members : Nat) : Nat :=
  if name.denotes Rdf.space "li" then members + 1
  else members

/-
  The predicate of a property, when `members` counts it if it
  is a member of a container.
-/
def predicateOf
    (name : Name)
    (members : Nat) : String :=
  if name.denotes Rdf.space "li" then
    Rdf.space ++ "_" ++ toString members
  else
    name.expanded

/-
  The link of a property, given the scope of its node and the
  number of members before it.
-/
def linkOf
    (tag : StartTag)
    (scope : Scope)
    (members : Nat) : Link :=
  let attributes := ElementAttributes.ofList tag.attributes
  ⟨predicateOf tag.name (countMember tag.name members),
    attributes.id?.map
      (Machine.idIri (scope.enter attributes).base)⟩

------------------------------------------------------------
-- Trees
------------------------------------------------------------

mutual

/-
  The statements of the nodes in a content, with the last
  list node and the supply after them.  Text between nodes
  has no meaning.
-/
def nodes
    (scope : Scope)
    (parent : Parent)
    (tail? : Option String)
    (supply : BlankNodes) :
    Content → List Statement × Option String × BlankNodes
| .nil => ([], tail?, supply)
| .text _ rest => nodes scope parent tail? supply rest
| .element tag inner rest =>
    let attributes := ElementAttributes.ofList tag.attributes
    let inScope := scope.enter attributes
    let (subject, supply) :=
      subjectOf attributes inScope.base supply
    let (links, tail?, supply) :=
      attach parent tail? supply subject
    let (inside, supply) :=
      properties inScope subject 0 supply inner
    let (others, tail?, supply) :=
      nodes scope parent tail? supply rest
    (links ++
        (Machine.typeStatements tag.name subject ++
          (attributes.properties.map
            (attributeStatement inScope subject) ++
              (inside ++ others))),
      tail?, supply)

/-
  The statements of the properties of a subject in a content,
  with the supply after them.  `members` counts the members
  of a container.
-/
def properties
    (scope : Scope)
    (subject : String)
    (members : Nat)
    (supply : BlankNodes) :
    Content → List Statement × BlankNodes
| .nil => ([], supply)
| .text _ rest =>
    properties scope subject members supply rest
| .element tag inner rest =>
    let attributes := ElementAttributes.ofList tag.attributes
    let inScope := scope.enter attributes
    let members := countMember tag.name members
    let link : Link :=
      ⟨predicateOf tag.name members,
        attributes.id?.map (Machine.idIri inScope.base)⟩
    let (made, supply) :=
      match PropertyForm.ofAttributes attributes with
      | .resource =>
          let (inside, later) :=
            properties inScope supply.next 0 supply.advance
              inner
          (link.statements subject
              (.ofResource supply.next) ++ inside,
            later)
      | .collection =>
          let (inside, tail?, supply) :=
            nodes inScope (.collection link subject) none
              supply inner
          (inside ++ collectionEnd link subject tail?,
            supply)
      | .literal =>
          (link.statements subject
              (.literal (Machine.trimText inner.markup)
                Rdf.xmlLiteralIri ""),
            supply)
      | .object =>
          let (object, supply) :=
            objectOf attributes inScope.base supply
          let (inside, _, supply) :=
            nodes inScope (.property link subject) none
              supply inner
          (link.statements subject (.ofResource object) ++
              (attributes.properties.map
                (attributeStatement inScope object) ++
                  inside),
            supply)
      | .plain =>
          let (inside, _, supply) :=
            nodes inScope (.property link subject) none
              supply inner
          (inside ++
              (if inner.hasElement then []
              else
                link.statements subject
                  (Machine.contentObject inScope
                    (attributes.datatype?.map
                      (Iri.resolve inScope.base))
                    inner.directText)),
            supply)
    let (others, supply) :=
      properties scope subject members supply rest
    (made ++ others, supply)

end

/-
  The statements of a document.  The root is a container of
  nodes when it says so, and otherwise a node.
-/
def document
    (options : Options)
    (root : Element) : List Statement :=
  let scope : Scope := ⟨"", options.baseIri⟩
  let supply : BlankNodes := ⟨options.blankNodePrefix, 0⟩
  if root.tag.name.denotes Rdf.space "RDF" then
    (nodes
      (scope.enter
        (ElementAttributes.ofList root.tag.attributes))
      .document none supply root.content).1
  else
    (nodes scope .document none supply
      (.element root.tag root.content .nil)).1

end Grammar

end RdfXml
