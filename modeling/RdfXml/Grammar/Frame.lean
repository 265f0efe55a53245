import RdfXml.Rdf.Statement

/-
  Open elements by the part that they play in RDF/XML.

  Key definitions include:
    * `Scope`
    * `Link`
    * `Link.statements`
    * `FrameKind`
    * `Frame`
    * `Role`
    * `FrameKind.roleOfChild`
    * `enclosingSubject?`
-/

------------------------------------------------------------
-- Scopes And Links
------------------------------------------------------------

namespace RdfXml

/-
  What an element inherits: the language, empty when none is
  in effect, and the base of its references.
-/
structure Scope where
  lang : String
  base : String
deriving DecidableEq, Repr

/-
  The predicate of a property element, and the name of the
  description of its statement, if it has one.
-/
structure Link where
  predicate : String
  reification? : Option String
deriving DecidableEq, Repr

/- The four statements that describe a statement. -/
def description
    (name : String)
    (statement : Statement) : List Statement :=
  [⟨name, Rdf.typeIri, .ofResource Rdf.statementIri⟩,
   ⟨name, Rdf.subjectIri, .ofResource statement.subject⟩,
   ⟨name, Rdf.predicateIri, .ofResource statement.predicate⟩,
   ⟨name, Rdf.objectIri, statement.object⟩]

namespace Link

/-
  The statement that links a subject to an object, and its
  description if it has a name.
-/
def statements
    (link : Link)
    (subject : String)
    (object : Object) : List Statement :=
  let statement : Statement :=
    ⟨subject, link.predicate, object⟩
  match link.reification? with
  | some name => statement :: description name statement
  | none => [statement]

end Link

------------------------------------------------------------
-- Frames
------------------------------------------------------------

/-
  What an open element is.  A node counts its members; a
  property collects text until it has an object; a literal
  property collects markup and counts the elements open in
  it; a collection remembers its last list node.
-/
inductive FrameKind where
| root
| node (subject : String) (members : Nat)
| property (link : Link) (datatype? : Option String)
    (text : String) (hasObject : Bool)
| literal (link : Link) (markup : String) (depth : Nat)
| collection (link : Link) (tail? : Option String)
deriving DecidableEq, Repr

/- An open element with its scope. -/
structure Frame where
  scope : Scope
  kind : FrameKind
deriving DecidableEq, Repr

/- The part that an element plays where it occurs. -/
inductive Role where
| node
| property
| literalContent
deriving DecidableEq, Repr

namespace Role

/- The word for a role. -/
def word : Role → String
| .node => "Node"
| .property => "Property"
| .literalContent => "LiteralContent"

end Role

namespace FrameKind

/- The words for a kind. -/
def word : FrameKind → String
| .root => "root"
| .node _ _ => "node"
| .property _ _ _ _ => "property"
| .literal _ _ _ => "literal property"
| .collection _ _ => "collection property"

/- The role of an element directly inside of this one. -/
def roleOfChild : FrameKind → Role
| .root => .node
| .node _ _ => .property
| .property _ _ _ _ => .node
| .literal _ _ _ => .literalContent
| .collection _ _ => .node

/- The subject of a node. -/
def subject? : FrameKind → Option String
| .node subject _ => some subject
| _ => none

end FrameKind

/- The subject of the innermost node, innermost frame first. -/
def enclosingSubject? (frames : List Frame) : Option String :=
  frames.findSome? (fun frame => frame.kind.subject?)

/- The role of the next element, innermost frame first. -/
def roleOfNext : List Frame → Role
| [] => .node
| frame :: _ => frame.kind.roleOfChild

end RdfXml
