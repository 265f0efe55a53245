import RdfXml.Grammar.Attributes
import RdfXml.Grammar.Frame
import RdfXml.Iri.Resolution
import RdfXml.Options
import RdfXml.Signal

/-
  The RDF/XML grammar, one event at a time.

  A machine keeps the open elements as frames.  Each event
  changes the innermost frames and makes the statements that
  it completes.

  Key definitions include:
    * `BlankNodes`
    * `Machine`
    * `Machine.resolveScope`
    * `Machine.nodeElement`
    * `Machine.propertyElement`
    * `Machine.closeFrame`
    * `Machine.step`
    * `Machine.run`
-/

------------------------------------------------------------
-- State
------------------------------------------------------------

namespace RdfXml

/-
  A supply of blank nodes: what they begin with, and how many
  have been issued.
-/
structure BlankNodes where
  stem : String
  issued : Nat := 0
deriving DecidableEq, Repr

namespace BlankNodes

/- The reference that the supply issues next. -/
def next (supply : BlankNodes) : String :=
  supply.stem ++ toString (supply.issued + 1)

/- The supply after it issued one more. -/
def advance (supply : BlankNodes) : BlankNodes :=
  { supply with issued := supply.issued + 1 }

end BlankNodes

/-
  The state of reading one document.  Frames are kept
  innermost first.
-/
structure Machine where
  documentBase : String
  blankNodes : BlankNodes
  frames : List Frame := []
  rootClosed : Bool := false
deriving DecidableEq, Repr

/- A machine together with the signals of a step. -/
abbrev Machine.Result :=
  Machine × List Signal

namespace Machine

/- A machine before the first event. -/
def start (options : Options) : Machine where
  documentBase := options.baseIri
  blankNodes := ⟨options.blankNodePrefix, 0⟩

/- The machine after it issued a blank node. -/
def issue (m : Machine) : Machine :=
  { m with blankNodes := m.blankNodes.advance }

/- The blank node that `issue` issues. -/
def freshNode (m : Machine) : String :=
  m.blankNodes.next

------------------------------------------------------------
-- References
------------------------------------------------------------

/- The IRI that an identifier names with a base. -/
def idIri (base id : String) : String :=
  String.ofList (base.toList.takeWhile (· != '#')) ++
    "#" ++ id

/- The note about a reference that cannot be resolved. -/
def resolutionNotes (base reference : String) : List Signal :=
  match Iri.resolutionFault? base reference with
  | some cause =>
      [.note (.unresolved reference base cause)]
  | none => []

/- The scope of the innermost open element. -/
def currentScope (m : Machine) : Scope :=
  match m.frames with
  | frame :: _ => frame.scope
  | [] => ⟨"", m.documentBase⟩

/-
  The scope of a new element: its own language and base where
  it gives them, and otherwise what it inherits.
-/
def resolveScope
    (m : Machine)
    (lang? base? : Option String) : Scope where
  lang := lang?.getD m.currentScope.lang
  base :=
    match base? with
    | some base => Iri.resolve m.currentScope.base base
    | none => m.currentScope.base

/- The notes of resolving the base of a new element. -/
def scopeNotes
    (m : Machine)
    (base? : Option String) : List Signal :=
  match base? with
  | some base => resolutionNotes m.currentScope.base base
  | none => []

------------------------------------------------------------
-- Frames
------------------------------------------------------------

/- Open an element. -/
def push
    (m : Machine)
    (scope : Scope)
    (kind : FrameKind) : Result :=
  ({ m with frames := ⟨scope, kind⟩ :: m.frames },
    [.note (.pushed kind m.frames.length scope)])

/- Put signals in front of those of a step. -/
def after
    (signals : List Signal)
    (result : Result) : Result :=
  (result.1, signals ++ result.2)

/- Replace what the innermost open element is. -/
def setTop
    (m : Machine)
    (kind : FrameKind) : Machine :=
  match m.frames with
  | frame :: outer =>
      { m with frames := { frame with kind } :: outer }
  | [] => m

------------------------------------------------------------
-- Property Attributes
------------------------------------------------------------

/-
  The statement of one property attribute.  A type is a
  reference, everything else a plain literal.
-/
def attributeSignals
    (scope : Scope)
    (subject : String)
    (property : PropertyAttribute) : List Signal :=
  if property.predicate = Rdf.typeIri then
    resolutionNotes scope.base property.value ++
      [.statement
        ⟨subject, property.predicate,
          .ofResource
            (Iri.resolve scope.base property.value)⟩]
  else
    [.statement
      ⟨subject, property.predicate,
        .plain property.value scope.lang⟩]

/- The statements of property attributes in order. -/
def propertySignals
    (scope : Scope)
    (subject : String)
    (properties : List PropertyAttribute) : List Signal :=
  properties.flatMap (attributeSignals scope subject)

------------------------------------------------------------
-- Nodes
------------------------------------------------------------

/-
  Link a node to the property or collection that it stands
  in.  Each member of a collection takes a list node.
-/
def linkToParent
    (m : Machine)
    (subject : String) : Result :=
  match m.frames, enclosingSubject? m.frames with
  | ⟨_, .property link datatype? text _⟩ :: _, some parent =>
      (m.setTop (.property link datatype? text true),
        statementSignals
          (link.statements parent (.ofResource subject)))
  | ⟨_, .collection link tail?⟩ :: _, some parent =>
      let cell := m.freshNode
      let links :=
        match tail? with
        | none => link.statements parent (.ofResource cell)
        | some tail =>
            [⟨tail, Rdf.restIri, .ofResource cell⟩]
      (m.issue.setTop (.collection link (some cell)),
        statementSignals
          (links ++
            [⟨cell, Rdf.firstIri, .ofResource subject⟩]))
  | _, _ => (m, [])

/- The machine and the subject of a node element. -/
def nodeSubject
    (m : Machine)
    (attributes : ElementAttributes)
    (scope : Scope) : Machine × String :=
  match attributes.about?, attributes.id?,
      attributes.nodeId? with
  | some about, _, _ => (m, about)
  | none, some id, _ => (m, idIri scope.base id)
  | none, none, some nodeId =>
      (m, blankNodeReference nodeId)
  | none, none, none => (m.issue, m.freshNode)

/- The type of a node that is not named a description. -/
def typeStatements
    (name : Name)
    (subject : String) : List Statement :=
  if name.denotes Rdf.space "Description" then []
  else
    [⟨subject, Rdf.typeIri, .ofResource name.expanded⟩]

/- Open a node element. -/
def nodeElement
    (m : Machine)
    (tag : StartTag)
    (attributes : ElementAttributes)
    (scope : Scope) : Result :=
  let (m, subject) := m.nodeSubject attributes scope
  let (m, links) := m.linkToParent subject
  after
    (links ++
      statementSignals (typeStatements tag.name subject) ++
        propertySignals scope subject attributes.properties)
    (m.push scope (.node subject 0))

------------------------------------------------------------
-- Properties
------------------------------------------------------------

/- Open a property whose object is given by attributes. -/
def objectProperty
    (m : Machine)
    (attributes : ElementAttributes)
    (scope : Scope)
    (subject : String)
    (link : Link) : Result :=
  let (m, notes, object) :=
    match attributes.resource?, attributes.nodeId? with
    | some resource, _ =>
        (m, resolutionNotes scope.base resource,
          Iri.resolve scope.base resource)
    | none, some nodeId =>
        (m, [], blankNodeReference nodeId)
    | none, none => (m.issue, [], m.freshNode)
  after
    (notes ++
      statementSignals
        (link.statements subject (.ofResource object)) ++
        propertySignals scope object attributes.properties)
    (m.push scope (.property link none "" true))

/- Open a property whose object is its content. -/
def contentProperty
    (m : Machine)
    (attributes : ElementAttributes)
    (scope : Scope)
    (link : Link) : Result :=
  match attributes.datatype? with
  | some datatype =>
      after (resolutionNotes scope.base datatype)
        (m.push scope
          (.property link
            (some (Iri.resolve scope.base datatype)) "" false))
  | none => m.push scope (.property link none "" false)

/- Open a property whose content is a node without a tag. -/
def resourceProperty
    (m : Machine)
    (scope : Scope)
    (subject : String)
    (link : Link) : Result :=
  after
    (statementSignals
      (link.statements subject (.ofResource m.freshNode)))
    (m.issue.push scope (.node m.freshNode 0))

/- Open a property whose content is an XML literal. -/
def literalProperty
    (m : Machine)
    (scope : Scope)
    (link : Link)
    (parseType : String) : Result :=
  after
    (if parseType = "Literal" then []
      else [.note (.readAsLiteral parseType)])
    (m.push scope (.literal link "" 0))

/- Open a property by its attributes. -/
def openProperty
    (m : Machine)
    (attributes : ElementAttributes)
    (scope : Scope)
    (subject : String)
    (link : Link) : Result :=
  match attributes.parseType? with
  | some parseType =>
      if parseType = "Resource" then
        m.resourceProperty scope subject link
      else if parseType = "Collection" then
        m.push scope (.collection link none)
      else
        m.literalProperty scope link parseType
  | none =>
      if attributes.hasObject then
        m.objectProperty attributes scope subject link
      else
        m.contentProperty attributes scope link

/-
  Open a property element of the innermost node.  Members of a
  container get the numbers from one on.
-/
def propertyElement
    (m : Machine)
    (tag : StartTag)
    (attributes : ElementAttributes)
    (scope : Scope) : Result :=
  match m.frames with
  | ⟨_, .node subject members⟩ :: _ =>
      let reification? :=
        attributes.id?.map (idIri scope.base)
      if tag.name.denotes Rdf.space "li" then
        let predicate :=
          Rdf.space ++ "_" ++ toString (members + 1)
        (m.setTop (.node subject (members + 1))).openProperty
          attributes scope subject
          ⟨predicate, reification?⟩
      else
        m.openProperty attributes scope subject
          ⟨tag.name.expanded, reification?⟩
  | _ => (m, [])

------------------------------------------------------------
-- XML Literals
------------------------------------------------------------

/- A namespace declaration in a start tag. -/
def declarationText (declaration : Declaration) : String :=
  let value := Reference.escape declaration.uri
  match declaration.label? with
  | some label => " xmlns:" ++ label ++ "=\"" ++ value ++ "\""
  | none => " xmlns=\"" ++ value ++ "\""

/- An attribute in a start tag. -/
def attributeText (a : Attribute) : String :=
  " " ++ a.name.qualified ++ "=\"" ++
    Reference.escape a.value ++ "\""

/- The text of a start tag. -/
def startTagText (tag : StartTag) : String :=
  "<" ++ tag.name.qualified ++
    String.join (tag.declarations.map declarationText) ++
      String.join (tag.attributes.map attributeText) ++ ">"

/- The text of an end tag. -/
def endTagText (name : Name) : String :=
  "</" ++ name.qualified ++ ">"

/- Add a start tag to the XML literal that is open. -/
def captureStartTag
    (m : Machine)
    (tag : StartTag) : Machine :=
  match m.frames with
  | ⟨_, .literal link markup depth⟩ :: _ =>
      m.setTop
        (.literal link (markup ++ startTagText tag)
          (depth + 1))
  | _ => m

------------------------------------------------------------
-- Closing Frames
------------------------------------------------------------

/- A text without the blanks at its ends. -/
def trimText (text : String) : String :=
  trimBoth isXmlBlank text

/- The literal of a property without another object. -/
def contentObject
    (scope : Scope)
    (datatype? : Option String)
    (text : String) : Object :=
  let datatype := datatype?.getD ""
  .literal (trimText text) datatype
    (if datatype = "" then scope.lang else "")

/-
  The statements of an element that ends, given the frames
  around it.
-/
def closeFrame
    (outer : List Frame)
    (frame : Frame) : List Statement :=
  match frame.kind, enclosingSubject? outer with
  | .collection _ (some tail), _ =>
      [⟨tail, Rdf.restIri, .ofResource Rdf.nilIri⟩]
  | .collection link none, some subject =>
      link.statements subject (.ofResource Rdf.nilIri)
  | .property link datatype? text false, some subject =>
      link.statements subject
        (contentObject frame.scope datatype? text)
  | .literal link markup _, some subject =>
      link.statements subject
        (.literal (trimText markup) Rdf.xmlLiteralIri "")
  | _, _ => []

------------------------------------------------------------
-- Events
------------------------------------------------------------

/- The signals of the namespaces that an element declares. -/
def declarationSignals (tag : StartTag) : List Signal :=
  tag.declarations.map
    (fun d => .declared (d.label?.getD "") d.uri)

/- Open an element that is not content of a literal. -/
def openElement
    (m : Machine)
    (tag : StartTag)
    (role : Role) : Result :=
  let attributes := ElementAttributes.ofList tag.attributes
  let scope :=
    m.resolveScope attributes.lang? attributes.base?
  after
    ((unqualifiedNames tag.attributes).map
      (fun name => .note (.unqualifiedAttribute name)) ++
        m.scopeNotes attributes.base?)
    (if m.frames.isEmpty &&
        tag.name.denotes Rdf.space "RDF" then
      m.push scope .root
    else if role = .node then
      m.nodeElement tag attributes scope
    else
      m.propertyElement tag attributes scope)

/- Process the start of an element. -/
def startElement
    (m : Machine)
    (tag : StartTag) : Result :=
  after (declarationSignals tag)
    (if m.rootClosed then
      (m, [.note (.elementAfterRoot tag.name)])
    else
      let role := roleOfNext m.frames
      after [.note (.element tag role)]
        (if role = .literalContent then
          (m.captureStartTag tag, [])
        else
          m.openElement tag role))

/-
  Close the innermost frame.  When it is the last one the
  document element has ended.
-/
def pop
    (m : Machine)
    (name : Name) : Result :=
  match m.frames with
  | frame :: outer =>
      ({ m with
          frames := outer
          rootClosed := m.rootClosed || outer.isEmpty },
        statementSignals (closeFrame outer frame))
  | [] => (m, [.note (.endWithoutFrame name)])

/- Process the end of an element. -/
def endElement
    (m : Machine)
    (name : Name) : Result :=
  match m.frames with
  | ⟨_, .literal link markup (depth + 1)⟩ :: _ =>
      (m.setTop
        (.literal link (markup ++ endTagText name) depth), [])
  | _ => m.pop name

/- Process text, which only some frames collect. -/
def characters
    (m : Machine)
    (content : String) : Machine :=
  match m.frames with
  | ⟨_, .property link datatype? text hasObject⟩ :: _ =>
      m.setTop
        (.property link datatype? (text ++ content) hasObject)
  | ⟨_, .literal link markup depth⟩ :: _ =>
      m.setTop
        (.literal link (markup ++ Reference.escape content)
          depth)
  | _ => m

/- Process an event. -/
def step
    (m : Machine)
    (event : Event) : Result :=
  match event with
  | .startElement tag => m.startElement tag
  | .endElement name => m.endElement name
  | .characters content => (m.characters content, [])

/- Process events in order. -/
def run : Machine → List Event → Result
| m, [] => (m, [])
| m, event :: rest =>
    let head := m.step event
    let tail := run head.1 rest
    (tail.1, head.2 ++ tail.2)

end Machine

end RdfXml
