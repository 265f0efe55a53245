import RdfXml.Proofs.Grammar.Run
import RdfXml.Proofs.Grammar.Tree

/-
  The machine computes the grammar over trees.

  Run over the events of a content, the machine makes the
  statements that the grammar gives for it and leaves the
  frames below the innermost one as they were.  What the
  content does to the innermost frame depends on what that
  frame is.

  Main declarations:
    * `Parent.kind`
    * `Machine.Runs`
    * `Machine.startElement_node`
    * `Machine.startElement_property`
    * `Machine.runs_literal`
    * `Machine.NodesRun`
    * `Machine.PropertiesRun`
    * `Machine.AtProperty`
    * `Machine.runs_content`
    * `Machine.run_document`
-/

------------------------------------------------------------
-- Statements Among Signals
------------------------------------------------------------

namespace RdfXml

theorem statementsOf_append (first second : List Signal) :
    statementsOf (first ++ second) =
      statementsOf first ++ statementsOf second :=
  List.filterMap_append

theorem statementsOf_signals (statements : List Statement) :
    statementsOf (statementSignals statements) =
      statements := by
  simp [statementsOf, statementSignals, Signal.statement?,
    List.filterMap_map, Function.comp_def]

namespace Machine

theorem statementsOf_after
    (signals : List Signal)
    (result : Result) :
    statementsOf (after signals result).2 =
      statementsOf signals ++ statementsOf result.2 :=
  statementsOf_append signals result.2

theorem statementsOf_resolutionNotes
    (base reference : String) :
    statementsOf (resolutionNotes base reference) = [] := by
  unfold resolutionNotes
  split
  · rfl
  · rfl

theorem statementsOf_declarations (tag : StartTag) :
    statementsOf (declarationSignals tag) = [] := by
  simp [statementsOf, declarationSignals,
    Signal.statement?]

theorem statementsOf_properties
    (scope : Scope)
    (subject : String)
    (properties : List PropertyAttribute) :
    statementsOf (propertySignals scope subject properties) =
      properties.map
        (Grammar.attributeStatement scope subject) := by
  unfold propertySignals
  induction properties with
  | nil => rfl
  | cons property properties ih =>
      rw [List.flatMap_cons, statementsOf_append, ih,
        List.map_cons]
      unfold attributeSignals Grammar.attributeStatement
      split
      · rw [statementsOf_append,
          statementsOf_resolutionNotes]
        rfl
      · rfl

------------------------------------------------------------
-- Runs And Their Statements
------------------------------------------------------------

/- The machine with another supply and other frames. -/
def placed
    (m : Machine)
    (supply : BlankNodes)
    (frames : List Frame) : Machine :=
  { m with blankNodes := supply, frames }

/- What a step or a run makes, and the machine after it. -/
def Makes
    (result : Result)
    (statements : List Statement)
    (after : Machine) : Prop :=
  result.1 = after ∧ statementsOf result.2 = statements

/- A run over events makes statements. -/
def Runs
    (m : Machine)
    (events : List Event)
    (statements : List Statement)
    (after : Machine) : Prop :=
  Makes (m.run events) statements after

theorem Makes.after
    {result : Result}
    {statements : List Statement}
    {last : Machine}
    (hMakes : Makes result statements last)
    (signals : List Signal)
    {before : List Statement}
    (hSignals : statementsOf signals = before) :
    Makes (Machine.after signals result)
      (before ++ statements) last := by
  refine ⟨hMakes.1, ?_⟩
  rw [statementsOf_after, hSignals, hMakes.2]

theorem runs_nil (m : Machine) :
    m.Runs Content.nil.events [] m :=
  ⟨rfl, rfl⟩

theorem runs_cons
    {m middle last : Machine}
    {event : Event}
    {events : List Event}
    {first second : List Statement}
    (hStep : Makes (m.step event) first middle)
    (hRest : middle.Runs events second last) :
    m.Runs (event :: events) (first ++ second) last := by
  rcases hStep with ⟨hMiddle, hFirst⟩
  rcases hRest with ⟨hLast, hSecond⟩
  unfold Runs Makes
  simp only [run, hMiddle]
  exact ⟨hLast, by rw [statementsOf_append, hFirst, hSecond]⟩

theorem runs_append
    {m middle last : Machine}
    {events more : List Event}
    {first second : List Statement}
    (hEvents : m.Runs events first middle)
    (hMore : middle.Runs more second last) :
    m.Runs (events ++ more) (first ++ second) last := by
  rcases hEvents with ⟨hMiddle, hFirst⟩
  rcases hMore with ⟨hLast, hSecond⟩
  unfold Runs Makes
  rw [run_append]
  simp only [hMiddle]
  exact ⟨hLast, by rw [statementsOf_append, hFirst, hSecond]⟩

/- An element is its start, its content, and its end. -/
theorem runs_element
    {m opened filled closed last : Machine}
    {tag : StartTag}
    {inner rest : Content}
    {start inside ending others : List Statement}
    (hStart : Makes (m.startElement tag) start opened)
    (hInner : opened.Runs inner.events inside filled)
    (hEnd :
      Makes (filled.endElement tag.name) ending closed)
    (hRest : closed.Runs rest.events others last) :
    m.Runs (Content.element tag inner rest).events
      (start ++ (inside ++ (ending ++ others))) last :=
  runs_cons hStart (runs_append hInner (runs_cons hEnd hRest))

------------------------------------------------------------
-- Frames Of Parents
------------------------------------------------------------

end Machine

namespace Parent

/-
  The frame of what nodes stand in.  A property has collected
  text, and may have an object already.
-/
def kind
    (parent : Parent)
    (tail? datatype? : Option String)
    (text : String)
    (hasObject : Bool) : FrameKind :=
  match parent with
  | .document => .root
  | .property link _ =>
      .property link datatype? text hasObject
  | .collection link _ => .collection link tail?

/- The subject is that of the node around the frame. -/
def Stands
    (parent : Parent)
    (outer : List Frame) : Prop :=
  match parent with
  | .document => True
  | .property _ subject =>
      enclosingSubject? outer = some subject
  | .collection _ subject =>
      enclosingSubject? outer = some subject

theorem roleOfNext_kind
    (parent : Parent)
    (tail? datatype? : Option String)
    (text : String)
    (hasObject : Bool)
    (scope : Scope)
    (outer : List Frame) :
    roleOfNext
        (⟨scope, parent.kind tail? datatype? text hasObject⟩
          :: outer) = .node := by
  cases parent with
  | document => rfl
  | property link subject => rfl
  | collection link subject => rfl

theorem kind_ne_literal
    (parent : Parent)
    (tail? datatype? : Option String)
    (text : String)
    (hasObject : Bool)
    (link : Link)
    (markup : String)
    (depth : Nat) :
    parent.kind tail? datatype? text hasObject ≠
      .literal link markup depth := by
  cases parent with
  | document => simp [kind]
  | property link subject => simp [kind]
  | collection link subject => simp [kind]

end Parent

namespace Machine

/- Linking a node is attaching it. -/
theorem linkToParent_attach
    (m : Machine)
    {scope : Scope}
    {parent : Parent}
    {tail? datatype? : Option String}
    {text : String}
    {hasObject : Bool}
    {outer : List Frame}
    (hFrames :
      m.frames =
        ⟨scope, parent.kind tail? datatype? text hasObject⟩
          :: outer)
    (hStands : parent.Stands outer)
    (node : String) :
    m.linkToParent node =
      (m.placed
        (Grammar.attach parent tail? m.blankNodes node).2.2
        (⟨scope,
          parent.kind
            (Grammar.attach parent tail? m.blankNodes
              node).2.1
            datatype? text true⟩ :: outer),
        statementSignals
          (Grammar.attach parent tail? m.blankNodes
            node).1) := by
  rcases m with ⟨base, supply, frames, closed⟩
  dsimp only at hFrames
  subst hFrames
  cases parent with
  | document => rfl
  | property link subject =>
      have hSubject :
          enclosingSubject?
              (⟨scope, .property link datatype? text
                hasObject⟩ :: outer) = some subject :=
        hStands
      simp only [linkToParent, Parent.kind, hSubject]
      rfl
  | collection link subject =>
      have hSubject :
          enclosingSubject?
              (⟨scope, .collection link tail?⟩ :: outer) =
            some subject :=
        hStands
      simp only [linkToParent, Parent.kind, hSubject]
      cases tail? with
      | none => rfl
      | some tail => rfl

theorem nodeSubject_subjectOf
    (m : Machine)
    (attributes : ElementAttributes)
    (scope : Scope) :
    m.nodeSubject attributes scope =
      (m.placed
        (Grammar.subjectOf attributes scope.base
          m.blankNodes).2 m.frames,
        (Grammar.subjectOf attributes scope.base
          m.blankNodes).1) := by
  unfold nodeSubject Grammar.subjectOf
  cases attributes.about? with
  | some about => rfl
  | none =>
      cases attributes.id? with
      | some id => rfl
      | none =>
          cases attributes.nodeId? with
          | some nodeId => rfl
          | none => rfl

------------------------------------------------------------
-- Starts Of Elements
------------------------------------------------------------

/- A new element enters the scope of the innermost one. -/
theorem resolveScope_enter
    (m : Machine)
    (attributes : ElementAttributes) :
    m.resolveScope attributes.lang? attributes.base? =
      m.currentScope.enter attributes :=
  rfl

theorem currentScope_cons
    {m : Machine}
    {frame : Frame}
    {outer : List Frame}
    (hFrames : m.frames = frame :: outer) :
    m.currentScope = frame.scope := by
  unfold currentScope
  rw [hFrames]

theorem push_makes
    (m : Machine)
    (scope : Scope)
    (kind : FrameKind) :
    Makes (m.push scope kind) []
      (m.placed m.blankNodes (⟨scope, kind⟩ :: m.frames)) :=
  ⟨rfl, rfl⟩

/- Before the end of the root, an element is opened. -/
theorem startElement_open
    {m last : Machine}
    {tag : StartTag}
    {role : Role}
    {made : List Statement}
    (hOpen : m.rootClosed = false)
    (hRole : roleOfNext m.frames = role)
    (hContent : role ≠ .literalContent)
    (hMakes : Makes (m.openElement tag role) made last) :
    Makes (m.startElement tag) made last := by
  unfold startElement
  rw [hOpen, hRole]
  simp only [Bool.false_eq_true, if_false, hContent]
  have hNoted :=
    hMakes.after [.note (.element tag role)] rfl
  exact hNoted.after _ (statementsOf_declarations tag)

theorem statementsOf_opening
    (m : Machine)
    (tag : StartTag)
    (base? : Option String) :
    statementsOf
        ((unqualifiedNames tag.attributes).map
            (fun name =>
              Signal.note (.unqualifiedAttribute name)) ++
          m.scopeNotes base?) = [] := by
  rw [statementsOf_append]
  have hNames :
      statementsOf
          ((unqualifiedNames tag.attributes).map
            (fun name =>
              Signal.note (.unqualifiedAttribute name))) =
        [] := by
    simp [statementsOf, Signal.statement?]
  rw [hNames, List.nil_append]
  cases base? with
  | none => rfl
  | some base => exact statementsOf_resolutionNotes _ _

/- A node opens a frame of its own around its links. -/
theorem nodeElement_makes
    {m linked : Machine}
    {attributes : ElementAttributes}
    {scope : Scope}
    {subject : String}
    {supply : BlankNodes}
    {links : List Statement}
    (hSubject :
      Grammar.subjectOf attributes scope.base m.blankNodes =
        (subject, supply))
    (hLink :
      (m.placed supply m.frames).linkToParent subject =
        (linked, statementSignals links))
    (tag : StartTag) :
    Makes (m.nodeElement tag attributes scope)
      (links ++
        (typeStatements tag.name subject ++
          attributes.properties.map
            (Grammar.attributeStatement scope subject)))
      (linked.placed linked.blankNodes
        (⟨scope, .node subject 0⟩ :: linked.frames)) := by
  unfold nodeElement
  rw [nodeSubject_subjectOf, hSubject]
  dsimp only
  rw [hLink]
  dsimp only
  have hMakes :=
    (push_makes linked scope (.node subject 0)).after
      (statementSignals links ++
        statementSignals
          (typeStatements tag.name subject) ++
        propertySignals scope subject
          attributes.properties) rfl
  refine ⟨hMakes.1, hMakes.2.trans ?_⟩
  rw [List.append_nil, statementsOf_append,
    statementsOf_append, statementsOf_signals,
    statementsOf_signals, statementsOf_properties,
    List.append_assoc]

/- A node element inside of the document element. -/
theorem startElement_node
    {m : Machine}
    {tag : StartTag}
    {scope : Scope}
    {parent : Parent}
    {tail? datatype? : Option String}
    {text : String}
    {hasObject : Bool}
    {outer : List Frame}
    {attributes : ElementAttributes}
    {subject : String}
    {supply : BlankNodes}
    (hOpen : m.rootClosed = false)
    (hFrames :
      m.frames =
        ⟨scope, parent.kind tail? datatype? text hasObject⟩
          :: outer)
    (hStands : parent.Stands outer)
    (hAttributes :
      ElementAttributes.ofList tag.attributes = attributes)
    (hSubject :
      Grammar.subjectOf attributes
          (scope.enter attributes).base m.blankNodes =
        (subject, supply)) :
    Makes (m.startElement tag)
      ((Grammar.attach parent tail? supply subject).1 ++
        (typeStatements tag.name subject ++
          attributes.properties.map
            (Grammar.attributeStatement
              (scope.enter attributes) subject)))
      (m.placed
        (Grammar.attach parent tail? supply subject).2.2
        (⟨scope.enter attributes, .node subject 0⟩ ::
          ⟨scope,
            parent.kind
              (Grammar.attach parent tail? supply
                subject).2.1
              datatype? text true⟩ :: outer)) := by
  have hRole : roleOfNext m.frames = .node := by
    rw [hFrames]
    exact Parent.roleOfNext_kind _ _ _ _ _ _ _
  have hScope :
      m.resolveScope attributes.lang? attributes.base? =
        scope.enter attributes := by
    rw [resolveScope_enter, currentScope_cons hFrames]
  apply startElement_open hOpen hRole (by simp)
  unfold openElement
  dsimp only
  rw [hAttributes, hScope, hFrames]
  simp only [List.isEmpty_cons, Bool.false_and,
    Bool.false_eq_true, if_false, if_true]
  have hLink :=
    linkToParent_attach (m.placed supply m.frames)
      hFrames hStands subject
  have hMakes := nodeElement_makes hSubject hLink tag
  exact hMakes.after _ (statementsOf_opening m tag _)

/- A property is counted, and then opened by its link. -/
theorem propertyElement_node
    {m : Machine}
    {inScope : Scope}
    {subject : String}
    {members : Nat}
    {outer : List Frame}
    (hFrames :
      m.frames = ⟨inScope, .node subject members⟩ :: outer)
    (tag : StartTag)
    (attributes : ElementAttributes)
    (scope : Scope) :
    m.propertyElement tag attributes scope =
      (m.placed m.blankNodes
        (⟨inScope, .node subject
          (Grammar.countMember tag.name members)⟩
            :: outer)).openProperty attributes scope subject
        ⟨Grammar.predicateOf tag.name
            (Grammar.countMember tag.name members),
          attributes.id?.map (idIri scope.base)⟩ := by
  rcases m with ⟨base, supply, frames, closed⟩
  dsimp only at hFrames
  subst hFrames
  unfold propertyElement Grammar.countMember
    Grammar.predicateOf
  cases tag.name.denotes Rdf.space "li" with
  | true => rfl
  | false => rfl

/- A property element of a node. -/
theorem startElement_property
    {m last : Machine}
    {tag : StartTag}
    {scope : Scope}
    {subject : String}
    {members : Nat}
    {outer : List Frame}
    {attributes : ElementAttributes}
    {made : List Statement}
    (hOpen : m.rootClosed = false)
    (hFrames :
      m.frames = ⟨scope, .node subject members⟩ :: outer)
    (hAttributes :
      ElementAttributes.ofList tag.attributes = attributes)
    (hMakes :
      Makes
        ((m.placed m.blankNodes
          (⟨scope, .node subject
            (Grammar.countMember tag.name members)⟩
              :: outer)).openProperty
          attributes (scope.enter attributes) subject
          ⟨Grammar.predicateOf tag.name
              (Grammar.countMember tag.name members),
            attributes.id?.map
              (idIri (scope.enter attributes).base)⟩)
        made last) :
    Makes (m.startElement tag) made last := by
  have hRole : roleOfNext m.frames = .property := by
    rw [hFrames]
    rfl
  have hScope :
      m.resolveScope attributes.lang? attributes.base? =
        scope.enter attributes := by
    rw [resolveScope_enter, currentScope_cons hFrames]
  have hProperty :=
    propertyElement_node hFrames tag attributes
      (scope.enter attributes)
  apply startElement_open hOpen hRole (by simp)
  unfold openElement
  dsimp only
  rw [hAttributes, hScope, hProperty, hFrames]
  simp only [List.isEmpty_cons, Bool.false_and,
    Bool.false_eq_true, if_false, reduceCtorEq]
  exact hMakes.after _ (statementsOf_opening m tag _)

/- The statements about an object that attributes give. -/
theorem Makes.after_object
    {result : Result}
    {last : Machine}
    (hMakes : Makes result [] last)
    {notes : List Signal}
    (hNotes : statementsOf notes = [])
    (statements : List Statement)
    (scope : Scope)
    (object : String)
    (properties : List PropertyAttribute) :
    Makes
      (Machine.after
        (notes ++ statementSignals statements ++
          propertySignals scope object properties) result)
      (statements ++
        properties.map
          (Grammar.attributeStatement scope object)) last := by
  refine ⟨hMakes.1, ?_⟩
  rw [statementsOf_after, hMakes.2, List.append_nil,
    statementsOf_append, statementsOf_append, hNotes,
    statementsOf_signals, statementsOf_properties,
    List.nil_append]

section Properties

variable
  {m : Machine}
  {attributes : ElementAttributes}
  {scope : Scope}
  {subject : String}
  {link : Link}

/- A property is opened by its form. -/
theorem openProperty_form
    (m : Machine)
    (attributes : ElementAttributes)
    (scope : Scope)
    (subject : String)
    (link : Link) :
    m.openProperty attributes scope subject link =
      match PropertyForm.ofAttributes attributes with
      | .resource => m.resourceProperty scope subject link
      | .collection => m.push scope (.collection link none)
      | .literal =>
          m.literalProperty scope link
            (attributes.parseType?.getD "")
      | .object =>
          m.objectProperty attributes scope subject link
      | .plain =>
          m.contentProperty attributes scope link := by
  unfold openProperty PropertyForm.ofAttributes
  cases attributes.parseType? with
  | none =>
      cases attributes.hasObject with
      | true => rfl
      | false => rfl
  | some parseType =>
      by_cases hResource : parseType = "Resource"
      · simp only [hResource, if_true]
      · by_cases hCollection : parseType = "Collection"
        · simp only [hCollection, String.reduceEq, if_true,
            if_false]
        · simp only [hResource, hCollection, if_false,
            Option.getD_some]

theorem openProperty_resource
    (hForm :
      PropertyForm.ofAttributes attributes = .resource) :
    Makes (m.openProperty attributes scope subject link)
      (link.statements subject
        (.ofResource m.blankNodes.next))
      (m.placed m.blankNodes.advance
        (⟨scope, .node m.blankNodes.next 0⟩
          :: m.frames)) := by
  rw [openProperty_form, hForm]
  refine ⟨rfl, ?_⟩
  unfold resourceProperty
  rw [statementsOf_after, statementsOf_signals]
  exact List.append_nil _

theorem openProperty_collection
    (hForm :
      PropertyForm.ofAttributes attributes = .collection) :
    Makes (m.openProperty attributes scope subject link) []
      (m.placed m.blankNodes
        (⟨scope, .collection link none⟩ :: m.frames)) := by
  rw [openProperty_form, hForm]
  exact push_makes _ _ _

theorem openProperty_literal
    (hForm :
      PropertyForm.ofAttributes attributes = .literal) :
    Makes (m.openProperty attributes scope subject link) []
      (m.placed m.blankNodes
        (⟨scope, .literal link "" 0⟩ :: m.frames)) := by
  rw [openProperty_form, hForm]
  refine ⟨rfl, ?_⟩
  unfold literalProperty
  rw [statementsOf_after]
  split
  · rfl
  · rfl

theorem openProperty_object
    {object : String}
    {supply : BlankNodes}
    (hForm :
      PropertyForm.ofAttributes attributes = .object)
    (hObject :
      Grammar.objectOf attributes scope.base m.blankNodes =
        (object, supply)) :
    Makes (m.openProperty attributes scope subject link)
      (link.statements subject (.ofResource object) ++
        attributes.properties.map
          (Grammar.attributeStatement scope object))
      (m.placed supply
        (⟨scope, .property link none "" true⟩
          :: m.frames)) := by
  rw [openProperty_form, hForm]
  unfold Grammar.objectOf at hObject
  dsimp only [objectProperty]
  cases hResource : attributes.resource? with
  | some resource =>
      rw [hResource] at hObject
      cases hObject
      exact (push_makes _ _ _).after_object
        (statementsOf_resolutionNotes _ _) _ _ _ _
  | none =>
      rw [hResource] at hObject
      cases hNode : attributes.nodeId? with
      | some nodeId =>
          rw [hNode] at hObject
          cases hObject
          exact (push_makes _ _ _).after_object rfl _ _ _ _
      | none =>
          rw [hNode] at hObject
          cases hObject
          exact (push_makes m.issue _ _).after_object
            rfl _ _ _ _

theorem openProperty_plain
    (hForm :
      PropertyForm.ofAttributes attributes = .plain) :
    Makes (m.openProperty attributes scope subject link) []
      (m.placed m.blankNodes
        (⟨scope,
          .property link
            (attributes.datatype?.map
              (Iri.resolve scope.base)) "" false⟩
          :: m.frames)) := by
  rw [openProperty_form, hForm]
  dsimp only [contentProperty]
  cases attributes.datatype? with
  | none => exact push_makes _ _ _
  | some datatype =>
      exact (push_makes _ _ _).after _
        (statementsOf_resolutionNotes _ _)

end Properties

------------------------------------------------------------
-- Ends Of Elements
------------------------------------------------------------

/-
  An end closes the innermost frame.  The last frame is that
  of the document element.
-/
theorem endElement_pops
    (m : Machine)
    (supply : BlankNodes)
    {scope : Scope}
    {kind : FrameKind}
    (outer : List Frame)
    {made : List Statement}
    (hKind : ∀ link markup depth,
      kind ≠ .literal link markup (depth + 1))
    (hMade : closeFrame outer ⟨scope, kind⟩ = made)
    (name : Name) :
    Makes
      ((m.placed supply
        (⟨scope, kind⟩ :: outer)).endElement name)
      made
      { m.placed supply outer with
        rootClosed := m.rootClosed || outer.isEmpty } := by
  have hPop :
      (m.placed supply
          (⟨scope, kind⟩ :: outer)).endElement name =
        (m.placed supply
          (⟨scope, kind⟩ :: outer)).pop name := by
    unfold endElement
    split
    · next link markup depth _ hSame =>
        cases hSame
        exact absurd rfl (hKind link markup depth)
    · rfl
  rw [hPop]
  exact ⟨rfl, (statementsOf_signals _).trans hMade⟩

/- Above another frame the root element stays open. -/
theorem endElement_makes
    (m : Machine)
    (supply : BlankNodes)
    {scope : Scope}
    {kind : FrameKind}
    (frame : Frame)
    (outer : List Frame)
    {made : List Statement}
    (hOpen : m.rootClosed = false)
    (hKind : ∀ link markup depth,
      kind ≠ .literal link markup (depth + 1))
    (hMade :
      closeFrame (frame :: outer) ⟨scope, kind⟩ = made)
    (name : Name) :
    Makes
      ((m.placed supply
        (⟨scope, kind⟩ :: frame :: outer)).endElement name)
      made (m.placed supply (frame :: outer)) := by
  have hPops :=
    endElement_pops m supply (frame :: outer) hKind hMade
      name
  rw [hOpen] at hPops
  have hSame :
      { m.placed supply (frame :: outer) with
        rootClosed := false || (frame :: outer).isEmpty } =
        m.placed supply (frame :: outer) := by
    simp [placed, hOpen]
  rw [hSame] at hPops
  exact hPops

------------------------------------------------------------
-- XML Literals
------------------------------------------------------------

theorem startElement_literal
    {m : Machine}
    {scope : Scope}
    {link : Link}
    {markup : String}
    {depth : Nat}
    {outer : List Frame}
    (hOpen : m.rootClosed = false)
    (hFrames :
      m.frames =
        ⟨scope, .literal link markup depth⟩ :: outer)
    (tag : StartTag) :
    Makes (m.startElement tag) []
      (m.placed m.blankNodes
        (⟨scope,
          .literal link (markup ++ startTagText tag)
            (depth + 1)⟩ :: outer)) := by
  have hRole : roleOfNext m.frames = .literalContent := by
    rw [hFrames]
    rfl
  have hCapture :
      m.captureStartTag tag =
        m.placed m.blankNodes
          (⟨scope,
            .literal link (markup ++ startTagText tag)
              (depth + 1)⟩ :: outer) := by
    rcases m with ⟨base, supply, frames, closed⟩
    dsimp only at hFrames
    subst hFrames
    rfl
  unfold startElement
  rw [hOpen, hRole, hCapture]
  simp only [Bool.false_eq_true, if_false, if_true]
  refine ⟨rfl, ?_⟩
  rw [statementsOf_after, statementsOf_declarations]
  rfl

/- The content of an XML literal is collected as markup. -/
theorem runs_literal
    (content : Content)
    (m : Machine)
    {scope : Scope}
    {link : Link}
    {markup : String}
    {depth : Nat}
    {outer : List Frame}
    (hOpen : m.rootClosed = false)
    (hFrames :
      m.frames =
        ⟨scope, .literal link markup depth⟩ :: outer) :
    m.Runs content.events []
      (m.placed m.blankNodes
        (⟨scope,
          .literal link (markup ++ content.markup) depth⟩
          :: outer)) := by
  induction content generalizing m markup depth with
  | nil =>
      rcases m with ⟨base, supply, frames, closed⟩
      dsimp only at hFrames
      subst hFrames
      simp only [Content.markup, String.append_empty]
      exact runs_nil _
  | text run rest ih =>
      have hStep :
          Makes (m.step (.characters run)) []
            (m.placed m.blankNodes
              (⟨scope,
                .literal link
                  (markup ++ Reference.escape run)
                  depth⟩ :: outer)) := by
        rcases m with ⟨base, supply, frames, closed⟩
        dsimp only at hFrames
        subst hFrames
        exact ⟨rfl, rfl⟩
      have hRest :=
        ih
          (m.placed m.blankNodes
            (⟨scope,
              .literal link
                (markup ++ Reference.escape run)
                depth⟩ :: outer)) hOpen rfl
      have hRun := runs_cons hStep hRest
      rw [String.append_assoc] at hRun
      exact hRun
  | element tag inner rest ihInner ihRest =>
      have hStart := startElement_literal hOpen hFrames tag
      have hInner :=
        ihInner
          (m.placed m.blankNodes
            (⟨scope,
              .literal link (markup ++ startTagText tag)
                (depth + 1)⟩ :: outer)) hOpen rfl
      have hEnd :
          Makes
            ((m.placed m.blankNodes
              (⟨scope,
                .literal link
                  (markup ++ startTagText tag ++
                    inner.markup)
                  (depth + 1)⟩ :: outer)).endElement
              tag.name) []
            (m.placed m.blankNodes
              (⟨scope,
                .literal link
                  (markup ++ startTagText tag ++
                    inner.markup ++ endTagText tag.name)
                  depth⟩ :: outer)) :=
        ⟨rfl, rfl⟩
      have hRest :=
        ihRest
          (m.placed m.blankNodes
            (⟨scope,
              .literal link
                (markup ++ startTagText tag ++
                  inner.markup ++ endTagText tag.name)
                depth⟩ :: outer)) hOpen rfl
      have hRun := runs_element hStart hInner hEnd hRest
      simp only [String.append_assoc] at hRun
      exact hRun

------------------------------------------------------------
-- Nodes And Properties
------------------------------------------------------------

/-
  Inside of what nodes stand in, the machine makes the
  statements of the nodes in a content.
-/
def NodesRun (content : Content) : Prop :=
  ∀ (m : Machine) (scope : Scope) (parent : Parent)
    (tail? datatype? : Option String) (text : String)
    (hasObject : Bool) (outer : List Frame),
    m.rootClosed = false →
    m.frames =
      ⟨scope, parent.kind tail? datatype? text hasObject⟩
        :: outer →
    parent.Stands outer →
    m.Runs content.events
      (Grammar.nodes scope parent tail? m.blankNodes
        content).1
      (m.placed
        (Grammar.nodes scope parent tail? m.blankNodes
          content).2.2
        (⟨scope,
          parent.kind
            (Grammar.nodes scope parent tail? m.blankNodes
              content).2.1
            datatype? (text ++ content.directText)
            (hasObject || content.hasElement)⟩ :: outer))

/-
  Inside of a node, the machine makes the statements of the
  properties in a content.
-/
def PropertiesRun (content : Content) : Prop :=
  ∀ (m : Machine) (scope : Scope) (subject : String)
    (members : Nat) (outer : List Frame),
    m.rootClosed = false →
    m.frames = ⟨scope, .node subject members⟩ :: outer →
    ∃ members',
      m.Runs content.events
        (Grammar.properties scope subject members
          m.blankNodes content).1
        (m.placed
          (Grammar.properties scope subject members
            m.blankNodes content).2
          (⟨scope, .node subject members'⟩ :: outer))

theorem nodesRun_nil :
    NodesRun .nil := by
  intro m scope parent tail? datatype? text hasObject outer
    _ hFrames _
  rcases m with ⟨base, supply, frames, closed⟩
  dsimp only at hFrames
  subst hFrames
  simp only [Grammar.nodes, Content.directText,
    Content.hasElement, String.append_empty, Bool.or_false]
  exact runs_nil _

theorem propertiesRun_nil :
    PropertiesRun .nil := by
  intro m scope subject members outer _ hFrames
  rcases m with ⟨base, supply, frames, closed⟩
  dsimp only at hFrames
  subst hFrames
  refine ⟨members, ?_⟩
  simp only [Grammar.properties]
  exact runs_nil _

/- Text is collected by a property and means nothing else. -/
theorem nodesRun_text
    {run : String}
    {rest : Content}
    (hRest : NodesRun rest) :
    NodesRun (.text run rest) := by
  intro m scope parent tail? datatype? text hasObject outer
    hOpen hFrames hStands
  have hStep :
      Makes (m.step (.characters run)) []
        (m.placed m.blankNodes
          (⟨scope,
            parent.kind tail? datatype? (text ++ run)
              hasObject⟩ :: outer)) := by
    rcases m with ⟨base, supply, frames, closed⟩
    dsimp only at hFrames
    subst hFrames
    cases parent with
    | document => exact ⟨rfl, rfl⟩
    | property link subject => exact ⟨rfl, rfl⟩
    | collection link subject => exact ⟨rfl, rfl⟩
  have hLater :=
    hRest
      (m.placed m.blankNodes
        (⟨scope,
          parent.kind tail? datatype? (text ++ run)
            hasObject⟩ :: outer))
      scope parent tail? datatype? (text ++ run) hasObject
      outer hOpen rfl hStands
  have hRun := runs_cons hStep hLater
  simp only [Grammar.nodes, Content.directText,
    Content.hasElement]
  rw [String.append_assoc] at hRun
  exact hRun

theorem propertiesRun_text
    {run : String}
    {rest : Content}
    (hRest : PropertiesRun rest) :
    PropertiesRun (.text run rest) := by
  intro m scope subject members outer hOpen hFrames
  have hStep :
      Makes (m.step (.characters run)) [] m := by
    refine ⟨?_, rfl⟩
    unfold step characters
    rw [hFrames]
  rcases hRest m scope subject members outer hOpen hFrames
    with ⟨members', hLater⟩
  refine ⟨members', ?_⟩
  simp only [Grammar.properties]
  exact runs_cons hStep hLater

/- A node is its start, its properties, and its end. -/
theorem nodesRun_element
    {tag : StartTag}
    {inner rest : Content}
    (hInner : PropertiesRun inner)
    (hRest : NodesRun rest) :
    NodesRun (.element tag inner rest) := by
  intro m scope parent tail? datatype? text hasObject outer
    hOpen hFrames hStands
  rcases hSubject :
      Grammar.subjectOf
        (ElementAttributes.ofList tag.attributes)
        (scope.enter
          (ElementAttributes.ofList tag.attributes)).base
        m.blankNodes with
    ⟨subject, supply⟩
  rcases hAttach :
      Grammar.attach parent tail? supply subject with
    ⟨links, tail', supply'⟩
  have hStart :=
    startElement_node hOpen hFrames hStands rfl hSubject
  rw [hAttach] at hStart
  let attributes := ElementAttributes.ofList tag.attributes
  let inScope := scope.enter attributes
  let above : Frame :=
    ⟨scope, parent.kind tail' datatype? text true⟩
  rcases hInside :
      Grammar.properties inScope subject 0 supply' inner with
    ⟨inside, supply''⟩
  rcases hInner
      (m.placed supply'
        (⟨inScope, .node subject 0⟩ :: above :: outer))
      inScope subject 0 (above :: outer) hOpen rfl with
    ⟨members', hFilled⟩
  have hEnd :
      Makes
        ((m.placed supply''
          (⟨inScope, .node subject members'⟩ ::
            above :: outer)).endElement tag.name) []
        (m.placed supply'' (above :: outer)) :=
    endElement_makes m supply'' above outer hOpen
      (by simp) rfl tag.name
  have hOthers :=
    hRest (m.placed supply'' (above :: outer)) scope parent
      tail' datatype? text true outer hOpen rfl hStands
  dsimp only [placed] at hFilled
  rw [hInside] at hFilled
  have hRun := runs_element hStart hFilled hEnd hOthers
  simp only [Grammar.nodes, hSubject, hAttach]
  dsimp only [attributes, inScope] at hInside
  rw [hInside]
  simp only [List.append_assoc, List.nil_append] at hRun
  simp only [Content.directText, Content.hasElement,
    Bool.or_true]
  exact hRun

/-
  In the node of a subject, the machine is at the start of a
  property: opening the property starts the element.
-/
structure AtProperty
    (m : Machine)
    (tag : StartTag)
    (inScope : Scope)
    (subject : String)
    (link : Link)
    (node : Frame)
    (outer : List Frame) : Prop where
  rootOpen : m.rootClosed = false
  inNode : node.kind.subject? = some subject
  starts {made : List Statement} {last : Machine} :
    Makes
      ((m.placed m.blankNodes (node :: outer)).openProperty
        (ElementAttributes.ofList tag.attributes)
        inScope subject link)
      made last →
    Makes (m.startElement tag) made last

namespace AtProperty

variable
  {m : Machine}
  {tag : StartTag}
  {inner : Content}
  {inScope : Scope}
  {subject : String}
  {link : Link}
  {node : Frame}
  {outer : List Frame}

theorem enclosing
    (h : m.AtProperty tag inScope subject link node outer) :
    enclosingSubject? (node :: outer) = some subject := by
  unfold enclosingSubject?
  rw [List.findSome?_cons, h.inNode]

/- A property is its start, what is in it, and its end. -/
theorem runs
    (h : m.AtProperty tag inScope subject link node outer)
    {opening inside ending : List Statement}
    {opened filled : BlankNodes}
    {kind kind' : FrameKind}
    (hOpening :
      Makes
        ((m.placed m.blankNodes (node :: outer)).openProperty
          (ElementAttributes.ofList tag.attributes)
          inScope subject link)
        opening
        (m.placed opened (⟨inScope, kind⟩ :: node :: outer)))
    (hInner :
      (m.placed opened
        (⟨inScope, kind⟩ :: node :: outer)).Runs
        inner.events inside
        (m.placed filled
          (⟨inScope, kind'⟩ :: node :: outer)))
    (hKind : ∀ link markup depth,
      kind' ≠ .literal link markup (depth + 1))
    (hEnding :
      closeFrame (node :: outer) ⟨inScope, kind'⟩ = ending) :
    m.Runs (Content.element tag inner .nil).events
      (opening ++ (inside ++ ending))
      (m.placed filled (node :: outer)) := by
  have hEnd :=
    endElement_makes m filled node outer h.rootOpen hKind
      hEnding tag.name
  have hRun :=
    runs_element (h.starts hOpening) hInner hEnd
      (runs_nil _)
  rw [List.append_nil] at hRun
  exact hRun

/- The object is a node without a tag. -/
theorem runs_resource
    (h : m.AtProperty tag inScope subject link node outer)
    (hForm :
      PropertyForm.ofAttributes
        (ElementAttributes.ofList tag.attributes) =
          .resource)
    (hInner : PropertiesRun inner) :
    m.Runs (Content.element tag inner .nil).events
      (link.statements subject
          (.ofResource m.blankNodes.next) ++
        (Grammar.properties inScope m.blankNodes.next 0
          m.blankNodes.advance inner).1)
      (m.placed
        (Grammar.properties inScope m.blankNodes.next 0
          m.blankNodes.advance inner).2
        (node :: outer)) := by
  rcases hInner
      (m.placed m.blankNodes.advance
        (⟨inScope, .node m.blankNodes.next 0⟩ ::
          node :: outer))
      inScope m.blankNodes.next 0 (node :: outer) h.rootOpen
      rfl with
    ⟨members, hInside⟩
  have hEnding :
      closeFrame (node :: outer)
          ⟨inScope, .node m.blankNodes.next members⟩ = [] :=
    rfl
  have hRun :=
    h.runs (openProperty_resource hForm) hInside (by simp)
      hEnding
  rw [List.append_nil] at hRun
  exact hRun

/- The end of a collection ends its list. -/
theorem closes_collection
    (h : m.AtProperty tag inScope subject link node outer)
    (tail? : Option String) :
    closeFrame (node :: outer)
        ⟨inScope, .collection link tail?⟩ =
      Grammar.collectionEnd link subject tail? := by
  unfold closeFrame Grammar.collectionEnd
  rw [h.enclosing]
  cases tail? with
  | none => rfl
  | some tail => rfl

/- The object is a list of the nodes in the property. -/
theorem runs_collection
    (h : m.AtProperty tag inScope subject link node outer)
    (hForm :
      PropertyForm.ofAttributes
        (ElementAttributes.ofList tag.attributes) =
          .collection)
    (hInner : NodesRun inner)
    {inside : List Statement}
    {tail? : Option String}
    {supply : BlankNodes}
    (hInside :
      Grammar.nodes inScope (.collection link subject) none
          m.blankNodes inner =
        (inside, tail?, supply)) :
    m.Runs (Content.element tag inner .nil).events
      (inside ++ Grammar.collectionEnd link subject tail?)
      (m.placed supply (node :: outer)) := by
  have hFilled :=
    hInner
      (m.placed m.blankNodes
        (⟨inScope, .collection link none⟩ :: node :: outer))
      inScope (.collection link subject) none none "" false
      (node :: outer) h.rootOpen rfl h.enclosing
  dsimp only [placed] at hFilled
  rw [hInside] at hFilled
  exact
    h.runs (openProperty_collection hForm) hFilled
      (fun _ _ _ => Parent.kind_ne_literal _ _ _ _ _ _ _ _)
      (h.closes_collection tail?)

/- The object is the markup in the property. -/
theorem runs_markup
    (h : m.AtProperty tag inScope subject link node outer)
    (hForm :
      PropertyForm.ofAttributes
        (ElementAttributes.ofList tag.attributes) =
          .literal) :
    m.Runs (Content.element tag inner .nil).events
      (link.statements subject
        (.literal (trimText inner.markup) Rdf.xmlLiteralIri
          ""))
      (m.placed m.blankNodes (node :: outer)) := by
  have hInside :=
    runs_literal inner
      (m.placed m.blankNodes
        (⟨inScope, .literal link "" 0⟩ :: node :: outer))
      h.rootOpen rfl
  rw [String.empty_append] at hInside
  refine
    h.runs (openProperty_literal hForm) hInside (by simp) ?_
  unfold closeFrame
  rw [h.enclosing]
  rfl

/-
  The object is given by attributes, and further ones by the
  nodes in the property.
-/
theorem runs_object
    (h : m.AtProperty tag inScope subject link node outer)
    (hForm :
      PropertyForm.ofAttributes
        (ElementAttributes.ofList tag.attributes) =
          .object)
    (hInner : NodesRun inner)
    {object : String}
    {supply supply' : BlankNodes}
    {inside : List Statement}
    {tail? : Option String}
    (hObject :
      Grammar.objectOf
          (ElementAttributes.ofList tag.attributes)
          inScope.base m.blankNodes =
        (object, supply))
    (hInside :
      Grammar.nodes inScope (.property link subject) none
          supply inner =
        (inside, tail?, supply')) :
    m.Runs (Content.element tag inner .nil).events
      (link.statements subject (.ofResource object) ++
        ((ElementAttributes.ofList
            tag.attributes).properties.map
          (Grammar.attributeStatement inScope object) ++
            inside))
      (m.placed supply' (node :: outer)) := by
  have hFilled :=
    hInner
      (m.placed supply
        (⟨inScope, .property link none "" true⟩ ::
          node :: outer))
      inScope (.property link subject) none none "" true
      (node :: outer) h.rootOpen rfl h.enclosing
  dsimp only [placed] at hFilled
  rw [hInside, Bool.true_or] at hFilled
  have hEnding :
      closeFrame (node :: outer)
          ⟨inScope,
            .property link none ("" ++ inner.directText)
              true⟩ = [] := by
    unfold closeFrame
    rw [h.enclosing]
  have hRun :=
    h.runs (openProperty_object hForm hObject) hFilled
      (fun _ _ _ => Parent.kind_ne_literal _ _ _ _ _ _ _ _)
      hEnding
  rw [List.append_nil, List.append_assoc] at hRun
  exact hRun

/- The objects are nodes, or without any the text. -/
theorem runs_plain
    (h : m.AtProperty tag inScope subject link node outer)
    (hForm :
      PropertyForm.ofAttributes
        (ElementAttributes.ofList tag.attributes) =
          .plain)
    (hInner : NodesRun inner)
    {supply : BlankNodes}
    {inside : List Statement}
    {tail? : Option String}
    (hInside :
      Grammar.nodes inScope (.property link subject) none
          m.blankNodes inner =
        (inside, tail?, supply)) :
    m.Runs (Content.element tag inner .nil).events
      (inside ++
        (if inner.hasElement then []
        else
          link.statements subject
            (contentObject inScope
              ((ElementAttributes.ofList
                tag.attributes).datatype?.map
                (Iri.resolve inScope.base))
              inner.directText)))
      (m.placed supply (node :: outer)) := by
  let datatype? :=
    (ElementAttributes.ofList tag.attributes).datatype?.map
      (Iri.resolve inScope.base)
  have hFilled :=
    hInner
      (m.placed m.blankNodes
        (⟨inScope, .property link datatype? "" false⟩ ::
          node :: outer))
      inScope (.property link subject) none datatype? ""
      false (node :: outer) h.rootOpen rfl h.enclosing
  dsimp only [placed] at hFilled
  rw [hInside, String.empty_append, Bool.false_or]
    at hFilled
  refine
    h.runs (openProperty_plain hForm) hFilled
      (fun _ _ _ => Parent.kind_ne_literal _ _ _ _ _ _ _ _)
      ?_
  unfold closeFrame
  rw [h.enclosing]
  cases inner.hasElement with
  | true => rfl
  | false => rfl

end AtProperty

/- A property is followed by the other ones of its node. -/
theorem runs_properties
    {m : Machine}
    {tag : StartTag}
    {inner rest : Content}
    {scope : Scope}
    {subject : String}
    {members : Nat}
    {outer : List Frame}
    {made : List Statement}
    {supply : BlankNodes}
    (hProperty :
      m.Runs (Content.element tag inner .nil).events made
        (m.placed supply
          (⟨scope, .node subject members⟩ :: outer)))
    (hOpen : m.rootClosed = false)
    (hRest : PropertiesRun rest) :
    ∃ members',
      m.Runs (Content.element tag inner rest).events
        (made ++
          (Grammar.properties scope subject members supply
            rest).1)
        (m.placed
          (Grammar.properties scope subject members supply
            rest).2
          (⟨scope, .node subject members'⟩ :: outer)) := by
  rcases hRest
      (m.placed supply
        (⟨scope, .node subject members⟩ :: outer))
      scope subject members outer hOpen rfl with
    ⟨members', hOthers⟩
  refine ⟨members', ?_⟩
  have hRun := runs_append hProperty hOthers
  have hEvents :
      (Content.element tag inner .nil).events ++
          rest.events =
        (Content.element tag inner rest).events := by
    simp [Content.events]
  rw [hEvents] at hRun
  exact hRun

/- An element inside of a node is a property of it. -/
theorem atProperty_node
    {m : Machine}
    {scope : Scope}
    {subject : String}
    {members : Nat}
    {outer : List Frame}
    (hOpen : m.rootClosed = false)
    (hFrames :
      m.frames = ⟨scope, .node subject members⟩ :: outer)
    (tag : StartTag) :
    m.AtProperty tag
      (scope.enter (ElementAttributes.ofList tag.attributes))
      subject (Grammar.linkOf tag scope members)
      ⟨scope, .node subject
        (Grammar.countMember tag.name members)⟩
      outer :=
  ⟨hOpen, rfl, startElement_property hOpen hFrames rfl⟩

/- Properties are opened by their form. -/
theorem propertiesRun_element
    {tag : StartTag}
    {inner rest : Content}
    (hNodes : NodesRun inner)
    (hProperties : PropertiesRun inner)
    (hRest : PropertiesRun rest) :
    PropertiesRun (.element tag inner rest) := by
  intro m scope subject members outer hOpen hFrames
  have hAt := atProperty_node hOpen hFrames tag
  cases hForm :
      PropertyForm.ofAttributes
        (ElementAttributes.ofList tag.attributes) with
  | resource =>
      simp only [Grammar.properties, hForm]
      exact runs_properties
        (hAt.runs_resource hForm hProperties) hOpen hRest
  | collection =>
      simp only [Grammar.properties, hForm]
      exact runs_properties
        (hAt.runs_collection hForm hNodes rfl) hOpen hRest
  | literal =>
      simp only [Grammar.properties, hForm]
      exact runs_properties
        (hAt.runs_markup hForm) hOpen hRest
  | object =>
      simp only [Grammar.properties, hForm]
      exact runs_properties
        (hAt.runs_object hForm hNodes rfl rfl) hOpen hRest
  | plain =>
      simp only [Grammar.properties, hForm]
      exact runs_properties
        (hAt.runs_plain hForm hNodes rfl) hOpen hRest

/- Both by induction on the content, each from the other. -/
theorem runs_content (content : Content) :
    NodesRun content ∧ PropertiesRun content := by
  induction content with
  | nil => exact ⟨nodesRun_nil, propertiesRun_nil⟩
  | text run rest ih =>
      exact ⟨nodesRun_text ih.1, propertiesRun_text ih.2⟩
  | element tag inner rest ihInner ihRest =>
      exact
        ⟨nodesRun_element ihInner.2 ihRest.1,
          propertiesRun_element ihInner.1 ihInner.2
            ihRest.2⟩

------------------------------------------------------------
-- Documents
------------------------------------------------------------

/- A document is the start, the content, and the end. -/
theorem runs_root
    {m opened : Machine}
    {supply : BlankNodes}
    {scope : Scope}
    {kind : FrameKind}
    {root : Element}
    {opening inside : List Statement}
    (hStart : Makes (m.startElement root.tag) opening opened)
    (hContent :
      opened.Runs root.content.events inside
        (m.placed supply [⟨scope, kind⟩]))
    (hKind : ∀ link markup depth,
      kind ≠ .literal link markup (depth + 1))
    (hEnding : closeFrame [] ⟨scope, kind⟩ = []) :
    m.Runs root.events (opening ++ inside)
      { m.placed supply [] with rootClosed := true } := by
  have hEnd :=
    endElement_pops m supply [] hKind hEnding root.tag.name
  have hRun := runs_element hStart hContent hEnd (runs_nil _)
  rw [List.append_nil, List.append_nil, List.isEmpty_nil,
    Bool.or_true] at hRun
  exact hRun

theorem run_root
    {m opened : Machine}
    {supply : BlankNodes}
    {scope : Scope}
    {kind : FrameKind}
    {root : Element}
    {opening inside : List Statement}
    (hStart : Makes (m.startElement root.tag) opening opened)
    (hContent :
      opened.Runs root.content.events inside
        (m.placed supply [⟨scope, kind⟩]))
    (hKind : ∀ link markup depth,
      kind ≠ .literal link markup (depth + 1))
    (hEnding : closeFrame [] ⟨scope, kind⟩ = []) :
    statementsOf (m.run root.events).2 =
      opening ++ inside :=
  (runs_root hStart hContent hKind hEnding).2

/- A root that says so is a container of nodes. -/
theorem startElement_container
    {options : Options}
    {tag : StartTag}
    (hContainer : tag.name.denotes Rdf.space "RDF" = true) :
    Makes ((start options).startElement tag) []
      ((start options).placed (start options).blankNodes
        [⟨(start options).currentScope.enter
            (ElementAttributes.ofList tag.attributes),
          .root⟩]) := by
  have hRole : roleOfNext (start options).frames = .node :=
    rfl
  refine startElement_open rfl hRole (by simp) ?_
  unfold openElement
  simp only [start, List.isEmpty_nil, hContainer,
    Bool.and_self, if_true]
  exact (push_makes _ _ _).after _
    (statementsOf_opening _ _ _)

/- Any other root is a node that stands in nothing. -/
theorem startElement_root
    {options : Options}
    {tag : StartTag}
    {subject : String}
    {supply : BlankNodes}
    (hContainer : tag.name.denotes Rdf.space "RDF" = false)
    (hSubject :
      Grammar.subjectOf
          (ElementAttributes.ofList tag.attributes)
          ((start options).currentScope.enter
            (ElementAttributes.ofList tag.attributes)).base
          (start options).blankNodes =
        (subject, supply)) :
    Makes ((start options).startElement tag)
      (typeStatements tag.name subject ++
        (ElementAttributes.ofList
            tag.attributes).properties.map
          (Grammar.attributeStatement
            ((start options).currentScope.enter
              (ElementAttributes.ofList tag.attributes))
            subject))
      ((start options).placed supply
        [⟨(start options).currentScope.enter
            (ElementAttributes.ofList tag.attributes),
          .node subject 0⟩]) := by
  have hRole : roleOfNext (start options).frames = .node :=
    rfl
  refine startElement_open rfl hRole (by simp) ?_
  unfold openElement
  simp only [hContainer, Bool.and_false,
    Bool.false_eq_true, if_false]
  have hLink :
      ((start options).placed supply []).linkToParent
          subject =
        ((start options).placed supply [],
          statementSignals []) :=
    rfl
  have hMakes := nodeElement_makes hSubject hLink tag
  exact hMakes.after _ (statementsOf_opening _ _ _)

/-
  Over the events of a document the machine makes exactly the
  statements of the grammar, in their order.
-/
theorem run_document
    (options : Options)
    (root : Element) :
    statementsOf ((start options).run root.events).2 =
      Grammar.document options root := by
  unfold Grammar.document
  cases hContainer :
      root.tag.name.denotes Rdf.space "RDF" with
  | true =>
      have hInside :=
        (runs_content root.content).1
          ((start options).placed (start options).blankNodes
            [⟨(start options).currentScope.enter
                (ElementAttributes.ofList
                  root.tag.attributes),
              .root⟩])
          _ .document none none "" false [] rfl rfl trivial
      exact run_root (startElement_container hContainer)
        hInside (by simp [Parent.kind]) rfl
  | false =>
      rcases hSubject :
          Grammar.subjectOf
            (ElementAttributes.ofList root.tag.attributes)
            ((start options).currentScope.enter
              (ElementAttributes.ofList
                root.tag.attributes)).base
            (start options).blankNodes with
        ⟨subject, supply⟩
      rcases (runs_content root.content).2
          ((start options).placed supply
            [⟨(start options).currentScope.enter
                (ElementAttributes.ofList
                  root.tag.attributes),
              .node subject 0⟩])
          _ subject 0 [] rfl rfl with
        ⟨members, hInside⟩
      have hMade :=
        run_root (startElement_root hContainer hSubject)
          hInside (by simp) rfl
      have hScope :
          (start options).currentScope =
            ⟨"", options.baseIri⟩ :=
        rfl
      have hSupply :
          (start options).blankNodes =
            ⟨options.blankNodePrefix, 0⟩ :=
        rfl
      rw [hScope, hSupply] at hSubject
      rw [hMade]
      simp only [Grammar.nodes, Grammar.attach, hSubject,
        Bool.false_eq_true, if_false, List.nil_append,
        List.append_nil, List.append_assoc]
      rfl

end Machine

end RdfXml
