import RdfXml.Proofs.Grammar.Frames
import RdfXml.Proofs.Grammar.Supply

/-
  An element leaves the frames around it alone.

  When an element with everything in it has been processed,
  the frames are those from before.  Only the innermost one
  has taken notice of the element, in a way that depends on
  what it is: a node has counted a member, a property has an
  object, a collection has a new last list node, a literal
  has more markup.

  Main declarations:
    * `FrameKind.afterElement`
    * `Grammar.cellSupply`
    * `Machine.AtProperty.run_frames`
    * `Machine.run_element`
-/

------------------------------------------------------------
-- Traces Of An Element
------------------------------------------------------------

namespace RdfXml

/-
  What a frame is after an element directly inside of it.  In
  a collection the element takes the list node `cell`.
-/
def FrameKind.afterElement
    (element : Element)
    (cell : String) : FrameKind → FrameKind
| .root => .root
| .node subject members =>
    .node subject
      (Grammar.countMember element.tag.name members)
| .property link datatype? text _ =>
    .property link datatype? text true
| .literal link markup depth =>
    .literal link
      (markup ++
        (Content.element element.tag element.content
          .nil).markup)
      depth
| .collection link _ => .collection link (some cell)

namespace Grammar

/-
  The supply that a member of a collection takes its list
  node from.  The subject of the member comes first.
-/
def cellSupply
    (scope : Scope)
    (supply : BlankNodes)
    (tag : StartTag) : BlankNodes :=
  let attributes := ElementAttributes.ofList tag.attributes
  (subjectOf attributes (scope.enter attributes).base
    supply).2

/- The list node of a member is new, and taken by it. -/
theorem cellSupply_fresh
    (scope : Scope)
    (supply : BlankNodes)
    (tag : StartTag) :
    ¬ supply.HasIssued (cellSupply scope supply tag).next := by
  intro hIssued
  exact BlankNodes.next_fresh _
    (hIssued.grows (subjectOf_grows _ _ _))

/- What one member makes of a collection and the supply. -/
theorem nodes_member
    (scope : Scope)
    (link : Link)
    (subject : String)
    (tail? : Option String)
    (supply : BlankNodes)
    (tag : StartTag)
    (content : Content) :
    let made :=
      nodes scope (.collection link subject) tail? supply
        (.element tag content .nil)
    made.2.1 = some (cellSupply scope supply tag).next ∧
      made.2.2.HasIssued
        (cellSupply scope supply tag).next := by
  refine ⟨rfl, ?_⟩
  exact
    (BlankNodes.hasIssued_advance _).grows
      (properties_grows _ _ _ _ content)

end Grammar

namespace Machine

------------------------------------------------------------
-- Elements In Frames
------------------------------------------------------------

/-
  A property of whatever form leaves the frames as they were
  when it had been counted.
-/
theorem AtProperty.run_frames
    {m : Machine}
    {tag : StartTag}
    {inScope : Scope}
    {subject : String}
    {link : Link}
    {node : Frame}
    {outer : List Frame}
    (h : m.AtProperty tag inScope subject link node outer)
    (content : Content) :
    ∃ supply,
      (m.run (Content.element tag content .nil).events).1 =
        m.placed supply (node :: outer) := by
  have hNodes := (runs_content content).1
  have hProperties := (runs_content content).2
  cases hForm :
      PropertyForm.ofAttributes
        (ElementAttributes.ofList tag.attributes) with
  | resource => exact ⟨_, (h.runs_resource hForm hProperties).1⟩
  | collection =>
      exact ⟨_, (h.runs_collection hForm hNodes rfl).1⟩
  | literal => exact ⟨_, (h.runs_markup hForm).1⟩
  | object => exact ⟨_, (h.runs_object hForm hNodes rfl rfl).1⟩
  | plain => exact ⟨_, (h.runs_plain hForm hNodes rfl).1⟩

/-
  A machine has grown from another one when only the
  innermost frame has changed, into this kind, and blank
  nodes have been issued.
-/
def GrownTo
    (m : Machine)
    (scope : Scope)
    (kind : FrameKind)
    (outer : List Frame)
    (after : Machine) : Prop :=
  ∃ supply,
    m.blankNodes.Grows supply ∧
      after = m.placed supply (⟨scope, kind⟩ :: outer)

section Elements

variable
  {m : Machine}
  {scope : Scope}
  {outer : List Frame}
  (hOpen : m.rootClosed = false)
  (element : Element)

include hOpen

/- A node element inside of what nodes stand in. -/
theorem run_node
    {parent : Parent}
    {tail? datatype? : Option String}
    {text : String}
    {hasObject : Bool}
    (hFrames :
      m.frames =
        ⟨scope, parent.kind tail? datatype? text hasObject⟩
          :: outer)
    (hStands : parent.Stands outer) :
    (m.run element.events).1 =
      m.placed
        (Grammar.nodes scope parent tail? m.blankNodes
          (.element element.tag element.content .nil)).2.2
        (⟨scope,
          parent.kind
            (Grammar.nodes scope parent tail? m.blankNodes
              (.element element.tag element.content
                .nil)).2.1
            datatype? text true⟩ :: outer) := by
  have hRun :=
    (runs_content
      (.element element.tag element.content .nil)).1 m scope
      parent tail? datatype? text hasObject outer hOpen
      hFrames hStands
  have hText :
      text ++
          (Content.element element.tag element.content
            .nil).directText = text :=
    String.append_empty
  rw [hText, Content.hasElement, Bool.or_true] at hRun
  exact hRun.1

/- A property element is counted by its node. -/
theorem run_member
    {subject : String}
    {members : Nat}
    (hFrames :
      m.frames = ⟨scope, .node subject members⟩ :: outer) :
    m.GrownTo scope
      (.node subject
        (Grammar.countMember element.tag.name members))
      outer (m.run element.events).1 := by
  rcases (runs_content
      (.element element.tag element.content .nil)).2 m scope
      subject members outer hOpen hFrames with
    ⟨_, hRun⟩
  rcases (atProperty_node hOpen hFrames
      element.tag).run_frames element.content with
    ⟨supply, hAfter⟩
  have hSupply :
      m.blankNodes.Grows (m.run element.events).1.blankNodes := by
    have hGrows :=
      Grammar.properties_grows scope subject members
        m.blankNodes
        (.element element.tag element.content .nil)
    have hSame := congrArg Machine.blankNodes hRun.1
    dsimp only [placed] at hSame
    rw [← hSame] at hGrows
    exact hGrows
  have hEvents :
      element.events =
        (Content.element element.tag element.content
          .nil).events :=
    rfl
  rw [hEvents, hAfter] at hSupply
  exact ⟨supply, hSupply, hEvents ▸ hAfter⟩

end Elements

/-
  After an element, the innermost frame is what the element
  makes of it, and all other frames are as before.  A list
  node that the element takes in a collection is new.
-/
theorem run_element
    {n : Nesting}
    {m : Machine}
    {scope : Scope}
    {kind : FrameKind}
    {outer : List Frame}
    (hFramed : Framed n m)
    (hFrames : m.frames = ⟨scope, kind⟩ :: outer)
    (element : Element) :
    let cell :=
      (Grammar.cellSupply scope m.blankNodes
        element.tag).next
    m.GrownTo scope (kind.afterElement element cell) outer
        (m.run element.events).1 ∧
      (kind.sort = .collection →
        (m.run element.events).1.blankNodes.HasIssued
          cell) := by
  have hOpen := (hFramed.openTags_of_frames hFrames).2.2
  cases kind with
  | root =>
      have hStands : Parent.document.Stands outer := trivial
      have hRun :=
        @run_node m scope outer hOpen element .document none
          none "" false hFrames hStands
      refine ⟨⟨_, Grammar.nodes_grows _ _ _ _ _, hRun⟩, ?_⟩
      intro hSort
      cases hSort
  | node subject members =>
      refine ⟨run_member hOpen element hFrames, ?_⟩
      intro hSort
      cases hSort
  | property link datatype? text hasObject =>
      rcases hFramed.standsOn [] hFrames rfl with
        ⟨subject, hSubject⟩
      have hRun :=
        @run_node m scope outer hOpen element
          (.property link subject) none datatype? text
          hasObject hFrames hSubject.encloses
      refine ⟨⟨_, Grammar.nodes_grows _ _ _ _ _, hRun⟩, ?_⟩
      intro hSort
      cases hSort
  | literal link markup depth =>
      have hRun :=
        runs_literal
          (.element element.tag element.content .nil) m hOpen
          hFrames
      refine
        ⟨⟨_, BlankNodes.Grows.refl _, hRun.1⟩, ?_⟩
      intro hSort
      cases hSort
  | collection link tail? =>
      rcases hFramed.standsOn [] hFrames rfl with
        ⟨subject, hSubject⟩
      have hRun :=
        @run_node m scope outer hOpen element
          (.collection link subject) tail? none "" false
          hFrames hSubject.encloses
      have hMember :=
        Grammar.nodes_member scope link subject tail?
          m.blankNodes element.tag element.content
      dsimp only at hMember
      rw [hMember.1] at hRun
      refine ⟨⟨_, Grammar.nodes_grows _ _ _ _ _, hRun⟩, ?_⟩
      intro _
      rw [hRun]
      exact hMember.2

end Machine

end RdfXml
