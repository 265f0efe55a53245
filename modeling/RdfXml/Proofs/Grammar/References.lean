import RdfXml.Proofs.Grammar.Inheritance
import RdfXml.Proofs.Iri.Absolute

/-
  References of documents that have a base.

  When the base of a document is absolute, then so are the
  bases of all its elements, and with them everything that
  is resolved or named in their scopes.

  Main declarations:
    * `Machine.idIri_isAbsolute`
    * `Scope.along_isAbsolute`
    * `Frame.Absolute`
    * `Machine.OpensAbsolute`
    * `Machine.Inheriting.absolute`
    * `Machine.Inheriting.opensAbsolute`
    * `Machine.Inheriting.typed`
-/

------------------------------------------------------------
-- Absolute Scopes
------------------------------------------------------------

namespace RdfXml

/- The fragment of a base comes behind its scheme. -/
theorem Machine.idIri_isAbsolute
    {base : String}
    (hBase : Iri.isAbsolute base = true)
    (id : String) :
    Iri.isAbsolute (idIri base id) = true := by
  rw [Iri.isAbsolute_iff] at hBase
  rcases hBase with ⟨scheme, rest, hScheme, hRest⟩
  have hSign : '#' ∉ scheme :=
    Iri.not_mem_scheme hScheme (by decide)
  have hFront :
      base.toList.takeWhile (· != '#') =
        scheme ++ ':' :: rest.takeWhile (· != '#') := by
    rw [hRest, List.takeWhile_append_of_pos,
      List.takeWhile_cons_of_pos (by decide)]
    intro c hMember
    have hOther : c ≠ '#' := by
      rintro rfl
      exact hSign hMember
    simpa using hOther
  have hWithout :
      Iri.isAbsolute
        (String.ofList
          (base.toList.takeWhile (· != '#'))) = true := by
    rw [Iri.isAbsolute_iff, hFront]
    exact ⟨scheme, _, hScheme, String.toList_ofList⟩
  exact
    Iri.isAbsolute_append (Iri.isAbsolute_append hWithout "#")
      id

namespace Scope

/- The bases along a path are resolved from an absolute one. -/
theorem along_isAbsolute
    {documentBase : String}
    (hBase : Iri.isAbsolute documentBase = true)
    (path : List StartTag) :
    Iri.isAbsolute (along documentBase path).base = true := by
  induction path with
  | nil => exact hBase
  | cons tag path ih =>
      rw [along_cons]
      unfold enter
      dsimp only
      split
      · exact Iri.resolve_isAbsolute ih _
      · exact ih

theorem allAlong_isAbsolute
    {documentBase : String}
    (hBase : Iri.isAbsolute documentBase = true)
    (path : List StartTag) :
    ∀ scope ∈ allAlong documentBase path,
      Iri.isAbsolute scope.base = true := by
  induction path with
  | nil =>
      intro scope hMember
      cases hMember
  | cons tag path ih =>
      exact List.forall_mem_cons.mpr
        ⟨along_isAbsolute hBase (tag :: path), ih⟩

end Scope

/-
  All IRIs that a frame keeps are absolute: its base, and of
  a property its name and its datatype.
-/
structure Frame.Absolute (frame : Frame) : Prop where
  base : Iri.isAbsolute frame.scope.base = true
  named : ∀ name,
    frame.kind.name? = some name →
      Iri.isAbsolute name = true
  typed : ∀ datatype,
    frame.kind.datatype? = some datatype →
      Iri.isAbsolute datatype = true

/- What is made in an absolute scope is absolute. -/
theorem Holding.Settled.absolute
    {frame : Frame}
    (hSettled : frame.holding.Settled)
    (hBase : Iri.isAbsolute frame.scope.base = true) :
    frame.Absolute where
  base := hBase
  named := by
    intro name hName
    rcases hSettled.named name hName with ⟨id, rfl⟩
    exact Machine.idIri_isAbsolute hBase id
  typed := by
    intro datatype hDatatype
    rcases hSettled.typed datatype hDatatype with
      ⟨reference, rfl⟩
    exact Iri.resolve_isAbsolute hBase reference

------------------------------------------------------------
-- What Start Tags Open
------------------------------------------------------------

/-
  The frame that a property opens in a scope, and what it
  states at once.
-/
def Grammar.opening
    (attributes : ElementAttributes)
    (scope : Scope)
    (subject : String)
    (link : Link)
    (supply : BlankNodes) : FrameKind × List Statement :=
  match PropertyForm.ofAttributes attributes with
  | .resource =>
      (.node supply.next 0,
        link.statements subject (.ofResource supply.next))
  | .collection => (.collection link none, [])
  | .literal => (.literal link "" 0, [])
  | .object =>
      let object := (objectOf attributes scope.base supply).1
      (.property link none "" true,
        link.statements subject (.ofResource object) ++
          attributes.properties.map
            (attributeStatement scope object))
  | .plain =>
      (.property link
        (attributes.datatype?.map (Iri.resolve scope.base))
        "" false, [])

namespace Machine

theorem openProperty_opening
    (m : Machine)
    (attributes : ElementAttributes)
    (scope : Scope)
    (subject : String)
    (link : Link) :
    ∃ supply,
      Makes (m.openProperty attributes scope subject link)
        (Grammar.opening attributes scope subject link
          m.blankNodes).2
        (m.placed supply
          (⟨scope,
            (Grammar.opening attributes scope subject link
              m.blankNodes).1⟩ :: m.frames)) := by
  unfold Grammar.opening
  cases hForm : PropertyForm.ofAttributes attributes with
  | resource => exact ⟨_, openProperty_resource hForm⟩
  | collection => exact ⟨_, openProperty_collection hForm⟩
  | literal => exact ⟨_, openProperty_literal hForm⟩
  | object => exact ⟨_, openProperty_object hForm rfl⟩
  | plain => exact ⟨_, openProperty_plain hForm⟩

/-
  What a node states when it starts: what links it to its
  parent, its type, and the properties in its tag.
-/
def nodeStatements
    (m : Machine)
    (tag : StartTag)
    (scope : Scope) : List Statement :=
  let attributes := ElementAttributes.ofList tag.attributes
  let made :=
    Grammar.subjectOf attributes scope.base m.blankNodes
  statementsOf
      ((m.placed made.2 m.frames).linkToParent made.1).2 ++
    (typeStatements tag.name made.1 ++
      attributes.properties.map
        (Grammar.attributeStatement scope made.1))

theorem nodeElement_opening
    (m : Machine)
    (tag : StartTag)
    (scope : Scope) :
    let attributes := ElementAttributes.ofList tag.attributes
    let subject :=
      (Grammar.subjectOf attributes scope.base
        m.blankNodes).1
    (m.nodeElement tag attributes scope).1.frames.head? =
        some ⟨scope, .node subject 0⟩ ∧
      statementsOf (m.nodeElement tag attributes scope).2 =
        nodeStatements m tag scope := by
  intro attributes subject
  unfold nodeElement
  rw [nodeSubject_subjectOf]
  refine ⟨rfl, ?_⟩
  dsimp only
  rw [statementsOf_after, (push_makes _ _ _).2,
    List.append_nil, statementsOf_append,
    statementsOf_append, statementsOf_signals,
    statementsOf_properties, List.append_assoc]
  rfl

/- A property opens the frame of its form. -/
theorem startElement_opening
    {m : Machine}
    {tag : StartTag}
    {inScope scope : Scope}
    {subject : String}
    {members : Nat}
    {outer : List Frame}
    {attributes : ElementAttributes}
    {link : Link}
    (hOpen : m.rootClosed = false)
    (hFrames :
      m.frames = ⟨inScope, .node subject members⟩ :: outer)
    (hAttributes :
      ElementAttributes.ofList tag.attributes = attributes)
    (hScope : inScope.enter attributes = scope)
    (hLink :
      (⟨Grammar.predicateOf tag.name
          (Grammar.countMember tag.name members),
        attributes.id?.map (idIri scope.base)⟩ : Link) =
          link) :
    let opened :=
      Grammar.opening attributes scope subject link
        m.blankNodes
    (m.startElement tag).1.frames.head? =
        some ⟨scope, opened.1⟩ ∧
      statementsOf (m.startElement tag).2 = opened.2 := by
  subst hScope hLink
  rcases openProperty_opening
      (m.placed m.blankNodes
        (⟨inScope, .node subject
          (Grammar.countMember tag.name members)⟩ :: outer))
      attributes (inScope.enter attributes) subject _ with
    ⟨supply, hMakes⟩
  have hStart :=
    startElement_property hOpen hFrames hAttributes hMakes
  exact ⟨by rw [hStart.1]; rfl, hStart.2⟩

/-
  Whatever a start tag makes of a reference in this scope is
  absolute: the subject that an identifier names, the name of
  a property's statement, the object of a resource, a type,
  and a datatype.  None of these is a blank node.
-/
structure OpensAbsolute
    (m : Machine)
    (tag : StartTag)
    (scope : Scope) : Prop where
  base : Iri.isAbsolute scope.base = true
  node :
    let attributes := ElementAttributes.ofList tag.attributes
    let subject :=
      (Grammar.subjectOf attributes scope.base
        m.blankNodes).1
    roleOfNext m.frames = .node →
    (m.frames = [] →
      tag.name.denotes Rdf.space "RDF" = false) →
      (m.startElement tag).1.frames.head? =
          some ⟨scope, .node subject 0⟩ ∧
        statementsOf (m.startElement tag).2 =
          nodeStatements m tag scope ∧
        (attributes.about? = none →
          attributes.id? ≠ none →
            Iri.isAbsolute subject = true)
  property : ∀ inScope subject members outer,
    let attributes := ElementAttributes.ofList tag.attributes
    let link : Link :=
      ⟨Grammar.predicateOf tag.name
          (Grammar.countMember tag.name members),
        attributes.id?.map (idIri scope.base)⟩
    let opened :=
      Grammar.opening attributes scope subject link
        m.blankNodes
    m.frames = ⟨inScope, .node subject members⟩ :: outer →
      (m.startElement tag).1.frames.head? =
          some ⟨scope, opened.1⟩ ∧
        statementsOf (m.startElement tag).2 = opened.2 ∧
        ∀ name,
          link.reification? = some name →
            Iri.isAbsolute name = true
  resource :
    let attributes := ElementAttributes.ofList tag.attributes
    let object :=
      (Grammar.objectOf attributes scope.base
        m.blankNodes).1
    attributes.resource? ≠ none →
      Iri.isAbsolute object = true ∧
        Object.ofResource object = .iri object
  types : ∀ property subject,
    property ∈
        (ElementAttributes.ofList
          tag.attributes).properties →
    property.predicate = Rdf.typeIri →
      ∃ iri,
        Iri.isAbsolute iri = true ∧
          Grammar.attributeStatement scope subject property =
            ⟨subject, Rdf.typeIri, .iri iri⟩

/- A resource that an attribute names is absolute. -/
theorem objectOf_isAbsolute
    {attributes : ElementAttributes}
    {base : String}
    (hBase : Iri.isAbsolute base = true)
    (hResource : attributes.resource? ≠ none)
    (supply : BlankNodes) :
    Iri.isAbsolute
      (Grammar.objectOf attributes base supply).1 = true := by
  unfold Grammar.objectOf
  cases hGiven : attributes.resource? with
  | none => exact absurd hGiven hResource
  | some resource => exact Iri.resolve_isAbsolute hBase _

/- A subject that an identifier names is absolute. -/
theorem subjectOf_isAbsolute
    {attributes : ElementAttributes}
    {base : String}
    (hBase : Iri.isAbsolute base = true)
    (hAbout : attributes.about? = none)
    (hId : attributes.id? ≠ none)
    (supply : BlankNodes) :
    Iri.isAbsolute
      (Grammar.subjectOf attributes base supply).1 = true := by
  unfold Grammar.subjectOf
  rw [hAbout]
  cases hGiven : attributes.id? with
  | none => exact absurd hGiven hId
  | some id => exact idIri_isAbsolute hBase id

/- A type in a tag is absolute. -/
theorem attributeStatement_isAbsolute
    {scope : Scope}
    (hBase : Iri.isAbsolute scope.base = true)
    {property : PropertyAttribute}
    (hType : property.predicate = Rdf.typeIri)
    (subject : String) :
    ∃ iri,
      Iri.isAbsolute iri = true ∧
        Grammar.attributeStatement scope subject property =
          ⟨subject, Rdf.typeIri, .iri iri⟩ := by
  have hAbsolute :=
    Iri.resolve_isAbsolute hBase property.value
  refine ⟨_, hAbsolute, ?_⟩
  unfold Grammar.attributeStatement
  rw [if_pos hType, hType,
    Object.ofResource_of_isAbsolute hAbsolute]

namespace Inheriting

variable
  {documentBase : String}
  {n : Nesting}
  {m : Machine}

/- Every frame keeps nothing but absolute IRIs. -/
theorem absolute
    (hInherits : Inheriting documentBase n m)
    (hBase : Iri.isAbsolute documentBase = true) :
    ∀ frame ∈ m.frames, frame.Absolute := by
  intro frame hMember
  have hSettled : frame.holding.Settled :=
    hInherits.settled _ (List.mem_map_of_mem hMember)
  apply hSettled.absolute
  have hScope : frame.scope ∈ scopesOf m.frames :=
    List.mem_map_of_mem hMember
  rw [hInherits.scopes] at hScope
  exact Scope.allAlong_isAbsolute hBase _ _ hScope

/- Every start tag makes nothing but absolute IRIs. -/
theorem opensAbsolute
    {tag : StartTag}
    (hInherits : Inheriting documentBase n m)
    (hBase : Iri.isAbsolute documentBase = true)
    (hOpen : m.rootClosed = false)
    (hRole : roleOfNext m.frames ≠ .literalContent) :
    m.OpensAbsolute tag
      (Scope.along documentBase (tag :: n.openTags)) := by
  have hAbsolute :=
    Scope.along_isAbsolute hBase (tag :: n.openTags)
  rcases hInherits.starts hOpen hRole with
    ⟨notes, hNotes, hWithin⟩
  have hInside := hInherits.currentScope
  rw [literalDepth_of_role hRole, List.drop_zero] at hInside
  refine ⟨hAbsolute, ?_, ?_, ?_, ?_⟩
  · intro attributes subject hNode hContainer
    have hElement :
        m.openWithin tag
            (Scope.along documentBase
              (tag :: n.openTags)) =
          m.nodeElement tag attributes
            (Scope.along documentBase
              (tag :: n.openTags)) := by
      have hOther :
          (m.frames.isEmpty &&
            tag.name.denotes Rdf.space "RDF") = false := by
        cases hFrames : m.frames with
        | nil => exact hContainer hFrames
        | cons frame outer => rfl
      unfold openWithin
      dsimp only
      rw [hOther, if_pos hNode]
      rfl
    have hOpening :=
      nodeElement_opening m tag
        (Scope.along documentBase (tag :: n.openTags))
    rw [hWithin, hElement, statementsOf_after, hNotes]
    exact
      ⟨hOpening.1, hOpening.2, fun hAbout hId =>
        subjectOf_isAbsolute hAbsolute hAbout hId _⟩
  · intro inScope subject members outer attributes link
      opened hFrames
    have hScope :
        inScope.enter attributes =
          Scope.along documentBase (tag :: n.openTags) := by
      rw [currentScope_cons hFrames] at hInside
      rw [Scope.along_cons, ← hInside]
    have hOpening :=
      startElement_opening hOpen hFrames rfl hScope rfl
    refine ⟨hOpening.1, hOpening.2, ?_⟩
    intro name hName
    rcases Option.map_eq_some_iff.mp hName with ⟨id, _, rfl⟩
    exact idIri_isAbsolute hAbsolute id
  · intro attributes object hResource
    have hObject :=
      objectOf_isAbsolute hAbsolute hResource m.blankNodes
    exact
      ⟨hObject, Object.ofResource_of_isAbsolute hObject⟩
  · intro property subject _ hType
    exact attributeStatement_isAbsolute hAbsolute hType _

end Inheriting

end Machine

------------------------------------------------------------
-- Datatypes
------------------------------------------------------------

/- A literal has no datatype or an absolute one. -/
def Object.Typed : Object → Prop
| .literal _ datatype _ =>
    datatype = "" ∨ Iri.isAbsolute datatype = true
| _ => True

theorem Object.ofResource_typed (reference : String) :
    (Object.ofResource reference).Typed := by
  unfold Object.ofResource
  split
  · trivial
  · trivial

/- The literals of statements are typed. -/
def AllTyped (statements : List Statement) : Prop :=
  ∀ statement ∈ statements, statement.object.Typed

namespace AllTyped

theorem nil : AllTyped [] := by
  intro statement hMember
  cases hMember

theorem append
    {first second : List Statement}
    (hFirst : AllTyped first)
    (hSecond : AllTyped second) :
    AllTyped (first ++ second) := by
  intro statement hMember
  rcases List.mem_append.mp hMember with hOne | hOther
  · exact hFirst statement hOne
  · exact hSecond statement hOther

theorem cons
    {statement : Statement}
    {others : List Statement}
    (hObject : statement.object.Typed)
    (hOthers : AllTyped others) :
    AllTyped (statement :: others) :=
  List.forall_mem_cons.mpr ⟨hObject, hOthers⟩

theorem resource
    (subject predicate reference : String)
    {others : List Statement}
    (hOthers : AllTyped others) :
    AllTyped
      (⟨subject, predicate, .ofResource reference⟩ ::
        others) :=
  cons (Object.ofResource_typed reference) hOthers

end AllTyped

/- A link and its description are typed if the object is. -/
theorem Link.statements_typed
    (link : Link)
    (subject : String)
    {object : Object}
    (hObject : object.Typed) :
    AllTyped (link.statements subject object) := by
  have hDescribed (name : String) :
      AllTyped
        (description name
          ⟨subject, link.predicate, object⟩) :=
    .resource _ _ _
      (.resource _ _ _
        (.resource _ _ _ (.cons hObject .nil)))
  unfold Link.statements
  split
  · exact .cons hObject (hDescribed _)
  · exact .cons hObject .nil

namespace Machine

/- What the attributes and the name of a tag state is typed. -/
theorem tag_typed
    (tag : StartTag)
    (scope : Scope)
    (subject : String) :
    AllTyped
        ((ElementAttributes.ofList
          tag.attributes).properties.map
            (Grammar.attributeStatement scope subject)) ∧
      AllTyped (typeStatements tag.name subject) := by
  have hResource := Object.ofResource_typed
  constructor
  · intro statement hMember
    rcases List.mem_map.mp hMember with ⟨property, _, rfl⟩
    unfold Grammar.attributeStatement
    split
    · exact hResource _
    · exact .inl rfl
  · unfold typeStatements
    split
    · exact .nil
    · exact .resource _ _ _ .nil

theorem linkToParent_typed
    (m : Machine)
    (subject : String) :
    AllTyped (statementsOf (m.linkToParent subject).2) := by
  have hResource := Object.ofResource_typed
  unfold linkToParent
  split
  · rw [statementsOf_signals]
    exact Link.statements_typed _ _ (hResource _)
  · rw [statementsOf_signals]
    refine .append ?_ (.resource _ _ _ .nil)
    split
    · exact Link.statements_typed _ _ (hResource _)
    · exact .resource _ _ _ .nil
  · exact .nil

theorem opening_typed
    (tag : StartTag)
    (scope : Scope)
    (subject : String)
    (link : Link)
    (supply : BlankNodes) :
    AllTyped
      (Grammar.opening
        (ElementAttributes.ofList tag.attributes) scope
        subject link supply).2 := by
  have hResource := Object.ofResource_typed
  unfold Grammar.opening
  split
  · exact Link.statements_typed _ _ (hResource _)
  · exact .nil
  · exact .nil
  · exact
      (Link.statements_typed _ _ (hResource _)).append
        (tag_typed tag scope _).1
  · exact .nil

/- What is made of a start tag is typed in any scope. -/
theorem openWithin_typed
    (m : Machine)
    (tag : StartTag)
    (scope : Scope) :
    AllTyped (statementsOf (m.openWithin tag scope).2) := by
  have hProperty (after : Machine) (subject : String)
      (link : Link) :
      AllTyped
        (statementsOf
          (after.openProperty
            (ElementAttributes.ofList tag.attributes) scope
            subject link).2) := by
    rcases after.openProperty_opening
        (ElementAttributes.ofList tag.attributes) scope
        subject link with
      ⟨supply, hMakes⟩
    rw [hMakes.2]
    exact opening_typed tag scope subject link _
  unfold openWithin
  dsimp only
  split
  · exact .nil
  · split
    · rw [(nodeElement_opening m tag scope).2]
      have hTag := tag_typed tag scope
      exact
        (linkToParent_typed _ _).append
          ((hTag _).2.append (hTag _).1)
    · unfold propertyElement
      split
      · dsimp only
        split
        · exact hProperty _ _ _
        · exact hProperty _ _ _
      · exact .nil

/- The text of a property is typed by what its frame keeps. -/
theorem closeFrame_typed
    {frame : Frame}
    (hFrame : frame.Absolute)
    (outer : List Frame) :
    AllTyped (closeFrame outer frame) := by
  have hTyped := hFrame.typed
  rcases frame with ⟨scope, kind⟩
  unfold closeFrame
  split
  · exact .resource _ _ _ .nil
  · exact Link.statements_typed _ _
      (Object.ofResource_typed _)
  · next link datatype? text subject hKind _ =>
      apply Link.statements_typed
      cases datatype? with
      | none => exact .inl rfl
      | some datatype =>
          right
          apply hTyped
          dsimp only at hKind ⊢
          rw [hKind]
          rfl
  · apply Link.statements_typed
    right
    decide
  · exact .nil

namespace Inheriting

variable
  {documentBase : String}
  {n next : Nesting}
  {m : Machine}

/- Every event states nothing but typed literals. -/
theorem step_typed
    {event : Event}
    (hInherits : Inheriting documentBase n m)
    (hBase : Iri.isAbsolute documentBase = true)
    (hStep : n.step? event = some next) :
    AllTyped (statementsOf (m.step event).2) := by
  cases event with
  | characters content => exact .nil
  | endElement name =>
      dsimp only [Machine.step]
      unfold Machine.endElement
      split
      · exact .nil
      · unfold Machine.pop
        split
        · next frame outer hFrames =>
            rw [statementsOf_signals]
            apply closeFrame_typed
            apply hInherits.absolute hBase
            rw [hFrames]
            exact List.mem_cons_self
        · exact .nil
  | startElement tag =>
      have hOpen :=
        (hInherits.framed.open_of_start hStep).1
      dsimp only [Machine.step]
      by_cases hRole :
          roleOfNext m.frames = .literalContent
      · have hNone :
            statementsOf (m.startElement tag).2 = [] := by
          unfold Machine.startElement
          dsimp only
          rw [hOpen, if_neg (by simp), if_pos hRole,
            statementsOf_after, statementsOf_declarations]
          rfl
        rw [hNone]
        exact .nil
      · rcases hInherits.starts hOpen hRole with
          ⟨notes, hNotes, hWithin⟩
        rw [hWithin, statementsOf_after, hNotes]
        exact openWithin_typed _ _ _

/- So do events in order. -/
theorem typed
    {events : List Event}
    (hInherits : Inheriting documentBase n m)
    (hBase : Iri.isAbsolute documentBase = true)
    (hRun : n.run? events = some next) :
    AllTyped (statementsOf (m.run events).2) := by
  induction events generalizing n m with
  | nil => exact .nil
  | cons event events ih =>
      rcases Option.bind_eq_some_iff.mp hRun with
        ⟨later, hStep, hRest⟩
      unfold Machine.run
      dsimp only
      rw [statementsOf_append]
      exact
        (hInherits.step_typed hBase hStep).append
          (ih (hInherits.step hStep) hRest)

end Inheriting

end Machine

end RdfXml
