import RdfXml.Proofs.Grammar.Issuing
import RdfXml.Proofs.Grammar.References
import RdfXml.Proofs.Rdf.Statement

/-
  Where the blank nodes of statements come from.

  A reference is a blank node by how it begins, whoever has
  written it.  Every one that a statement has, or that a
  frame keeps for a later statement, was issued, or a start
  tag spells it, or it is a base that is not absolute with
  something behind it.

  Main declarations:
    * `StartTag.Spells`
    * `StartTag.Appends`
    * `Statement.Sourced`
    * `FrameKind.Sourced`
    * `Machine.step_sourced`
    * `Machine.run_sourced`
-/

------------------------------------------------------------
-- References In Start Tags
------------------------------------------------------------

namespace RdfXml

/-
  References that a start tag spells out, by the part that
  its element plays.  The name of a property counts only
  where its statement is described.
-/
inductive StartTag.Spells
    (tag : StartTag) : Role → String → Prop where
| nodeId {role : Role} {id : String} :
    role ≠ .literalContent →
    (ElementAttributes.ofList tag.attributes).nodeId? =
        some id →
      Spells tag role (blankNodeReference id)
| about {iri : String} :
    (ElementAttributes.ofList tag.attributes).about? =
        some iri →
      Spells tag .node iri
| type :
    tag.name.denotes Rdf.space "Description" = false →
      Spells tag .node tag.name.expanded
| predicate :
    (ElementAttributes.ofList tag.attributes).id? ≠ none →
      Spells tag .property tag.name.expanded

/-
  References that are made of a base by putting something
  of a start tag behind it.
-/
inductive StartTag.Appends
    (tag : StartTag)
    (base : String) : Role → String → Prop where
| id {role : Role} {id : String} :
    role ≠ .literalContent →
    (ElementAttributes.ofList tag.attributes).id? =
        some id →
      Appends tag base role (Machine.idIri base id)
| resource {reference : String} :
    (ElementAttributes.ofList tag.attributes).resource? =
        some reference →
      Appends tag base .property (base ++ reference)
| type {role : Role} {property : PropertyAttribute} :
    role ≠ .literalContent →
    property ∈
        (ElementAttributes.ofList
          tag.attributes).properties →
    property.predicate = Rdf.typeIri →
      Appends tag base role (base ++ property.value)

/- What a start tag makes of references by itself. -/
def StartTag.Writes
    (tag : StartTag)
    (base : String)
    (role : Role)
    (reference : String) : Prop :=
  tag.Spells role reference ∨
    Iri.isAbsolute base = false ∧
      tag.Appends base role reference

theorem StartTag.Appends.role
    {tag : StartTag}
    {base reference : String}
    {role : Role}
    (hAppends : tag.Appends base role reference) :
    role ≠ .literalContent := by
  cases hAppends with
  | id hRole _ => exact hRole
  | resource _ => decide
  | type hRole _ _ => exact hRole

/-
  A reference is resolved to something absolute, or else put
  behind a base that is not.
-/
theorem Iri.resolve_cases (base reference : String) :
    Iri.isAbsolute (resolve base reference) = true ∨
      Iri.isAbsolute base = false ∧
        resolve base reference = base ++ reference := by
  cases hBase : isAbsolute base with
  | true => exact .inl (resolve_isAbsolute hBase reference)
  | false =>
      unfold resolve
      split
      · next hReference => exact .inl hReference
      · split
        · next hResolved =>
            exact .inl (resolveAgainst_isAbsolute hResolved)
        · exact .inr ⟨rfl, rfl⟩

------------------------------------------------------------
-- Sourced Statements
------------------------------------------------------------

section Origins

variable
  (origin : String → Prop)

/- If this reference is a blank node, it has an origin. -/
def Sourced (reference : String) : Prop :=
  (blankNodeLabel? reference).isSome → origin reference

/- The blank nodes of a statement have an origin. -/
def Statement.Sourced (statement : Statement) : Prop :=
  ∀ position reference,
    statement.blankNode? position = some reference →
      origin reference

/- The blank nodes of statements have an origin. -/
def AllSourced (statements : List Statement) : Prop :=
  ∀ statement ∈ statements, statement.Sourced origin

/- The blank nodes that a description names. -/
def Link.Sourced (link : Link) : Prop :=
  link.reification? ≠ none →
    RdfXml.Sourced origin link.predicate ∧
      ∀ name ∈ link.reification?, RdfXml.Sourced origin name

/- The blank nodes that an open element keeps. -/
def FrameKind.Sourced : FrameKind → Prop
| .root => True
| .node subject _ => RdfXml.Sourced origin subject
| .property link _ _ _ => link.Sourced origin
| .literal link _ _ => link.Sourced origin
| .collection link tail? =>
    link.Sourced origin ∧
      ∀ tail ∈ tail?, RdfXml.Sourced origin tail

/- An origin admits what a supply has issued. -/
def BlankNodes.Covered (supply : BlankNodes) : Prop :=
  ∀ reference, supply.HasIssued reference → origin reference

/- An origin admits what a start tag writes. -/
def StartTag.Covered
    (tag : StartTag)
    (base : String)
    (role : Role) : Prop :=
  ∀ reference,
    tag.Writes base role reference → origin reference

/- The blank nodes of all frames have an origin. -/
def Machine.FramesSourced (frames : List Frame) : Prop :=
  ∀ frame ∈ frames, frame.kind.Sourced origin

/- What has been stated and what is kept has an origin. -/
structure Machine.ResultSourced (result : Result) : Prop where
  frames : FramesSourced origin result.1.frames
  statements : AllSourced origin (statementsOf result.2)

end Origins

section Sourcing

variable
  {origin : String → Prop}

theorem BlankNodes.Covered.earlier
    {supply later : BlankNodes}
    (hCovered : later.Covered origin)
    (hGrows : supply.Grows later) :
    supply.Covered origin :=
  fun reference hIssued =>
    hCovered reference (hIssued.grows hGrows)

theorem sourced_of_isAbsolute
    {reference : String}
    (hAbsolute : Iri.isAbsolute reference = true) :
    Sourced origin reference := by
  intro hLabel
  rw [blankNodeLabel?_of_isAbsolute hAbsolute] at hLabel
  cases hLabel

namespace Statement

theorem sourced_literal
    {subject : String}
    (hSubject : RdfXml.Sourced origin subject)
    (predicate value datatype language : String) :
    Statement.Sourced origin
      ⟨subject, predicate,
        .literal value datatype language⟩ := by
  intro position reference hNode
  cases position with
  | object => cases hNode
  | subject =>
      rcases blankNode?_subject_eq_some_iff.mp hNode with
        ⟨rfl, hLabel⟩
      exact hSubject (Option.isSome_iff_exists.mpr hLabel)

theorem sourced_resource
    {subject object : String}
    (hSubject : RdfXml.Sourced origin subject)
    (hObject : RdfXml.Sourced origin object)
    (predicate : String) :
    Statement.Sourced origin
      ⟨subject, predicate, .ofResource object⟩ := by
  intro position reference hNode
  cases position with
  | subject =>
      rcases blankNode?_subject_eq_some_iff.mp hNode with
        ⟨rfl, hLabel⟩
      exact hSubject (Option.isSome_iff_exists.mpr hLabel)
  | object =>
      have hKind := blankNode?_object_eq_some_iff.mp hNode
      dsimp only [Object.ofResource] at hKind
      split at hKind
      · next hLabel =>
          cases hKind
          exact hObject hLabel
      · cases hKind

end Statement

namespace AllSourced

theorem nil : AllSourced origin [] := by
  intro statement hMember
  cases hMember

theorem cons
    {statement : Statement}
    {others : List Statement}
    (hFirst : statement.Sourced origin)
    (hOthers : AllSourced origin others) :
    AllSourced origin (statement :: others) :=
  List.forall_mem_cons.mpr ⟨hFirst, hOthers⟩

theorem append
    {first second : List Statement}
    (hFirst : AllSourced origin first)
    (hSecond : AllSourced origin second) :
    AllSourced origin (first ++ second) :=
  List.forall_mem_append.mpr ⟨hFirst, hSecond⟩

end AllSourced

/-
  A link and its description are about the subject, the
  object, and what the link itself names.
-/
theorem Link.statements_sourced
    {link : Link}
    {subject : String}
    {object : Object}
    (hLink : link.Sourced origin)
    (hSubject : RdfXml.Sourced origin subject)
    (hObject : ∀ about predicate,
      RdfXml.Sourced origin about →
        Statement.Sourced origin ⟨about, predicate, object⟩) :
    AllSourced origin (link.statements subject object) := by
  unfold Link.statements
  split
  · next name hName =>
      rcases hLink (by rw [hName]; exact nofun) with
        ⟨hPredicate, hNamed⟩
      have hAbout := hNamed name hName
      have hClass :
          RdfXml.Sourced origin Rdf.statementIri :=
        sourced_of_isAbsolute (by decide)
      exact
        .cons (hObject _ _ hSubject)
          (.cons (Statement.sourced_resource hAbout hClass _)
            (.cons
              (Statement.sourced_resource hAbout hSubject _)
              (.cons
                (Statement.sourced_resource hAbout
                  hPredicate _)
                (.cons (hObject _ _ hAbout) .nil))))
  · exact .cons (hObject _ _ hSubject) .nil

theorem Link.resource_sourced
    {link : Link}
    {subject object : String}
    (hLink : link.Sourced origin)
    (hSubject : RdfXml.Sourced origin subject)
    (hObject : RdfXml.Sourced origin object) :
    AllSourced origin
      (link.statements subject (.ofResource object)) :=
  statements_sourced hLink hSubject
    (fun _ predicate hAbout =>
      Statement.sourced_resource hAbout hObject predicate)

theorem Link.literal_sourced
    {link : Link}
    {subject : String}
    (hLink : link.Sourced origin)
    (hSubject : RdfXml.Sourced origin subject)
    (value datatype language : String) :
    AllSourced origin
      (link.statements subject
        (.literal value datatype language)) :=
  statements_sourced hLink hSubject
    (fun _ predicate hAbout =>
      Statement.sourced_literal hAbout predicate value datatype
        language)

------------------------------------------------------------
-- What Start Tags Make
------------------------------------------------------------

section Tags

variable
  {tag : StartTag}
  {scope : Scope}
  {role : Role}
  {supply : BlankNodes}

theorem sourced_resolve
    {reference : String}
    (hWritten : tag.Covered origin scope.base role)
    (hAppends :
      tag.Appends scope.base role
        (scope.base ++ reference)) :
    Sourced origin (Iri.resolve scope.base reference) := by
  rcases Iri.resolve_cases scope.base reference with
    hAbsolute | ⟨hBase, hAppended⟩
  · exact sourced_of_isAbsolute hAbsolute
  · intro _
    rw [hAppended]
    exact hWritten _ (.inr ⟨hBase, hAppends⟩)

theorem sourced_idIri
    {id : String}
    (hWritten : tag.Covered origin scope.base role)
    (hRole : role ≠ .literalContent)
    (hId :
      (ElementAttributes.ofList tag.attributes).id? =
        some id) :
    Sourced origin (Machine.idIri scope.base id) := by
  cases hBase : Iri.isAbsolute scope.base with
  | true =>
      exact sourced_of_isAbsolute
        (Machine.idIri_isAbsolute hBase id)
  | false =>
      intro _
      exact hWritten _ (.inr ⟨hBase, .id hRole hId⟩)

namespace Grammar

theorem subjectOf_sourced
    (hWritten : tag.Covered origin scope.base .node)
    (hIssued :
      (subjectOf (ElementAttributes.ofList tag.attributes)
        scope.base supply).2.Covered origin) :
    Sourced origin
      (subjectOf (ElementAttributes.ofList tag.attributes)
        scope.base supply).1 := by
  unfold subjectOf at hIssued ⊢
  split
  · next about _ _ hAbout =>
      intro _
      exact hWritten _ (.inl (.about hAbout))
  · next id _ _ hId =>
      exact sourced_idIri hWritten (by decide) hId
  · next nodeId _ _ hNodeId =>
      intro _
      exact hWritten _ (.inl (.nodeId (by decide) hNodeId))
  · next hAbout hId hNodeId =>
      intro _
      apply hIssued
      rw [hAbout, hId, hNodeId]
      exact BlankNodes.hasIssued_advance supply

theorem objectOf_sourced
    (hWritten : tag.Covered origin scope.base .property)
    (hIssued :
      (objectOf (ElementAttributes.ofList tag.attributes)
        scope.base supply).2.Covered origin) :
    Sourced origin
      (objectOf (ElementAttributes.ofList tag.attributes)
        scope.base supply).1 := by
  unfold objectOf at hIssued ⊢
  split
  · next resource _ hResource =>
      exact sourced_resolve hWritten (.resource hResource)
  · next nodeId _ hNodeId =>
      intro _
      exact hWritten _ (.inl (.nodeId (by decide) hNodeId))
  · next hResource hNodeId =>
      intro _
      apply hIssued
      rw [hResource, hNodeId]
      exact BlankNodes.hasIssued_advance supply

theorem attributeStatements_sourced
    {subject : String}
    (hWritten : tag.Covered origin scope.base role)
    (hRole : role ≠ .literalContent)
    (hSubject : Sourced origin subject) :
    AllSourced origin
      ((ElementAttributes.ofList
        tag.attributes).properties.map
          (attributeStatement scope subject)) := by
  intro statement hMember
  rcases List.mem_map.mp hMember with
    ⟨property, hProperty, rfl⟩
  unfold attributeStatement
  split
  · next hType =>
      exact Statement.sourced_resource hSubject
        (sourced_resolve hWritten
          (.type hRole hProperty hType)) _
  · exact Statement.sourced_literal hSubject _ _ _ _

/- The link of a property is named by its element. -/
theorem link_sourced
    (hWritten : tag.Covered origin scope.base .property)
    (members : Nat) :
    Link.Sourced origin
      ⟨predicateOf tag.name members,
        (ElementAttributes.ofList tag.attributes).id?.map
          (Machine.idIri scope.base)⟩ := by
  intro hNamed
  dsimp only at hNamed ⊢
  have hId :
      (ElementAttributes.ofList tag.attributes).id? ≠
        none := by
    intro hNone
    rw [hNone] at hNamed
    exact hNamed rfl
  constructor
  · unfold predicateOf
    split
    · rw [String.append_assoc]
      exact sourced_of_isAbsolute
        (Iri.isAbsolute_append (by decide) _)
    · intro _
      exact hWritten _ (.inl (.predicate hId))
  · intro name hName
    rcases Option.map_eq_some_iff.mp hName with
      ⟨id, hSome, rfl⟩
    exact sourced_idIri hWritten (by decide) hSome

end Grammar

theorem Machine.typeStatements_sourced
    {subject : String}
    (hWritten : tag.Covered origin scope.base .node)
    (hSubject : Sourced origin subject) :
    AllSourced origin (typeStatements tag.name subject) := by
  unfold typeStatements
  split
  · exact .nil
  · next hOther =>
      have hType : Sourced origin tag.name.expanded := by
        intro _
        exact hWritten _
          (.inl (.type (Bool.eq_false_iff.mpr hOther)))
      exact
        .cons (Statement.sourced_resource hSubject hType _)
          .nil

end Tags

------------------------------------------------------------
-- Steps Keep Blank Nodes Sourced
------------------------------------------------------------

namespace Machine

open BlankNodes

theorem FramesSourced.top
    {frames outer : List Frame}
    {frame : Frame}
    (hFrames : FramesSourced origin frames)
    (hSome : frames = frame :: outer) :
    frame.kind.Sourced origin := by
  subst hSome
  exact (List.forall_mem_cons.mp hFrames).1

theorem setTop_sourced
    {m : Machine}
    {kind : FrameKind}
    (hFrames : FramesSourced origin m.frames)
    (hKind : kind.Sourced origin) :
    FramesSourced origin (m.setTop kind).frames := by
  unfold setTop
  split
  · next frame outer hSome =>
      rw [hSome] at hFrames
      exact List.forall_mem_cons.mpr
        ⟨hKind, (List.forall_mem_cons.mp hFrames).2⟩
  · exact hFrames

theorem enclosingSubject?_sourced
    {frames : List Frame}
    {subject : String}
    (hFrames : FramesSourced origin frames)
    (hSubject : enclosingSubject? frames = some subject) :
    RdfXml.Sourced origin subject := by
  rcases List.exists_of_findSome?_eq_some hSubject with
    ⟨frame, hMember, hOwn⟩
  have hKind := hFrames frame hMember
  cases hNode : frame.kind with
  | node own members =>
      rw [hNode] at hOwn hKind
      cases hOwn
      exact hKind
  | _ =>
      rw [hNode] at hOwn
      cases hOwn

/- Opening a frame keeps what was there. -/
theorem ResultSourced.of_opened
    {result : Result}
    {m : Machine}
    {supply : BlankNodes}
    {scope : Scope}
    {kind : FrameKind}
    {statements : List Statement}
    (hMakes :
      Makes result statements
        (m.placed supply (⟨scope, kind⟩ :: m.frames)))
    (hFrames : FramesSourced origin m.frames)
    (hKind : kind.Sourced origin)
    (hStatements : AllSourced origin statements) :
    ResultSourced origin result where
  frames := by
    rw [hMakes.1]
    exact List.forall_mem_cons.mpr ⟨hKind, hFrames⟩
  statements := by
    rw [hMakes.2]
    exact hStatements

theorem linkToParent_sourced
    {m : Machine}
    {subject : String}
    (hFrames : FramesSourced origin m.frames)
    (hSubject : RdfXml.Sourced origin subject)
    (hIssued :
      (m.linkToParent subject).1.blankNodes.Covered origin) :
    ResultSourced origin (m.linkToParent subject) := by
  unfold linkToParent at hIssued ⊢
  split
  · next inScope link datatype? text hasObject outer parent
      hSome hParent =>
      have hAbout := enclosingSubject?_sourced hFrames hParent
      have hLink : link.Sourced origin := hFrames.top hSome
      refine ⟨setTop_sourced hFrames hLink, ?_⟩
      rw [statementsOf_signals]
      exact Link.resource_sourced hLink hAbout hSubject
  · next inScope link tail? outer parent hSome hParent =>
      have hAbout := enclosingSubject?_sourced hFrames hParent
      have hOwn :
          FrameKind.Sourced origin (.collection link tail?) :=
        hFrames.top hSome
      have hCell : RdfXml.Sourced origin m.freshNode := by
        intro _
        apply hIssued
        rw [hSome] at hParent
        rw [hSome, hParent]
        dsimp only
        rw [setTop_blankNodes]
        exact hasIssued_advance _
      have hIssuedFrames :
          FramesSourced origin m.issue.frames := hFrames
      refine ⟨setTop_sourced hIssuedFrames ⟨hOwn.1, ?_⟩, ?_⟩
      · intro tail hTail
        cases hTail
        exact hCell
      · rw [statementsOf_signals]
        refine .append ?_
          (.cons (Statement.sourced_resource hCell hSubject _)
            .nil)
        split
        · exact Link.resource_sourced hOwn.1 hAbout hCell
        · next tail =>
            exact
              .cons
                (Statement.sourced_resource (hOwn.2 tail rfl)
                  hCell _)
                .nil
  · exact ⟨hFrames, .nil⟩

theorem nodeElement_sourced
    {m : Machine}
    {tag : StartTag}
    {scope : Scope}
    (hFrames : FramesSourced origin m.frames)
    (hWritten : tag.Covered origin scope.base .node)
    (hIssued :
      (m.nodeElement tag
        (ElementAttributes.ofList tag.attributes)
        scope).1.blankNodes.Covered origin) :
    ResultSourced origin
      (m.nodeElement tag
        (ElementAttributes.ofList tag.attributes) scope) := by
  let made :=
    Grammar.subjectOf (ElementAttributes.ofList tag.attributes)
      scope.base m.blankNodes
  let placed := m.placed made.2 m.frames
  have hGrows := linkToParent_grows placed made.1
  unfold nodeElement at hIssued ⊢
  rw [nodeSubject_subjectOf] at hIssued ⊢
  have hSubject : RdfXml.Sourced origin made.1 :=
    Grammar.subjectOf_sourced hWritten (hIssued.earlier hGrows)
  have hPlaced : FramesSourced origin placed.frames := hFrames
  have hLinked : ResultSourced origin _ :=
    linkToParent_sourced hPlaced hSubject hIssued
  refine ⟨?_, ?_⟩
  · exact List.forall_mem_cons.mpr ⟨hSubject, hLinked.frames⟩
  · dsimp only
    rw [statementsOf_after, (push_makes _ _ _).2,
      List.append_nil, statementsOf_append,
      statementsOf_append, statementsOf_signals,
      statementsOf_properties]
    exact
      (hLinked.statements.append
        (typeStatements_sourced hWritten hSubject)).append
          (Grammar.attributeStatements_sourced hWritten
            (by decide) hSubject)

theorem openProperty_sourced
    {m : Machine}
    {tag : StartTag}
    {scope : Scope}
    {subject : String}
    {link : Link}
    (hFrames : FramesSourced origin m.frames)
    (hSubject : RdfXml.Sourced origin subject)
    (hLink : link.Sourced origin)
    (hWritten : tag.Covered origin scope.base .property)
    (hIssued :
      (m.openProperty
        (ElementAttributes.ofList tag.attributes) scope
        subject link).1.blankNodes.Covered origin) :
    ResultSourced origin
      (m.openProperty
        (ElementAttributes.ofList tag.attributes) scope
        subject link) := by
  cases hForm :
      PropertyForm.ofAttributes
        (ElementAttributes.ofList tag.attributes) with
  | resource =>
      have hMakes :
          Makes
            (m.openProperty
              (ElementAttributes.ofList tag.attributes) scope
              subject link) _ _ :=
        openProperty_resource hForm
      rw [hMakes.1] at hIssued
      have hNode : RdfXml.Sourced origin m.blankNodes.next :=
        fun _ => hIssued _ (hasIssued_advance _)
      exact .of_opened hMakes hFrames hNode
        (Link.resource_sourced hLink hSubject hNode)
  | collection =>
      exact .of_opened (openProperty_collection hForm) hFrames
        ⟨hLink, nofun⟩ .nil
  | literal =>
      exact .of_opened (openProperty_literal hForm) hFrames
        hLink .nil
  | object =>
      have hMakes :
          Makes
            (m.openProperty
              (ElementAttributes.ofList tag.attributes) scope
              subject link) _ _ :=
        openProperty_object hForm rfl
      rw [hMakes.1] at hIssued
      have hObject :=
        Grammar.objectOf_sourced hWritten hIssued
      exact .of_opened hMakes hFrames hLink
        ((Link.resource_sourced hLink hSubject hObject).append
          (Grammar.attributeStatements_sourced hWritten
            (by decide) hObject))
  | plain =>
      exact .of_opened (openProperty_plain hForm) hFrames
        hLink .nil

theorem propertyElement_sourced
    {m : Machine}
    {tag : StartTag}
    {scope : Scope}
    (hFrames : FramesSourced origin m.frames)
    (hWritten : tag.Covered origin scope.base .property)
    (hIssued :
      (m.propertyElement tag
        (ElementAttributes.ofList tag.attributes)
        scope).1.blankNodes.Covered origin) :
    ResultSourced origin
      (m.propertyElement tag
        (ElementAttributes.ofList tag.attributes) scope) := by
  rcases m.propertyElement_cases tag
      (ElementAttributes.ofList tag.attributes) scope with
    hNone | ⟨inScope, subject, members, outer, hSome⟩
  · rw [hNone]
    exact ⟨hFrames, .nil⟩
  · rw [propertyElement_node hSome] at hIssued ⊢
    rw [hSome] at hFrames
    have hKinds := List.forall_mem_cons.mp hFrames
    exact openProperty_sourced
      (List.forall_mem_cons.mpr hKinds) hKinds.1
      (Grammar.link_sourced hWritten _) hWritten hIssued

theorem openWithin_sourced
    {m : Machine}
    {tag : StartTag}
    {scope : Scope}
    (hRole : roleOfNext m.frames ≠ .literalContent)
    (hFrames : FramesSourced origin m.frames)
    (hWritten :
      tag.Covered origin scope.base (roleOfNext m.frames))
    (hIssued :
      (m.openWithin tag scope).1.blankNodes.Covered origin) :
    ResultSourced origin (m.openWithin tag scope) := by
  unfold openWithin at hIssued ⊢
  dsimp only at hIssued ⊢
  by_cases hRoot :
      (m.frames.isEmpty &&
        tag.name.denotes Rdf.space "RDF") = true
  · rw [if_pos hRoot]
    exact .of_opened (push_makes _ _ _) hFrames trivial .nil
  · rw [if_neg hRoot] at hIssued ⊢
    cases hNext : roleOfNext m.frames with
    | node =>
        rw [hNext] at hWritten hIssued
        exact nodeElement_sourced hFrames hWritten hIssued
    | property =>
        rw [hNext] at hWritten hIssued
        exact propertyElement_sourced hFrames hWritten hIssued
    | literalContent => exact absurd hNext hRole

theorem startElement_sourced
    {m : Machine}
    {tag : StartTag}
    (hFrames : FramesSourced origin m.frames)
    (hWritten :
      tag.Covered origin
        (m.currentScope.enter
          (ElementAttributes.ofList tag.attributes)).base
        (roleOfNext m.frames))
    (hIssued :
      (m.startElement tag).1.blankNodes.Covered origin) :
    ResultSourced origin (m.startElement tag) := by
  rcases m.startElement_cases tag with
    ⟨hNone, hSame | hCaptured⟩ |
      ⟨hRole, notes, hNotes, hWithin⟩
  · refine ⟨?_, ?_⟩
    · rw [hSame]
      exact hFrames
    · rw [hNone]
      exact .nil
  · refine ⟨?_, ?_⟩
    · rw [hCaptured]
      unfold captureStartTag
      split
      · next inScope link markup depth outer hSome =>
          exact setTop_sourced hFrames (hFrames.top hSome)
      · exact hFrames
    · rw [hNone]
      exact .nil
  · rw [hWithin] at hIssued ⊢
    have hOpened :=
      openWithin_sourced hRole hFrames hWritten hIssued
    refine ⟨hOpened.frames, ?_⟩
    rw [statementsOf_after, hNotes]
    exact hOpened.statements

/- What ends is stated of what its frame kept. -/
theorem closeFrame_sourced
    {frame : Frame}
    {outer : List Frame}
    (hFrames : FramesSourced origin (frame :: outer)) :
    AllSourced origin (closeFrame outer frame) := by
  rcases List.forall_mem_cons.mp hFrames with
    ⟨hKind, hOuter⟩
  have hNil : RdfXml.Sourced origin Rdf.nilIri :=
    sourced_of_isAbsolute (by decide)
  rcases frame with ⟨scope, kind⟩
  unfold closeFrame
  split
  · next link tail hSome =>
      rw [hSome] at hKind
      exact
        .cons
          (Statement.sourced_resource (hKind.2 tail rfl) hNil
            _)
          .nil
  · next link subject hSome hSubject =>
      rw [hSome] at hKind
      exact Link.resource_sourced hKind.1
        (enclosingSubject?_sourced hOuter hSubject) hNil
  · next link datatype? text subject hSome hSubject =>
      rw [hSome] at hKind
      exact Link.literal_sourced hKind
        (enclosingSubject?_sourced hOuter hSubject) _ _ _
  · next link markup depth subject hSome hSubject =>
      rw [hSome] at hKind
      exact Link.literal_sourced hKind
        (enclosingSubject?_sourced hOuter hSubject) _ _ _
  · exact .nil

theorem endElement_sourced
    {m : Machine}
    (hFrames : FramesSourced origin m.frames)
    (name : Name) :
    ResultSourced origin (m.endElement name) := by
  unfold endElement
  split
  · next inScope link markup depth outer hSome =>
      exact
        ⟨setTop_sourced hFrames (hFrames.top hSome), .nil⟩
  · unfold pop
    split
    · next frame outer hSome =>
        rw [hSome] at hFrames
        refine ⟨(List.forall_mem_cons.mp hFrames).2, ?_⟩
        rw [statementsOf_signals]
        exact closeFrame_sourced hFrames
    · exact ⟨hFrames, .nil⟩

theorem characters_sourced
    {m : Machine}
    (hFrames : FramesSourced origin m.frames)
    (content : String) :
    FramesSourced origin (m.characters content).frames := by
  unfold characters
  split
  · next inScope link datatype? text hasObject outer hSome =>
      exact setTop_sourced hFrames (hFrames.top hSome)
  · next inScope link markup depth outer hSome =>
      exact setTop_sourced hFrames (hFrames.top hSome)
  · exact hFrames

/-
  An event leaves everything sourced when the origin covers
  what its start tag writes and what is issued meanwhile.
-/
theorem step_sourced
    {m : Machine}
    {event : Event}
    (hFrames : FramesSourced origin m.frames)
    (hWritten : ∀ tag,
      event = .startElement tag →
        tag.Covered origin
          (m.currentScope.enter
            (ElementAttributes.ofList tag.attributes)).base
          (roleOfNext m.frames))
    (hIssued :
      (m.step event).1.blankNodes.Covered origin) :
    ResultSourced origin (m.step event) := by
  cases event with
  | startElement tag =>
      exact startElement_sourced hFrames (hWritten tag rfl)
        hIssued
  | endElement name => exact endElement_sourced hFrames name
  | characters content =>
      exact ⟨characters_sourced hFrames content, .nil⟩

/- So do events in order. -/
theorem run_sourced
    {m : Machine}
    {events : List Event}
    (hFrames : FramesSourced origin m.frames)
    (hWritten : ∀ before tag later,
      events = before ++ .startElement tag :: later →
        tag.Covered origin
          ((m.run before).1.currentScope.enter
            (ElementAttributes.ofList tag.attributes)).base
          (roleOfNext (m.run before).1.frames))
    (hIssued :
      (m.run events).1.blankNodes.Covered origin) :
    ResultSourced origin (m.run events) := by
  induction events generalizing m with
  | nil => exact ⟨hFrames, .nil⟩
  | cons event events ih =>
      have hStep : ResultSourced origin (m.step event) := by
        apply step_sourced hFrames
        · rintro tag rfl
          exact hWritten [] tag events rfl
        · exact hIssued.earlier (run_grows _ events)
      have hRest := by
        apply ih hStep.frames
        · rintro before tag later rfl
          exact hWritten (event :: before) tag later rfl
        · exact hIssued
      refine ⟨hRest.frames, ?_⟩
      unfold run
      dsimp only
      rw [statementsOf_append]
      exact hStep.statements.append hRest.statements

end Machine

end Sourcing

end RdfXml
