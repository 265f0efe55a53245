import Mathlib.Data.List.Induction
import RdfXml.Proofs.Grammar.Subtrees

/-
  What an element inherits, by the start tags around it.

  The scope of an element is made of the attributes on the
  path from the document element to it and of nothing else.
  A machine keeps the scopes of the open elements in their
  frames, and uses for each element no scope but its own.
  What the frame of a property holds was made in its scope.

  Main declarations:
    * `Scope.along`
    * `Scope.along_cons`
    * `Machine.openWithin`
    * `Machine.openWithin_signals`
    * `Holding.Settled`
    * `Machine.Inheriting`
    * `Machine.Inheriting.run`
    * `Machine.Inheriting.starts`
    * `Machine.Inheriting.ends`
-/

------------------------------------------------------------
-- Attributes For Scopes
------------------------------------------------------------

namespace RdfXml

/- The value of an attribute of the XML namespace. -/
def StartTag.xml?
    (tag : StartTag)
    (localName : String) : Option String :=
  (tag.attributes.reverse.find?
    (fun a => a.name.denotes xmlNamespace localName)).map
      (fun a => a.value)

namespace ElementAttributes

theorem addRdf_scope
    (attributes : ElementAttributes)
    (a : Attribute) :
    (attributes.addRdf a).lang? = attributes.lang? ∧
      (attributes.addRdf a).base? = attributes.base? := by
  unfold addRdf addProperty
  dsimp only
  repeat' split
  all_goals exact ⟨rfl, rfl⟩

/- Only attributes of the XML namespace say something. -/
theorem add_scope
    (attributes : ElementAttributes)
    (a : Attribute) :
    (attributes.add a).lang? =
        (if a.name.denotes xmlNamespace "lang" then
          some a.value
        else attributes.lang?) ∧
      (attributes.add a).base? =
        (if a.name.denotes xmlNamespace "base" then
          some a.value
        else attributes.base?) := by
  have hSpaces : Rdf.space ≠ xmlNamespace := by decide
  unfold add Name.denotes
  cases hSpace : a.name.space? with
  | none => simp
  | some space =>
      by_cases hRdf : space = Rdf.space
      · simpa [hRdf, hSpaces] using addRdf_scope attributes a
      · by_cases hXml : space = xmlNamespace
        · subst hXml
          by_cases hLang : a.name.localName = "lang"
          · simp [hRdf, hLang, addXml]
          · by_cases hBase : a.name.localName = "base"
            · simp [hRdf, hBase, addXml]
            · simp [hRdf, hLang, hBase, addXml]
        · simp [hRdf, hXml, addProperty]

/- An element has the language and the base that it gives. -/
theorem ofList_scope (tag : StartTag) :
    (ofList tag.attributes).lang? = tag.xml? "lang" ∧
      (ofList tag.attributes).base? = tag.xml? "base" := by
  unfold StartTag.xml?
  induction tag.attributes using List.reverseRecOn with
  | nil => exact ⟨rfl, rfl⟩
  | append_singleton list a ih =>
      have hLast :
          ofList (list ++ [a]) = (ofList list).add a := by
        simp [ofList]
      rw [hLast, (add_scope _ a).1, (add_scope _ a).2, ih.1,
        ih.2, List.reverse_concat, List.find?_cons,
        List.find?_cons]
      constructor
      · cases a.name.denotes xmlNamespace "lang" with
        | true => rfl
        | false => rfl
      · cases a.name.denotes xmlNamespace "base" with
        | true => rfl
        | false => rfl

end ElementAttributes

------------------------------------------------------------
-- Scopes Along Paths
------------------------------------------------------------

namespace Scope

/-
  The scope of an element, by the start tags that lead to it,
  innermost first.  The nearest language counts, and every
  base is a reference to the one around it.
-/
def along
    (documentBase : String)
    (path : List StartTag) : Scope where
  lang :=
    (path.findSome? (fun tag => tag.xml? "lang")).getD ""
  base :=
    (path.reverse.filterMap
      (fun tag => tag.xml? "base")).foldl
        Iri.resolve documentBase

/- The scopes of the elements on a path, innermost first. -/
def allAlong (documentBase : String) :
    List StartTag → List Scope
| [] => []
| tag :: outer =>
    along documentBase (tag :: outer) ::
      allAlong documentBase outer

/- Each element enters the scope of the one around it. -/
theorem along_cons
    (documentBase : String)
    (tag : StartTag)
    (path : List StartTag) :
    along documentBase (tag :: path) =
      (along documentBase path).enter
        (ElementAttributes.ofList tag.attributes) := by
  have hGiven := ElementAttributes.ofList_scope tag
  unfold along enter
  rw [hGiven.1, hGiven.2, List.findSome?_cons,
    List.reverse_cons, List.filterMap_append,
    List.foldl_append, List.filterMap_cons,
    List.filterMap_nil]
  congr 1
  · cases tag.xml? "lang" with
    | none => rfl
    | some lang => rfl
  · cases tag.xml? "base" with
    | none => rfl
    | some base => rfl

end Scope

namespace Machine

------------------------------------------------------------
-- Elements Within Scopes
------------------------------------------------------------

/- Open an element, outside of literals, in a scope. -/
def openWithin
    (m : Machine)
    (tag : StartTag)
    (scope : Scope) : Result :=
  let attributes := ElementAttributes.ofList tag.attributes
  if m.frames.isEmpty &&
      tag.name.denotes Rdf.space "RDF" then
    m.push scope .root
  else if roleOfNext m.frames = .node then
    m.nodeElement tag attributes scope
  else
    m.propertyElement tag attributes scope

/- A start tag is opened in the scope that it enters. -/
theorem startElement_within
    {m : Machine}
    {tag : StartTag}
    (hOpen : m.rootClosed = false)
    (hRole : roleOfNext m.frames ≠ .literalContent) :
    ∃ notes,
      statementsOf notes = [] ∧
        m.startElement tag =
          after notes
            (m.openWithin tag
              (m.currentScope.enter
                (ElementAttributes.ofList
                  tag.attributes))) := by
  refine
    ⟨declarationSignals tag ++
      ([.note (.element tag (roleOfNext m.frames))] ++
        ((unqualifiedNames tag.attributes).map
          (fun name => .note (.unqualifiedAttribute name)) ++
            m.scopeNotes
              (ElementAttributes.ofList
                tag.attributes).base?)), ?_, ?_⟩
  · rw [statementsOf_append, statementsOf_append,
      statementsOf_declarations, statementsOf_opening]
    rfl
  · unfold startElement openElement openWithin
    dsimp only
    rw [hOpen, resolveScope_enter]
    simp only [Bool.false_eq_true, if_false, hRole, after,
      List.append_assoc]

------------------------------------------------------------
-- Machines Without Scopes
------------------------------------------------------------

/- Frames with their scopes forgotten. -/
def unscoped (frames : List Frame) : List Frame :=
  frames.map (fun frame => ⟨⟨"", ""⟩, frame.kind⟩)

theorem enclosingSubject?_unscoped (frames : List Frame) :
    enclosingSubject? (unscoped frames) =
      enclosingSubject? frames := by
  unfold enclosingSubject? unscoped
  rw [List.findSome?_map]
  rfl

theorem roleOfNext_unscoped (frames : List Frame) :
    roleOfNext (unscoped frames) = roleOfNext frames := by
  cases frames with
  | nil => rfl
  | cons frame outer => rfl

/- The machine with all of its scopes forgotten. -/
def withoutScopes (m : Machine) : Machine :=
  { m with
    documentBase := ""
    frames := unscoped m.frames }

theorem push_unscoped
    (m : Machine)
    (scope : Scope)
    (kind : FrameKind) :
    (m.withoutScopes.push scope kind).2 =
      (m.push scope kind).2 := by
  simp [push, withoutScopes, unscoped]

theorem setTop_unscoped
    (m : Machine)
    (kind : FrameKind) :
    m.withoutScopes.setTop kind =
      (m.setTop kind).withoutScopes := by
  rcases m with ⟨documentBase, supply, frames, closed⟩
  cases frames with
  | nil => rfl
  | cons frame outer => rfl

theorem nodeSubject_unscoped
    (m : Machine)
    (attributes : ElementAttributes)
    (scope : Scope) :
    m.withoutScopes.nodeSubject attributes scope =
      ((m.nodeSubject attributes scope).1.withoutScopes,
        (m.nodeSubject attributes scope).2) := by
  rw [nodeSubject_subjectOf, nodeSubject_subjectOf]
  rfl

theorem linkToParent_unscoped
    (m : Machine)
    (subject : String) :
    m.withoutScopes.linkToParent subject =
      ((m.linkToParent subject).1.withoutScopes,
        (m.linkToParent subject).2) := by
  rcases m with ⟨documentBase, supply, frames, closed⟩
  have hSubject := enclosingSubject?_unscoped frames
  unfold linkToParent
  cases frames with
  | nil => rfl
  | cons frame outer =>
      rcases frame with ⟨scope, kind⟩
      dsimp only [withoutScopes]
      rw [hSubject]
      cases kind with
      | property link datatype? text hasObject =>
          cases enclosingSubject?
              (⟨scope, .property link datatype? text
                hasObject⟩ :: outer) with
          | none => rfl
          | some parent => rfl
      | collection link tail? =>
          cases enclosingSubject?
              (⟨scope, .collection link tail?⟩ :: outer) with
          | none => rfl
          | some parent => rfl
      | _ => rfl

/- A node takes nothing from other scopes. -/
theorem nodeElement_unscoped
    (m : Machine)
    (tag : StartTag)
    (attributes : ElementAttributes)
    (scope : Scope) :
    (m.withoutScopes.nodeElement tag attributes scope).2 =
      (m.nodeElement tag attributes scope).2 := by
  unfold nodeElement
  rw [nodeSubject_unscoped]
  dsimp only
  rw [linkToParent_unscoped]
  dsimp only [after]
  rw [push_unscoped]

/- Nor does a property. -/
theorem openProperty_unscoped
    (m : Machine)
    (attributes : ElementAttributes)
    (scope : Scope)
    (subject : String)
    (link : Link) :
    (m.withoutScopes.openProperty attributes scope subject
        link).2 =
      (m.openProperty attributes scope subject link).2 := by
  have hIssued (kind : FrameKind) :
      (m.withoutScopes.issue.push scope kind).2 =
        (m.issue.push scope kind).2 :=
    push_unscoped m.issue scope kind
  have hFresh : m.withoutScopes.freshNode = m.freshNode := rfl
  rw [openProperty_form, openProperty_form]
  cases PropertyForm.ofAttributes attributes with
  | resource =>
      simp only [resourceProperty, after, hIssued, hFresh]
  | collection => exact push_unscoped _ _ _
  | literal => simp only [literalProperty, after, push_unscoped]
  | object =>
      unfold objectProperty
      cases attributes.resource? with
      | some resource => simp only [after, push_unscoped]
      | none =>
          cases attributes.nodeId? with
          | some nodeId => simp only [after, push_unscoped]
          | none => simp only [after, hIssued, hFresh]
  | plain =>
      unfold contentProperty
      cases attributes.datatype? with
      | some datatype => simp only [after, push_unscoped]
      | none => exact push_unscoped _ _ _

theorem propertyElement_unscoped
    (m : Machine)
    (tag : StartTag)
    (attributes : ElementAttributes)
    (scope : Scope) :
    (m.withoutScopes.propertyElement tag attributes
        scope).2 =
      (m.propertyElement tag attributes scope).2 := by
  rcases hFrames : m.frames with _ | ⟨⟨inScope, kind⟩, outer⟩
  · simp [propertyElement, withoutScopes, unscoped, hFrames]
  · have hForgotten :
        m.withoutScopes.frames =
          ⟨⟨"", ""⟩, kind⟩ :: unscoped outer := by
      simp [withoutScopes, unscoped, hFrames]
    unfold propertyElement
    rw [hFrames, hForgotten]
    cases kind with
    | node subject members =>
        dsimp only
        split
        · rw [setTop_unscoped, openProperty_unscoped]
        · rw [openProperty_unscoped]
    | _ => rfl

/-
  What is made of a start tag depends on the scope of its
  element and on no other one.
-/
theorem openWithin_signals
    (m : Machine)
    (tag : StartTag)
    (scope : Scope) :
    (m.withoutScopes.openWithin tag scope).2 =
      (m.openWithin tag scope).2 := by
  have hEmpty :
      m.withoutScopes.frames.isEmpty = m.frames.isEmpty := by
    simp [withoutScopes, unscoped]
  have hRole :
      roleOfNext m.withoutScopes.frames =
        roleOfNext m.frames :=
    roleOfNext_unscoped m.frames
  unfold openWithin
  dsimp only
  rw [hEmpty, hRole]
  split
  · exact push_unscoped _ _ _
  · split
    · exact nodeElement_unscoped _ _ _ _
    · exact propertyElement_unscoped _ _ _ _

/- An element that ends looks only at its own scope. -/
theorem closeFrame_unscoped
    (outer : List Frame)
    (frame : Frame) :
    closeFrame (unscoped outer) frame =
      closeFrame outer frame := by
  unfold closeFrame
  rw [enclosingSubject?_unscoped]

------------------------------------------------------------
-- What Frames Hold
------------------------------------------------------------

end Machine

/-
  What a frame holds as long as it is open: its scope, and
  of a property the name of its description and its datatype.
-/
structure Holding where
  scope : Scope
  name? : Option String
  datatype? : Option String
deriving DecidableEq, Repr

namespace FrameKind

/- The name of the description of a property's statement. -/
def name? : FrameKind → Option String
| .property link _ _ _ => link.reification?
| .literal link _ _ => link.reification?
| .collection link _ => link.reification?
| _ => none

/- The datatype of a property. -/
def datatype? : FrameKind → Option String
| .property _ datatype? _ _ => datatype?
| _ => none

end FrameKind

/- What this frame holds. -/
def Frame.holding (frame : Frame) : Holding :=
  ⟨frame.scope, frame.kind.name?, frame.kind.datatype?⟩

namespace Holding

/- A name has been made of an identifier in this scope. -/
def NamedIn
    (scope : Scope)
    (name? : Option String) : Prop :=
  ∀ name,
    name? = some name →
      ∃ id, name = Machine.idIri scope.base id

/- A datatype has been resolved in this scope. -/
def TypedIn
    (scope : Scope)
    (datatype? : Option String) : Prop :=
  ∀ datatype,
    datatype? = some datatype →
      ∃ reference,
        datatype = Iri.resolve scope.base reference

/- What is held has been made in the scope that is held. -/
structure Settled (holding : Holding) : Prop where
  named : NamedIn holding.scope holding.name?
  typed : TypedIn holding.scope holding.datatype?

theorem namedIn_none (scope : Scope) :
    NamedIn scope none := by
  intro name hName
  cases hName

theorem typedIn_none (scope : Scope) :
    TypedIn scope none := by
  intro datatype hDatatype
  cases hDatatype

theorem namedIn_map
    (scope : Scope)
    (id? : Option String) :
    NamedIn scope (id?.map (Machine.idIri scope.base)) := by
  intro name hName
  rcases Option.map_eq_some_iff.mp hName with ⟨id, _, rfl⟩
  exact ⟨id, rfl⟩

end Holding

namespace Machine

/- What frames hold, innermost first. -/
def holdings (frames : List Frame) : List Holding :=
  frames.map Frame.holding

/- The scopes of frames, innermost first. -/
def scopesOf (frames : List Frame) : List Scope :=
  frames.map (fun frame => frame.scope)

theorem scopesOf_holdings (frames : List Frame) :
    scopesOf frames =
      (holdings frames).map (fun holding => holding.scope) := by
  simp [scopesOf, holdings, Frame.holding]

/- The frames of two machines hold the same. -/
def Shares (after m : Machine) : Prop :=
  holdings after.frames = holdings m.frames ∧
    after.documentBase = m.documentBase

/- One machine is another with one more frame in a scope. -/
def Enters
    (m : Machine)
    (scope : Scope)
    (after : Machine) : Prop :=
  ∃ holding,
    holdings after.frames = holding :: holdings m.frames ∧
      holding.scope = scope ∧
        holding.Settled ∧
          after.documentBase = m.documentBase

theorem Enters.scopes
    {m after : Machine}
    {scope : Scope}
    (hEnters : m.Enters scope after) :
    scopesOf after.frames = scope :: scopesOf m.frames ∧
      after.documentBase = m.documentBase := by
  rcases hEnters with ⟨holding, hHoldings, rfl, _, hBase⟩
  refine ⟨?_, hBase⟩
  rw [scopesOf_holdings, hHoldings, scopesOf_holdings]
  rfl

theorem setTop_shares
    {m : Machine}
    {frame : Frame}
    {outer : List Frame}
    (hFrames : m.frames = frame :: outer)
    {kind : FrameKind}
    (hName : kind.name? = frame.kind.name?)
    (hDatatype : kind.datatype? = frame.kind.datatype?) :
    (m.setTop kind).Shares m := by
  constructor
  · simp [setTop, hFrames, holdings, Frame.holding, hName,
      hDatatype]
  · simp [setTop, hFrames]

theorem push_enters
    {m after : Machine}
    (hShares : after.Shares m)
    {scope : Scope}
    {kind : FrameKind}
    (hName : Holding.NamedIn scope kind.name?)
    (hDatatype : Holding.TypedIn scope kind.datatype?) :
    m.Enters scope (after.push scope kind).1 :=
  ⟨⟨scope, kind.name?, kind.datatype?⟩,
    congrArg (_ :: ·) hShares.1, rfl,
    ⟨hName, hDatatype⟩, hShares.2⟩

theorem linkToParent_shares
    (m : Machine)
    (subject : String) :
    (m.linkToParent subject).1.Shares m := by
  unfold linkToParent
  split
  · next hFrames _ => exact setTop_shares hFrames rfl rfl
  · next hFrames _ =>
      have hIssued : m.issue.frames = _ := hFrames
      exact setTop_shares hIssued rfl rfl
  · exact ⟨rfl, rfl⟩

theorem nodeElement_enters
    (m : Machine)
    (tag : StartTag)
    (attributes : ElementAttributes)
    (scope : Scope) :
    m.Enters scope
      (m.nodeElement tag attributes scope).1 := by
  unfold nodeElement
  rw [nodeSubject_subjectOf]
  have hShares :=
    linkToParent_shares
      (m.placed
        (Grammar.subjectOf attributes scope.base
          m.blankNodes).2 m.frames)
      (Grammar.subjectOf attributes scope.base
        m.blankNodes).1
  exact push_enters hShares (Holding.namedIn_none _)
    (Holding.typedIn_none _)

/- A property enters the scope that its name is made in. -/
theorem openProperty_enters
    {m after : Machine}
    (hShares : after.Shares m)
    (attributes : ElementAttributes)
    {scope : Scope}
    (subject : String)
    {link : Link}
    (hLink : Holding.NamedIn scope link.reification?) :
    m.Enters scope
      (after.openProperty attributes scope subject
        link).1 := by
  have hIssued : after.issue.Shares m := hShares
  have hNone := Holding.typedIn_none scope
  rw [openProperty_form]
  cases PropertyForm.ofAttributes attributes with
  | resource =>
      exact push_enters hIssued (Holding.namedIn_none _) hNone
  | collection => exact push_enters hShares hLink hNone
  | literal => exact push_enters hShares hLink hNone
  | object =>
      unfold objectProperty
      cases attributes.resource? with
      | some resource =>
          exact push_enters hShares hLink hNone
      | none =>
          cases attributes.nodeId? with
          | some nodeId =>
              exact push_enters hShares hLink hNone
          | none => exact push_enters hIssued hLink hNone
  | plain =>
      unfold contentProperty
      cases attributes.datatype? with
      | some reference =>
          refine push_enters hShares hLink ?_
          intro datatype hDatatype
          exact ⟨reference, (Option.some.inj hDatatype).symm⟩
      | none => exact push_enters hShares hLink hNone

theorem propertyElement_enters
    {m : Machine}
    (hRole : roleOfNext m.frames = .property)
    (tag : StartTag)
    (attributes : ElementAttributes)
    (scope : Scope) :
    m.Enters scope
      (m.propertyElement tag attributes scope).1 := by
  have hName := Holding.namedIn_map scope attributes.id?
  rcases hFrames : m.frames with _ | ⟨⟨inScope, kind⟩, outer⟩
  · rw [hFrames] at hRole
    cases hRole
  · rw [hFrames] at hRole
    unfold propertyElement
    rw [hFrames]
    cases kind with
    | node subject members =>
        dsimp only
        split
        · have hCounted :
              (m.setTop
                (.node subject (members + 1))).Shares m :=
            setTop_shares hFrames rfl rfl
          apply openProperty_enters hCounted
          exact hName
        · apply openProperty_enters ⟨rfl, rfl⟩
          exact hName
    | _ => cases hRole

/- An element that is opened within a scope enters it. -/
theorem openWithin_enters
    {m : Machine}
    (hRole : roleOfNext m.frames ≠ .literalContent)
    (tag : StartTag)
    (scope : Scope) :
    m.Enters scope (m.openWithin tag scope).1 := by
  unfold openWithin
  dsimp only
  split
  · exact push_enters ⟨rfl, rfl⟩ (Holding.namedIn_none _)
      (Holding.typedIn_none _)
  · split
    · exact nodeElement_enters _ _ _ _
    · next hNode =>
        apply propertyElement_enters
        cases hNext : roleOfNext m.frames with
        | node => exact absurd hNext hNode
        | property => rfl
        | literalContent => exact absurd hNext hRole

theorem captureStartTag_shares
    (m : Machine)
    (tag : StartTag) :
    (m.captureStartTag tag).Shares m := by
  unfold captureStartTag
  split
  · next hFrames => exact setTop_shares hFrames rfl rfl
  · exact ⟨rfl, rfl⟩

theorem characters_shares
    (m : Machine)
    (content : String) :
    (m.characters content).Shares m := by
  unfold characters
  split
  · next hFrames => exact setTop_shares hFrames rfl rfl
  · next hFrames => exact setTop_shares hFrames rfl rfl
  · exact ⟨rfl, rfl⟩

/-
  An end either belongs to the content of a literal, or it
  closes the innermost frame.
-/
theorem endElement_cases
    (m : Machine)
    (name : Name) :
    (m.endElement name).1.Shares m ∧ m.literalDepth ≠ 0 ∨
      m.endElement name = m.pop name ∧
        m.literalDepth = 0 := by
  unfold endElement
  split
  · next link markup depth _ hFrames =>
      rw [literalDepth_cons hFrames]
      exact .inl
        ⟨setTop_shares hFrames rfl rfl,
          Nat.succ_ne_zero depth⟩
  · next hOther =>
      refine .inr ⟨rfl, ?_⟩
      rcases hFrames : m.frames with
        _ | ⟨⟨inScope, kind⟩, outer⟩
      · rw [literalDepth, hFrames]
      · rw [literalDepth_cons hFrames]
        cases kind with
        | literal link markup depth =>
            cases depth with
            | zero => rfl
            | succ depth =>
                exact absurd hFrames (hOther _ _ _ _ _)
        | _ => rfl

------------------------------------------------------------
-- Inherited Scopes
------------------------------------------------------------

/-
  The frames of a machine have the scopes of the elements
  that are open outside of literals, and hold what was made
  in these scopes.
-/
structure Inheriting
    (documentBase : String)
    (n : Nesting)
    (m : Machine) : Prop where
  framed : Framed n m
  base : m.documentBase = documentBase
  scopes :
    scopesOf m.frames =
      Scope.allAlong documentBase
        (n.openTags.drop m.literalDepth)
  settled :
    ∀ holding ∈ holdings m.frames, holding.Settled

theorem start_inheriting (options : Options) :
    Inheriting options.baseIri .start
      (Machine.start options) where
  framed := start_framed options
  base := rfl
  scopes := rfl
  settled := by
    intro holding hMember
    cases hMember

/- Nothing is counted where the next element is opened. -/
theorem literalDepth_of_role
    {m : Machine}
    (hRole : roleOfNext m.frames ≠ .literalContent) :
    m.literalDepth = 0 := by
  rcases hFrames : m.frames with _ | ⟨⟨inScope, kind⟩, outer⟩
  · rw [literalDepth, hFrames]
  · rw [literalDepth_cons hFrames]
    rw [hFrames] at hRole
    cases kind with
    | literal link markup depth => exact absurd rfl hRole
    | _ => rfl

namespace Inheriting

variable
  {documentBase : String}
  {n next : Nesting}
  {m after : Machine}

/- The innermost scope is that along all counted elements. -/
theorem currentScope
    (hInherits : Inheriting documentBase n m) :
    m.currentScope =
      Scope.along documentBase
        (n.openTags.drop m.literalDepth) := by
  have hScopes := hInherits.scopes
  unfold Machine.currentScope
  generalize n.openTags.drop m.literalDepth = path
    at hScopes ⊢
  cases hFrames : m.frames with
  | nil =>
      rw [hFrames] at hScopes
      cases path with
      | nil =>
          rw [hInherits.base]
          rfl
      | cons tag outer => cases hScopes
  | cons frame outer =>
      rw [hFrames] at hScopes
      cases path with
      | nil => cases hScopes
      | cons tag path => exact (List.cons.inj hScopes).1

/-
  Where the frames keep their scopes, the elements that are
  counted make up for those that are opened or closed.
-/
theorem shared
    (hInherits : Inheriting documentBase n m)
    (hFramed : Framed next after)
    (hShares : after.Shares m)
    (hTags :
      (∃ inner, next.openTags = inner ++ n.openTags) ∨
        ∃ inner, n.openTags = inner ++ next.openTags) :
    Inheriting documentBase next after := by
  have hBefore := hInherits.framed.counted
  have hAfter := hFramed.counted
  have hLength := congrArg List.length hShares.1
  rw [holdings, holdings, List.length_map, List.length_map]
    at hLength
  refine
    ⟨hFramed, hShares.2.trans hInherits.base, ?_,
      hShares.1 ▸ hInherits.settled⟩
  rw [scopesOf_holdings, hShares.1, ← scopesOf_holdings,
    hInherits.scopes]
  rcases hTags with ⟨inner, hTags⟩ | ⟨inner, hTags⟩
  · rw [hTags, List.length_append] at hAfter
    have hDepth :
        after.literalDepth = inner.length + m.literalDepth := by
      omega
    rw [hTags, hDepth, List.drop_length_add_append]
  · rw [hTags, List.length_append] at hBefore
    have hDepth :
        m.literalDepth =
          inner.length + after.literalDepth := by
      omega
    rw [hTags, hDepth, List.drop_length_add_append]

/- A frame more is that of the element that has begun. -/
theorem entered
    {tag : StartTag}
    {hasRoot : Bool}
    (hInherits : Inheriting documentBase n m)
    (hFramed : Framed ⟨tag :: n.openTags, hasRoot⟩ after)
    (hNone : m.literalDepth = 0)
    (hEnters :
      m.Enters
        (Scope.along documentBase (tag :: n.openTags))
        after) :
    Inheriting documentBase ⟨tag :: n.openTags, hasRoot⟩
      after := by
  rcases hEnters.scopes with ⟨hScopes, hBase⟩
  rcases hEnters with ⟨holding, hHoldings, _, hSettled, _⟩
  have hBefore := hInherits.framed.counted
  have hAfter := hFramed.counted
  have hLength := congrArg List.length hScopes
  have hDepth : after.literalDepth = 0 := by
    simp only [scopesOf, List.length_map, List.length_cons]
      at hLength hAfter
    omega
  have hInside := hInherits.scopes
  rw [hNone, List.drop_zero] at hInside
  refine ⟨hFramed, hBase.trans hInherits.base, ?_, ?_⟩
  · rw [hDepth, hScopes, hInside]
    rfl
  · rw [hHoldings]
    exact List.forall_mem_cons.mpr
      ⟨hSettled, hInherits.settled⟩

/- A frame less is that of the element that has ended. -/
theorem exited
    {tag : StartTag}
    {tags : List StartTag}
    {hasRoot : Bool}
    {frame : Frame}
    {outer : List Frame}
    (hInherits : Inheriting documentBase n m)
    (hTags : n.openTags = tag :: tags)
    (hFrames : m.frames = frame :: outer)
    (hNone : m.literalDepth = 0)
    (hFramed : Framed ⟨tags, hasRoot⟩ after)
    (hOuter : after.frames = outer)
    (hBase : after.documentBase = m.documentBase) :
    Inheriting documentBase ⟨tags, hasRoot⟩ after := by
  have hBefore := hInherits.framed.counted
  have hAfter := hFramed.counted
  have hDepth : after.literalDepth = 0 := by
    rw [hFrames, hTags] at hBefore
    rw [hOuter] at hAfter
    simp only [List.length_cons] at hBefore hAfter
    omega
  have hInside := hInherits.scopes
  have hSettled := hInherits.settled
  rw [hNone, List.drop_zero, hTags, hFrames] at hInside
  rw [hFrames] at hSettled
  refine ⟨hFramed, hBase.trans hInherits.base, ?_, ?_⟩
  · rw [hDepth, hOuter]
    exact (List.cons.inj hInside).2
  · rw [hOuter]
    exact (List.forall_mem_cons.mp hSettled).2

/- A start tag opens a frame with the scope that it enters. -/
theorem starts
    {tag : StartTag}
    (hInherits : Inheriting documentBase n m)
    (hOpen : m.rootClosed = false)
    (hRole : roleOfNext m.frames ≠ .literalContent) :
    ∃ notes,
      statementsOf notes = [] ∧
        m.startElement tag =
          Machine.after notes
            (m.openWithin tag
              (Scope.along documentBase
                (tag :: n.openTags))) := by
  have hScope := hInherits.currentScope
  rw [literalDepth_of_role hRole, List.drop_zero] at hScope
  rw [Scope.along_cons, ← hScope]
  exact startElement_within hOpen hRole

/- A start tag either opens a frame or is literal content. -/
theorem startElement
    {tag : StartTag}
    (hInherits : Inheriting documentBase n m)
    (hStep : n.step? (.startElement tag) = some next) :
    Inheriting documentBase next (m.startElement tag).1 := by
  have hFramed := hInherits.framed.startElement hStep
  rcases hInherits.framed.open_of_start hStep with
    ⟨hOpen, rfl⟩
  by_cases hRole : roleOfNext m.frames = .literalContent
  · have hCaptured :
        (m.startElement tag).1 = m.captureStartTag tag := by
      simp [Machine.startElement, hOpen, hRole,
        Machine.after]
    rw [hCaptured] at hFramed ⊢
    exact hInherits.shared hFramed
      (captureStartTag_shares m tag) (.inl ⟨[tag], rfl⟩)
  · rcases hInherits.starts hOpen hRole with
      ⟨notes, _, hWithin⟩
    rw [hWithin] at hFramed ⊢
    exact hInherits.entered hFramed
      (literalDepth_of_role hRole)
      (openWithin_enters hRole tag _)

/- The end of an element gives back the scopes around it. -/
theorem endElement
    {name : Name}
    (hInherits : Inheriting documentBase n m)
    (hStep : n.step? (.endElement name) = some next) :
    Inheriting documentBase next (m.endElement name).1 := by
  have hFramed := hInherits.framed.endElement hStep
  rcases Nesting.step?_endElement hStep with
    ⟨tag, outer, hTags, _, rfl⟩
  rcases endElement_cases m name with
    ⟨hShares, _⟩ | ⟨hPop, hNone⟩
  · exact hInherits.shared hFramed hShares
      (.inr ⟨[tag], hTags⟩)
  · rw [hPop] at hFramed ⊢
    have hSome := hInherits.framed.heeds hStep
    rcases List.exists_cons_of_ne_nil hSome with
      ⟨frame, rest, hFrames⟩
    exact hInherits.exited hTags hFrames hNone hFramed
      (by simp [Machine.pop, hFrames])
      (by simp [Machine.pop, hFrames])

/- Every event leaves the frames with the right scopes. -/
theorem step
    {event : Event}
    (hInherits : Inheriting documentBase n m)
    (hStep : n.step? event = some next) :
    Inheriting documentBase next (m.step event).1 := by
  cases event with
  | startElement tag => exact hInherits.startElement hStep
  | endElement name => exact hInherits.endElement hStep
  | characters content =>
      have hFramed := hInherits.framed.step hStep
      have hSame := (Nesting.step?_characters hStep).2
      exact hInherits.shared hFramed
        (characters_shares m content)
        (.inl ⟨[], by rw [hSame]; rfl⟩)

/- So do events in order. -/
theorem run
    {events : List Event}
    (hInherits : Inheriting documentBase n m)
    (hRun : n.run? events = some next) :
    Inheriting documentBase next (m.run events).1 := by
  induction events generalizing n m with
  | nil =>
      cases hRun
      exact hInherits
  | cons event events ih =>
      rcases Option.bind_eq_some_iff.mp hRun with
        ⟨later, hStep, hRest⟩
      exact ih (hInherits.step hStep) hRest

/- An element that ends is closed in its own scope. -/
theorem ends
    {frame : Frame}
    {outer : List Frame}
    (hInherits : Inheriting documentBase n m)
    (hFrames : m.frames = frame :: outer)
    (hDepth : m.literalDepth = 0)
    (name : Name) :
    (m.endElement name).2 =
      statementSignals
        (closeFrame (unscoped outer)
          ⟨Scope.along documentBase n.openTags,
            frame.kind⟩) := by
  have hScope := hInherits.currentScope
  rw [currentScope_cons hFrames, hDepth, List.drop_zero]
    at hScope
  rcases endElement_cases m name with
    ⟨_, hSome⟩ | ⟨hPop, _⟩
  · exact absurd hDepth hSome
  · rw [hPop, closeFrame_unscoped, ← hScope]
    simp [Machine.pop, hFrames]

end Inheriting

end Machine

end RdfXml
