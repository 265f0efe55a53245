import RdfXml.Proofs.Grammar.References
import RdfXml.Proofs.Parser.Collections
import RdfXml.Proofs.Parser.Inheritance

/-
  The members of containers.

  A node numbers the members among its properties from one
  on.  What its properties contain, the containers in them
  included, does not count, and neither do its properties
  with other names.

  Main declarations:
    * `Content.memberCount`
    * `Machine.run_members`
    * `Machine.startElement_unnumbered`
    * `Machine.startElement_numbered`
    * `Parser.parseChunks_members`
-/

------------------------------------------------------------
-- Members
------------------------------------------------------------

namespace RdfXml

/- The names of the elements in a content, not in each other. -/
def Content.names : Content → List Name
| .nil => []
| .text _ rest => rest.names
| .element tag _ rest => tag.name :: rest.names

/- An element with this name is a member of a container. -/
def Name.isMember (name : Name) : Bool :=
  name.denotes Rdf.space "li"

/- The number of members in a content, not in each other. -/
def Content.memberCount (content : Content) : Nat :=
  content.names.countP Name.isMember

/-
  The predicate of a property element behind these ones of
  the same node.
-/
def Content.nextPredicate
    (content : Content)
    (name : Name) : String :=
  if name.isMember then
    Rdf.space ++ "_" ++ toString (content.memberCount + 1)
  else
    name.expanded

/- The link of a property element behind these ones. -/
def Content.nextLink
    (content : Content)
    (tag : StartTag)
    (scope : Scope) : Link where
  predicate := content.nextPredicate tag.name
  reification? :=
    (ElementAttributes.ofList tag.attributes).id?.map
      (Machine.idIri scope.base)

theorem Content.memberCount_element
    (tag : StartTag)
    (inner rest : Content)
    (members : Nat) :
    Grammar.countMember tag.name members +
        rest.memberCount =
      members +
        (Content.element tag inner rest).memberCount := by
  have hNames :
      (Content.element tag inner rest).names =
        tag.name :: rest.names :=
    rfl
  unfold memberCount Grammar.countMember
  rw [hNames, List.countP_cons, Name.isMember]
  split
  · omega
  · omega

theorem Content.names_append (first second : Content) :
    (first.append second).names =
      first.names ++ second.names := by
  induction first with
  | nil => rfl
  | text run rest ih => exact ih
  | element tag inner rest _ ih =>
      simp [append, names, ih]

/- The node counts the element behind a content. -/
theorem Content.memberCount_append
    (content inner : Content)
    (tag : StartTag) :
    (content.append (.element tag inner .nil)).memberCount =
      Grammar.countMember tag.name content.memberCount := by
  have hLast :=
    memberCount_element tag inner .nil content.memberCount
  have hNone : Content.nil.memberCount = 0 := rfl
  rw [hNone, Nat.add_zero] at hLast
  rw [hLast]
  unfold memberCount
  rw [names_append, List.countP_append]

theorem Content.linkOf_memberCount
    (content : Content)
    (tag : StartTag)
    (scope : Scope) :
    Grammar.linkOf tag scope content.memberCount =
      content.nextLink tag
        (scope.enter
          (ElementAttributes.ofList tag.attributes)) := by
  unfold Grammar.linkOf nextLink nextPredicate
    Grammar.predicateOf Grammar.countMember Name.isMember
  split
  · rfl
  · rfl

------------------------------------------------------------
-- Nodes That Count
------------------------------------------------------------

namespace Machine

variable
  {m : Machine}
  {scope : Scope}
  {subject : String}
  {members : Nat}
  {outer : List Frame}

/- The property elements in a content are counted by the node. -/
theorem run_members
    (hOpen : m.rootClosed = false)
    (hFrames :
      m.frames = ⟨scope, .node subject members⟩ :: outer)
    (content : Content) :
    m.GrownTo scope
      (.node subject (members + content.memberCount)) outer
      (m.run content.events).1 := by
  induction content generalizing m members with
  | nil =>
      refine ⟨m.blankNodes, .refl _, ?_⟩
      rcases m with ⟨base, supply, frames, closed⟩
      dsimp only at hFrames
      subst hFrames
      rfl
  | text run rest ih =>
      have hSame : m.characters run = m := by
        unfold characters
        rw [hFrames]
      have hRun :
          (m.run (Content.text run rest).events).1 =
            ((m.characters run).run rest.events).1 :=
        rfl
      rw [hRun, hSame]
      exact ih hOpen hFrames
  | element tag inner rest _ ih =>
      have hEvents :
          (Content.element tag inner rest).events =
            (Element.mk tag inner).events ++ rest.events := by
        simp [Content.events, Element.events]
      rcases run_member hOpen ⟨tag, inner⟩ hFrames with
        ⟨supply, hGrows, hAfter⟩
      rw [hEvents, run_append, hAfter]
      rcases @ih
          (m.placed supply
            (⟨scope,
              .node subject
                (Grammar.countMember tag.name members)⟩ ::
              outer))
          _ hOpen rfl with
        ⟨later, hMore, hLast⟩
      rw [Content.memberCount_element tag inner] at hLast
      exact ⟨later, hGrows.trans hMore, hLast⟩

/- A node that has just been opened has counted nothing. -/
theorem startElement_unnumbered
    {n next : Nesting}
    {tag : StartTag}
    (hFramed : Framed n m)
    (hStep : n.step? (.startElement tag) = some next)
    (hNode :
      (m.startElement tag).1.frames =
        ⟨scope, .node subject members⟩ :: outer) :
    members = 0 := by
  have hOpen := (hFramed.open_of_start hStep).1
  have hHead := congrArg List.head? hNode
  cases hRole : roleOfNext m.frames with
  | literalContent =>
      rcases ((hFramed.heeds hStep).2.2 hRole) with
        ⟨inScope, link, markup, depth, rest, hFrames⟩
      have hCaptured :
          (m.startElement tag).1 = m.captureStartTag tag := by
        simp [startElement, hOpen, hRole, after]
      rw [hCaptured] at hHead
      simp [captureStartTag, hFrames, setTop] at hHead
  | node =>
      have hOutside :
          roleOfNext m.frames ≠ .literalContent := by
        simp [hRole]
      have hStart :
          ∃ notes,
            statementsOf notes = [] ∧
              m.startElement tag =
                after notes (m.openWithin tag _) :=
        startElement_within hOpen hOutside
      rcases hStart with ⟨notes, _, hWithin⟩
      rw [hWithin] at hHead
      unfold openWithin at hHead
      dsimp only [after] at hHead
      split at hHead
      · cases hHead
      · rw [(nodeElement_opening _ _ _).1] at hHead
        cases hHead
        rfl
  | property =>
      rcases ((hFramed.heeds hStep).2.1 hRole) with
        ⟨parent, inScope, count, rest, hFrames⟩
      rw [(startElement_opening hOpen hFrames rfl rfl
        rfl).1] at hHead
      unfold Grammar.opening at hHead
      split at hHead
      · cases hHead
        rfl
      all_goals cases hHead

/-
  A property element is processed with the number that its
  node has come to.
-/
theorem startElement_numbered
    (hOpen : m.rootClosed = false)
    (hFrames :
      m.frames = ⟨scope, .node subject members⟩ :: outer)
    (tag : StartTag) :
    let attributes := ElementAttributes.ofList tag.attributes
    let inScope := scope.enter attributes
    let opened :=
      Grammar.opening attributes inScope subject
        (Grammar.linkOf tag scope members) m.blankNodes
    (m.startElement tag).1.frames =
        ⟨inScope, opened.1⟩ ::
          ⟨scope, .node subject
            (Grammar.countMember tag.name members)⟩ ::
          outer ∧
      statementsOf (m.startElement tag).2 = opened.2 := by
  intro attributes inScope opened
  rcases openProperty_opening
      (m.placed m.blankNodes
        (⟨scope, .node subject
          (Grammar.countMember tag.name members)⟩ :: outer))
      attributes inScope subject
      (Grammar.linkOf tag scope members) with
    ⟨supply, hMakes⟩
  have hStart :=
    startElement_property hOpen hFrames rfl hMakes
  exact ⟨by rw [hStart.1]; rfl, hStart.2⟩

end Machine

------------------------------------------------------------
-- Containers In Documents
------------------------------------------------------------

namespace Parser

variable
  {options : Options}
  {chunks : List (List UInt8 × Bool)}
  {before later : List Event}
  {tag child : StartTag}
  {scope : Scope}
  {subject : String}
  {count : Nat}
  {outer : List Frame}

/- A node that a document opens has not counted yet. -/
theorem opened_before
    (hEvents :
      (Tokenizer.start.feedAll chunks).events =
        before ++ .startElement tag :: later)
    (hNode :
      ((Machine.start options).run
          (before ++ [.startElement tag])).1.frames =
        ⟨scope, .node subject count⟩ :: outer) :
    ((Machine.start options).run
        (before ++ [.startElement tag])).1.rootClosed =
        false ∧
      count = 0 := by
  rcases inheriting_before hEvents options with
    ⟨n, last, _, hLater, hInherits⟩
  rcases Option.bind_eq_some_iff.mp hLater with
    ⟨next, hStep, _⟩
  have hStarted :
      ((Machine.start options).run
          (before ++ [.startElement tag])).1 =
        (((Machine.start options).run before).1.startElement
          tag).1 := by
    rw [Machine.run_append]
    rfl
  have hFramed := hInherits.framed.startElement hStep
  rw [hStarted] at hNode ⊢
  exact
    ⟨(hFramed.openTags_of_frames hNode).2.2,
      Machine.startElement_unnumbered hInherits.framed hStep
        hNode⟩

/-
  Wherever a document opens a node, the node has counted the
  members among its properties so far when the next property
  starts.  The property is processed with its number if it is
  a member, and with its own name otherwise: in the frame that
  is opened for it, in what it states at once, and in what it
  has stated when it ends.
-/
theorem parseChunks_members
    {content : Content}
    (hEvents :
      (Tokenizer.start.feedAll chunks).events =
        before ++ .startElement tag ::
          (content.events ++ .startElement child :: later))
    (hNode :
      ((Machine.start options).run
          (before ++ [.startElement tag])).1.frames =
        ⟨scope, .node subject count⟩ :: outer) :
    let made :=
      (Machine.start options).run
        (before ++ .startElement tag :: content.events)
    let attributes := ElementAttributes.ofList child.attributes
    let inScope := scope.enter attributes
    let link := content.nextLink child inScope
    let supply := made.1.blankNodes
    let opened :=
      Grammar.opening attributes inScope subject link supply
    let counted :=
      content.append (.element child .nil .nil)
    made.1.frames =
        ⟨scope, .node subject content.memberCount⟩ :: outer ∧
      (made.1.step (.startElement child)).1.frames =
        ⟨inScope, opened.1⟩ ::
          ⟨scope, .node subject counted.memberCount⟩ ::
          outer ∧
      statementsOf (made.1.step (.startElement child)).2 =
        opened.2 ∧
      ∀ (inner : Content) (rest : List Event),
        later =
            inner.events ++ .endElement child.name :: rest →
          ∃ others,
            statementsOf
                ((Parser.start options).1.parseChunks
                  chunks).2 =
              statementsOf made.2 ++
                ((Grammar.objects attributes inScope supply
                    inner).flatMap
                    (fun o =>
                      link.statements subject o.object ++
                        o.own) ++
                  others) := by
  intro made attributes inScope link supply opened counted
  rcases opened_before hEvents hNode with ⟨hOpen, rfl⟩
  have hRun :
      made.1 =
        (((Machine.start options).run
          (before ++ [.startElement tag])).1.run
            content.events).1 := by
    dsimp only [made]
    rw [Machine.run_append, Machine.run_append]
    rfl
  rcases Machine.run_members hOpen hNode content with
    ⟨grown, _, hGrown⟩
  rw [← hRun, Nat.zero_add] at hGrown
  have hMade :
      made.1.frames =
        ⟨scope, .node subject content.memberCount⟩ ::
          outer := by
    rw [hGrown]
    rfl
  have hMadeOpen : made.1.rootClosed = false := by
    rw [hGrown]
    exact hOpen
  have hLink :
      Grammar.linkOf child scope content.memberCount =
        link :=
    content.linkOf_memberCount child scope
  have hChild :=
    Machine.startElement_numbered hMadeOpen hMade child
  dsimp only at hChild
  rw [hLink, ← content.memberCount_append .nil child]
    at hChild
  refine ⟨hMade, hChild.1, hChild.2, ?_⟩
  rintro inner rest rfl
  have hParts :
      (Tokenizer.start.feedAll chunks).events =
        (before ++ .startElement tag :: content.events) ++
          .startElement child ::
            (inner.events ++
              .endElement child.name :: rest) := by
    rw [hEvents]
    simp
  rcases parseChunks_property hParts hMade with
    ⟨others, hOthers⟩
  rw [hLink] at hOthers
  exact ⟨others, hOthers⟩

/-
  The third member of a bag, behind a bag in a member and a
  property that looks like a member.  Its statement has a
  description.
-/
theorem parseChunks_members_third :
    let rdf (localName : String)
        (attributes : List Attribute) : StartTag :=
      ⟨⟨⟨some "r", localName⟩, some Rdf.space⟩, [],
        attributes⟩
    let named (localName value : String) : Attribute :=
      ⟨⟨⟨some "r", localName⟩, some Rdf.space⟩, value⟩
    let root : StartTag :=
      { rdf "Bag" [named "about" "u:b"] with
        declarations := [⟨some "r", Rdf.space⟩] }
    let content : Content :=
      .element (rdf "li" []) (.text "1" .nil)
        (.element (rdf "_7" []) .nil
          (.element (rdf "li" [])
            (.element (rdf "Bag" [])
              (.element (rdf "li" []) .nil .nil) .nil)
            .nil))
    let child :=
      rdf "li" [named "parseType" "Resource", named "ID" "x"]
    let later : List Event :=
      [.endElement child.name, .endElement root.name]
    let chunks :=
      [(bytes
          ("<r:Bag xmlns:r='" ++ Rdf.space ++
            "' r:about='u:b'><r:li>1</r:li><r:_7/><r:l"),
          false),
        (bytes
          ("i><r:Bag><r:li/></r:Bag></r:li>" ++
            "<r:li r:parseType='Resource' r:ID='x'/>" ++
            "</r:Bag>"), true)]
    let made :=
      (Machine.start {}).run
        ([] ++ .startElement root :: content.events)
    let link : Link := ⟨Rdf.space ++ "_3", some "#x"⟩
    (Tokenizer.start.feedAll chunks).events =
        [] ++ .startElement root ::
          (content.events ++ .startElement child :: later) ∧
      ((Machine.start {}).run
          ([] ++ [.startElement root])).1.frames =
        [⟨⟨"", ""⟩, .node "u:b" 0⟩] ∧
      made.1.frames = [⟨⟨"", ""⟩, .node "u:b" 2⟩] ∧
      (made.1.step (.startElement child)).1.frames =
        [⟨⟨"", ""⟩, .node "_:b2" 0⟩,
          ⟨⟨"", ""⟩, .node "u:b" 3⟩] ∧
      statementsOf (made.1.step (.startElement child)).2 =
        link.statements "u:b" (.blankNode "_:b2") := by
  intro rdf named root content child later chunks
  dsimp only
  have hEvents :
      (Tokenizer.start.feedAll chunks).events =
        [] ++ .startElement root ::
          (content.events ++
            .startElement child :: later) := by
    decide +kernel
  have hNode :
      ((Machine.start {}).run
          ([] ++ [.startElement root])).1.frames =
        [⟨⟨"", ""⟩, .node "u:b" 0⟩] := by
    decide +kernel
  have hCount :
      content.memberCount = 2 ∧
        (content.append
          (.element child .nil .nil)).memberCount = 3 := by
    decide +kernel
  have hLink :
      content.nextLink child ⟨"", ""⟩ =
        ⟨Rdf.space ++ "_3", some "#x"⟩ := by
    decide +kernel
  have hOpened :
      Grammar.opening
          (ElementAttributes.ofList child.attributes)
          ⟨"", ""⟩ "u:b"
          ⟨Rdf.space ++ "_3", some "#x"⟩ ⟨"_:b", 1⟩ =
        (.node "_:b2" 0,
          Link.statements ⟨Rdf.space ++ "_3", some "#x"⟩
            "u:b" (.blankNode "_:b2")) := by
    decide +kernel
  have hSupply :
      ((Machine.start {}).run
          ([] ++ .startElement root ::
            content.events)).1.blankNodes =
        ⟨"_:b", 1⟩ := by
    decide +kernel
  have hScope :
      Scope.enter ⟨"", ""⟩
          (ElementAttributes.ofList child.attributes) =
        ⟨"", ""⟩ := by
    decide +kernel
  have hMembers := parseChunks_members hEvents hNode
  dsimp only at hMembers
  rw [hScope, hLink, hCount.1, hCount.2, hSupply, hOpened]
    at hMembers
  exact
    ⟨hEvents, hNode, hMembers.1, hMembers.2.1,
      hMembers.2.2.1⟩

end Parser

end RdfXml
