import RdfXml.Proofs.Grammar.Supply

/-
  The objects of a property.

  The nodes in a content are taken one by one.  In a property
  each of them is an object; in a collection each of them is
  a member of one list, whose head is the only object.  Every
  form of property makes, for each of its objects in turn,
  the statement that links it and then what is stated of it.

  Main declarations:
    * `Child`
    * `Grammar.children`
    * `Grammar.listHead`
    * `Grammar.listBody`
    * `Grammar.nodes_collection`
    * `Grammar.children_cells`
    * `PropertyObject`
    * `Grammar.objects`
    * `Grammar.properties_objects`
-/

------------------------------------------------------------
-- Children
------------------------------------------------------------

namespace RdfXml

/- The number of elements in a content, not in each other. -/
def Content.elementCount : Content → Nat
| .nil => 0
| .text _ rest => rest.elementCount
| .element _ _ rest => rest.elementCount + 1

/-
  A node in a content: its subject, the supply when it is
  linked to what it stands in, and the statements that the
  node itself makes.
-/
structure Child where
  subject : String
  supply : BlankNodes
  own : List Statement
deriving DecidableEq, Repr

/- The list node that a member of a collection takes. -/
def Child.cell (child : Child) : String :=
  child.supply.next

namespace Grammar

/-
  The nodes in a content, with the supply after them.  The
  members of a list draw a list node each.
-/
def children
    (scope : Scope)
    (listed : Bool)
    (supply : BlankNodes) :
    Content → List Child × BlankNodes
| .nil => ([], supply)
| .text _ rest => children scope listed supply rest
| .element tag inner rest =>
    let attributes := ElementAttributes.ofList tag.attributes
    let inScope := scope.enter attributes
    let (subject, supply) :=
      subjectOf attributes inScope.base supply
    let (inside, later) :=
      properties inScope subject 0
        (if listed then supply.advance else supply) inner
    let (others, last) := children scope listed later rest
    (⟨subject, supply,
        Machine.typeStatements tag.name subject ++
          (attributes.properties.map
            (attributeStatement inScope subject) ++
              inside)⟩ :: others,
      last)

/- Every element in the content is a child. -/
theorem children_length
    (scope : Scope)
    (listed : Bool)
    (supply : BlankNodes)
    (content : Content) :
    (children scope listed supply content).1.length =
      content.elementCount := by
  induction content generalizing supply with
  | nil => rfl
  | text run rest ih => exact ih supply
  | element tag inner rest _ ih =>
      simp [children, Content.elementCount, ih]

/- In a property each child is linked and then described. -/
theorem nodes_property
    (scope : Scope)
    (link : Link)
    (subject : String)
    (tail? : Option String)
    (supply : BlankNodes)
    (content : Content) :
    nodes scope (.property link subject) tail? supply
        content =
      ((children scope false supply content).1.flatMap
          (fun child =>
            link.statements subject
                (.ofResource child.subject) ++ child.own),
        tail?, (children scope false supply content).2) := by
  induction content generalizing supply with
  | nil => rfl
  | text run rest ih => exact ih supply
  | element tag inner rest _ ih =>
      simp [nodes, children, attach, ih]

------------------------------------------------------------
-- Lists
------------------------------------------------------------

/- Where a list begins: at its first list node, or at nil. -/
def listHead : List Child → String
| [] => Rdf.nilIri
| child :: _ => child.cell

/-
  What is stated from the head of a list on: each list node
  has a member, which makes its own statements, and a rest.
-/
def listBody : List Child → List Statement
| [] => []
| child :: others =>
    ⟨child.cell, Rdf.firstIri, .ofResource child.subject⟩ ::
      (child.own ++
        ⟨child.cell, Rdf.restIri,
            .ofResource (listHead others)⟩ ::
          listBody others)

/-
  How a list node or nil is reached: from the list node
  before it, or by the link of the property.
-/
def listStep
    (link : Link)
    (subject : String)
    (tail? : Option String)
    (reached : String) : List Statement :=
  match tail? with
  | none => link.statements subject (.ofResource reached)
  | some tail => [⟨tail, Rdf.restIri, .ofResource reached⟩]

theorem collectionEnd_step
    (link : Link)
    (subject : String)
    (tail? : Option String) :
    collectionEnd link subject tail? =
      listStep link subject tail? Rdf.nilIri := by
  cases tail? with
  | none => rfl
  | some tail => rfl

/- A member takes the next list node. -/
theorem attach_collection
    (link : Link)
    (subject : String)
    (tail? : Option String)
    (supply : BlankNodes)
    (node : String) :
    attach (.collection link subject) tail? supply node =
      (listStep link subject tail? supply.next ++
          [⟨supply.next, Rdf.firstIri, .ofResource node⟩],
        some supply.next, supply.advance) := by
  cases tail? with
  | none => rfl
  | some tail => rfl

/- The list node that is open after some members. -/
def lastCell
    (tail? : Option String)
    (members : List Child) : Option String :=
  (members.getLast?.map Child.cell).or tail?

theorem lastCell_cons
    (tail? : Option String)
    (child : Child)
    (others : List Child) :
    lastCell tail? (child :: others) =
      lastCell (some child.cell) others := by
  unfold lastCell
  rw [List.getLast?_cons]
  cases others.getLast? with
  | none => rfl
  | some last => rfl

/-
  The nodes of a collection and its end make one list.  The
  list may have begun before, with the list node `tail?`.
-/
theorem nodes_listed
    (scope : Scope)
    (link : Link)
    (subject : String)
    (tail? : Option String)
    (supply : BlankNodes)
    (content : Content) :
    let members := (children scope true supply content).1
    let made :=
      nodes scope (.collection link subject) tail? supply
        content
    made.1 ++ collectionEnd link subject made.2.1 =
        listStep link subject tail? (listHead members) ++
          listBody members ∧
      made.2.1 = lastCell tail? members ∧
        made.2.2 = (children scope true supply content).2 := by
  induction content generalizing tail? supply with
  | nil =>
      refine ⟨?_, rfl, rfl⟩
      simp [nodes, children, listBody, listHead,
        collectionEnd_step]
  | text run rest ih => exact ih tail? supply
  | element tag inner rest _ ih =>
      simp only [nodes, attach_collection, children, if_true]
      generalize
        subjectOf (ElementAttributes.ofList tag.attributes)
          (scope.enter (ElementAttributes.ofList
            tag.attributes)).base supply = found
      rcases found with ⟨node, found⟩
      dsimp only
      generalize
        properties
          (scope.enter
            (ElementAttributes.ofList tag.attributes))
          node 0 found.advance inner = filled
      rcases filled with ⟨inside, later⟩
      have hRest := ih (some found.next) later
      dsimp only at hRest ⊢
      rcases hRest with ⟨hMade, hTail, hSupply⟩
      refine ⟨?_, ?_, hSupply⟩
      · simp only [List.append_assoc, hMade]
        simp [listBody, listHead, Child.cell, listStep]
      · rw [hTail, lastCell_cons]
        rfl

/- A collection is the list of its members. -/
theorem nodes_collection
    (scope : Scope)
    (link : Link)
    (subject : String)
    (supply : BlankNodes)
    (content : Content) :
    let members := (children scope true supply content).1
    let made :=
      nodes scope (.collection link subject) none supply
        content
    made.1 ++ collectionEnd link subject made.2.1 =
      link.statements subject
          (.ofResource (listHead members)) ++
        listBody members :=
  (nodes_listed scope link subject none supply content).1

------------------------------------------------------------
-- List Nodes
------------------------------------------------------------

/-
  The list nodes are drawn from the supply one after the
  other, each behind all that the members before it draw.
-/
theorem children_supplies
    (scope : Scope)
    (supply : BlankNodes)
    (content : Content) :
    (∀ child ∈ (children scope true supply content).1,
        supply.Grows child.supply) ∧
      (children scope true supply content).1.Pairwise
        (fun child later =>
          child.supply.advance.Grows later.supply) := by
  induction content generalizing supply with
  | nil => exact ⟨by simp [children], List.Pairwise.nil⟩
  | text run rest ih => exact ih supply
  | element tag inner rest _ ih =>
      let attributes := ElementAttributes.ofList tag.attributes
      let inScope := scope.enter attributes
      let found := subjectOf attributes inScope.base supply
      let filled :=
        properties inScope found.1 0 found.2.advance inner
      have hFound : supply.Grows found.2 :=
        subjectOf_grows _ _ _
      have hFilled : found.2.advance.Grows filled.2 :=
        properties_grows _ _ _ _ _
      have hAdvance := BlankNodes.grows_advance found.2
      rcases ih filled.2 with ⟨hLater, hPairs⟩
      simp only [children, if_true]
      constructor
      · intro child hMember
        rcases List.mem_cons.mp hMember with rfl | hOther
        · exact hFound
        · exact
            ((hFound.trans hAdvance).trans hFilled).trans
              (hLater child hOther)
      · apply List.pairwise_cons.mpr
        refine ⟨?_, hPairs⟩
        intro child hMember
        exact hFilled.trans (hLater child hMember)

/-
  The list nodes of a collection are new: they differ from
  each other, and none has been issued before it is drawn.
-/
theorem children_cells
    (scope : Scope)
    (supply : BlankNodes)
    (content : Content) :
    let members := (children scope true supply content).1
    (members.map Child.cell).Nodup ∧
      ∀ child ∈ members,
        supply.Grows child.supply ∧
          ¬ child.supply.HasIssued child.cell := by
  rcases children_supplies scope supply content with
    ⟨hGrows, hPairs⟩
  constructor
  · apply List.pairwise_map.mpr
    apply hPairs.imp
    intro child later hLater hSame
    have hIssued :=
      (BlankNodes.hasIssued_advance child.supply).grows
        hLater
    rw [show child.supply.next = later.supply.next
      from hSame] at hIssued
    exact later.supply.next_fresh hIssued
  · intro child hMember
    exact ⟨hGrows child hMember, child.supply.next_fresh⟩

------------------------------------------------------------
-- Objects
------------------------------------------------------------

end Grammar

/- An object of a property, and what is stated behind it. -/
structure PropertyObject where
  object : Object
  own : List Statement
deriving DecidableEq, Repr

/- A node in a property is an object of it. -/
def Child.asObject (child : Child) : PropertyObject :=
  ⟨.ofResource child.subject, child.own⟩

namespace Grammar

/-
  The objects of a property in the order in which they are
  linked.  A name for the description of the property's
  statement plays no part.
-/
def objects
    (attributes : ElementAttributes)
    (scope : Scope)
    (supply : BlankNodes)
    (inner : Content) : List PropertyObject :=
  match PropertyForm.ofAttributes attributes with
  | .resource =>
      [⟨.ofResource supply.next,
        (properties scope supply.next 0 supply.advance
          inner).1⟩]
  | .collection =>
      let members := (children scope true supply inner).1
      [⟨.ofResource (listHead members), listBody members⟩]
  | .literal =>
      [⟨.literal (Machine.trimText inner.markup)
          Rdf.xmlLiteralIri "", []⟩]
  | .object =>
      let (object, supply) :=
        objectOf attributes scope.base supply
      ⟨.ofResource object,
          attributes.properties.map
            (attributeStatement scope object)⟩ ::
        (children scope false supply inner).1.map
          Child.asObject
  | .plain =>
      if inner.hasElement then
        (children scope false supply inner).1.map
          Child.asObject
      else
        [⟨Machine.contentObject scope
            (attributes.datatype?.map
              (Iri.resolve scope.base))
            inner.directText, []⟩]

/-
  The number of objects of a property.  Each form has one, but
  for the nodes in a property without a parse type: they are
  objects as well.
-/
def objectCount
    (attributes : ElementAttributes)
    (inner : Content) : Nat :=
  match PropertyForm.ofAttributes attributes with
  | .resource => 1
  | .collection => 1
  | .literal => 1
  | .object => 1 + inner.elementCount
  | .plain => max 1 inner.elementCount

theorem hasElement_iff (content : Content) :
    content.hasElement = true ↔ 0 < content.elementCount := by
  induction content with
  | nil => simp [Content.hasElement, Content.elementCount]
  | text run rest ih => exact ih
  | element tag inner rest _ _ =>
      simp [Content.hasElement, Content.elementCount]

theorem objects_length
    (attributes : ElementAttributes)
    (scope : Scope)
    (supply : BlankNodes)
    (inner : Content) :
    (objects attributes scope supply inner).length =
      objectCount attributes inner := by
  have hElement := hasElement_iff inner
  unfold objects objectCount
  cases PropertyForm.ofAttributes attributes with
  | resource => rfl
  | collection => rfl
  | literal => rfl
  | object =>
      simp [children_length]
      omega
  | plain =>
      dsimp only
      split
      · next hSome =>
          have hCount := hElement.mp hSome
          rw [List.length_map, children_length]
          omega
      · next hNone =>
          have hCount := mt hElement.mpr hNone
          simp only [List.length_singleton]
          omega

theorem flatMap_asObject
    (link : Link)
    (subject : String)
    (list : List Child) :
    (list.map Child.asObject).flatMap
        (fun o => link.statements subject o.object ++ o.own) =
      list.flatMap
        (fun child =>
          link.statements subject
              (.ofResource child.subject) ++ child.own) := by
  rw [List.flatMap_map]
  rfl

/-
  A property links its objects in their order, each followed
  by what is stated of it.
-/
theorem properties_objects
    (scope : Scope)
    (subject : String)
    (members : Nat)
    (supply : BlankNodes)
    (tag : StartTag)
    (inner : Content) :
    let attributes := ElementAttributes.ofList tag.attributes
    let inScope := scope.enter attributes
    (properties scope subject members supply
        (.element tag inner .nil)).1 =
      (objects attributes inScope supply inner).flatMap
        (fun o =>
          (linkOf tag scope members).statements subject
              o.object ++ o.own) := by
  dsimp only
  unfold objects linkOf
  cases hForm :
      PropertyForm.ofAttributes
        (ElementAttributes.ofList tag.attributes) with
  | resource => simp [properties, hForm]
  | collection =>
      have hList :=
        nodes_collection
          (scope.enter
            (ElementAttributes.ofList tag.attributes))
          ⟨predicateOf tag.name
              (countMember tag.name members),
            (ElementAttributes.ofList
                tag.attributes).id?.map
              (Machine.idIri (scope.enter
                (ElementAttributes.ofList
                  tag.attributes)).base)⟩
          subject supply inner
      simpa [properties, hForm] using hList
  | literal => simp [properties, hForm]
  | object =>
      simp [properties, hForm, nodes_property,
        flatMap_asObject]
  | plain =>
      have hElement := hasElement_iff inner
      cases hSome : inner.hasElement with
      | true =>
          simp [properties, hForm, nodes_property,
            flatMap_asObject, hSome]
      | false =>
          have hNone : inner.elementCount = 0 := by
            rw [hSome] at hElement
            simpa using hElement
          have hChildren :
              (children
                (scope.enter
                  (ElementAttributes.ofList
                    tag.attributes)) false supply
                inner).1 = [] := by
            rw [← List.length_eq_zero_iff, children_length,
              hNone]
          simp [properties, hForm, nodes_property, hSome,
            hChildren]

end Grammar

end RdfXml
