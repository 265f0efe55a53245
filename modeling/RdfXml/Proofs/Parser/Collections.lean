import RdfXml.Proofs.Grammar.Frames
import RdfXml.Proofs.Grammar.Objects
import RdfXml.Proofs.Parser.XmlLiteral

/-
  Properties of documents, and collections among them.

  When a property element ends, it has linked its objects in
  their order.  The object of a collection is a list with a
  list node for each node element in it, whatever these
  elements contain.

  Main declarations:
    * `Machine.run_property`
    * `Machine.AtProperty.ends_collection`
    * `Parser.parseChunks_property`
    * `Parser.parseChunks_collection`
-/

------------------------------------------------------------
-- Runs Of Properties
------------------------------------------------------------

namespace RdfXml

namespace Machine

section Properties

variable
  {m : Machine}
  {scope : Scope}
  {subject : String}
  {members : Nat}
  {outer : List Frame}
  (hOpen : m.rootClosed = false)
  (hFrames :
    m.frames = ⟨scope, .node subject members⟩ :: outer)

include hOpen hFrames

/- In a node, a property element links its objects. -/
theorem run_property
    (tag : StartTag)
    (content : Content) :
    statementsOf
        (m.run (Content.element tag content .nil).events).2 =
      (Grammar.objects
        (ElementAttributes.ofList tag.attributes)
        (scope.enter
          (ElementAttributes.ofList tag.attributes))
        m.blankNodes content).flatMap
        (fun o =>
          (Grammar.linkOf tag scope members).statements
              subject o.object ++ o.own) := by
  rcases (runs_content (.element tag content .nil)).2 m scope
    subject members outer hOpen hFrames with
    ⟨_, _, hMade⟩
  rw [hMade]
  exact Grammar.properties_objects scope subject members
    m.blankNodes tag content

end Properties

/-
  The end tag of a collection ends its list: behind the last
  list node, or at once.
-/
theorem AtProperty.ends_collection
    {m : Machine}
    {tag : StartTag}
    {inScope : Scope}
    {subject : String}
    {link : Link}
    {node : Frame}
    {outer : List Frame}
    (h : m.AtProperty tag inScope subject link node outer)
    (hForm :
      PropertyForm.ofAttributes
        (ElementAttributes.ofList tag.attributes) =
          .collection)
    (content : Content) :
    statementsOf
        ((m.run
          (.startElement tag :: content.events)).1.step
            (.endElement tag.name)).2 =
      Grammar.collectionEnd link subject
        ((Grammar.children inScope true m.blankNodes
          content).1.getLast?.map Child.cell) := by
  have hFilled :=
    (runs_content content).1
      (m.placed m.blankNodes
        (⟨inScope, .collection link none⟩ :: node :: outer))
      inScope (.collection link subject) none none "" false
      (node :: outer) h.rootOpen rfl h.enclosing
  have hListed :=
    (Grammar.nodes_listed inScope link subject none
      m.blankNodes content).2
  dsimp only [placed] at hFilled hListed
  rw [hListed.1, hListed.2] at hFilled
  unfold Grammar.lastCell at hFilled
  rw [Option.or_none] at hFilled
  generalize
    (Grammar.children inScope true m.blankNodes
      content).1.getLast?.map Child.cell = tail?
    at hFilled ⊢
  have hRun :
      m.Runs (.startElement tag :: content.events) _ _ :=
    runs_cons (h.starts (openProperty_collection hForm))
      hFilled
  have hEnd :=
    endElement_makes m
      (Grammar.children inScope true m.blankNodes content).2
      node outer h.rootOpen
      (fun _ _ _ => by simp)
      (h.closes_collection tail?) tag.name
  rw [hRun.1]
  exact hEnd.2

end Machine

------------------------------------------------------------
-- Properties Of Documents
------------------------------------------------------------

namespace Parser

variable
  {options : Options}
  {chunks : List (List UInt8 × Bool)}
  {before later : List Event}
  {content : Content}
  {tag : StartTag}
  {scope : Scope}
  {subject : String}
  {count : Nat}
  {outer : List Frame}

/- At every delivery the frames are those of the elements. -/
theorem framed_before
    (hEvents :
      (Tokenizer.start.feedAll chunks).events =
        before ++ later)
    (options : Options) :
    ∃ n,
      Machine.Framed n
        ((Machine.start options).run before).1 := by
  rcases Tokenizer.feedAll_admits chunks with
    ⟨last, hAdmits⟩
  rw [hEvents, Nesting.admits_append] at hAdmits
  rcases hAdmits with ⟨n, hBefore, _⟩
  exact
    ⟨n, (Machine.start_framed options).run hBefore.run?⟩

/-
  A property element that has ended links its objects in
  their order, each followed by what is stated of it.
-/
theorem parseChunks_property
    (hEvents :
      (Tokenizer.start.feedAll chunks).events =
        before ++ .startElement tag ::
          (content.events ++
            .endElement tag.name :: later))
    (hNode :
      ((Machine.start options).run before).1.frames =
        ⟨scope, .node subject count⟩ :: outer) :
    ∃ others,
      statementsOf
          ((Parser.start options).1.parseChunks chunks).2 =
        statementsOf
            ((Machine.start options).run before).2 ++
          ((Grammar.objects
              (ElementAttributes.ofList tag.attributes)
              (scope.enter
                (ElementAttributes.ofList tag.attributes))
              ((Machine.start options).run
                before).1.blankNodes content).flatMap
              (fun o =>
                (Grammar.linkOf tag scope count).statements
                    subject o.object ++ o.own) ++
            others) := by
  rcases framed_before hEvents options with ⟨n, hFramed⟩
  have hOpen := (hFramed.openTags_of_frames hNode).2.2
  have hMade :=
    Machine.run_property hOpen hNode tag content
  have hParts :
      before ++ .startElement tag ::
          (content.events ++ .endElement tag.name :: later) =
        before ++
          ((Content.element tag content .nil).events ++
            later) := by
    simp [Content.events]
  rw [parseChunks_statements, hEvents, hParts,
    Machine.run_append_signals, statementsOf_append,
    Machine.run_append_signals, statementsOf_append, hMade]
  exact ⟨_, rfl⟩

/-
  A collection that has ended is a linked list.  Its property
  states the link to the head of the list and nothing else
  but the list: each member's list node has the member as its
  first and the next list node, or nil, as its rest.  Between
  them stand the statements that the members make.  The list
  nodes are new, and the end tag ends the list.
-/
theorem parseChunks_collection
    (hEvents :
      (Tokenizer.start.feedAll chunks).events =
        before ++ .startElement tag ::
          (content.events ++
            .endElement tag.name :: later))
    (hNode :
      ((Machine.start options).run before).1.frames =
        ⟨scope, .node subject count⟩ :: outer)
    (hCollection :
      (ElementAttributes.ofList
        tag.attributes).parseType? = some "Collection") :
    let m := ((Machine.start options).run before).1
    let link := Grammar.linkOf tag scope count
    let members :=
      (Grammar.children
        (scope.enter
          (ElementAttributes.ofList tag.attributes))
        true m.blankNodes content).1
    members.length = content.elementCount ∧
      (∃ others,
        statementsOf
            ((Parser.start options).1.parseChunks
              chunks).2 =
          statementsOf
              ((Machine.start options).run before).2 ++
            (link.statements subject
                (.ofResource (Grammar.listHead members)) ++
              (Grammar.listBody members ++ others))) ∧
      statementsOf
          ((m.run
            (.startElement tag :: content.events)).1.step
              (.endElement tag.name)).2 =
        Grammar.collectionEnd link subject
          (members.getLast?.map Child.cell) ∧
      (members.map Child.cell).Nodup ∧
      ∀ child ∈ members,
        m.blankNodes.Grows child.supply ∧
          ¬ child.supply.HasIssued child.cell := by
  intro m link members
  have hForm :
      PropertyForm.ofAttributes
          (ElementAttributes.ofList tag.attributes) =
        .collection := by
    unfold PropertyForm.ofAttributes
    rw [hCollection]
    rfl
  rcases framed_before hEvents options with ⟨n, hFramed⟩
  have hOpen := (hFramed.openTags_of_frames hNode).2.2
  have hAt := Machine.atProperty_node hOpen hNode tag
  rcases parseChunks_property hEvents hNode with
    ⟨others, hMade⟩
  unfold Grammar.objects at hMade
  rw [hForm] at hMade
  refine ⟨Grammar.children_length _ _ _ _, ⟨others, ?_⟩,
    hAt.ends_collection hForm content,
    Grammar.children_cells _ _ _⟩
  simpa using hMade

/-
  A list with a reified link whose second member has a list of
  its own.  The supply issues the list nodes between the
  subjects of the members.
-/
theorem parseChunks_collection_nested :
    let root : StartTag :=
      ⟨⟨⟨none, "a"⟩, some "u:"⟩,
        [⟨none, "u:"⟩, ⟨some "r", Rdf.space⟩], []⟩
    let collection : Attribute :=
      ⟨⟨⟨some "r", "parseType"⟩, some Rdf.space⟩,
        "Collection"⟩
    let tag : StartTag :=
      ⟨⟨⟨none, "p"⟩, some "u:"⟩, [],
        [⟨⟨⟨some "r", "ID"⟩, some Rdf.space⟩, "x"⟩,
          collection]⟩
    let inner : StartTag :=
      ⟨⟨⟨none, "q"⟩, some "u:"⟩, [], [collection]⟩
    let node : StartTag := ⟨⟨⟨none, "b"⟩, some "u:"⟩, [], []⟩
    let content : Content :=
      .element node .nil
        (.text " "
          (.element node
            (.element inner (.element node .nil .nil) .nil)
            .nil))
    let chunks :=
      [(bytes
          ("<a xmlns='u:' xmlns:r='" ++ Rdf.space ++
            "'><p r:ID='x' r:parseType='Collection'><b/>"),
          false),
        (bytes
          (" <b><q r:parseType='Collection'><b/></q></b>" ++
            "</p></a>"), true)]
    let members :=
      (Grammar.children ⟨"", ""⟩ true ⟨"_:b", 1⟩ content).1
    (Tokenizer.start.feedAll chunks).events =
        [.startElement root] ++ .startElement tag ::
          (content.events ++ .endElement tag.name ::
            [.endElement root.name]) ∧
      ((Machine.start {}).run
          [.startElement root]).1.frames =
        [⟨⟨"", ""⟩, .node "_:b1" 0⟩] ∧
      members.map (fun c => (c.subject, c.cell)) =
        [("_:b2", "_:b3"), ("_:b4", "_:b5")] ∧
      ∃ others,
        statementsOf
            ((Parser.start {}).1.parseChunks chunks).2 =
          ⟨"_:b1", Rdf.typeIri, .iri "u:a"⟩ ::
            (Link.statements ⟨"u:p", some "#x"⟩ "_:b1"
                (.blankNode "_:b3") ++
              (Grammar.listBody members ++ others)) := by
  intro root collection tag inner node content chunks members
  have hEvents :
      (Tokenizer.start.feedAll chunks).events =
        [.startElement root] ++ .startElement tag ::
          (content.events ++ .endElement tag.name ::
            [.endElement root.name]) := by
    decide +kernel
  have hNode :
      ((Machine.start {}).run
          [.startElement root]).1.frames =
        [⟨⟨"", ""⟩, .node "_:b1" 0⟩] := by
    decide +kernel
  have hMembers :
      members.map (fun c => (c.subject, c.cell)) =
        [("_:b2", "_:b3"), ("_:b4", "_:b5")] := by
    decide +kernel
  have hBefore :
      statementsOf
          ((Machine.start {}).run
            [.startElement root]).2 =
        [⟨"_:b1", Rdf.typeIri, .iri "u:a"⟩] := by
    decide +kernel
  have hLink :
      (Grammar.linkOf tag ⟨"", ""⟩ 0).statements "_:b1"
          (.ofResource (Grammar.listHead members)) =
        Link.statements ⟨"u:p", some "#x"⟩ "_:b1"
          (.blankNode "_:b3") := by
    decide +kernel
  rcases (parseChunks_collection hEvents hNode rfl).2.1 with
    ⟨others, hMade⟩
  refine ⟨hEvents, hNode, hMembers, others, ?_⟩
  rw [← hLink, hMade, hBefore]
  rfl

end Parser

end RdfXml
