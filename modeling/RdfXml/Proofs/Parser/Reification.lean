import RdfXml.Proofs.Parser.Collections

/-
  Properties whose statements are described.

  A property element with an identifier has a name for what it
  states.  Each statement that links one of its objects is
  followed at once by the four that describe it, and nothing
  else comes of the identifier: without it the same element
  makes the same statements but for the descriptions.

  Main declarations:
    * `StartTag.withoutId`
    * `Machine.run_withoutId`
    * `Parser.parseChunks_described`
    * `Parser.parseChunks_describedTwice`
-/

------------------------------------------------------------
-- Identifiers
------------------------------------------------------------

namespace RdfXml

/- The attribute names what an element states. -/
def Attribute.isId (a : Attribute) : Bool :=
  a.name.denotes Rdf.space "ID"

/- The start tag without its identifier. -/
def StartTag.withoutId (tag : StartTag) : StartTag :=
  { tag with
    attributes := tag.attributes.filter (fun a => !a.isId) }

namespace ElementAttributes

/- An identifier is all that its attribute adds. -/
theorem add_id
    (attributes : ElementAttributes)
    {a : Attribute}
    (hId : a.isId = true) :
    { attributes.add a with id? := none } =
      { attributes with id? := none } := by
  rcases a with ⟨⟨⟨label?, localName⟩, space?⟩, value⟩
  simp only [Attribute.isId, Name.denotes,
    Bool.and_eq_true, beq_iff_eq] at hId
  rcases hId with ⟨rfl, rfl⟩
  rfl

/- No other attribute depends on an identifier. -/
theorem add_other
    (attributes : ElementAttributes)
    {a : Attribute}
    (hOther : a.isId = false) :
    add { attributes with id? := none } a =
      { attributes.add a with id? := none } := by
  rcases a with ⟨⟨⟨label?, localName⟩, space?⟩, value⟩
  simp only [Attribute.isId, Name.denotes] at hOther
  cases space? with
  | none => rfl
  | some space =>
      unfold add
      dsimp only
      split
      · next hRdf =>
          have hName : localName ≠ "ID" := by
            simpa [hRdf] using hOther
          unfold addRdf
          simp only [hName, if_false]
          split_ifs <;> rfl
      · unfold addXml
        split_ifs <;> rfl

theorem foldl_withoutId
    (list : List Attribute)
    (attributes : ElementAttributes) :
    (list.filter (fun a => !a.isId)).foldl add
        { attributes with id? := none } =
      { list.foldl add attributes with id? := none } := by
  induction list generalizing attributes with
  | nil => rfl
  | cons a list ih =>
      rw [List.foldl_cons, ← ih]
      cases hId : a.isId with
      | true =>
          rw [List.filter_cons_of_neg (by simp [hId]),
            add_id attributes hId]
      | false =>
          rw [List.filter_cons_of_pos (by simp [hId]),
            List.foldl_cons, add_other attributes hId]

end ElementAttributes

theorem StartTag.withoutId_attributes (tag : StartTag) :
    ElementAttributes.ofList tag.withoutId.attributes =
      { ElementAttributes.ofList tag.attributes with
        id? := none } :=
  ElementAttributes.foldl_withoutId tag.attributes {}

------------------------------------------------------------
-- Described Statements
------------------------------------------------------------

/- The statement that links an object of a property. -/
def StartTag.linking
    (tag : StartTag)
    (subject : String)
    (count : Nat)
    (object : Object) : Statement :=
  ⟨subject,
    Grammar.predicateOf tag.name
      (Grammar.countMember tag.name count),
    object⟩

theorem linkOf_statements_named
    {tag : StartTag}
    {id : String}
    (hId :
      (ElementAttributes.ofList tag.attributes).id? = some id)
    (scope : Scope)
    (subject : String)
    (count : Nat)
    (object : Object) :
    (Grammar.linkOf tag scope count).statements subject
        object =
      tag.linking subject count object ::
        description
          (Machine.idIri
            (scope.enter
              (ElementAttributes.ofList
                tag.attributes)).base id)
          (tag.linking subject count object) := by
  unfold Grammar.linkOf Link.statements
  dsimp only
  rw [hId]
  rfl

theorem linkOf_statements_withoutId
    (tag : StartTag)
    (scope : Scope)
    (subject : String)
    (count : Nat)
    (object : Object) :
    (Grammar.linkOf tag.withoutId scope count).statements
        subject object =
      [tag.linking subject count object] := by
  unfold Grammar.linkOf Link.statements
  dsimp only
  rw [tag.withoutId_attributes]
  rfl

/-
  Without its identifier an element links the same objects,
  and makes no descriptions.
-/
theorem Machine.run_withoutId
    {m : Machine}
    {scope : Scope}
    {subject : String}
    {count : Nat}
    {outer : List Frame}
    (hOpen : m.rootClosed = false)
    (hFrames :
      m.frames = ⟨scope, .node subject count⟩ :: outer)
    (tag : StartTag)
    (content : Content) :
    statementsOf
        (m.run
          (Content.element tag.withoutId content
            .nil).events).2 =
      (Grammar.objects
        (ElementAttributes.ofList tag.attributes)
        (scope.enter
          (ElementAttributes.ofList tag.attributes))
        m.blankNodes content).flatMap
        (fun o =>
          tag.linking subject count o.object :: o.own) := by
  rw [run_property hOpen hFrames tag.withoutId content]
  simp only [linkOf_statements_withoutId,
    List.singleton_append]
  rw [tag.withoutId_attributes]
  rfl

------------------------------------------------------------
-- Parsers
------------------------------------------------------------

namespace Parser

/-
  In an accepted document, a property element with an
  identifier makes one statement for each of its objects, with
  the four that describe it right behind.  Apart from these
  four it makes what it would make without the identifier.
-/
theorem parseChunks_described
    {options : Options}
    {chunks : List (List UInt8 × Bool)}
    {before later : List Event}
    {tag : StartTag}
    {scope : Scope}
    {subject id : String}
    {count : Nat}
    {outer : List Frame}
    (hAccepted :
      ((Parser.start options).1.parseChunks chunks).1.status =
        .finished)
    (hEvents :
      (Tokenizer.start.feedAll chunks).events =
        before ++ .startElement tag :: later)
    (hNode :
      ((Machine.start options).run before).1.frames =
        ⟨scope, .node subject count⟩ :: outer)
    (hId :
      (ElementAttributes.ofList tag.attributes).id? =
        some id) :
    ∃ (content : Content) (rest : List Event)
        (others : List Statement),
      let m := ((Machine.start options).run before).1
      let attributes :=
        ElementAttributes.ofList tag.attributes
      let inScope := scope.enter attributes
      let objects :=
        Grammar.objects attributes inScope m.blankNodes
          content
      later =
          content.events ++ .endElement tag.name :: rest ∧
        objects.length =
          Grammar.objectCount attributes content ∧
        statementsOf
            ((Parser.start options).1.parseChunks
              chunks).2 =
          statementsOf
              ((Machine.start options).run before).2 ++
            (objects.flatMap
                (fun o =>
                  tag.linking subject count o.object ::
                    (description
                        (Machine.idIri inScope.base id)
                        (tag.linking subject count
                          o.object) ++
                      o.own)) ++
              others) ∧
        statementsOf
            (m.run
              (.startElement tag.withoutId ::
                (content.events ++
                  [.endElement tag.name]))).2 =
          objects.flatMap
            (fun o =>
              tag.linking subject count o.object ::
                o.own) := by
  rcases Tokenizer.feedAll_content
      (feedAll_of_finished hAccepted) hEvents with
    ⟨_, content, rest, _, rfl, _, _⟩
  rcases framed_before hEvents options with ⟨n, hFramed⟩
  have hOpen := (hFramed.openTags_of_frames hNode).2.2
  rcases parseChunks_property hEvents hNode with
    ⟨others, hMade⟩
  refine ⟨content, rest, others, rfl,
    Grammar.objects_length _ _ _ _, ?_,
    Machine.run_withoutId hOpen hNode tag content⟩
  simp only [linkOf_statements_named hId, List.cons_append]
    at hMade
  exact hMade

/-
  A literal with a description, in the base of its own
  property element, whose fragment does not count.
-/
theorem parseChunks_described_literal :
    let root : StartTag :=
      ⟨⟨⟨none, "a"⟩, some "u:"⟩,
        [⟨none, "u:"⟩, ⟨some "r", Rdf.space⟩], []⟩
    let tag : StartTag :=
      ⟨⟨⟨none, "p"⟩, some "u:"⟩, [],
        [⟨⟨⟨some "r", "ID"⟩, some Rdf.space⟩, "x"⟩,
          ⟨⟨⟨some "xml", "base"⟩, some xmlNamespace⟩,
            "v:w#f"⟩]⟩
    let chunks :=
      [(bytes
          ("<a xmlns='u:' xmlns:r='" ++ Rdf.space ++
            "'><p r:ID='x' xml:base='v:w#f'>t"), false),
        (bytes "</p></a>", true)]
    let later : List Event :=
      [.characters "t", .endElement tag.name,
        .endElement root.name]
    ((Parser.start {}).1.parseChunks chunks).1.status =
        .finished ∧
      (Tokenizer.start.feedAll chunks).events =
        [.startElement root] ++
          .startElement tag :: later ∧
      ((Machine.start {}).run
          [.startElement root]).1.frames =
        [⟨⟨"", ""⟩, .node "_:b1" 0⟩] ∧
      (ElementAttributes.ofList tag.attributes).id? =
        some "x" ∧
      ∃ (content : Content) (rest : List Event)
          (others : List Statement),
        later =
            content.events ++ .endElement tag.name :: rest ∧
          statementsOf
              ((Parser.start {}).1.parseChunks chunks).2 =
            ⟨"_:b1", Rdf.typeIri, .iri "u:a"⟩ ::
              ((Grammar.objects
                  (ElementAttributes.ofList tag.attributes)
                  ⟨"", "v:w#f"⟩ ⟨"_:b", 1⟩
                  content).flatMap
                  (fun o =>
                    tag.linking "_:b1" 0 o.object ::
                      (description "v:w#x"
                          (tag.linking "_:b1" 0 o.object) ++
                        o.own)) ++
                others) := by
  intro root tag chunks later
  have hAccepted :
      ((Parser.start {}).1.parseChunks chunks).1.status =
        .finished := by
    decide +kernel
  have hEvents :
      (Tokenizer.start.feedAll chunks).events =
        [.startElement root] ++
          .startElement tag :: later := by
    decide +kernel
  have hNode :
      ((Machine.start {}).run
          [.startElement root]).1.frames =
        [⟨⟨"", ""⟩, .node "_:b1" 0⟩] := by
    decide +kernel
  have hId :
      (ElementAttributes.ofList tag.attributes).id? =
        some "x" := by
    decide +kernel
  have hScope :
      Scope.enter ⟨"", ""⟩
          (ElementAttributes.ofList tag.attributes) =
        ⟨"", "v:w#f"⟩ := by
    decide +kernel
  have hSupply :
      ((Machine.start {}).run
          [.startElement root]).1.blankNodes =
        ⟨"_:b", 1⟩ := by
    decide +kernel
  have hName : Machine.idIri "v:w#f" "x" = "v:w#x" := by
    decide +kernel
  have hBefore :
      statementsOf
          ((Machine.start {}).run
            [.startElement root]).2 =
        [⟨"_:b1", Rdf.typeIri, .iri "u:a"⟩] := by
    decide +kernel
  rcases parseChunks_described hAccepted hEvents hNode hId
    with ⟨content, rest, others, hLater, _, hMade, _⟩
  refine ⟨hAccepted, hEvents, hNode, hId, content, rest,
    others, hLater, ?_⟩
  rw [hMade, hScope, hSupply, hName, hBefore]
  rfl

/-
  A property without a parse type states as many links as
  there are nodes in it.  With an identifier, each of the two
  links is described under the same name.
-/
theorem parseChunks_describedTwice :
    let chunks :=
      [(bytes
          ("<a xmlns='u:' xmlns:r='" ++ Rdf.space ++
            "'><p r:ID='x'><b/><b/></p></a>"), true)]
    let made :=
      statementsOf
        ((Parser.start {}).1.parseChunks chunks).2
    ((Parser.start {}).1.parseChunks chunks).1.status =
        .finished ∧
      made =
        ⟨"_:b1", Rdf.typeIri, .iri "u:a"⟩ ::
          (⟨"_:b1", "u:p", .blankNode "_:b2"⟩ ::
            (description "#x"
                ⟨"_:b1", "u:p", .blankNode "_:b2"⟩ ++
              ⟨"_:b2", Rdf.typeIri, .iri "u:b"⟩ ::
                (⟨"_:b1", "u:p", .blankNode "_:b3"⟩ ::
                  (description "#x"
                      ⟨"_:b1", "u:p", .blankNode "_:b3"⟩ ++
                    [⟨"_:b3", Rdf.typeIri,
                      .iri "u:b"⟩])))) ∧
      (made.filter (fun s => s.predicate == "u:p")).length =
        2 ∧
      (made.filter (fun s => s.subject == "#x")).length =
        8 := by
  decide +kernel

end Parser

end RdfXml
