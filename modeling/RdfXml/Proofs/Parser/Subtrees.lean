import RdfXml.Proofs.Grammar.Subtrees
import RdfXml.Proofs.Parser.Collections
import RdfXml.Proofs.Parser.Frames

/-
  Elements of documents and the frames around them.

  Wherever a document has an element, the element leaves
  behind the frames that it has found, except for what the
  innermost one notes about it.

  Main declarations:
    * `Parser.parseChunks_element`
-/

------------------------------------------------------------
-- Elements Of Documents
------------------------------------------------------------

namespace RdfXml

namespace Parser

variable
  {options : Options}
  {chunks : List (List UInt8 × Bool)}
  {before later : List Event}
  {scope : Scope}
  {kind : FrameKind}
  {outer : List Frame}

/-
  When a parser is on its way through a document and a frame
  is open, an element leaves all frames as they are.  Only
  the kind of the innermost one becomes what the element
  makes of it.  The element adds to the statements, and the
  list node that it takes in a collection has not been issued
  before.
-/
theorem parseChunks_element
    (hEvents :
      (Tokenizer.start.feedAll chunks).events =
        before ++ later)
    (hFrames :
      ((Machine.start options).run before).1.frames =
        ⟨scope, kind⟩ :: outer)
    (element : Element) :
    let made := (Machine.start options).run before
    let after :=
      (Machine.start options).run (before ++ element.events)
    let cell :=
      (Grammar.cellSupply scope made.1.blankNodes
        element.tag).next
    ((Parser.start options).1.parseChunks
        chunks).1.machine =
        (made.1.run later).1 ∧
      made.1.GrownTo scope (kind.afterElement element cell)
        outer after.1 ∧
      (kind.sort = .collection →
        ¬ made.1.blankNodes.HasIssued cell ∧
          after.1.blankNodes.HasIssued cell) ∧
      statementsOf made.2 <+: statementsOf after.2 := by
  intro made after cell
  rcases framed_before hEvents options with ⟨n, hFramed⟩
  have hElement :=
    Machine.run_element hFramed hFrames element
  have hAfter :
      after =
        ((made.1.run element.events).1,
          made.2 ++ (made.1.run element.events).2) :=
    Machine.run_append _ before element.events
  rw [hAfter, statementsOf_append]
  refine
    ⟨parseChunks_machine_append hEvents options, hElement.1,
      ?_, List.prefix_append _ _⟩
  intro hSort
  exact
    ⟨Grammar.cellSupply_fresh _ _ _, hElement.2 hSort⟩

/-
  The second member of a collection, which has a property
  with an XML literal.  Its subject is named, so that it
  takes only a list node.
-/
theorem parseChunks_element_second :
    let parse (value : String) : Attribute :=
      ⟨⟨⟨some "r", "parseType"⟩, some Rdf.space⟩, value⟩
    let root : StartTag :=
      ⟨⟨⟨none, "a"⟩, some "u:"⟩,
        [⟨none, "u:"⟩, ⟨some "r", Rdf.space⟩], []⟩
    let tag : StartTag :=
      ⟨⟨⟨none, "p"⟩, some "u:"⟩, [], [parse "Collection"]⟩
    let first : Element :=
      ⟨⟨⟨⟨none, "b"⟩, some "u:"⟩, [], []⟩, .nil⟩
    let about : Attribute :=
      ⟨⟨⟨some "r", "about"⟩, some Rdf.space⟩, "u:x"⟩
    let second : Element :=
      ⟨⟨⟨⟨none, "c"⟩, some "u:"⟩, [], [about]⟩,
        .element
          ⟨⟨⟨none, "q"⟩, some "u:"⟩, [], [parse "Literal"]⟩
          (.element ⟨⟨⟨none, "d"⟩, some "u:"⟩, [], []⟩ .nil
            .nil)
          .nil⟩
    let before :=
      [.startElement root, .startElement tag] ++
        first.events
    let chunks :=
      [(bytes
          ("<a xmlns='u:' xmlns:r='" ++ Rdf.space ++
            "'><p r:parseType='Collection'><b/>"), false),
        (bytes
          ("<c r:about='u:x'><q r:parseType='Literal'>" ++
            "<d/></q></c></p></a>"), true)]
    let link : Link := ⟨"u:p", none⟩
    let node : Frame := ⟨⟨"", ""⟩, .node "_:b1" 0⟩
    let made := (Machine.start {}).run before
    (Tokenizer.start.feedAll chunks).events =
        before ++ (second.events ++
          [.endElement tag.name, .endElement root.name]) ∧
      made.1.frames =
        [⟨⟨"", ""⟩, .collection link (some "_:b3")⟩, node] ∧
      made.1.GrownTo ⟨"", ""⟩
        (.collection link (some "_:b4")) [node]
        ((Machine.start {}).run
          (before ++ second.events)).1 := by
  intro parse root tag first about second before chunks link
    node made
  have hEvents :
      (Tokenizer.start.feedAll chunks).events =
        before ++ (second.events ++
          [.endElement tag.name, .endElement root.name]) := by
    decide +kernel
  have hFrames :
      made.1.frames =
        [⟨⟨"", ""⟩, .collection link (some "_:b3")⟩,
          node] := by
    decide +kernel
  have hCell :
      (Grammar.cellSupply ⟨"", ""⟩ made.1.blankNodes
        second.tag).next = "_:b4" := by
    decide +kernel
  have hElement := parseChunks_element hEvents hFrames second
  dsimp only at hElement
  rw [hCell] at hElement
  exact ⟨hEvents, hFrames, hElement.2.1⟩

end Parser

end RdfXml
