import RdfXml.Proofs.Grammar.Origins
import RdfXml.Proofs.Parser.Inheritance

/-
  The blank nodes of documents.

  A blank node of a document is one that the parser issued,
  or one that the document spells: by its label, as the
  subject of a node, in the name of an element, or behind a
  base that is not absolute.

  Main declarations:
    * `Parser.SpelledIn`
    * `Parser.parseChunks_blankNodes`
    * `Parser.parseChunks_blankNodes_conflated`
-/

------------------------------------------------------------
-- Blank Nodes Of Documents
------------------------------------------------------------

namespace RdfXml

namespace Parser

/-
  A start tag among these events spells a reference, in the
  part that its element plays, or puts something behind the
  base of its element.  This base is not absolute, and then
  the one of the options is not absolute either.
-/
def SpelledIn
    (options : Options)
    (events : List Event)
    (reference : String) : Prop :=
  ∃ before tag later n,
    events = before ++ .startElement tag :: later ∧
    Nesting.start.run? before = some n ∧
    let m := ((Machine.start options).run before).1
    let role := roleOfNext m.frames
    let base :=
      (Scope.along options.baseIri (tag :: n.openTags)).base
    tag.Spells role reference ∨
      Iri.isAbsolute options.baseIri = false ∧
        Iri.isAbsolute base = false ∧
          tag.Appends base role reference

/- A scope without an absolute base has none around it. -/
theorem spelledIn_of_writes
    {chunks : List (List UInt8 × Bool)}
    {options : Options}
    {before later : List Event}
    {tag : StartTag}
    {reference : String}
    (hEvents :
      (Tokenizer.start.feedAll chunks).events =
        before ++ .startElement tag :: later)
    (hWrites :
      let m := ((Machine.start options).run before).1
      tag.Writes
        (m.currentScope.enter
          (ElementAttributes.ofList tag.attributes)).base
        (roleOfNext m.frames) reference) :
    SpelledIn options
      (Tokenizer.start.feedAll chunks).events reference := by
  rcases inheriting_before hEvents options with
    ⟨n, last, hRun, _, hInherits⟩
  refine ⟨before, tag, later, n, hEvents, hRun, ?_⟩
  rcases hWrites with hSpells | ⟨hBase, hAppends⟩
  · exact .inl hSpells
  · have hInside := hInherits.currentScope
    rw [Machine.literalDepth_of_role hAppends.role,
      List.drop_zero] at hInside
    rw [hInside, ← Scope.along_cons] at hBase hAppends
    refine .inr ⟨?_, hBase, hAppends⟩
    cases hOuter : Iri.isAbsolute options.baseIri with
    | false => rfl
    | true =>
        rw [Scope.along_isAbsolute hOuter] at hBase
        cases hBase

/-
  Every blank node that a statement is about, or has as its
  object, was issued or is spelled in the document.
-/
theorem parseChunks_blankNodes
    (options : Options)
    (chunks : List (List UInt8 × Bool)) :
    let events := (Tokenizer.start.feedAll chunks).events
    let parsed := (Parser.start options).1.parseChunks chunks
    let issued := parsed.1.machine.blankNodes.issued
    ∀ statement ∈ statementsOf parsed.2,
      ∀ position reference,
        statement.blankNode? position = some reference →
          BlankNodes.HasIssued
              ⟨options.blankNodePrefix, issued⟩ reference ∨
            SpelledIn options events reference := by
  intro events parsed issued
  have hMachine :
      parsed.1.machine =
        ((Machine.start options).run events).1 :=
    parseChunks_machine rfl chunks
  have hGrows :=
    Machine.run_grows (Machine.start options) events
  have hSourced :
      Machine.ResultSourced
        (fun reference =>
          BlankNodes.HasIssued
              ⟨options.blankNodePrefix, issued⟩ reference ∨
            SpelledIn options events reference)
        ((Machine.start options).run events) := by
    apply Machine.run_sourced
    · nofun
    · intro before tag later hEvents reference hWrites
      exact .inr (spelledIn_of_writes hEvents hWrites)
    · rintro reference ⟨count, hCount, rfl⟩
      refine .inl ⟨count, ?_, ?_⟩
      · dsimp only [issued]
        rw [hMachine]
        exact hCount
      · rw [hGrows.stem]
        rfl
  have hStatements :
      statementsOf parsed.2 =
        statementsOf ((Machine.start options).run events).2 :=
    parseChunks_statements options chunks
  rw [hStatements]
  exact hSourced.statements

/-
  With an absolute base, only the subject of a node begins
  like a blank node that was not issued.
-/
theorem parseChunks_blankNodes_about :
    let options : Options := { baseIri := "http://e/" }
    let chunks :=
      [(bytes
          ("<a xmlns='u:' xmlns:r='" ++ Rdf.space ++
            "' r:about='_:x'><p r:reso"), false),
        (bytes "urce='_:y'/><q><c/></q></a>", true)]
    let events := (Tokenizer.start.feedAll chunks).events
    let parsed := (Parser.start options).1.parseChunks chunks
    statementsOf parsed.2 =
        [⟨"_:x", Rdf.typeIri, .iri "u:a"⟩,
          ⟨"_:x", "u:p", .iri "http://e/_:y"⟩,
          ⟨"_:x", "u:q", .blankNode "_:b1"⟩,
          ⟨"_:b1", Rdf.typeIri, .iri "u:c"⟩] ∧
      SpelledIn options events "_:x" := by
  intro options chunks events parsed
  have hStatements :
      statementsOf parsed.2 =
        [⟨"_:x", Rdf.typeIri, .iri "u:a"⟩,
          ⟨"_:x", "u:p", .iri "http://e/_:y"⟩,
          ⟨"_:x", "u:q", .blankNode "_:b1"⟩,
          ⟨"_:b1", Rdf.typeIri, .iri "u:c"⟩] := by
    decide +kernel
  refine ⟨hStatements, ?_⟩
  refine
    (parseChunks_blankNodes options chunks
      ⟨"_:x", Rdf.typeIri, .iri "u:a"⟩
      (by rw [hStatements]; exact List.mem_cons_self)
      .subject "_:x" (by decide)).resolve_left ?_
  decide +kernel

end Parser

/- The label that an element gives to a node. -/
def Event.nodeId? : Event → Option String
| .startElement tag =>
    (ElementAttributes.ofList tag.attributes).nodeId?
| _ => none

namespace Parser

/-
  What a document spells is taken as it is, and need not be
  the label of a node.  Here no label is given at all.  The
  subjects, a type, a resource, the names of elements, and
  the name of a description are blank nodes nonetheless.  One
  of them is the node that the parser issues.
-/
theorem parseChunks_blankNodes_conflated :
    let document :=
      "<a xmlns='u:' xmlns:n='_:' xmlns:r='" ++ Rdf.space ++
        "' r:about='_:b1' r:type='_:t'><p><b/></p>" ++
          "<p><n:c r:about='_:x'/></p>" ++
            "<p r:resource='_:r'/>" ++
              "<n:q xml:base='_:s' r:ID='i'/></a>"
    let chunks := [(bytes document, true)]
    let events := (Tokenizer.start.feedAll chunks).events
    let parsed := (Parser.start {}).1.parseChunks chunks
    let supply := parsed.1.machine.blankNodes
    statementsOf parsed.2 =
        [⟨"_:b1", Rdf.typeIri, .iri "u:a"⟩,
          ⟨"_:b1", Rdf.typeIri, .blankNode "_:t"⟩,
          ⟨"_:b1", "u:p", .blankNode "_:b1"⟩,
          ⟨"_:b1", Rdf.typeIri, .iri "u:b"⟩,
          ⟨"_:b1", "u:p", .blankNode "_:x"⟩,
          ⟨"_:x", Rdf.typeIri, .blankNode "_:c"⟩,
          ⟨"_:b1", "u:p", .blankNode "_:r"⟩,
          ⟨"_:b1", "_:q", .plain "" ""⟩,
          ⟨"_:s#i", Rdf.typeIri, .iri Rdf.statementIri⟩,
          ⟨"_:s#i", Rdf.subjectIri, .blankNode "_:b1"⟩,
          ⟨"_:s#i", Rdf.predicateIri, .blankNode "_:q"⟩,
          ⟨"_:s#i", Rdf.objectIri, .plain "" ""⟩] ∧
      supply = ⟨"_:b", 1⟩ ∧
      ¬ ∀ statement ∈ statementsOf parsed.2,
        ∀ position reference,
          statement.blankNode? position = some reference →
            supply.HasIssued reference ∨
              ∃ id ∈ events.filterMap Event.nodeId?,
                reference = blankNodeReference id := by
  intro document chunks events parsed supply
  have hParsed :
      statementsOf parsed.2 =
          [⟨"_:b1", Rdf.typeIri, .iri "u:a"⟩,
            ⟨"_:b1", Rdf.typeIri, .blankNode "_:t"⟩,
            ⟨"_:b1", "u:p", .blankNode "_:b1"⟩,
            ⟨"_:b1", Rdf.typeIri, .iri "u:b"⟩,
            ⟨"_:b1", "u:p", .blankNode "_:x"⟩,
            ⟨"_:x", Rdf.typeIri, .blankNode "_:c"⟩,
            ⟨"_:b1", "u:p", .blankNode "_:r"⟩,
            ⟨"_:b1", "_:q", .plain "" ""⟩,
            ⟨"_:s#i", Rdf.typeIri, .iri Rdf.statementIri⟩,
            ⟨"_:s#i", Rdf.subjectIri, .blankNode "_:b1"⟩,
            ⟨"_:s#i", Rdf.predicateIri, .blankNode "_:q"⟩,
            ⟨"_:s#i", Rdf.objectIri, .plain "" ""⟩] ∧
        supply = ⟨"_:b", 1⟩ ∧
        events.filterMap Event.nodeId? = [] := by
    decide +kernel
  rcases hParsed with ⟨hStatements, hSupply, hLabels⟩
  refine ⟨hStatements, hSupply, ?_⟩
  intro hAll
  rcases hAll ⟨"_:x", Rdf.typeIri, .blankNode "_:c"⟩
      (by rw [hStatements]; decide)
      .subject "_:x" (by decide) with
    hIssued | ⟨id, hLabel, _⟩
  · rw [hSupply] at hIssued
    exact absurd hIssued (by decide)
  · rw [hLabels] at hLabel
    cases hLabel

end Parser

end RdfXml
