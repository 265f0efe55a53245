import RdfXml.Proofs.Grammar.References
import RdfXml.Proofs.Parser.Inheritance

/-
  References of documents that are parsed with a base.

  A base that the options accept is absolute.  Whatever
  bases a document gives its elements, everything that it
  refers to is then absolute as well.

  Main declarations:
    * `Options.withBaseIri_isAbsolute`
    * `Parser.parseChunks_references`
-/

------------------------------------------------------------
-- Accepted Bases
------------------------------------------------------------

namespace RdfXml

/- A base that is accepted is absolute. -/
theorem Options.withBaseIri_isAbsolute
    {options accepted : Options}
    {iri : String}
    (hAccepted : options.withBaseIri iri = .ok accepted) :
    Iri.isAbsolute iri = true := by
  unfold withBaseIri at hAccepted
  cases hParse : Iri.parse iri with
  | error cause =>
      rw [hParse] at hAccepted
      cases hAccepted
  | ok parts => exact (Iri.isAbsolute_of_parse hParse).2

------------------------------------------------------------
-- References Of Documents
------------------------------------------------------------

namespace Parser

variable
  {chunks : List (List UInt8 × Bool)}
  {before later : List Event}

/-
  With a base that was accepted, whatever the rest of the
  options is, every frame has an absolute base and keeps
  absolute names and datatypes.  What a start tag makes of
  the references among its attributes is absolute and no
  blank node, and so are the datatypes of all literals.
-/
theorem parseChunks_references
    {earlier accepted options : Options}
    (hAccepted :
      earlier.withBaseIri options.baseIri = .ok accepted)
    (hEvents :
      (Tokenizer.start.feedAll chunks).events =
        before ++ later) :
    let m := ((Machine.start options).run before).1
    let parsed := (Parser.start options).1.parseChunks chunks
    parsed.1.machine = (m.run later).1 ∧
      (∀ frame ∈ m.frames, frame.Absolute) ∧
      (∀ tag rest,
        later = .startElement tag :: rest →
        roleOfNext m.frames ≠ .literalContent →
          m.OpensAbsolute tag
            (m.currentScope.enter
              (ElementAttributes.ofList tag.attributes))) ∧
      AllTyped (statementsOf parsed.2) := by
  intro m parsed
  have hBase := Options.withBaseIri_isAbsolute hAccepted
  rcases inheriting_before hEvents options with
    ⟨n, last, hRun, hLater, hInherits⟩
  refine ⟨?_, hInherits.absolute hBase, ?_, ?_⟩
  · exact parseChunks_machine_append hEvents options
  · rintro tag rest rfl hRole
    rcases Option.bind_eq_some_iff.mp hLater with
      ⟨_, hStep, _⟩
    have hOpen := (hInherits.framed.open_of_start hStep).1
    have hInside := hInherits.currentScope
    rw [Machine.literalDepth_of_role hRole, List.drop_zero]
      at hInside
    rw [hInside, ← Scope.along_cons]
    exact hInherits.opensAbsolute hBase hOpen hRole
  · have hWhole :
        Nesting.start.run? (before ++ later) = some last := by
      rw [Nesting.run?_append, hRun]
      exact hLater
    rw [parseChunks_statements, hEvents]
    exact
      (Machine.start_inheriting options).typed hBase hWhole

/-
  A base that is no IRI: the bases and references inside of
  it are appended to it, and are absolute all the same.
-/
theorem parseChunks_references_appended :
    let options : Options := { baseIri := "http://e/" }
    let named (label localName value : String)
        (space : String) : Attribute :=
      ⟨⟨⟨some label, localName⟩, some space⟩, value⟩
    let base (value : String) : Attribute :=
      named "xml" "base" value xmlNamespace
    let root : StartTag :=
      ⟨⟨⟨some "r", "RDF"⟩, some Rdf.space⟩,
        [⟨none, "u:"⟩, ⟨some "r", Rdf.space⟩],
        [base "x: y"]⟩
    let node : StartTag :=
      ⟨⟨⟨none, "b"⟩, some "u:"⟩, [], [base "z"]⟩
    let tag : StartTag :=
      ⟨⟨⟨none, "p"⟩, some "u:"⟩, [],
        [named "r" "ID" "i" Rdf.space,
          named "r" "resource" "q" Rdf.space]⟩
    let before : List Event :=
      [.startElement root, .startElement node]
    let chunks :=
      [(bytes
          ("<r:RDF xmlns='u:' xmlns:r='" ++ Rdf.space ++
            "' xml:base='x: y'><b xml:base='z'><p"), false),
        (bytes " r:ID='i' r:resource='q'/></b>", false)]
    let m := ((Machine.start options).run before).1
    let link : Link := ⟨"u:p", some "x: yz#i"⟩
    (Tokenizer.start.feedAll chunks).events =
        before ++ [.startElement tag, .endElement tag.name,
          .endElement node.name] ∧
      statementsOf (m.startElement tag).2 =
        link.statements "_:b1" (.iri "x: yzq") ∧
      Iri.isAbsolute "x: yz#i" = true ∧
      Iri.isAbsolute "x: yzq" = true := by
  intro options named base root node tag before chunks m
    link
  have hAccepted :
      Options.withBaseIri {} options.baseIri = .ok options := by
    decide +kernel
  have hEvents :
      (Tokenizer.start.feedAll chunks).events =
        before ++ [.startElement tag, .endElement tag.name,
          .endElement node.name] := by
    decide +kernel
  have hFrames :
      m.frames =
        [⟨⟨"", "x: yz"⟩, .node "_:b1" 0⟩,
          ⟨⟨"", "x: y"⟩, .root⟩] := by
    decide +kernel
  have hRole : roleOfNext m.frames ≠ .literalContent := by
    rw [hFrames]
    decide
  have hOpens :=
    (parseChunks_references hAccepted hEvents).2.2.1 tag _ rfl
      hRole
  have hProperty := hOpens.property _ _ _ _ hFrames
  have hResource := (hOpens.resource (by decide)).1
  refine ⟨hEvents, ?_, ?_, ?_⟩
  · rw [hProperty.2.1]
    decide +kernel
  · apply hProperty.2.2
    decide +kernel
  · have hObject :
        (Grammar.objectOf
          (ElementAttributes.ofList tag.attributes)
          (m.currentScope.enter
            (ElementAttributes.ofList tag.attributes)).base
          m.blankNodes).1 = "x: yzq" := by
      decide +kernel
    rw [← hObject]
    exact hResource

end Parser

end RdfXml
