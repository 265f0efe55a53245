import RdfXml.Proofs.Grammar.Inheritance
import RdfXml.Proofs.Parser.Frames
import RdfXml.Proofs.Parser.XmlLiteral

/-
  The languages and bases of documents.

  At every point of a document, a parser keeps for each open
  element the scope that the start tags around it make up.
  The elements that have ended leave nothing behind in it.

  Main declarations:
    * `Parser.inheriting_before`
    * `Parser.parseChunks_scopes`
-/

------------------------------------------------------------
-- Scopes Of Documents
------------------------------------------------------------

namespace RdfXml

namespace Parser

variable
  {chunks : List (List UInt8 × Bool)}
  {before later : List Event}

/- At every delivery the scopes are those of the elements. -/
theorem inheriting_before
    (hEvents :
      (Tokenizer.start.feedAll chunks).events =
        before ++ later)
    (options : Options) :
    ∃ n last,
      Nesting.start.run? before = some n ∧
        n.run? later = some last ∧
          Machine.Inheriting options.baseIri n
            ((Machine.start options).run before).1 := by
  rcases Tokenizer.feedAll_admits chunks with
    ⟨last, hAdmits⟩
  rw [hEvents, Nesting.admits_append] at hAdmits
  rcases hAdmits with ⟨n, hBefore, hLater⟩
  exact
    ⟨n, last, hBefore.run?, hLater.run?,
      (Machine.start_inheriting options).run hBefore.run?⟩

/-
  The scope of an element is that along the start tags which
  lead to it: the nearest language, and the bases resolved
  from the document's base on.  What is made when it starts
  and when it ends depends on this scope and on no other one,
  and so does what its frame holds in the meantime.  When an
  element has ended, with everything in it, it has left the
  scopes around it as they were.
-/
theorem parseChunks_scopes
    (hEvents :
      (Tokenizer.start.feedAll chunks).events =
        before ++ later)
    (options : Options) :
    let m := ((Machine.start options).run before).1
    let base := options.baseIri
    ((Parser.start options).1.parseChunks chunks).1.machine =
        (m.run later).1 ∧
      ∃ n,
        Nesting.start.run? before = some n ∧
        Machine.scopesOf m.frames =
          Scope.allAlong base
            (n.openTags.drop m.literalDepth) ∧
        (∀ holding ∈ Machine.holdings m.frames,
          holding.Settled) ∧
        (∀ tag rest,
          later = .startElement tag :: rest →
          roleOfNext m.frames ≠ .literalContent →
            let scope := Scope.along base (tag :: n.openTags)
            Machine.scopesOf
                (m.step (.startElement tag)).1.frames =
              scope :: Machine.scopesOf m.frames ∧
            ∃ notes,
              statementsOf notes = [] ∧
                (m.step (.startElement tag)).2 =
                  notes ++
                    (m.withoutScopes.openWithin tag
                      scope).2) ∧
        (∀ name rest,
          later = .endElement name :: rest →
          m.literalDepth = 0 →
            ∃ frame outer,
              m.frames = frame :: outer ∧
                (m.step (.endElement name)).2 =
                  statementSignals
                    (Machine.closeFrame
                      (Machine.unscoped outer)
                      ⟨Scope.along base n.openTags,
                        frame.kind⟩)) ∧
        ∀ element : Element,
          m.frames ≠ [] →
            Machine.scopesOf
                (m.run element.events).1.frames =
              Machine.scopesOf m.frames := by
  intro m base
  rcases inheriting_before hEvents options with
    ⟨n, last, hRun, hLater, hInherits⟩
  refine
    ⟨?_, n, hRun, hInherits.scopes, hInherits.settled, ?_,
      ?_, ?_⟩
  · exact parseChunks_machine_append hEvents options
  · rintro tag rest rfl hRole scope
    rcases Option.bind_eq_some_iff.mp hLater with
      ⟨_, hStep, _⟩
    have hOpen := (hInherits.framed.open_of_start hStep).1
    rcases hInherits.starts hOpen hRole with
      ⟨notes, hNotes, hWithin⟩
    dsimp only [Machine.step]
    rw [hWithin]
    refine
      ⟨(Machine.openWithin_enters hRole tag scope).scopes.1,
        notes, hNotes, ?_⟩
    dsimp only [Machine.after]
    rw [Machine.openWithin_signals]
  · rintro name rest rfl hDepth
    rcases Option.bind_eq_some_iff.mp hLater with
      ⟨_, hStep, _⟩
    have hSome : m.frames ≠ [] :=
      hInherits.framed.heeds hStep
    rcases List.exists_cons_of_ne_nil hSome with
      ⟨frame, outer, hFrames⟩
    exact
      ⟨frame, outer, hFrames,
        hInherits.ends hFrames hDepth name⟩
  · intro element hSome
    cases hFrames : m.frames with
    | nil => exact absurd hFrames hSome
    | cons frame outer =>
        rcases (Machine.run_element hInherits.framed hFrames
            element).1 with
          ⟨supply, _, hAfter⟩
        rw [hAfter]
        rfl

/-
  A property of the second node.  Neither the first node nor
  the content of the literal gives it anything, and the empty
  language of its node resets that of the document.
-/
theorem parseChunks_scopes_second :
    let named (label localName value : String)
        (space : String) : Attribute :=
      ⟨⟨⟨some label, localName⟩, some space⟩, value⟩
    let base (value : String) : Attribute :=
      named "xml" "base" value xmlNamespace
    let lang (value : String) : Attribute :=
      named "xml" "lang" value xmlNamespace
    let start (localName : String)
        (attributes : List Attribute) : StartTag :=
      ⟨⟨⟨none, localName⟩, some "u:"⟩, [], attributes⟩
    let root : StartTag :=
      ⟨⟨⟨some "r", "RDF"⟩, some Rdf.space⟩,
        [⟨none, "u:"⟩, ⟨some "r", Rdf.space⟩],
        [base "http://e/a/", lang "en"]⟩
    let first := start "b" [base "s/", lang "de"]
    let second := start "c" [base "c/", lang ""]
    let literal :=
      start "q" [named "r" "parseType" "Literal" Rdf.space]
    let inside := start "d" [base "z/", lang "fr"]
    let tag := start "p" [base "d"]
    let before : List Event :=
      [.startElement root, .startElement first,
        .endElement first.name, .startElement second,
        .startElement literal, .startElement inside,
        .endElement inside.name, .endElement literal.name]
    let chunks :=
      [(bytes
          ("<r:RDF xmlns='u:' xmlns:r='" ++ Rdf.space ++
            "' xml:base='http://e/a/' xml:lang='en'>" ++
            "<b xml:base='s/' xml:lang='de'/>" ++
            "<c xml:base='c/' xml:lang=''>"), false),
        (bytes
          ("<q r:parseType='Literal'>" ++
            "<d xml:base='z/' xml:lang='fr'/></q>" ++
            "<p xml:base='d'>"), false)]
    let m := ((Machine.start {}).run before).1
    (Tokenizer.start.feedAll chunks).events =
        before ++ [.startElement tag] ∧
      Machine.scopesOf (m.step (.startElement tag)).1.frames =
        [⟨"", "http://e/a/c/d"⟩, ⟨"", "http://e/a/c/"⟩,
          ⟨"en", "http://e/a/"⟩] := by
  intro named base lang start root first second literal
    inside tag before chunks m
  have hEvents :
      (Tokenizer.start.feedAll chunks).events =
        before ++ [.startElement tag] := by
    decide +kernel
  have hNesting :
      Nesting.start.run? before =
        some ⟨[second, root], true⟩ := by
    decide +kernel
  have hOpen :
      m.literalDepth = 0 ∧
        roleOfNext m.frames ≠ .literalContent := by
    decide +kernel
  have hAlong :
      Scope.allAlong "" [tag, second, root] =
        [⟨"", "http://e/a/c/d"⟩, ⟨"", "http://e/a/c/"⟩,
          ⟨"en", "http://e/a/"⟩] := by
    decide +kernel
  rcases (parseChunks_scopes hEvents {}).2 with
    ⟨n, hRun, hScopes, _, hStarts, _⟩
  cases hRun.symm.trans hNesting
  have hTag := (hStarts tag [] rfl hOpen.2).1
  refine ⟨hEvents, ?_⟩
  rw [hTag, hScopes, hOpen.1, ← hAlong]
  rfl

end Parser

end RdfXml
