import RdfXml.Proofs.Grammar.Frames
import RdfXml.Proofs.Parser.CutIndependence
import RdfXml.Proofs.Xml.Resolved
import RdfXml.Proofs.Xml.Scopes

/-
  XML literals read back.

  A property that is captured as an XML literal makes a
  statement about the markup of its content.  That markup, in
  an element that declares the bindings in scope, is read as
  the events of the content, without the blanks at both ends.

  Main declarations:
    * `Content.ReadsBack`
    * `Machine.Framed.run_literal`
    * `Tokenizer.feedAll_content`
    * `Parser.parseChunks_literal`
-/

------------------------------------------------------------
-- Values Of Literals
------------------------------------------------------------

namespace RdfXml

/-
  In every document element that declares the bindings, the
  value delivers the events of the content: each run of text
  in one event, without the blanks at both ends.  There is
  such an element.
-/
structure Content.ReadsBack
    (bindings : Bindings)
    (content : Content)
    (value : String) : Prop where
  declared :
    ∃ wrapper : StartTag, wrapper.Declares bindings
  delivered : ∀ wrapper : StartTag,
    wrapper.Declares bindings →
      let document :=
        Machine.startTagText wrapper ++ value ++
          Machine.endTagText wrapper.name
      let outcome :=
        Tokenizer.start.feed (Utf8.encode document) true
      outcome.events =
          .startElement wrapper ::
            (Event.trimmed (Event.merged content.events) ++
              [.endElement wrapper.name]) ∧
        outcome.result = .ok ()

------------------------------------------------------------
-- Captured Content
------------------------------------------------------------

namespace Machine

/-
  A property that has been opened as a literal makes one
  statement when it ends, about the markup of its content.
-/
theorem Framed.run_literal
    {n : Nesting}
    {m : Machine}
    {scope : Scope}
    {link : Link}
    {outer : List Frame}
    (hFramed : Framed n m)
    (hFrames :
      m.frames = ⟨scope, .literal link "" 0⟩ :: outer)
    (content : Content)
    (name : Name) :
    ∃ subject,
      StandsOn subject outer ∧
        statementsOf
            (m.run
              (content.events ++ [.endElement name])).2 =
          link.statements subject
            (.literal (trimText content.markup)
              Rdf.xmlLiteralIri "") := by
  have hOpen := (hFramed.openTags_of_frames hFrames).2.2
  have hSort :
      FrameKind.sort (.literal link "" 0) = .literal := rfl
  rcases hFramed.standsOn [] hFrames (by rw [hSort]; rfl)
    with ⟨subject, hStands⟩
  refine ⟨subject, hStands, ?_⟩
  have hContent := runs_literal content m hOpen hFrames
  have hClosed :
      closeFrame outer
          ⟨scope,
            .literal link ("" ++ content.markup) 0⟩ =
        link.statements subject
          (.literal (trimText content.markup)
            Rdf.xmlLiteralIri "") := by
    rw [String.empty_append]
    exact hStands.closes rfl
  have hEnd :
      statementsOf
          ((m.placed m.blankNodes
            (⟨scope,
              .literal link ("" ++ content.markup) 0⟩ ::
                outer)).step (.endElement name)).2 =
        link.statements subject
          (.literal (trimText content.markup)
            Rdf.xmlLiteralIri "") := by
    rw [← hClosed]
    exact statementsOf_signals _
  rw [run_append_signals, statementsOf_append, hContent.1,
    hContent.2]
  simpa [Machine.run] using hEnd

end Machine

------------------------------------------------------------
-- Content Of Accepted Documents
------------------------------------------------------------

namespace Tokenizer

/- An accepted document closes all of its elements. -/
theorem feedAll_closes
    {chunks : List (List UInt8 × Bool)}
    (hOk :
      (Tokenizer.start.feedAll chunks).result = .ok true) :
    Nesting.start.run?
        (Tokenizer.start.feedAll chunks).events =
      some ⟨[], true⟩ := by
  rcases feedAll_wellNested chunks with
    ⟨root, _, hComplete⟩
  rw [(hComplete hOk).1]
  exact (Progress.after root).run?_events

/-
  In an accepted document every element has a content that
  fits in the bindings in scope, and these can be declared.
-/
theorem feedAll_content
    {chunks : List (List UInt8 × Bool)}
    {before later : List Event}
    {tag : StartTag}
    (hOk :
      (Tokenizer.start.feedAll chunks).result = .ok true)
    (hEvents :
      (Tokenizer.start.feedAll chunks).events =
        before ++ .startElement tag :: later) :
    ∃ (n : Nesting) (content : Content) (rest : List Event),
      Nesting.start.run? (before ++ [.startElement tag]) =
          some n ∧
        later =
          content.events ++ .endElement tag.name :: rest ∧
        content.FitsIn (bindingsOf n.openTags) ∧
        ∀ d ∈ bindingsOf n.openTags,
          TagAttribute.ofParts d.key d.uri =
            .ok (.declaration d) := by
  have hClosed := feedAll_closes hOk
  rcases feedAll_admits chunks with ⟨last, hAdmits⟩
  have hSplit :
      before ++ .startElement tag :: later =
        (before ++ [.startElement tag]) ++ later := by
    simp
  rw [hEvents, hSplit] at hClosed hAdmits
  rw [hAdmits.run?] at hClosed
  cases hClosed
  rcases Nesting.admits_append.mp hAdmits with
    ⟨n, hBefore, hLater⟩
  rcases Nesting.run?_concat hBefore.run? with
    ⟨around, _, hStep⟩
  have hTags := Nesting.step?_startElement hStep
  rcases n with ⟨tags, hasRoot⟩
  dsimp only at hTags
  subst hTags
  rcases Nesting.content_of_run? hLater.run? (by simp) with
    ⟨content, rest, rfl, _⟩
  refine ⟨_, content, rest, hBefore.run?, rfl, ?_, ?_⟩
  · rcases Nesting.admits_append.mp hLater with
      ⟨middle, hContent, _⟩
    have hRun := hContent.run?
    rw [content.run?_events] at hRun
    cases hRun
    exact (content.admits_iff _ _ _).mp hContent
  · have hSpelled :=
      hBefore.spelled (by simp [Nesting.start])
    intro d hDeclared
    rcases List.mem_flatMap.mp hDeclared with
      ⟨x, hMember, hFound⟩
    apply (hSpelled x hMember).parts (.declaration d)
    simpa [StartTag.parts] using hFound

end Tokenizer

------------------------------------------------------------
-- Parsers
------------------------------------------------------------

namespace Parser

/- Statements are among the calls. -/
theorem statementsOf_calls (signals : List Signal) :
    statementsOf (callsOf signals) =
      statementsOf signals := by
  unfold statementsOf callsOf
  rw [List.filterMap_filter]
  congr 1
  funext signal
  cases signal with
  | _ => rfl

/- A parser makes the statements of what is delivered. -/
theorem parseChunks_statements
    (options : Options)
    (chunks : List (List UInt8 × Bool)) :
    statementsOf
        ((Parser.start options).1.parseChunks chunks).2 =
      statementsOf
        ((Machine.start options).run
          (Tokenizer.start.feedAll chunks).events).2 := by
  have hRunning :
      (Parser.start options).1.status = .running := rfl
  have hCalls :=
    congrArg statementsOf
      (parseChunks_calls hRunning chunks).1
  rw [statementsOf_calls, statementsOf_calls] at hCalls
  exact hCalls

/- A document is accepted when its tokenizer has ended. -/
theorem feedAll_of_finished
    {options : Options}
    {chunks : List (List UInt8 × Bool)}
    (hAccepted :
      ((Parser.start options).1.parseChunks chunks).1.status =
        .finished) :
    (Tokenizer.start.feedAll chunks).result = .ok true := by
  have hRunning :
      (Parser.start options).1.status = .running := rfl
  have hStatus := (parseChunks_calls hRunning chunks).2
  rw [hAccepted] at hStatus
  unfold statusOf at hStatus
  split at hStatus
  · cases hStatus
  · next hResult => exact hResult
  · cases hStatus

/-
  In an accepted document, a property that is captured as an
  XML literal makes one statement when it ends.  The value of
  its object is read back as the content of the property, in
  every element that declares the bindings in scope there,
  but for the blanks at both ends.
-/
theorem parseChunks_literal
    {options : Options}
    {chunks : List (List UInt8 × Bool)}
    {before later : List Event}
    {tag : StartTag}
    {scope : Scope}
    {link : Link}
    {outer : List Frame}
    (hAccepted :
      ((Parser.start options).1.parseChunks chunks).1.status =
        .finished)
    (hEvents :
      (Tokenizer.start.feedAll chunks).events =
        before ++ .startElement tag :: later)
    (hCaptured :
      ((Machine.start options).run
          (before ++ [.startElement tag])).1.frames =
        ⟨scope, .literal link "" 0⟩ :: outer) :
    ∃ (n : Nesting) (content : Content) (rest : List Event)
        (subject value : String) (others : List Statement),
      Nesting.start.run? (before ++ [.startElement tag]) =
          some n ∧
        later =
          content.events ++ .endElement tag.name :: rest ∧
        StandsOn subject outer ∧
        statementsOf
            ((Parser.start options).1.parseChunks chunks).2 =
          statementsOf
              ((Machine.start options).run
                (before ++ [.startElement tag])).2 ++
            (link.statements subject
                (.literal value Rdf.xmlLiteralIri "") ++
              others) ∧
        content.ReadsBack (bindingsOf n.openTags) value := by
  have hOk := feedAll_of_finished hAccepted
  rcases Tokenizer.feedAll_content hOk hEvents with
    ⟨n, content, rest, hNested, rfl, hFits, hDeclared⟩
  have hFramed :=
    (Machine.start_framed options).run hNested
  rcases hFramed.run_literal hCaptured content tag.name with
    ⟨subject, hStands, hMade⟩
  have hReads :
      content.ReadsBack (bindingsOf n.openTags)
        (Machine.trimText content.markup) :=
    ⟨⟨_, Bindings.declares_wrapper hDeclared⟩,
      fun wrapper hDeclares =>
        Tokenizer.feed_wrapped hDeclares hFits⟩
  have hParts :
      before ++ .startElement tag ::
          (content.events ++ .endElement tag.name :: rest) =
        (before ++ [.startElement tag]) ++
          ((content.events ++ [.endElement tag.name]) ++
            rest) := by
    simp
  have hStatements :=
    parseChunks_statements options chunks
  rw [hEvents, hParts,
    Machine.run_append_signals _
      (before ++ [Event.startElement tag]),
    statementsOf_append,
    Machine.run_append_signals _ _ rest,
    statementsOf_append, hMade] at hStatements
  exact ⟨n, content, rest, subject, _, _, hNested, rfl,
    hStands, hStatements, hReads⟩

/-
  A literal with blanks at both ends, with text that is cut
  inside of a reference, and with a quote in a value.
-/
theorem parseChunks_literal_quoted :
    let root : StartTag :=
      ⟨⟨⟨none, "a"⟩, some "u:"⟩, [⟨none, "u:"⟩], []⟩
    let tag : StartTag :=
      ⟨⟨⟨none, "p"⟩, some "u:"⟩, [⟨some "r", Rdf.space⟩],
        [⟨⟨⟨some "r", "parseType"⟩, some Rdf.space⟩,
          "Literal"⟩]⟩
    let inside : StartTag :=
      ⟨⟨⟨none, "b"⟩, some "u:"⟩, [],
        [⟨⟨⟨none, "k"⟩, none⟩, "\""⟩]⟩
    let chunks :=
      [(bytes
          ("<a xmlns='u:'><p xmlns:r='" ++ Rdf.space ++
            "' r:parseType='Literal'> x&l"), false),
        (bytes "t;<b k='&quot;'/> </p></a>", true)]
    let later : List Event :=
      [.characters " x", .characters "<",
        .startElement inside, .endElement inside.name,
        .characters " ", .endElement tag.name,
        .endElement root.name]
    ((Parser.start {}).1.parseChunks chunks).1.status =
        .finished ∧
      (Tokenizer.start.feedAll chunks).events =
        [.startElement root] ++
          .startElement tag :: later ∧
      ((Machine.start {}).run
          ([.startElement root] ++
            [.startElement tag])).1.frames =
        [⟨⟨"", ""⟩, .literal ⟨"u:p", none⟩ "" 0⟩,
          ⟨⟨"", ""⟩, .node "_:b1" 0⟩] ∧
      ∃ (content : Content) (rest : List Event),
        later =
            content.events ++ .endElement tag.name :: rest ∧
          content.ReadsBack
            [⟨some "r", Rdf.space⟩, ⟨none, "u:"⟩]
            "x&lt;<b k=\"&quot;\"></b>" := by
  intro root tag inside chunks later
  have hAccepted :
      ((Parser.start {}).1.parseChunks chunks).1.status =
        .finished := by
    decide +kernel
  have hEvents :
      (Tokenizer.start.feedAll chunks).events =
        [.startElement root] ++
          .startElement tag :: later := by
    decide +kernel
  have hCaptured :
      ((Machine.start {}).run
          ([.startElement root] ++
            [.startElement tag])).1.frames =
        [⟨⟨"", ""⟩, .literal ⟨"u:p", none⟩ "" 0⟩,
          ⟨⟨"", ""⟩, .node "_:b1" 0⟩] := by
    decide +kernel
  have hMade :
      statementsOf
          ((Parser.start {}).1.parseChunks chunks).2 =
        [⟨"_:b1", Rdf.typeIri, .iri "u:a"⟩,
          ⟨"_:b1", "u:p",
            .literal "x&lt;<b k=\"&quot;\"></b>"
              Rdf.xmlLiteralIri ""⟩] := by
    decide +kernel
  have hTyped :
      statementsOf
          ((Machine.start {}).run
            ([.startElement root] ++
              [.startElement tag])).2 =
        [⟨"_:b1", Rdf.typeIri, .iri "u:a"⟩] := by
    decide +kernel
  rcases parseChunks_literal hAccepted hEvents hCaptured with
    ⟨n, content, rest, subject, value, others, hNested,
      hParts, _, hStatements, hReads⟩
  cases hNested
  rw [hMade, hTyped] at hStatements
  cases hStatements
  exact ⟨hAccepted, hEvents, hCaptured, content, rest,
    hParts, hReads⟩

end Parser

end RdfXml
