import RdfXml.Proofs.Collector
import RdfXml.Proofs.Xml.AfterRoot
import RdfXml.Proofs.Xml.ByteOrderMark

/-
  Reading a document behind a byte order mark into a graph.

  The mark is not transparent.  What is read in place of the
  document has three of its bytes twice, or ends early.  For
  a document that is read in one chunk, the mark makes no
  difference exactly when its last three bytes are blanks.

  Main declarations:
    * `rereadDocument`
    * `rereadDocument_cases`
    * `readDocument_marked`
-/

------------------------------------------------------------
-- The First Chunk
------------------------------------------------------------

namespace RdfXml

/- The first chunk of a marked document begins with the mark. -/
theorem chunksOf_marked (document : List UInt8) :
    ∃ rest,
      chunksOf documentChunkSize
          (Utf8.byteOrderMark ++ document) =
        (Utf8.byteOrderMark ++
            document.take (documentChunkSize - 3)) ::
          rest ∧
        rest.flatten =
          document.drop (documentChunkSize - 3) := by
  have hLength :
      (Utf8.byteOrderMark ++ document).length =
        (document.length + 2) + 1 := by
    rw [List.length_append, Nat.add_comm]
    rfl
  refine
    ⟨chunksFrom documentChunkSize (document.length + 2)
      (document.drop (documentChunkSize - 3)), ?_, ?_⟩
  · unfold chunksOf
    rw [hLength]
    rfl
  · apply chunksFrom_flatten (by decide)
    rw [List.length_drop]
    omega

/- What is read in place of a document behind a mark. -/
def rereadDocument (document : List UInt8) : List UInt8 :=
  Tokenizer.start.reread
    (chunksOf documentChunkSize
      (Utf8.byteOrderMark ++ document))

/-
  It is a first part of the document, or the document with
  the last three bytes of the mark and such a part written
  once more behind that part.
-/
theorem rereadDocument_cases (document : List UInt8) :
    ∃ taken rest,
      document = taken ++ rest ∧
        (rereadDocument document = taken ∨
          taken ≠ [] ∧
            rereadDocument document =
              taken ++
                (lastThree (Utf8.byteOrderMark ++ taken) ++
                  rest)) := by
  rcases chunksOf_marked document with
    ⟨rest, hChunks, hRest⟩
  have hCases :=
    Tokenizer.reread_cases
      (document.take (documentChunkSize - 3) :: rest) []
      false
  rw [List.nil_append, List.flatten_cons, hRest,
    List.take_append_drop, ← Tokenizer.reread_start_marked,
    ← hChunks] at hCases
  exact hCases

/-
  The calls for a marked document are those of reading, in
  one go, the document that stands in its place.
-/
theorem parseDocument_marked
    (options : Options)
    {document : List UInt8}
    (hMark : Tokenizer.Markless document) :
    Tokenizer.Markless (rereadDocument document) ∧
      callsOf
          (Parser.parseDocument options
            (unmarked
              (chunksOf documentChunkSize
                (Utf8.byteOrderMark ++ document)))).2 =
        callsOf
          ((Machine.start options).run
            (Tokenizer.start.read
              (rereadDocument document)).events).2 ∧
      ((Parser.parseDocument options
            (unmarked
              (chunksOf documentChunkSize
                (Utf8.byteOrderMark ++
                  document)))).1.result = .ok () ↔
        (Tokenizer.start.read
              (rereadDocument document)).result = .ok () ∧
          (Tokenizer.start.read
            (rereadDocument document)).tokenizer.finish =
              .ok ()) := by
  rcases chunksOf_marked document with
    ⟨rest, hChunks, hRest⟩
  have hDocument :
      Tokenizer.Markless
        ([] ++
          (document.take (documentChunkSize - 3) ::
            rest).flatten) := by
    rw [List.nil_append, List.flatten_cons, hRest,
      List.take_append_drop]
    exact hMark
  rcases Tokenizer.feedAll_marked _ [] false hDocument with
    ⟨hReread, hReads⟩
  rw [← Tokenizer.feedAll_start_marked,
    ← Tokenizer.reread_start_marked, ← hChunks] at hReads
  rw [← Tokenizer.reread_start_marked, ← hChunks] at hReread
  exact ⟨hReread,
    Parser.parseDocument_reads options rfl hReads⟩

/- The calls for a document without a mark in it. -/
theorem parseDocument_markless
    (options : Options)
    {document : List UInt8}
    (hMark : Tokenizer.Markless document) :
    callsOf
          (Parser.parseDocument options
            (unmarked
              (chunksOf documentChunkSize document))).2 =
        callsOf
          ((Machine.start options).run
            (Tokenizer.start.read document).events).2 ∧
      ((Parser.parseDocument options
            (unmarked
              (chunksOf documentChunkSize
                document))).1.result = .ok () ↔
        (Tokenizer.start.read document).result = .ok () ∧
          (Tokenizer.start.read document).tokenizer.finish =
            .ok ()) := by
  have hFlat :
      (chunksOf documentChunkSize document).flatten =
        document :=
    chunksOf_flatten (by decide) document
  have hCalls :=
    Parser.parseDocument_calls options (Or.inl rfl)
      (hFlat.symm ▸ hMark)
  rw [hFlat] at hCalls
  exact hCalls

/-
  A document behind a mark is read like the document that
  stands in its place.
-/
theorem readDocument_reread
    (options : Options)
    (graph : Graph)
    {document : List UInt8}
    (hMark : Tokenizer.Markless document) :
    (readDocument (Utf8.byteOrderMark ++ document) options
        graph).Alike
      (readDocument (rereadDocument document) options
        graph) := by
  rcases parseDocument_marked options hMark with
    ⟨hReread, hCalls, hAccepted⟩
  have hPlain := parseDocument_markless options hReread
  exact readDocument_alike (hCalls.trans hPlain.1.symm)
    (hAccepted.trans hPlain.2.symm) graph

------------------------------------------------------------
-- Documents Of One Chunk
------------------------------------------------------------

/- A document that can be read is taken whole behind a mark. -/
theorem rereadDocument_short
    {document : List UInt8}
    (hShort : document.length ≤ documentChunkSize - 3)
    (hRead : (Tokenizer.start.read document).result = .ok ())
    (hSome : document ≠ []) :
    rereadDocument document =
      document ++
        lastThree (Utf8.byteOrderMark ++ document) := by
  rcases chunksOf_marked document with
    ⟨rest, hChunks, hRest⟩
  rw [List.take_of_length_le hShort] at hChunks
  rw [List.drop_eq_nil_of_le hShort] at hRest
  unfold rereadDocument
  rw [hChunks, Tokenizer.reread_start_marked]
  cases hResult :
      ((Tokenizer.waiting [] false).feed document
        false).result with
  | error e =>
      rcases (Tokenizer.feed_marked_error hResult).1 with
        ⟨e', hError⟩
      rw [List.nil_append, hRead] at hError
      cases hError
  | ok value =>
      rcases Tokenizer.feed_marked_ok hResult with
        ⟨taken, kept, hParts, hCount, _, hTaken, hKept⟩
      have hNone : kept = [] := by
        rcases hKept rfl with hNone | ⟨cause, index, hFault⟩
        · exact hNone
        · exfalso
          have hTakenOk :
              (Tokenizer.start.read taken).result =
                .ok () := by
            rw [hTaken]
          have hAgree := Tokenizer.read_append hTakenOk kept
          rw [hTaken, Outcome.andThen_ok,
            Tokenizer.read_fault hFault] at hAgree
          rcases hAgree.error rfl with ⟨e, hError⟩
          rw [← hParts, List.nil_append, hRead] at hError
          cases hError
      subst hNone
      have hAll : taken = document := by
        rw [List.append_nil] at hParts
        exact hParts.symm
      subst hAll
      rw [Tokenizer.reread_taken hResult hParts hCount hSome,
        hRest, List.append_nil, List.append_nil]

/-
  For an accepted document of one chunk, the mark makes no
  difference exactly when the last three bytes are blanks.
-/
theorem readDocument_short
    {options : Options}
    {graph : Graph}
    {document : List UInt8}
    (hMark : Tokenizer.Markless document)
    (hShort : document.length ≤ documentChunkSize - 3)
    (hOk :
      (readDocument document options graph).result =
        .ok ()) :
    (readDocument (Utf8.byteOrderMark ++ document) options
          graph).Alike
        (readDocument document options graph) ↔
      IsBlankText
        (lastThree (Utf8.byteOrderMark ++ document)) := by
  have hPlain := parseDocument_markless options hMark
  rcases parseDocument_marked options hMark with
    ⟨_, hCalls, hMarked⟩
  have hAccepted := hOk
  rw [(readDocument_parse document options graph).2,
    readResult_ok_iff] at hAccepted
  rcases hPlain.2.mp hAccepted.1 with ⟨hRead, hComplete⟩
  have hSome : document ≠ [] := by
    rintro rfl
    rw [Tokenizer.read_nil] at hComplete
    cases hComplete
  have hLength :
      (lastThree
        (Utf8.byteOrderMark ++ document)).length ≤ 3 := by
    unfold lastThree
    rw [List.length_drop]
    omega
  have hTail :=
    Tokenizer.read_append_closed hRead hComplete hLength
  rw [← rereadDocument_short hShort hRead hSome] at hTail
  rcases hTail with
    ⟨hBlank, after, hSame, hEnd⟩ | ⟨hBlank, hRefused⟩
  · -- the bytes that are read once more mean nothing
    have hReadAgain := (hSame.ok_iff ()).mpr rfl
    refine iff_of_true (readDocument_alike ?_ ?_ graph)
      hBlank
    · rw [hCalls, hPlain.1]
      apply congrArg callsOf
      exact Machine.run_signals_of_settled hSame.settled _
    · rw [hMarked, hPlain.2]
      refine iff_of_true ⟨hReadAgain, ?_⟩ ⟨hRead, hComplete⟩
      rw [hSame.tokenizer_eq hReadAgain]
      exact hEnd
  · -- the bytes that are read once more are refused
    refine iff_of_false ?_ hBlank
    intro hAlike
    have hMarkedOk := hAlike.1.mpr hOk
    rw [(readDocument_parse _ options graph).2,
      readResult_ok_iff] at hMarkedOk
    exact hRefused (hMarked.mp hMarkedOk.1).1

------------------------------------------------------------
-- What A Mark Changes
------------------------------------------------------------

/-
  A document behind a mark is read like the one that stands
  in its place.  It is therefore not read like the document
  itself: for an accepted document of one chunk this is so
  only when the document ends in three bytes of white space.
-/
theorem readDocument_marked
    (options : Options)
    (graph : Graph)
    {document : List UInt8}
    (hMark : ¬ Utf8.byteOrderMark <:+: document) :
    (readDocument (Utf8.byteOrderMark ++ document) options
          graph).Alike
        (readDocument (rereadDocument document) options
          graph) ∧
      (document.length ≤ documentChunkSize - 3 →
        (readDocument document options graph).result =
            .ok () →
          ((readDocument (Utf8.byteOrderMark ++ document)
                  options graph).Alike
              (readDocument document options graph) ↔
            IsBlankText
              (lastThree
                (Utf8.byteOrderMark ++ document)))) :=
  ⟨readDocument_reread options graph hMark,
    readDocument_short hMark⟩

/- A document that is accepted, but not behind a mark. -/
theorem readDocument_marked_root :
    (¬ Utf8.byteOrderMark <:+:
        bytes "<a xmlns=\"b:\"/>") ∧
      (readDocument (bytes "<a xmlns=\"b:\"/>") {}
          {}).result = .ok () ∧
        ¬ (readDocument
              (Utf8.byteOrderMark ++
                bytes "<a xmlns=\"b:\"/>") {} {}).Alike
            (readDocument (bytes "<a xmlns=\"b:\"/>") {}
              {}) := by
  have hMark :
      ¬ Utf8.byteOrderMark <:+:
        bytes "<a xmlns=\"b:\"/>" :=
    Tokenizer.Markless.of_not_mem (by decide)
  have hOk :
      (readDocument (bytes "<a xmlns=\"b:\"/>") {}
        {}).result = .ok () := by
    rfl
  refine ⟨hMark, hOk, ?_⟩
  rw [(readDocument_marked {} {} hMark).2 (by decide) hOk]
  decide

end RdfXml
