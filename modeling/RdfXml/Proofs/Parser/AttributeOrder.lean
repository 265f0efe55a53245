import RdfXml.Proofs.Grammar.AttributeOrder
import RdfXml.Proofs.Parser.Remarks
import RdfXml.Proofs.Parser.XmlLiteral

/-
  Parsing documents with attributes in another order.

  The order of attributes decides which of several attributes
  with one meaning counts, and in which order the statements
  of property attributes are made.  It decides nothing else.

  Main declarations:
    * `Parser.Conveys`
    * `Parser.Conveys.calls`
    * `Parser.parseDocument_reordered`
    * `Parser.parseDocument_reordered_twice`
-/

------------------------------------------------------------
-- Documents In Chunks
------------------------------------------------------------

namespace RdfXml

namespace Parser

/-
  Chunks with all bytes of a document: one chunk, where a byte
  order mark at the start does not count, or several chunks of
  a document that has no such mark in it.
-/
inductive Conveys :
    List (List UInt8 × Bool) → List UInt8 → Prop where
| whole (input : List UInt8) :
    Conveys [(input, true)]
      (Tokenizer.skipByteOrderMark input)
| pieces
    {chunks : List (List UInt8 × Bool)}
    {pieces : List (List UInt8)}
    (hPresents : Presents chunks pieces)
    (hMark : Tokenizer.Markless pieces.flatten) :
    Conveys chunks pieces.flatten

/-
  The calls for the chunks of a document, and whether it is
  accepted, are those of reading it in one go.
-/
theorem Conveys.calls
    {chunks : List (List UInt8 × Bool)}
    {document : List UInt8}
    (hConveys : Conveys chunks document)
    (options : Options) :
    callsOf (parseDocument options chunks).2 =
        callsOf
          ((Machine.start options).run
            (Tokenizer.start.read document).events).2 ∧
      ((parseDocument options chunks).1.result = .ok () ↔
        (Tokenizer.start.read document).result = .ok () ∧
          (Tokenizer.start.read document).tokenizer.finish =
            .ok ()) := by
  cases hConveys with
  | pieces hPresents hMark =>
      exact parseDocument_calls options hPresents hMark
  | whole input =>
      have hFed := Tokenizer.feed_final Tokenizer.start input
      have hInput :
          Tokenizer.start.pending ++ input = input := rfl
      rw [hInput] at hFed
      exact parseDocument_reads options
        (show [(input, true)] ++ [([], true)] =
          unmarked [] ++ (input, true) :: [([], true)]
          from rfl)
        (hFed.andThen_stop true)

/- So are the statements. -/
theorem Conveys.statements
    {chunks : List (List UInt8 × Bool)}
    {document : List UInt8}
    (hConveys : Conveys chunks document)
    (options : Options) :
    statementsOf (parseDocument options chunks).2 =
      statementsOf
        ((Machine.start options).run
          (Tokenizer.start.read document).events).2 := by
  rw [← statementsOf_calls, (hConveys.calls options).1,
    statementsOf_calls]

------------------------------------------------------------
-- Attributes In Another Order
------------------------------------------------------------

/-
  Two documents are accepted and differ only in the order of
  attributes, and not in the content of XML literals.  When of
  several attributes with the same meaning in a start tag the
  last one has the same value in both, they make the same
  statements with the same blank nodes, each as often.
-/
theorem parseDocument_reordered
    {options : Options}
    {chunks others : List (List UInt8 × Bool)}
    {document reordered : List UInt8}
    (hDocument : Conveys chunks document)
    (hReordered : Conveys others reordered)
    (hOrder : Reordered document reordered)
    (hAccepted :
      (parseDocument options chunks).1.result = .ok ())
    (hOthers :
      (parseDocument options others).1.result = .ok ())
    (hContent :
      (Machine.start options).keepsContent
        (Tokenizer.start.read document).events
        (Tokenizer.start.read reordered).events = true)
    (hReserved :
      List.Forall₂ Event.SameReserved
        (Tokenizer.start.read document).events
        (Tokenizer.start.read reordered).events) :
    (statementsOf (parseDocument options chunks).2).Perm
      (statementsOf (parseDocument options others).2) := by
  rw [hDocument.statements, hReordered.statements]
  have hEvents :=
    Tokenizer.read_reordered hOrder
      ((hDocument.calls options).2.mp hAccepted).1
      ((hReordered.calls options).2.mp hOthers).1
  exact
    (Machine.run_reordered hEvents hReserved
      hContent).statements

/-
  The same document with the attributes of two tags moved.
  Of two names for the subject the second one stays behind
  the first, and the content of the literal stays as it is.
-/
theorem parseDocument_reordered_subject :
    let declared (label : String) :=
      bytes (" xmlns:" ++ label ++ "='") ++
        bytes Rdf.space ++ bytes "'"
    let start :=
      bytes "o:a" ++ declared "r" ++ declared "s" ++
        bytes " xmlns:o='u:' r:about='u:0'" ++
          bytes " s:about='u:1' o:p='x' o:q='y'"
    let start' :=
      bytes "o:a o:q='y' r:about='u:0' o:p='x'" ++
        bytes " s:about='u:1' xmlns:o='u:'" ++
          declared "s" ++ declared "r"
    let property :=
      bytes "o:p r:parseType='Literal' r:ID='i'"
    let property' :=
      bytes "o:p r:ID='i' r:parseType='Literal'"
    let document (start property : List UInt8) :=
      bytes "<" ++ start ++ bytes "><" ++ property ++
        bytes "><c d='1' e='2'/></o:p></o:a>"
    let first := document start property
    let second := document start' property'
    let made (document : List UInt8) :=
      statementsOf (parseDocument {} [(document, true)]).2
    Reordered first second ∧
      (made first).length = 8 ∧
        made first ≠ made second ∧
          (made first).Perm (made second) := by
  intro declared start start' property property' document
    first second made
  have hOrder : Reordered first second := by
    have hPieces :
        ∀ tags ∈ [(start, property), (start', property')],
          piecesOf (document tags.1 tags.2) =
            [.startTag tags.1, .startTag tags.2,
              .emptyTag (bytes "c d='1' e='2'"),
              .endTag (bytes "o:p"),
              .endTag (bytes "o:a")] := by
      decide +kernel
    unfold Reordered
    rw [hPieces (start, property) (by simp),
      hPieces (start', property') (by simp)]
    exact .cons (.startTag (by decide +kernel))
      (.cons (.startTag (by decide +kernel))
        (.cons (.same _) (.cons (.same _)
          (.cons (.same _) .nil))))
  have hParsed :
      (∀ document ∈ [first, second],
          (parseDocument {} [(document, true)]).1.status =
            .finished) ∧
        (made first).length = 8 ∧
          made first ≠ made second := by
    decide +kernel
  have hAccepted :
      ∀ document ∈ [first, second],
        (parseDocument {} [(document, true)]).1.result =
          .ok () := by
    intro document hMember
    rw [result, error?, hParsed.1 document hMember]
  have hEvents :
      let events := (Tokenizer.start.read first).events
      let others := (Tokenizer.start.read second).events
      (Machine.start {}).keepsContent events others = true ∧
        List.Forall₂ Event.SameReserved events others := by
    decide +kernel
  refine ⟨hOrder, hParsed.2.1, hParsed.2.2, ?_⟩
  exact parseDocument_reordered (.whole first)
    (.whole second) hOrder (hAccepted first (by simp))
    (hAccepted second (by simp)) hEvents.1 hEvents.2

/-
  The order of attributes does carry a meaning.  When two of
  them have the same meaning by different prefixes, it is the
  last one that counts, here as the subject of a node.
-/
theorem parseDocument_reordered_twice :
    ¬ ∀ (options : Options)
        (chunks others : List (List UInt8 × Bool))
        (document reordered : List UInt8),
        Conveys chunks document →
        Conveys others reordered →
        Reordered document reordered →
        (parseDocument options chunks).1.result = .ok () →
        (parseDocument options others).1.result = .ok () →
        (Machine.start options).keepsContent
            (Tokenizer.start.read document).events
            (Tokenizer.start.read reordered).events = true →
        (statementsOf (parseDocument options chunks).2).Perm
          (statementsOf
            (parseDocument options others).2) := by
  intro hClaim
  let tag (names : String) : List UInt8 :=
    bytes "a xmlns='u:' xmlns:r='" ++ bytes Rdf.space ++
      bytes "' xmlns:s='" ++ bytes Rdf.space ++
        bytes names
  let first := tag "' r:about='u:1' s:about='u:2'"
  let second := tag "' s:about='u:2' r:about='u:1'"
  let document (tag : List UInt8) : List UInt8 :=
    bytes "<" ++ tag ++ bytes "/>"
  have hOrder :
      Reordered (document first) (document second) := by
    have hPieces :
        ∀ tag ∈ [first, second],
          piecesOf (document tag) = [.emptyTag tag] := by
      decide +kernel
    unfold Reordered
    rw [hPieces first (by simp), hPieces second (by simp)]
    exact .cons (.emptyTag (by decide +kernel)) .nil
  have hParsed :
      (∀ tag ∈ [first, second],
          (parseDocument {}
            [(document tag, true)]).1.status = .finished) ∧
        (Machine.start {}).keepsContent
            (Tokenizer.start.read (document first)).events
            (Tokenizer.start.read (document second)).events =
          true ∧
        ¬ (statementsOf
            (parseDocument {}
              [(document first, true)]).2).Perm
            (statementsOf
              (parseDocument {}
                [(document second, true)]).2) := by
    decide +kernel
  have hAccepted :
      ∀ tag ∈ [first, second],
        (parseDocument {} [(document tag, true)]).1.result =
          .ok () := by
    intro tag hMember
    rw [result, error?, hParsed.1 tag hMember]
  exact hParsed.2.2
    (hClaim {} _ _ _ _ (.whole (document first))
      (.whole (document second)) hOrder
      (hAccepted first (by simp))
      (hAccepted second (by simp)) hParsed.2.1)

end Parser

end RdfXml
