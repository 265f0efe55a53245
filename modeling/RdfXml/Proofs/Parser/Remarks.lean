import Mathlib
import RdfXml.Proofs.Parser.CutIndependence
import RdfXml.Proofs.Xml.Remarks

/-
  Comments and instructions call nobody.

  A document that is parsed in one piece makes the same calls
  when a comment or an instruction is put into a gap of it,
  and is accepted as before.

  Main declarations:
    * `Parser.parseDocument_whole`
    * `Parser.parseDocument_remark`
-/

------------------------------------------------------------
-- Documents In One Piece
------------------------------------------------------------

namespace RdfXml

/- A remark does not make a byte order mark. -/
theorem IsRemark.not_marked
    {front back remark : List UInt8}
    (hRemark : IsRemark remark)
    (hMark : ¬ Utf8.byteOrderMark <+: front ++ back) :
    ¬ Utf8.byteOrderMark <+: front ++ (remark ++ back) := by
  intro hMarked
  have hOpen : ∃ rest, remark = byte '<' :: rest := by
    cases hRemark with
    | comment content hEnd => exact ⟨_, rfl⟩
    | instruction content hBegin hEnd hOther =>
        exact ⟨_, rfl⟩
  rcases hOpen with ⟨rest, rfl⟩
  rcases List.prefix_or_prefix_of_prefix hMarked
      (List.prefix_append front _) with
    hShort | ⟨middle, hMiddle⟩
  · exact hMark (hShort.trans (List.prefix_append _ _))
  · cases middle with
    | nil =>
        rw [List.append_nil] at hMiddle
        exact hMark (hMiddle ▸ List.prefix_append _ _)
    | cons b middle =>
        -- the mark would have an angle bracket in it
        rw [← hMiddle, List.prefix_append_right_inj]
          at hMarked
        rcases hMarked with ⟨_, hSame⟩
        have hBracket : b = byte '<' :=
          (List.cons.inj hSame).1
        have hMember : byte '<' ∈ Utf8.byteOrderMark := by
          rw [← hMiddle, hBracket]
          simp
        revert hMember
        decide

namespace Parser

/-
  The calls for a document in one piece that does not begin
  with a byte order mark, and whether it is accepted, are
  those of reading it.
-/
theorem parseDocument_whole
    (options : Options)
    {document : List UInt8}
    (hMark : ¬ Utf8.byteOrderMark <+: document) :
    callsOf (parseDocument options [(document, true)]).2 =
        callsOf
          ((Machine.start options).run
            (Tokenizer.start.read document).events).2 ∧
      ((parseDocument options [(document, true)]).1.result =
          .ok () ↔
        (Tokenizer.start.read document).result = .ok () ∧
          (Tokenizer.start.read document).tokenizer.finish =
            .ok ()) := by
  have hTake : document.take 3 ≠ Utf8.byteOrderMark :=
    fun hSame =>
      hMark (List.prefix_iff_eq_take.mpr hSame.symm)
  have hFed := Tokenizer.feed_final Tokenizer.start document
  have hInput :
      Tokenizer.start.pending ++ document = document := rfl
  rw [hInput, Tokenizer.skipByteOrderMark_none hTake] at hFed
  have hReads := hFed.andThen_stop true
  exact parseDocument_reads options
    (show [(document, true)] ++ [([], true)] =
      unmarked [] ++ (document, true) :: [([], true)] from rfl)
    hReads

/-
  A document in one piece that is accepted stays so, with the
  same calls, when a comment or an instruction is put between
  two of its pieces or inside of a text run, between two
  characters and in no reference.
-/
theorem parseDocument_remark
    (options : Options)
    {front back remark : List UInt8}
    (hMark : ¬ Utf8.byteOrderMark <+: front ++ back)
    (hAccepted :
      (parseDocument options
        [(front ++ back, true)]).1.result = .ok ())
    (hGap : Gap front back)
    (hRemark : IsRemark remark) :
    (parseDocument options
          [(front ++ (remark ++ back), true)]).1.result =
        .ok () ∧
      callsOf
          (parseDocument options
            [(front ++ (remark ++ back), true)]).2 =
        callsOf
          (parseDocument options
            [(front ++ back, true)]).2 := by
  rcases parseDocument_whole options hMark with
    ⟨hCalls, hResult⟩
  rcases parseDocument_whole options
      (hRemark.not_marked hMark) with
    ⟨hOtherCalls, hOtherResult⟩
  rcases hResult.mp hAccepted with ⟨hRead, hComplete⟩
  rcases Tokenizer.read_remark hGap hRemark hRead with
    ⟨last, hAgree⟩
  have hOtherRead := (hAgree.ok_iff ()).mpr hRead
  refine ⟨hOtherResult.mpr ⟨hOtherRead, ?_⟩, ?_⟩
  · rw [hAgree.tokenizer_eq hOtherRead]
    exact hComplete
  · rw [hOtherCalls, hCalls]
    exact congrArg callsOf
      (Machine.run_signals_of_settled hAgree.settled _)

/-
  A comment with markup in it, and an instruction that nearly
  declares the document, in the text of a property, behind a
  reference.
-/
theorem parseDocument_remark_property :
    let front := bytes "<a xmlns='u:'><p>x&amp;"
    let back := bytes "y</p></a>"
    let comment := bytes "<!--<q>&-- >-->"
    let instruction := bytes "<?xmls >?>"
    let calls : List Signal :=
      [.declared "" "u:",
        .statement ⟨"_:b1", Rdf.typeIri, .iri "u:a"⟩,
        .statement ⟨"_:b1", "u:p", .literal "x&y" "" ""⟩]
    (¬ Utf8.byteOrderMark <+: front ++ back) ∧
      (parseDocument {} [(front ++ back, true)]).1.result =
          .ok () ∧
        Gap front back ∧ IsRemark comment ∧
          IsRemark instruction ∧
            ∀ remark ∈ [comment, instruction],
              (parseDocument {}
                    [(front ++ (remark ++ back),
                      true)]).1.result = .ok () ∧
                callsOf
                    (parseDocument {}
                      [(front ++ (remark ++ back),
                        true)]).2 = calls := by
  intro front back comment instruction calls
  have hMark : ¬ Utf8.byteOrderMark <+: front ++ back := by
    decide +kernel
  have hFinished :
      (parseDocument {} [(front ++ back, true)]).1.status =
        .finished := by
    decide +kernel
  have hAccepted :
      (parseDocument {} [(front ++ back, true)]).1.result =
        .ok () := by
    rw [result, error?, hFinished]
  have hCalls :
      callsOf (parseDocument {} [(front ++ back, true)]).2 =
        calls := by
    decide +kernel
  have hFront :
      front =
        bytes "<a xmlns='u:'>" ++
          (bytes "<p>" ++ bytes "x&amp;") := by
    decide +kernel
  have hOuter :
      Piece.first
          (bytes "<a xmlns='u:'>" ++
            ((bytes "<p>" ++ bytes "x&amp;") ++ back)) =
        .piece (.startTag (bytes "a xmlns='u:'"))
          (bytes "<a xmlns='u:'>").length := by
    decide +kernel
  have hInner :
      Piece.first
          (bytes "<p>" ++ (bytes "x&amp;" ++ back)) =
        .piece (.startTag (bytes "p"))
          (bytes "<p>").length := by
    decide +kernel
  have hText :
      Piece.first
          (bytes "x&amp;" ++
            (bytes "y" ++ bytes "</p></a>")) =
        .piece (.text (bytes "x&amp;" ++ bytes "y"))
          (bytes "x&amp;" ++ bytes "y").length := by
    decide +kernel
  have hChars :
      Utf8.decode (bytes "x&amp;") = .ok "x&amp;".toList := by
    cbv
  have hReference :
      WithoutOpenReference (bytes "x&amp;") :=
    .of_getLast? (by decide +kernel)
  have hGap : Gap front back := by
    rw [hFront]
    exact .behind hOuter (.behind hInner
      (.inText hText (by decide +kernel) hChars hReference))
  have hComment : IsRemark comment :=
    .comment (bytes "<q>&-- >") (by decide +kernel)
  have hInstruction : IsRemark instruction := by
    apply IsRemark.instruction (bytes "xmls >")
    · decide +kernel
    · decide +kernel
    · rw [← Piece.isDeclaration_iff]
      decide +kernel
  have hRemarks :
      ∀ remark ∈ [comment, instruction], IsRemark remark := by
    simp [hComment, hInstruction]
  refine ⟨hMark, hAccepted, hGap, hComment, hInstruction, ?_⟩
  intro remark hMember
  rw [← hCalls]
  exact parseDocument_remark {} hMark hAccepted hGap
    (hRemarks remark hMember)

end Parser

end RdfXml
