import RdfXml.Proofs.Xml.Chunks

/-
  Waiting for the end of markup.

  While the pending bytes of a tokenizer begin with markup
  that has not fully arrived, a chunk without a closing angle
  bracket is kept unread.  Reading it would change nothing,
  except where it shows that `<!` begins no markup at all:
  reading would report that at once, waiting does not.

  Main declarations:
    * `Piece.Unfinished`
    * `Piece.isUnknown`
    * `Piece.unfinished_append`
    * `Tokenizer.feedInFull`
    * `Tokenizer.feedAll_waits`
    * `Tokenizer.feed_waiting_iff`
-/

------------------------------------------------------------
-- Unfinished Markup
------------------------------------------------------------

namespace RdfXml

namespace MarkupFault

/-
  Bytes without a closing angle bracket bring no end of an
  instruction.
-/
theorem hasInstructionEnd_append
    {content more : List UInt8}
    (hMore : byte '>' ∉ more) :
    hasInstructionEnd (content ++ more) =
      hasInstructionEnd content := by
  have hNone : ∀ rest : List UInt8,
      byte '>' ∉ rest → hasInstructionEnd rest = false := by
    intro rest hRest
    induction rest with
    | nil => rfl
    | cons b rest ih =>
        have hHead : rest.head? ≠ some (byte '>') := by
          intro hSame
          exact hRest
            (List.mem_cons_of_mem _
              (List.mem_of_head? hSame))
        have hTail : byte '>' ∉ rest := by
          intro hMember
          exact hRest (List.mem_cons_of_mem _ hMember)
        simp [hasInstructionEnd, ih hTail, hHead]
  induction content with
  | nil => exact hNone more hMore
  | cons b content ih =>
      rw [List.cons_append, hasInstructionEnd,
        hasInstructionEnd, ih]
      cases content with
      | nil =>
          have hHead : more.head? ≠ some (byte '>') := by
            intro hSame
            exact hMore (List.mem_of_head? hSame)
          simp [hHead]
      | cons c content => rfl

end MarkupFault

namespace Piece

/- The bytes begin with markup that has not fully arrived. -/
def Unfinished (input : List UInt8) : Prop :=
  ∃ cause index,
    first input = .fault cause index ∧
      cause.isCutOff (input.drop index) = true

/-
  The bytes begin with `<!` and a byte that no comment, no
  CDATA section, and no document type goes on with.
-/
def isUnknown : List UInt8 → Bool
| bracket :: bang :: b :: _ =>
    bracket == byte '<' && bang == byte '!' &&
      !(b == byte '[' || b == byte '-' ||
        b == byte 'D' || b == byte 'd')
| _ => false

theorem isUnknown_append
    {input : List UInt8}
    (hUnknown : isUnknown input = true)
    (more : List UInt8) :
    isUnknown (input ++ more) = true := by
  unfold isUnknown at hUnknown
  split at hUnknown
  · exact hUnknown
  · cases hUnknown

/- Unknown markup is refused where it begins. -/
theorem first_unknown
    {input : List UInt8}
    (hUnknown : isUnknown input = true) :
    first input = .fault .invalidBang 0 := by
  unfold isUnknown at hUnknown
  split at hUnknown
  · next bracket bang b rest =>
      simp only [Bool.and_eq_true, Bool.not_eq_true',
        Bool.or_eq_false_iff, beq_iff_eq,
        beq_eq_false_iff_ne] at hUnknown
      rcases hUnknown with
        ⟨⟨rfl, rfl⟩, ⟨⟨hCdata, hComment⟩, hLarge⟩, hSmall⟩
      rw [first_of_markup]
      simp [readMarkup, readBang, hCdata, hComment, hLarge,
        hSmall]
  · cases hUnknown

theorem unknown_not_unfinished
    {input : List UInt8}
    (hUnknown : isUnknown input = true) :
    ¬ Unfinished input := by
  rintro ⟨cause, index, hFirst, hCut⟩
  rw [first_unknown hUnknown] at hFirst
  cases hFirst
  -- only the two bytes `<!` alone are cut off
  have hTwo : input = bytes "<!" := by
    simpa [MarkupFault.isCutOff] using hCut
  rw [hTwo] at hUnknown
  revert hUnknown
  decide

/- A document type that names nothing is complete. -/
theorem readDoctype_nameless
    {content more : List UInt8}
    {index : Nat}
    (hRead :
      readDoctype (content ++ more) =
        .fault .missingDoctypeName index)
    (hMore : byte '>' ∉ more) :
    readDoctype content =
      .fault .missingDoctypeName index := by
  unfold readDoctype at hRead
  split at hRead
  · cases hRead
  · next stop hFound =>
      rcases balancedEnd?_stopsAt hFound with
        ⟨inner, rest, hParts, rfl, hInner⟩
      have hFront :
          ∃ tail, content = inner ++ byte '>' :: tail := by
        rcases List.append_eq_append_iff.mp hParts with
          ⟨middle, rfl, hTail⟩ | ⟨middle, rfl, hTail⟩
        · exact absurd (by rw [hTail]; simp) hMore
        · cases middle with
          | nil =>
              rw [List.nil_append] at hTail
              exact absurd (by rw [← hTail]; simp) hMore
          | cons b middle =>
              rw [List.cons_append] at hTail
              exact ⟨middle, by
                rw [(List.cons.inj hTail).1]⟩
      rcases hFront with ⟨tail, rfl⟩
      rw [List.append_assoc, List.cons_append] at hRead
      split at hRead
      · next hBegins =>
          split at hRead
          · next hName =>
              cases hRead
              have hStart :=
                beginsIgnoringCase_bracket (by decide)
                  hBegins tail
              simp only [List.take_left'] at hName
              simp [readDoctype, hInner, hStart, hName]
          · cases hRead
      · cases hRead

/- A document type that is not complete is cut off. -/
theorem readDoctype_fault
    {content : List UInt8}
    {cause : MarkupFault}
    {index : Nat}
    (hRead : readDoctype content = .fault cause index) :
    cause = .unclosedDoctype ∨
      cause = .missingDoctypeName := by
  unfold readDoctype at hRead
  split at hRead
  · cases hRead
    exact Or.inl rfl
  · split at hRead
    · split at hRead
      · cases hRead
        exact Or.inr rfl
      · cases hRead
    · cases hRead
      exact Or.inl rfl

/-
  Markup that begins with an exclamation mark and is not cut
  off is unknown, or was not cut off before.
-/
theorem readBang_unfinished_append
    {content more : List UInt8}
    {cause : MarkupFault}
    {index : Nat}
    (hMore : byte '>' ∉ more)
    (hRead :
      readBang (byte '!' :: (content ++ more)) =
        .fault cause index)
    (hFinal :
      cause.isCutOff
          ((byte '<' :: byte '!' :: (content ++ more)).drop
            index) = false) :
    isUnknown (byte '<' :: byte '!' :: (content ++ more)) =
        true ∨
      readBang (byte '!' :: content) =
        .fault .missingDoctypeName index := by
  cases hAll : content ++ more with
  | nil =>
      rw [hAll] at hRead hFinal
      simp only [readBang] at hRead
      cases hRead
      simp [MarkupFault.isCutOff, bytes] at hFinal
  | cons b rest =>
      rw [hAll] at hRead hFinal
      simp only [readBang, List.getElem?_cons_succ,
        List.getElem?_cons_zero] at hRead
      split at hRead
      · rw [readCdata_fault hRead] at hFinal
        cases hFinal
      · next hCdata =>
          split at hRead
          · rw [readComment_fault hRead] at hFinal
            cases hFinal
          · next hComment =>
              split at hRead
              · next hDoctype =>
                  right
                  rcases readDoctype_fault hRead with
                    rfl | rfl
                  · cases hFinal
                  · rw [← hAll, ← List.cons_append] at hRead
                    have hBefore :=
                      readDoctype_nameless hRead hMore
                    cases content with
                    | nil => cases hBefore
                    | cons c content =>
                        have hSame : c = b :=
                          (List.cons.inj hAll).1
                        simp only [readBang,
                          List.getElem?_cons_succ,
                          List.getElem?_cons_zero, hSame,
                          if_neg hCdata, if_neg hComment,
                          if_pos hDoctype]
                        rw [← hSame]
                        exact hBefore
              · next hDoctype =>
                  left
                  simp only [Bool.or_eq_true,
                    decide_eq_true_eq, not_or] at hDoctype
                  simp [isUnknown, hCdata, hComment, hDoctype]

/- An instruction without its end stays cut off. -/
theorem readInstruction_cutOff_append
    {input more content : List UInt8}
    {cause : MarkupFault}
    {index : Nat}
    (hRead : readInstruction content = .fault cause index)
    (hOpen : MarkupFault.hasInstructionEnd input = false)
    (hMore : byte '>' ∉ more) :
    cause.isCutOff ((input ++ more).drop index) = true := by
  rcases readInstruction_fault hRead with ⟨rfl, rfl⟩
  rw [MarkupFault.isCutOff, List.drop_zero,
    MarkupFault.hasInstructionEnd_append hMore, hOpen]
  rfl

/-
  Bytes without a closing angle bracket finish no markup.
  Unfinished markup stays so, unless they show that it is
  unknown.
-/
theorem unfinished_append
    {input more : List UInt8}
    (hUnfinished : Unfinished input)
    (hMore : byte '>' ∉ more) :
    Unfinished (input ++ more) ∨
      isUnknown (input ++ more) = true := by
  rcases hUnfinished with ⟨before, start, hFirst, hCut⟩
  rcases first_fault_of_no_bracket hFirst hMore with
    ⟨cause, index, hLater⟩
  cases hFinal :
      cause.isCutOff ((input ++ more).drop index) with
  | true => exact Or.inl ⟨cause, index, hLater, hFinal⟩
  | false =>
      right
      rcases first_fault hFirst with ⟨content, rfl, hRead⟩
      rw [List.cons_append] at hLater hFinal ⊢
      rw [first_of_markup] at hLater
      cases content with
      | nil =>
          -- the kind of the markup is still open
          cases more with
          | nil =>
              cases hLater
              cases hFinal
          | cons b more =>
              have hTail : byte '>' ∉ more := by
                intro hMember
                exact hMore (List.mem_cons_of_mem _ hMember)
              simp only [readMarkup, List.nil_append]
                at hLater
              split at hLater
              · next hBang =>
                  subst hBang
                  have hKind :=
                    @readBang_unfinished_append [] more cause
                      index hTail hLater hFinal
                  rcases hKind with hUnknown | hNameless
                  · exact hUnknown
                  · cases hNameless
              · split at hLater
                · have hCutOff :=
                    @readInstruction_cutOff_append
                      [byte '<'] _ _ _ _ hLater rfl hMore
                  exact absurd hCutOff
                    (Bool.eq_false_iff.mp hFinal)
                · rw [readTag_fault hLater] at hFinal
                  cases hFinal
      | cons b content =>
          simp only [readMarkup, List.cons_append]
            at hRead hLater
          split at hLater
          · next hBang =>
              subst hBang
              rw [if_pos rfl] at hRead
              rcases readBang_unfinished_append hMore hLater
                  hFinal with hUnknown | hNameless
              · exact hUnknown
              · rw [hNameless] at hRead
                cases hRead
                cases hCut
          · next hBang =>
              rw [if_neg hBang] at hRead
              split at hLater
              · next hQuestion =>
                  rw [if_pos hQuestion] at hRead
                  rcases readInstruction_fault hRead with
                    ⟨rfl, rfl⟩
                  have hOpen :
                      MarkupFault.hasInstructionEnd
                          (byte '<' :: b :: content) =
                        false := by
                    simpa [MarkupFault.isCutOff] using hCut
                  have hCutOff :=
                    readInstruction_cutOff_append hLater hOpen
                      hMore
                  exact absurd hCutOff
                    (Bool.eq_false_iff.mp hFinal)
              · rw [readTag_fault hLater] at hFinal
                cases hFinal

end Piece

------------------------------------------------------------
-- Waiting Tokenizers
------------------------------------------------------------

namespace Tokenizer

/-
  What a tokenizer waits with: unfinished markup, or `<!` with
  bytes behind it that show it to be unknown.
-/
def WaitsWith (input : List UInt8) : Prop :=
  Piece.Unfinished input ∨ Piece.isUnknown input = true

theorem waitsWith_append
    {input more : List UInt8}
    (hWaits : WaitsWith input)
    (hMore : byte '>' ∉ more) :
    WaitsWith (input ++ more) := by
  rcases hWaits with hUnfinished | hUnknown
  · exact Piece.unfinished_append hUnfinished hMore
  · exact Or.inr (Piece.isUnknown_append hUnknown more)

/-
  When the pieces of an input end in unfinished markup, it
  begins behind the bytes that became events.
-/
theorem consume_unfinished
    {work : Work}
    {t : Tokenizer}
    {consumed limit count : Nat}
    {rest : List UInt8}
    (hAwaiting : t.awaitingMarkupEnd = false)
    (hLimit : rest.length < limit)
    (hSuffix : work.input.drop consumed = rest)
    (hFault :
      work.fault? =
        (Scan.ofBytesFrom limit consumed rest).fault?)
    (hOk :
      (consume work t consumed
        (Scan.ofBytesFrom limit consumed
          rest).pieces).result = .ok count)
    (hAfter :
      (consume work t consumed
        (Scan.ofBytesFrom limit consumed
          rest).pieces).tokenizer.awaitingMarkupEnd = true) :
    Piece.Unfinished (work.input.drop count) := by
  induction limit generalizing t consumed rest with
  | zero => omega
  | succ limit ih =>
      cases hFirst : Piece.first rest with
      | endOfInput =>
          simp only [Scan.ofBytesFrom, hFirst, consume,
            consumeEnd] at hFault hAfter
          rw [hFault] at hAfter
          simp [stop, hAwaiting] at hAfter
      | fault cause index =>
          simp only [Scan.ofBytesFrom, hFirst, consume,
            consumeEnd] at hFault hOk hAfter
          rw [hFault] at hOk hAfter
          dsimp only at hOk hAfter
          split at hOk
          · next hHeld =>
              cases hOk
              rw [hSuffix]
              refine ⟨cause, index, hFirst, ?_⟩
              rw [← hSuffix, List.drop_drop]
              simp only [Bool.and_eq_true] at hHeld
              exact hHeld.2
          · cases hOk
      | piece piece length =>
          have hShort := Piece.first_length hFirst
          simp only [Scan.ofBytesFrom, hFirst]
            at hFault hOk hAfter
          rcases piece_whole_or_held work piece
              (consumed + length) with
            hWhole | ⟨hText, hOpen, hEnd⟩
          · rw [consume_piece hWhole] at hOk hAfter
            have hSame :=
              dispatch_awaiting t piece (t.offset + consumed)
            generalize
              t.dispatch piece (t.offset + consumed) = outcome
              at hOk hAfter hSame
            rcases outcome with ⟨after, events, result⟩
            cases result with
            | error e => cases hOk
            | ok value =>
                refine ih (hSame.trans hAwaiting) ?_ ?_ hFault
                  hOk hAfter
                · rw [List.length_drop]
                  omega
                · rw [← hSuffix, List.drop_drop]
          · -- text that is kept leaves nothing to wait for
            cases piece with
            | text raw =>
                rw [consume_held hOpen hEnd] at hOk hAfter
                rcases Outcome.andThen_result_ok hOk with
                  ⟨complete, hText, _⟩
                have hSame := (partialText_ok hText).2.1
                simp only [Outcome.andThen, hText, hSame,
                  stop] at hAfter
                rw [hAwaiting] at hAfter
                cases hAfter
            | _ => cases hText

/- What is left of an input when its end is awaited. -/
theorem tokenize_unfinished
    {t : Tokenizer}
    {input : List UInt8}
    {isFinal : Bool}
    {count : Nat}
    (hMark : input.take 3 ≠ Utf8.byteOrderMark)
    (hOk : (t.tokenize input isFinal).result = .ok count)
    (hAfter :
      (t.tokenize input
        isFinal).tokenizer.awaitingMarkupEnd = true) :
    Piece.Unfinished (input.drop count) := by
  unfold tokenize at hOk hAfter
  rw [skipByteOrderMark_none hMark] at hOk hAfter
  exact consume_unfinished rfl (Nat.lt_succ_self _) rfl rfl
    hOk hAfter

/- A chunk that is accepted leaves what is waited with. -/
theorem feed_waits
    {t : Tokenizer}
    {chunk : List UInt8}
    (hMark :
      (t.pending ++ chunk).take 3 ≠ Utf8.byteOrderMark)
    (hBefore :
      t.awaitingMarkupEnd = true → WaitsWith t.pending)
    (hOk : (t.feed chunk false).result = .ok ())
    (hAfter :
      (t.feed chunk false).tokenizer.awaitingMarkupEnd =
        true) :
    WaitsWith (t.feed chunk false).tokenizer.pending := by
  by_cases hFull :
      t.awaitingMarkupEnd = true ∧ false = false ∧
        byte '>' ∉ chunk
  · rcases hFull with ⟨hAwaiting, _, hChunk⟩
    rw [feed_awaiting hAwaiting hChunk]
    exact waitsWith_append (hBefore hAwaiting) hChunk
  · rw [feed_tokenize hFull] at hOk hAfter ⊢
    rcases Outcome.andThen_result_ok hOk with
      ⟨count, hCount, _⟩
    have hUnfinished :=
      fun hAwaiting => tokenize_unfinished hMark hCount hAwaiting
    generalize
      tokenize { t with pending := [] } (t.pending ++ chunk)
        false = outcome at hCount hAfter hUnfinished ⊢
    rcases outcome with ⟨after, events, result⟩
    cases hCount
    exact Or.inl (hUnfinished hAfter)

/-
  After chunks that are all accepted, a tokenizer that waits
  has something to wait with.
-/
theorem feedAll_waits
    {t : Tokenizer}
    {pieces : List (List UInt8)}
    {ended : Bool}
    (hDocument : Markless (t.pending ++ pieces.flatten))
    (hBefore :
      t.awaitingMarkupEnd = true → WaitsWith t.pending)
    (hOk :
      (t.feedAll (unmarked pieces)).result = .ok ended)
    (hAfter :
      (t.feedAll
        (unmarked pieces)).tokenizer.awaitingMarkupEnd =
          true) :
    WaitsWith
      (t.feedAll (unmarked pieces)).tokenizer.pending := by
  induction pieces generalizing t with
  | nil => exact hBefore hAfter
  | cons piece pieces ih =>
      have hStep : t.feedAll (unmarked (piece :: pieces)) =
          (t.feed piece false).andThen (fun t _ =>
            t.feedAll (unmarked pieces)) := rfl
      rw [hStep] at hOk hAfter ⊢
      rw [List.flatten_cons, ← List.append_assoc]
        at hDocument
      rcases Outcome.andThen_result_ok hOk with
        ⟨value, hFirst, hRest⟩
      have hMark :=
        Markless.start [] _ _ hDocument
      rcases feed_open_ok hMark hFirst with
        ⟨taken, hParts, _, _⟩
      have hWaits := feed_waits hMark hBefore hFirst
      rw [hParts, List.append_assoc] at hDocument
      generalize t.feed piece false = outcome
        at hFirst hRest hAfter hWaits hDocument ⊢
      rcases outcome with ⟨after, events, result⟩
      cases hFirst
      rw [Outcome.andThen_ok] at hAfter ⊢
      exact ih hDocument.suffix hWaits hRest hAfter

------------------------------------------------------------
-- Chunks Read In Full
------------------------------------------------------------

/-
  Feed a chunk that does not end the document without asking
  whether it can end the markup that is awaited.
-/
def feedInFull
    (t : Tokenizer)
    (chunk : List UInt8) : Outcome Unit :=
  let input := t.pending ++ chunk
  (tokenize { t with pending := [] } input false).andThen
    (fun t consumed =>
      (t.keep input consumed).stop (.ok ()))

/- No byte order mark stands where markup begins. -/
theorem waitsWith_unmarked
    {input : List UInt8}
    (hWaits : WaitsWith input) :
    input.take 3 ≠ Utf8.byteOrderMark := by
  have hFirst :
      ∃ cause index,
        Piece.first input = .fault cause index := by
    rcases hWaits with ⟨cause, index, hFirst, _⟩ | hUnknown
    · exact ⟨cause, index, hFirst⟩
    · exact ⟨_, _, Piece.first_unknown hUnknown⟩
  rcases hFirst with ⟨cause, index, hFirst⟩
  rcases Piece.first_fault hFirst with ⟨content, rfl, _⟩
  intro hMark
  rw [List.take_succ_cons, Utf8.byteOrderMark] at hMark
  exact absurd (List.cons.inj hMark).1 (by decide)

/- An input that begins with a fault delivers nothing. -/
theorem tokenize_fault
    {t : Tokenizer}
    {input : List UInt8}
    {isFinal : Bool}
    {cause : MarkupFault}
    {index : Nat}
    (hMark : input.take 3 ≠ Utf8.byteOrderMark)
    (hFirst : Piece.first input = .fault cause index) :
    t.tokenize input isFinal =
      (t.moved t.pending t.offset false).consumeEnd
        ⟨input, isFinal, some (cause, index)⟩ 0 := by
  unfold tokenize
  rw [skipByteOrderMark_none hMark]
  simp [Scan.ofBytes, Scan.ofBytesFrom, hFirst, consume,
    moved]

/- Unfinished markup is kept for the next chunk. -/
theorem tokenize_waits
    {t : Tokenizer}
    {input : List UInt8}
    (hUnfinished : Piece.Unfinished input) :
    t.tokenize input false =
      stop (t.moved t.pending t.offset true) (.ok 0) := by
  have hMark := waitsWith_unmarked (Or.inl hUnfinished)
  rcases hUnfinished with ⟨cause, index, hFirst, hCut⟩
  rw [tokenize_fault hMark hFirst]
  simp [consumeEnd, hCut, moved]

/- Unknown markup is an error at its angle bracket. -/
theorem tokenize_unknown
    {t : Tokenizer}
    {input : List UInt8}
    (hUnknown : Piece.isUnknown input = true) :
    t.tokenize input false =
      stop (t.moved t.pending t.offset false)
        (.error (.syntaxAt t.offset (.markup .invalidBang))) := by
  have hMark := waitsWith_unmarked (Or.inr hUnknown)
  have hFirst := Piece.first_unknown hUnknown
  have hFinal :
      MarkupFault.invalidBang.isCutOff
        (input.drop 0) = false := by
    rw [← Bool.not_eq_true]
    intro hCut
    exact Piece.unknown_not_unfinished hUnknown
      ⟨_, _, hFirst, hCut⟩
  rw [tokenize_fault hMark hFirst]
  rw [List.drop_zero] at hFinal
  simp [consumeEnd, hFinal, moved]

/-
  A chunk without a closing angle bracket is kept unread while
  the end of markup is awaited.  Reading the pending bytes and
  the chunk would keep them too, deliver nothing, and go on
  waiting, so that the chunk has the same effect, unless they
  begin with `<!` and a byte that shows it to be unknown
  markup.  Reading would then report that markup where it
  begins, and waiting passes over it.
-/
theorem feed_waiting_iff
    {pieces : List (List UInt8)}
    {chunk : List UInt8}
    (hMark : ¬ Utf8.byteOrderMark <:+: pieces.flatten)
    (hOk :
      (Tokenizer.start.feedAll (unmarked pieces)).result =
        .ok false)
    (hAwaiting :
      (Tokenizer.start.feedAll
        (unmarked pieces)).tokenizer.awaitingMarkupEnd = true)
    (hChunk : byte '>' ∉ chunk) :
    let t :=
      (Tokenizer.start.feedAll (unmarked pieces)).tokenizer
    let input := t.pending ++ chunk
    let scanned :=
      tokenize { t with pending := [] } input false
    t.feed chunk false =
        stop { t with pending := input } (.ok ()) ∧
      (t.feed chunk false = t.feedInFull chunk ↔
        Piece.isUnknown input = false) ∧
      (Piece.isUnknown input = false →
        scanned = stop { t with pending := [] } (.ok 0)) ∧
      (Piece.isUnknown input = true →
        scanned.events = [] ∧
          scanned.result =
            .error
              (.syntaxAt t.offset (.markup .invalidBang))) := by
  have hDocument :
      Markless (Tokenizer.start.pending ++ pieces.flatten) :=
    hMark
  have hStart :
      Tokenizer.start.awaitingMarkupEnd = true →
        WaitsWith Tokenizer.start.pending := by
    intro hBefore
    cases hBefore
  have hWaits :=
    feedAll_waits hDocument hStart hOk hAwaiting
  generalize
    (Tokenizer.start.feedAll (unmarked pieces)).tokenizer = t
    at hAwaiting hWaits
  have hInput := waitsWith_append hWaits hChunk
  have hFeed := feed_awaiting hAwaiting hChunk
  dsimp only
  unfold feedInFull
  dsimp only
  rw [hFeed]
  cases hUnknown : Piece.isUnknown (t.pending ++ chunk) with
  | false =>
      have hUnfinished :
          Piece.Unfinished (t.pending ++ chunk) := by
        rcases hInput with hUnfinished | hOther
        · exact hUnfinished
        · rw [hUnknown] at hOther
          cases hOther
      have hScan :
          tokenize { t with pending := [] }
              (t.pending ++ chunk) false =
            stop { t with pending := [] } (.ok 0) := by
        rw [tokenize_waits hUnfinished]
        simp [moved, hAwaiting]
      rw [hScan]
      simp [stop, Outcome.andThen_ok, keep]
  | true =>
      rw [tokenize_unknown hUnknown]
      simp [stop, Outcome.andThen]

/-
  A chunk behind `<!`: an `X` shows unknown markup, a hyphen
  may begin a comment.
-/
theorem feed_waiting_bang :
    (¬ Utf8.byteOrderMark <:+: [bytes "<!"].flatten) ∧
      byte '>' ∉ bytes "X" ∧ byte '>' ∉ bytes "-" ∧
        (let t :=
          (Tokenizer.start.feedAll
            (unmarked [bytes "<!"])).tokenizer
        t.feed (bytes "X") false ≠ t.feedInFull (bytes "X") ∧
          t.feed (bytes "-") false =
            t.feedInFull (bytes "-")) := by
  have hMark :
      ¬ Utf8.byteOrderMark <:+: [bytes "<!"].flatten :=
    Markless.of_not_mem (by decide)
  have hX : byte '>' ∉ bytes "X" := by decide
  have hHyphen : byte '>' ∉ bytes "-" := by decide
  have hUnknown :=
    feed_waiting_iff hMark (by rfl) (by decide) hX
  have hComment :=
    feed_waiting_iff hMark (by rfl) (by decide) hHyphen
  refine ⟨hMark, hX, hHyphen, ?_, ?_⟩
  · intro hSame
    exact absurd (hUnknown.2.1.mp hSame) (by decide)
  · exact hComment.2.1.mpr (by decide)

end Tokenizer

end RdfXml
