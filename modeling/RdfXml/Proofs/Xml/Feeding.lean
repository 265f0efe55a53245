import RdfXml.Proofs.Xml.Reading

/-
  Feeding chunks against reading in one go.

  One feed reads a first part of the bytes that it has and
  keeps the rest: markup that is not closed yet, or the open
  end of a text.  When it fails, reading fails whatever bytes
  follow.  Runs of feeds therefore agree with reading the
  whole document.

  Main declarations:
    * `Tokenizer.KeptBack`
    * `Tokenizer.Consumed`
    * `Tokenizer.consume_consumed`
    * `Tokenizer.feed_open_ok`
    * `Tokenizer.feed_open_error`
    * `Tokenizer.feed_final`
    * `Tokenizer.feedAll`
-/

------------------------------------------------------------
-- Pieces Of One Chunk
------------------------------------------------------------

namespace RdfXml

namespace Tokenizer

/-
  What a tokenizer may keep for the next chunk: markup whose
  end is missing, or the open end of a text.
-/
def KeptBack
    (awaiting : Bool)
    (kept : List UInt8) : Prop :=
  awaiting = true ∧
      (∃ cause index, Piece.first kept = .fault cause index) ∨
    awaiting = false ∧
      ∃ raw : List UInt8,
        (∀ b ∈ raw, Piece.isTextByte b = true) ∧
          kept = raw.drop (completeTextLength raw)

theorem keptBack_nil :
    KeptBack false [] := by
  exact Or.inr ⟨rfl, [], by simp, by simp⟩

/-
  The rest is all that follows in the input.  It is not when
  the input begins with a byte order mark, which no position
  counts.
-/
def Work.Reaches
    (work : Work)
    (consumed : Nat)
    (rest : List UInt8) : Prop :=
  work.input.length = consumed + rest.length

/-
  What `consume` reads is a first part of the rest of its
  input.  It keeps nothing at the end of a document, and only
  markup where the rest does not reach the end of the input.
  When it fails, reading fails with the same settled events,
  whatever follows in a document that has not ended.
-/
def Consumed
    (work : Work)
    (t : Tokenizer)
    (consumed : Nat)
    (rest : List UInt8)
    (outcome : Outcome Nat) : Prop :=
  match outcome.result with
  | .ok count =>
      ∃ taken kept,
        rest = taken ++ kept ∧
          count = consumed + taken.length ∧
          (t.moved [] (t.offset + consumed) false).read
              taken =
            ⟨outcome.tokenizer.moved []
              (t.offset + count) false,
              outcome.events, .ok ()⟩ ∧
          outcome.tokenizer.pending = t.pending ∧
          outcome.tokenizer.offset = t.offset ∧
          KeptBack outcome.tokenizer.awaitingMarkupEnd
            kept ∧
          (work.isFinal = true → kept = []) ∧
          (¬ work.Reaches consumed rest →
            outcome.tokenizer.awaitingMarkupEnd = true ∨
              kept = [])
  | .error _ =>
      ∀ more,
        more = [] ∨
          work.isFinal = false ∧
            work.Reaches consumed rest →
        (∃ e,
          ((t.moved [] (t.offset + consumed) false).read
            (rest ++ more)).result = .error e) ∧
          Event.settled
              ((t.moved [] (t.offset + consumed) false).read
                (rest ++ more)).events =
            Event.settled outcome.events

theorem Work.reaches_drop
    (work : Work)
    (consumed : Nat)
    {length : Nat}
    {rest : List UInt8}
    (hShort : length ≤ rest.length) :
    work.Reaches (consumed + length) (rest.drop length) ↔
      work.Reaches consumed rest := by
  unfold Work.Reaches
  rw [List.length_drop]
  omega

/- Reading a piece that begins at a position. -/
theorem read_piece_moved
    {input : List UInt8}
    {piece : Piece}
    {length : Nat}
    (hFirst : Piece.first input = .piece piece length)
    (t : Tokenizer)
    (position : Nat) :
    (t.moved [] position false).read input =
      ((t.dispatch piece position).mapTokenizer
        (moved [] position false)).andThen
        (fun after _ =>
          (after.moved [] (position + length) false).read
            (input.drop length)) := by
  rw [read_piece hFirst, ← dispatch_moved]
  rfl

/- Processing goes on behind a piece that is not kept. -/
theorem consumed_piece
    {work : Work}
    {t : Tokenizer}
    {consumed length : Nat}
    {rest : List UInt8}
    {piece : Piece}
    {pieces : List (Piece × Nat)}
    (hFirst : Piece.first rest = .piece piece length)
    (hStable : ∀ more,
      more = [] ∨
        work.isFinal = false ∧ work.Reaches consumed rest →
      Piece.first (rest ++ more) = .piece piece length)
    (hNext : ∀ after,
      after.pending = t.pending →
      after.offset = t.offset →
      after.awaitingMarkupEnd = t.awaitingMarkupEnd →
      Consumed work after (consumed + length)
        (rest.drop length)
        (consume work after (consumed + length) pieces)) :
    Consumed work t consumed rest
      ((t.dispatch piece (t.offset + consumed)).andThen
        (fun t _ =>
          consume work t (consumed + length) pieces)) := by
  have hShort := (Piece.first_length hFirst).2
  have hRead : ∀ input,
      Piece.first input = .piece piece length →
        (t.moved [] (t.offset + consumed) false).read input =
          ((t.dispatch piece
              (t.offset + consumed)).mapTokenizer
            (moved [] (t.offset + consumed) false)).andThen
            (fun after _ =>
              (after.moved []
                (t.offset + consumed + length)
                false).read (input.drop length)) :=
    fun _ hInput => read_piece_moved hInput t _
  have hPending :=
    dispatch_pending t piece (t.offset + consumed)
  have hOffset :=
    dispatch_offset t piece (t.offset + consumed)
  have hAwaiting :=
    dispatch_awaiting t piece (t.offset + consumed)
  have hReach := Work.reaches_drop work consumed hShort
  generalize t.dispatch piece (t.offset + consumed) = outcome
    at hRead hPending hOffset hAwaiting ⊢
  rcases outcome with ⟨after, events, result⟩
  cases result with
  | error e =>
      intro more hMore
      rw [hRead _ (hStable more hMore)]
      exact ⟨⟨e, rfl⟩, rfl⟩
  | ok value =>
      dsimp only at hPending hOffset hAwaiting
      have hAfter :=
        hNext after hPending hOffset hAwaiting
      rw [Outcome.andThen_ok]
      unfold Consumed at hAfter ⊢
      dsimp only
      cases hResult : (consume work after
          (consumed + length) pieces).result with
      | error e =>
          simp only [hResult] at hAfter ⊢
          intro more hMore
          have hLater := hAfter more (by rwa [hReach])
          rw [hRead _ (hStable more hMore),
            List.drop_append_of_le_length hShort]
          rw [hOffset, ← Nat.add_assoc] at hLater
          exact ⟨hLater.1,
            Event.settled_append_congr rfl hLater.2⟩
      | ok count =>
          simp only [hResult] at hAfter ⊢
          rcases hAfter with
            ⟨taken, kept, hParts, hCount, hTaken, hPend,
              hOff, hKept, hFinal, hMark⟩
          have hRest : rest =
              (rest.take length ++ taken) ++ kept := by
            rw [List.append_assoc, ← hParts,
              List.take_append_drop]
          have hTake :
              (rest.take length).length = length := by
            rw [List.length_take]
            omega
          refine ⟨rest.take length ++ taken, kept, hRest, ?_,
            ?_, hPend.trans hPending, hOff.trans hOffset,
            hKept, hFinal, ?_⟩
          · rw [hCount, List.length_append, hTake,
              Nat.add_assoc]
          · have hWhole :
                Piece.first
                    (rest.take length ++ (taken ++ kept)) =
                  .piece piece (rest.take length).length := by
              rw [hTake, ← List.append_assoc, ← hRest]
              exact hFirst
            have hShorter := Piece.first_shorten hWhole
            rw [hTake] at hShorter
            rw [hRead _ hShorter, List.drop_left' hTake]
            rw [hOffset, ← Nat.add_assoc] at hTaken
            simp only [Outcome.mapTokenizer,
              Outcome.andThen_ok]
            have hMoved :
                (after.moved [] (t.offset + consumed)
                  false).moved []
                    (t.offset + consumed + length) false =
                  after.moved []
                    (t.offset + consumed + length) false :=
              rfl
            rw [hMoved, hTaken]
          · rw [← hReach]
            exact hMark

/- The complete part of a text is processed as a text. -/
theorem partialText_ok
    {t : Tokenizer}
    {raw : List UInt8}
    {position count : Nat}
    (hOk : (t.partialText raw position).result = .ok count) :
    count = completeTextLength raw ∧
      (t.partialText raw position).tokenizer = t ∧
        (count = 0 ∧
            (t.partialText raw position).events = [] ∨
          count ≠ 0 ∧
            t.dispatch (.text (raw.take count)) position =
              ⟨t, (t.partialText raw position).events,
                .ok ()⟩) := by
  unfold partialText at hOk ⊢
  dsimp only at hOk ⊢
  by_cases hNone : completeTextLength raw = 0
  · rw [if_pos hNone] at hOk ⊢
    cases hOk
    exact ⟨hNone.symm, rfl, Or.inl ⟨rfl, rfl⟩⟩
  · rw [if_neg hNone] at hOk ⊢
    cases hName :
        decodeName (raw.take (completeTextLength raw)) with
    | error e =>
        rw [hName] at hOk
        cases hOk
    | ok name =>
        rw [hName] at hOk
        dsimp only at hOk ⊢
        rcases Outcome.andThen_result_ok hOk with
          ⟨value, hText, hCount⟩
        cases hCount
        rcases dispatch_text_cases t
            (raw.take (completeTextLength raw))
            position with
          ⟨events, hSame, _⟩ | ⟨e, hError⟩
        · rw [hSame]
          exact ⟨rfl, rfl, Or.inr ⟨hNone, by
            simp [Outcome.andThen_ok, stop]⟩⟩
        · rw [hError] at hText
          cases hText

/-
  When the complete part of a text is refused, so is any text
  that begins with those bytes.
-/
theorem partialText_error
    {t : Tokenizer}
    {raw : List UInt8}
    {position : Nat}
    {e : XmlError}
    (hError :
      (t.partialText raw position).result = .error e) :
    (t.partialText raw position).events = [] ∧
      ∀ more text,
        decodeText (raw ++ more) = .ok text →
          ∃ e, t.text text = t.stop (.error e) := by
  unfold partialText at hError ⊢
  dsimp only at hError ⊢
  by_cases hNone : completeTextLength raw = 0
  · rw [if_pos hNone] at hError
    cases hError
  · rw [if_neg hNone] at hError ⊢
    cases hDecode :
        decodeText (raw.take (completeTextLength raw)) with
    | error cause =>
        have hFails : ∀ content,
            decodeText (raw.take (completeTextLength raw)) ≠
              .ok content := by
          intro content hOk
          rw [hDecode] at hOk
          cases hOk
        constructor
        · cases decodeName
              (raw.take (completeTextLength raw)) with
          | error e => rfl
          | ok name =>
              rcases dispatch_text_error hFails t position
                with ⟨e, hSame⟩
              dsimp only
              rw [hSame]
              rfl
        · intro more text hText
          rcases decodeText_complete hText with
            ⟨before, hBefore⟩
          exact absurd hBefore (hFails before)
    | ok before =>
        rcases decodeName_of_decodeText hDecode with
          ⟨name, hName⟩
        rw [hName] at hError ⊢
        dsimp only at hError ⊢
        rw [dispatch_text_ok hDecode] at hError ⊢
        rcases text_cases t before with
          ⟨_, hSame⟩ | ⟨_, _, hSame⟩ | ⟨hOpen, hBlank, hSame⟩
        · rw [hSame] at hError
          cases hError
        · rw [hSame] at hError
          cases hError
        · rw [hSame]
          refine ⟨rfl, ?_⟩
          intro more text hText
          rw [← List.take_append_drop
              (completeTextLength raw) raw,
            List.append_assoc] at hText
          rcases (decodeText_append hDecode _ _).mp hText
            with ⟨after, _, rfl⟩
          refine ⟨.textOutsideRoot, ?_⟩
          simp [text, hOpen, isWhitespaceOnly_append, hBlank]

/- The complete part of a text is read as it is processed. -/
theorem read_partialText
    {t : Tokenizer}
    {raw : List UInt8}
    {position count : Nat}
    (hRaw : ∀ b ∈ raw, Piece.isTextByte b = true)
    (hOk : (t.partialText raw position).result = .ok count) :
    (t.moved [] position false).read (raw.take count) =
      ⟨t.moved [] (position + count) false,
        (t.partialText raw position).events, .ok ()⟩ := by
  rcases partialText_ok hOk with ⟨hCount, _, hEvents⟩
  have hLength := completeTextLength_le raw
  rw [← hCount] at hLength
  rcases hEvents with ⟨hZero, hNone⟩ | ⟨hSome, hDispatch⟩
  · rw [hNone, hZero, List.take_zero, read_nil]
    rfl
  · have hTake : (raw.take count).length = count := by
      rw [List.length_take]
      omega
    have hPart :
        ∀ b ∈ raw.take count, Piece.isTextByte b = true := by
      intro b hB
      exact hRaw b (List.mem_of_mem_take hB)
    have hPartSome : raw.take count ≠ [] := by
      intro hNil
      rw [hNil] at hTake
      exact hSome hTake.symm
    rw [read_piece_moved
      (Piece.first_text_alone hPart hPartSome), hDispatch,
      List.drop_length, hTake]
    simp only [Outcome.mapTokenizer, Outcome.andThen_ok,
      read_nil, stop, List.append_nil]
    rfl

/-
  Text that reaches the end of a chunk is processed as far as
  it is complete.
-/
theorem consumed_text
    {work : Work}
    {t : Tokenizer}
    {consumed : Nat}
    {raw : List UInt8}
    (hRaw : ∀ b ∈ raw, Piece.isTextByte b = true)
    (hSome : raw ≠ [])
    (hOpen : work.isFinal = false)
    (hReach : work.Reaches consumed raw)
    (hAwaiting : t.awaitingMarkupEnd = false) :
    Consumed work t consumed raw
      ((t.partialText raw (t.offset + consumed)).andThen
        (fun t complete =>
          t.stop (.ok (consumed + complete)))) := by
  cases hResult :
      (t.partialText raw (t.offset + consumed)).result with
  | error e =>
      rcases partialText_error hResult with
        ⟨hEvents, hFails⟩
      have hBase : ∀ more text,
          decodeText (raw ++ more) = .ok text →
            ∃ e,
              (t.moved [] (t.offset + consumed) false).text
                  text =
                (t.moved [] (t.offset + consumed)
                  false).stop (.error e) := by
        intro more text hText
        rcases hFails more text hText with ⟨e, hError⟩
        refine ⟨e, ?_⟩
        rw [text_moved, hError]
        rfl
      generalize
        t.partialText raw (t.offset + consumed) = outcome
        at hResult hEvents ⊢
      rcases outcome with ⟨after, events, result⟩
      cases hResult
      cases hEvents
      intro more _
      have hRead := read_text_error hRaw hSome hBase more
      refine ⟨hRead.1, ?_⟩
      rw [hRead.2]
      rfl
  | ok count =>
      rcases partialText_ok hResult with
        ⟨hCount, hSame, _⟩
      have hTaken := read_partialText hRaw hResult
      have hLength := completeTextLength_le raw
      rw [← hCount] at hLength
      have hKept : KeptBack false (raw.drop count) := by
        rw [hCount]
        exact Or.inr ⟨rfl, raw, hRaw, rfl⟩
      have hTake : (raw.take count).length = count := by
        rw [List.length_take]
        omega
      generalize
        t.partialText raw (t.offset + consumed) = outcome
        at hResult hSame hTaken ⊢
      rcases outcome with ⟨after, events, result⟩
      cases hResult
      have hAfter : t = after := hSame.symm
      subst hAfter
      simp only [stop, Outcome.andThen_ok, List.append_nil]
      unfold Consumed
      dsimp only
      refine ⟨raw.take count, raw.drop count,
        (List.take_append_drop count raw).symm, ?_, ?_, rfl,
        rfl, ?_, ?_, ?_⟩
      · rw [hTake]
      · rw [hTaken, ← Nat.add_assoc]
      · rw [hAwaiting]
        exact hKept
      · intro hFinal
        rw [hOpen] at hFinal
        cases hFinal
      · intro hNot
        exact absurd hReach hNot

theorem consume_held
    {work : Work}
    {consumed length : Nat}
    (hOpen : work.isFinal = false)
    (hEnd : consumed + length = work.input.length)
    (t : Tokenizer)
    (raw : List UInt8)
    (rest : List (Piece × Nat)) :
    consume work t consumed ((.text raw, length) :: rest) =
      (t.partialText raw (t.offset + consumed)).andThen
        (fun t complete =>
          t.stop (.ok (consumed + complete))) := by
  simp [consume, hOpen, hEnd]

theorem consume_piece
    {work : Work}
    {consumed length : Nat}
    {piece : Piece}
    (hWhole :
      piece.isText = false ∨ work.isFinal = true ∨
        consumed + length ≠ work.input.length)
    (t : Tokenizer)
    (rest : List (Piece × Nat)) :
    consume work t consumed ((piece, length) :: rest) =
      (t.dispatch piece (t.offset + consumed)).andThen
        (fun t _ =>
          consume work t (consumed + length) rest) := by
  cases piece with
  | text raw =>
      have hNot :
          ¬ (work.isFinal = false ∧
            consumed + length = work.input.length) := by
        rintro ⟨hOpen, hEnd⟩
        rcases hWhole with hKind | hFinal | hInner
        · cases hKind
        · rw [hOpen] at hFinal
          cases hFinal
        · exact hInner hEnd
      rw [consume]
      simp only [Bool.and_eq_true, Bool.not_eq_true',
        decide_eq_true_eq]
      rw [if_neg hNot]
  | _ => rfl

/- Nothing is left when the input ends after a piece. -/
theorem consumed_end
    {work : Work}
    {t : Tokenizer}
    {consumed : Nat}
    (hAwaiting : t.awaitingMarkupEnd = false)
    (hFault : work.fault? = none) :
    Consumed work t consumed []
      (t.consumeEnd work consumed) := by
  simp only [consumeEnd, hFault]
  unfold Consumed
  refine ⟨[], [], rfl, rfl, ?_, rfl, rfl, ?_, ?_, ?_⟩
  · rw [read_nil]
    rfl
  · rw [show (t.stop (.ok consumed)).tokenizer = t from rfl,
      hAwaiting]
    exact keptBack_nil
  · intro _
    rfl
  · intro _
    exact Or.inr rfl

/- A fault that is refused stays when the rest goes on. -/
theorem first_refused_append
    {work : Work}
    {consumed index : Nat}
    {rest more : List UInt8}
    {cause : MarkupFault}
    (hFirst : Piece.first rest = .fault cause index)
    (hSuffix :
      work.Reaches consumed rest →
        work.input.drop consumed = rest)
    (hRefused :
      ¬ (!work.isFinal &&
        cause.isCutOff
          (work.input.drop (consumed + index))) = true)
    (hMore :
      more = [] ∨
        work.isFinal = false ∧ work.Reaches consumed rest) :
    Piece.first (rest ++ more) = .fault cause index := by
  rcases hMore with rfl | ⟨hOpen, hReach⟩
  · rw [List.append_nil]
    exact hFirst
  · apply Piece.first_fault_append hFirst
    rw [← hSuffix hReach, List.drop_drop]
    simpa [hOpen] using hRefused

/-
  Markup with a fault is kept back when it may be cut off, and
  otherwise refused whatever follows it.
-/
theorem consumed_fault
    {work : Work}
    {t : Tokenizer}
    {consumed : Nat}
    {rest : List UInt8}
    {cause : MarkupFault}
    {index : Nat}
    (hFirst : Piece.first rest = .fault cause index)
    (hSuffix :
      work.Reaches consumed rest →
        work.input.drop consumed = rest)
    (hFault :
      work.fault? = some (cause, consumed + index)) :
    Consumed work t consumed rest
      (t.consumeEnd work consumed) := by
  simp only [consumeEnd, hFault]
  split
  · next hHeld =>
      unfold Consumed
      refine ⟨[], rest, rfl, rfl, ?_, rfl, rfl,
        Or.inl ⟨rfl, cause, index, hFirst⟩, ?_, ?_⟩
      · rw [read_nil]
        rfl
      · intro hFinal
        simp [hFinal] at hHeld
      · intro _
        exact Or.inl rfl
  · next hRefused =>
      intro more hMore
      rw [read_fault
        (first_refused_append hFirst hSuffix hRefused hMore)]
      exact ⟨⟨_, rfl⟩, rfl⟩

/-
  A piece is processed whole unless it is text at the end of a
  chunk that is not the last.
-/
theorem piece_whole_or_held
    (work : Work)
    (piece : Piece)
    (reached : Nat) :
    (piece.isText = false ∨ work.isFinal = true ∨
        reached ≠ work.input.length) ∨
      piece.isText = true ∧ work.isFinal = false ∧
        reached = work.input.length := by
  cases piece.isText <;> cases work.isFinal <;> simp
  omega

/- A piece that is processed whole stays the first piece. -/
theorem first_whole_append
    {work : Work}
    {consumed length : Nat}
    {rest more : List UInt8}
    {piece : Piece}
    (hFirst : Piece.first rest = .piece piece length)
    (hWhole :
      piece.isText = false ∨ work.isFinal = true ∨
        consumed + length ≠ work.input.length)
    (hMore :
      more = [] ∨
        work.isFinal = false ∧ work.Reaches consumed rest) :
    Piece.first (rest ++ more) = .piece piece length := by
  have hShort := Piece.first_length hFirst
  rcases hMore with rfl | ⟨hOpen, hReach⟩
  · rw [List.append_nil]
    exact hFirst
  · apply Piece.first_append hFirst
    rcases hWhole with hKind | hFinal | hInner
    · exact Or.inl hKind
    · rw [hOpen] at hFinal
      cases hFinal
    · rw [hReach] at hInner
      right
      left
      omega

/- Text that is kept is all that is left of an input. -/
theorem first_held
    {work : Work}
    {consumed length : Nat}
    {rest raw : List UInt8}
    (hFirst : Piece.first rest = .piece (.text raw) length)
    (hEnd : consumed + length = work.input.length)
    (hInside :
      consumed + rest.length ≤ work.input.length) :
    rest = raw ∧ length = raw.length ∧ raw ≠ [] ∧
      ∀ b ∈ raw, Piece.isTextByte b = true := by
  rcases Piece.first_text hFirst with
    ⟨after, rfl, hSome, rfl, hRaw, _⟩
  have hNone : after = [] := by
    apply List.eq_nil_of_length_eq_zero
    rw [List.length_append] at hInside
    omega
  rw [hNone, List.append_nil]
  exact ⟨rfl, rfl, hSome, hRaw⟩

/- Processing the pieces of an input is reading part of it. -/
theorem consume_consumed
    {work : Work}
    {t : Tokenizer}
    {consumed limit : Nat}
    {rest : List UInt8}
    (hAwaiting : t.awaitingMarkupEnd = false)
    (hLimit : rest.length < limit)
    (hInside :
      consumed + rest.length ≤ work.input.length)
    (hSuffix :
      work.Reaches consumed rest →
        work.input.drop consumed = rest)
    (hFault :
      work.fault? =
        (Scan.ofBytesFrom limit consumed rest).fault?) :
    Consumed work t consumed rest
      (consume work t consumed
        (Scan.ofBytesFrom limit consumed rest).pieces) := by
  induction limit generalizing t consumed rest with
  | zero => omega
  | succ limit ih =>
      cases hFirst : Piece.first rest with
      | endOfInput =>
          have hRest := Piece.first_endOfInput hFirst
          subst hRest
          simp only [Scan.ofBytesFrom, hFirst] at hFault ⊢
          exact consumed_end hAwaiting hFault
      | fault cause index =>
          simp only [Scan.ofBytesFrom, hFirst] at hFault ⊢
          exact consumed_fault hFirst hSuffix hFault
      | piece piece length =>
          have hShort := Piece.first_length hFirst
          simp only [Scan.ofBytesFrom, hFirst] at hFault ⊢
          rcases piece_whole_or_held work piece
              (consumed + length) with
            hWhole | ⟨hText, hOpen, hEnd⟩
          · rw [consume_piece hWhole]
            apply consumed_piece hFirst
            · intro more hMore
              exact first_whole_append hFirst hWhole hMore
            · intro after _ _ hAfter
              apply ih (hAfter.trans hAwaiting)
              · rw [List.length_drop]
                omega
              · rw [List.length_drop]
                omega
              · intro hReach
                unfold Work.Reaches at hReach
                rw [List.length_drop] at hReach
                rw [← List.drop_drop, hSuffix (by
                  unfold Work.Reaches
                  omega)]
              · exact hFault
          · -- only text at the end of a chunk is left
            cases piece with
            | text raw =>
                rcases first_held hFirst hEnd hInside with
                  ⟨rfl, rfl, hSome, hRaw⟩
                rw [consume_held hOpen hEnd]
                exact consumed_text hRaw hSome hOpen
                  hEnd.symm hAwaiting
            | _ => cases hText

------------------------------------------------------------
-- One Chunk
------------------------------------------------------------

/- The tokenizer with nothing pending. -/
def cleared (t : Tokenizer) : Tokenizer :=
  t.moved [] t.offset false

theorem skipByteOrderMark_length (input : List UInt8) :
    (skipByteOrderMark input).length ≤ input.length := by
  unfold skipByteOrderMark
  split
  · rw [List.length_drop]
    omega
  · exact Nat.le_refl _

theorem skipByteOrderMark_same
    {input : List UInt8}
    (hLength :
      input.length = (skipByteOrderMark input).length) :
    skipByteOrderMark input = input := by
  unfold skipByteOrderMark at hLength ⊢
  split
  · next hMark =>
      rw [if_pos hMark, List.length_drop] at hLength
      have hThree := congrArg List.length hMark
      rw [List.length_take] at hThree
      simp [Utf8.byteOrderMark] at hThree
      omega
  · rfl

/- Processing an input is reading part of it. -/
theorem tokenize_consumed
    (t : Tokenizer)
    (input : List UInt8)
    (isFinal : Bool) :
    Consumed
      ⟨input, isFinal,
        (Scan.ofBytes (skipByteOrderMark input)).fault?⟩
      { t with awaitingMarkupEnd := false } 0
      (skipByteOrderMark input)
      (t.tokenize input isFinal) := by
  have hShort := skipByteOrderMark_length input
  apply consume_consumed rfl (Nat.lt_succ_self _)
  · rw [Nat.zero_add]
    exact hShort
  · intro hReach
    unfold Work.Reaches at hReach
    rw [Nat.zero_add] at hReach
    exact (skipByteOrderMark_same hReach).symm
  · rfl

/- No mark is skipped where none stands. -/
theorem skipByteOrderMark_none
    {input : List UInt8}
    (hMark : input.take 3 ≠ Utf8.byteOrderMark) :
    skipByteOrderMark input = input := by
  unfold skipByteOrderMark
  rw [if_neg hMark]

/- What a chunk does when it is not merely kept. -/
theorem feed_tokenize
    {t : Tokenizer}
    {chunk : List UInt8}
    {isFinal : Bool}
    (hFull :
      ¬ (t.awaitingMarkupEnd = true ∧ isFinal = false ∧
        byte '>' ∉ chunk)) :
    t.feed chunk isFinal =
      (tokenize { t with pending := [] }
          (t.pending ++ chunk) isFinal).andThen
        (fun after consumed =>
          (after.keep (t.pending ++ chunk) consumed).stop
            (if isFinal then
              (after.keep (t.pending ++ chunk)
                consumed).finish
            else .ok ())) := by
  unfold feed
  dsimp only
  rw [if_neg]
  simpa [and_assoc] using hFull

/- What a chunk does when it can complete no markup. -/
theorem feed_awaiting
    {t : Tokenizer}
    {chunk : List UInt8}
    (hAwaiting : t.awaitingMarkupEnd = true)
    (hChunk : byte '>' ∉ chunk) :
    t.feed chunk false =
      stop { t with pending := t.pending ++ chunk }
        (.ok ()) := by
  unfold feed
  dsimp only
  rw [if_pos]
  simp [hAwaiting, hChunk]

------------------------------------------------------------
-- Whole Documents
------------------------------------------------------------

/-
  An outcome is that of reading a whole document: it settles
  the same events, and it is no error when the document can
  be read and is complete.
-/
def ReadsAs
    {α : Type}
    (t : Tokenizer)
    (document : List UInt8)
    (outcome : Outcome α) : Prop :=
  Event.settled outcome.events =
      Event.settled (t.read document).events ∧
    ((∃ value, outcome.result = .ok value) ↔
      (t.read document).result = .ok () ∧
        (t.read document).tokenizer.finish = .ok ())

namespace ReadsAs

variable
  {α β : Type}
  {t : Tokenizer}
  {document : List UInt8}
  {outcome : Outcome α}

/- A document that cannot be read is refused. -/
theorem of_error
    {e : XmlError}
    (hError : outcome.result = .error e)
    (hRead : ∃ e, (t.read document).result = .error e)
    (hSettled :
      Event.settled (t.read document).events =
        Event.settled outcome.events) :
    t.ReadsAs document outcome := by
  rcases hRead with ⟨e', hRead⟩
  refine ⟨hSettled.symm, ?_⟩
  rw [hError, hRead]
  constructor
  · rintro ⟨value, hOk⟩
    cases hOk
  · rintro ⟨hOk, _⟩
    cases hOk

/- Only what is no error goes on, and gives another value. -/
theorem andThen_stop
    (hReads : t.ReadsAs document outcome)
    (value : β) :
    t.ReadsAs document
      (outcome.andThen (fun t _ => t.stop (.ok value))) := by
  rcases hReads with ⟨hSettled, hAccepted⟩
  rcases outcome with ⟨after, events, result⟩
  cases result with
  | error e =>
      refine ⟨hSettled, ?_⟩
      rw [← hAccepted]
      constructor
      · rintro ⟨_, hOk⟩
        cases hOk
      · rintro ⟨_, hOk⟩
        cases hOk
  | ok first =>
      rw [Outcome.andThen_ok]
      refine ⟨?_, ?_⟩
      · simp only [stop, List.append_nil]
        exact hSettled
      · rw [← hAccepted]
        constructor
        · intro _
          exact ⟨first, rfl⟩
        · intro _
          exact ⟨value, rfl⟩

/- A document may be read behind a first part of it. -/
theorem behind
    {after : Tokenizer}
    {events : List Event}
    {first : List UInt8}
    (hReads : after.ReadsAs document outcome)
    (hFirst :
      (t.read first).Agree ⟨after, events, .ok ()⟩) :
    t.ReadsAs (first ++ document)
      ⟨outcome.tokenizer, events ++ outcome.events,
        outcome.result⟩ := by
  rcases hReads with ⟨hSettled, hAccepted⟩
  have hFirstOk := (hFirst.ok_iff ()).mpr rfl
  have hAgree :=
    (read_append hFirstOk document).trans
      (hFirst.andThen _)
  rw [Outcome.andThen_ok] at hAgree
  refine ⟨?_, ?_⟩
  · refine Eq.trans ?_ hAgree.settled.symm
    exact Event.settled_append_congr rfl hSettled
  · rw [hAccepted, hAgree.ok_iff ()]
    constructor
    · rintro ⟨hOk, hComplete⟩
      refine ⟨hOk, ?_⟩
      rw [hAgree.tokenizer_eq ((hAgree.ok_iff ()).mpr hOk)]
      exact hComplete
    · rintro ⟨hOk, hComplete⟩
      refine ⟨hOk, ?_⟩
      rw [hAgree.tokenizer_eq ((hAgree.ok_iff ()).mpr hOk)]
        at hComplete
      exact hComplete

end ReadsAs

section Chunk

variable
  {t : Tokenizer}
  {chunk : List UInt8}

/-
  A chunk that does not end the document and is accepted has
  been read up to the bytes that are kept.
-/
theorem feed_open_ok
    (hMark :
      (t.pending ++ chunk).take 3 ≠ Utf8.byteOrderMark)
    (hOk : (t.feed chunk false).result = .ok ()) :
    ∃ taken,
      t.pending ++ chunk =
          taken ++ (t.feed chunk false).tokenizer.pending ∧
        t.cleared.read taken =
          ⟨(t.feed chunk false).tokenizer.cleared,
            (t.feed chunk false).events, .ok ()⟩ ∧
        (KeptBack t.awaitingMarkupEnd t.pending →
          KeptBack
            (t.feed chunk false).tokenizer.awaitingMarkupEnd
            (t.feed chunk false).tokenizer.pending) := by
  by_cases hFull :
      t.awaitingMarkupEnd = true ∧ false = false ∧
        byte '>' ∉ chunk
  · rcases hFull with ⟨hAwaiting, _, hChunk⟩
    rw [feed_awaiting hAwaiting hChunk]
    refine ⟨[], rfl, ?_, ?_⟩
    · rw [read_nil]
      rfl
    · intro hKept
      rcases hKept with
        ⟨_, cause, index, hFirst⟩ | ⟨hNot, _⟩
      · exact Or.inl ⟨hAwaiting,
          Piece.first_fault_of_no_bracket hFirst hChunk⟩
      · rw [hAwaiting] at hNot
        cases hNot
  · have hConsumed :=
      tokenize_consumed { t with pending := [] }
        (t.pending ++ chunk) false
    rw [skipByteOrderMark_none hMark] at hConsumed
    rw [feed_tokenize hFull] at hOk ⊢
    generalize
      tokenize { t with pending := [] } (t.pending ++ chunk)
        false = outcome at hConsumed hOk ⊢
    rcases outcome with ⟨after, events, result⟩
    cases result with
    | error e => cases hOk
    | ok count =>
        rcases hConsumed with
          ⟨taken, kept, hParts, hCount, hRead, hPending,
            hOffset, hAfter, _, _⟩
        dsimp only at hParts hCount hRead hOffset hAfter
        have hDrop :
            (t.pending ++ chunk).drop count = kept := by
          rw [hParts, hCount, Nat.zero_add,
            List.drop_left]
        simp only [Outcome.andThen_ok, keep, stop, hDrop]
        refine ⟨taken, hParts, ?_, fun _ => hAfter⟩
        rw [List.append_nil]
        refine Eq.trans hRead ?_
        rw [hOffset]
        rfl

/-
  When a chunk is refused, reading fails with the same
  settled events, whatever follows.
-/
theorem feed_open_error
    {e : XmlError}
    (hMark :
      (t.pending ++ chunk).take 3 ≠ Utf8.byteOrderMark)
    (hError : (t.feed chunk false).result = .error e)
    (more : List UInt8) :
    (∃ e,
      (t.cleared.read (t.pending ++ chunk ++ more)).result =
        .error e) ∧
      Event.settled
          (t.cleared.read
            (t.pending ++ chunk ++ more)).events =
        Event.settled (t.feed chunk false).events := by
  have hFull :
      ¬ (t.awaitingMarkupEnd = true ∧ false = false ∧
        byte '>' ∉ chunk) := by
    rintro ⟨hAwaiting, _, hChunk⟩
    rw [feed_awaiting hAwaiting hChunk] at hError
    cases hError
  have hConsumed :=
    tokenize_consumed { t with pending := [] }
      (t.pending ++ chunk) false
  rw [skipByteOrderMark_none hMark] at hConsumed
  rw [feed_tokenize hFull] at hError ⊢
  generalize
    tokenize { t with pending := [] } (t.pending ++ chunk)
      false = outcome at hConsumed hError ⊢
  rcases outcome with ⟨after, events, result⟩
  cases result with
  | ok count => cases hError
  | error e =>
      exact hConsumed more
        (Or.inr ⟨rfl, (Nat.zero_add _).symm⟩)

/-
  The last chunk is read whole, and the document is accepted
  when it is complete.
-/
theorem feed_final
    (t : Tokenizer)
    (chunk : List UInt8) :
    t.cleared.ReadsAs
      (skipByteOrderMark (t.pending ++ chunk))
      (t.feed chunk true) := by
  have hConsumed :=
    tokenize_consumed { t with pending := [] }
      (t.pending ++ chunk) true
  rw [feed_tokenize (by simp)]
  generalize
    tokenize { t with pending := [] } (t.pending ++ chunk)
      true = outcome at hConsumed ⊢
  generalize skipByteOrderMark (t.pending ++ chunk) = body
    at hConsumed ⊢
  rcases outcome with ⟨after, events, result⟩
  cases result with
  | error e =>
      have hRead := hConsumed [] (Or.inl rfl)
      rw [List.append_nil] at hRead
      exact ReadsAs.of_error rfl hRead.1 hRead.2
  | ok count =>
      rcases hConsumed with
        ⟨taken, kept, hParts, _, hRead, _, _, _, hNone, _⟩
      rw [hNone rfl, List.append_nil] at hParts
      have hWhole :
          t.cleared.read body =
            ⟨after.moved [] (t.offset + count) false,
              events, .ok ()⟩ := by
        rw [hParts]
        exact hRead
      unfold ReadsAs
      rw [hWhole, Outcome.andThen_ok]
      refine ⟨?_, ?_⟩
      · simp only [stop, List.append_nil]
      · constructor
        · rintro ⟨value, hOk⟩
          exact ⟨rfl, hOk⟩
        · rintro ⟨_, hComplete⟩
          exact ⟨(), hComplete⟩

end Chunk

end Tokenizer

end RdfXml
