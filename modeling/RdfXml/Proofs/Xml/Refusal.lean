import Mathlib
import RdfXml.Proofs.Xml.Chunks

/-
  What a document is refused for.

  `Tokenizer.refusal?` reads a document in one go and tells
  what it is refused for, and where that begins.  A document
  that is fed in chunks is refused with the same error, unless
  a text run is refused: how much of it is at hand decides
  what is found wrong with it.

  Main declarations:
    * `Refusal`
    * `Tokenizer.refusal?`
    * `Tokenizer.refusal?_append`
    * `Tokenizer.RefusedAt`
    * `Tokenizer.refusal?_place`
    * `Tokenizer.PlacedIn`
    * `Tokenizer.feed_final_refusal`
    * `Tokenizer.feed_open_refusal`
    * `Tokenizer.feedAll_refusal`
    * `Tokenizer.feedAll_error_cut`
-/

------------------------------------------------------------
-- Refusals
------------------------------------------------------------

namespace RdfXml

/-
  What a document is refused for: a complete piece or markup
  that cannot be read, each with the position where it begins,
  or that the document ends too early.
-/
inductive Refusal where
| piece (piece : Piece) (position : Nat) (error : XmlError)
| markup (cause : MarkupFault) (position index : Nat)
| ending (error : XmlError)
deriving DecidableEq, Repr

namespace Refusal

/- The error that a refusal is reported with. -/
def error : Refusal → XmlError
| .piece _ _ e => e
| .markup cause position index =>
    .syntaxAt (position + index) (.markup cause)
| .ending e => e

/- A text run is refused. -/
def isText : Refusal → Bool
| .piece refused _ _ => refused.isText
| .markup _ _ _ => false
| .ending _ => false

/- The refusal, unless it is that of a text run. -/
def unlessText (r : Refusal) : Option Refusal :=
  if r.isText then none else some r

/- The result of a document with this refusal, if any. -/
def result : Option Refusal → Except XmlError Unit
| some r => .error r.error
| none => .ok ()

theorem unlessText_eq_some
    {r other : Refusal}
    (hSame : r.unlessText = some other) :
    r = other := by
  unfold unlessText at hSame
  split at hSame
  · cases hSame
  · exact Option.some.inj hSame

end Refusal

namespace Tokenizer

------------------------------------------------------------
-- Reading Up To A Refusal
------------------------------------------------------------

/- What a document that ends here is refused for. -/
def endRefusal? (t : Tokenizer) : Option Refusal :=
  match t.finish with
  | .error e => some (.ending e)
  | .ok () => none

/-
  What a byte list is refused for when it is read in one go as
  the rest of a document.  The offset is that of the next
  piece.
-/
def refusal?
    (t : Tokenizer)
    (input : List UInt8) : Option Refusal :=
  match _ : Piece.first input with
  | .endOfInput => t.endRefusal?
  | .fault cause index => some (.markup cause t.offset index)
  | .piece piece length =>
      match (t.dispatch piece t.offset).result with
      | .error e => some (.piece piece t.offset e)
      | .ok () =>
          refusal?
            ((t.dispatch piece t.offset).tokenizer.moved []
              (t.offset + length) false)
            (input.drop length)
termination_by input.length
decreasing_by
  rename_i hFirst
  have hLength := Piece.first_length hFirst
  simp only [List.length_drop]
  omega

theorem refusal?_nil (t : Tokenizer) :
    t.refusal? [] = t.endRefusal? := by
  rw [refusal?]
  rfl

theorem refusal?_fault
    {input : List UInt8}
    {cause : MarkupFault}
    {index : Nat}
    (hFirst : Piece.first input = .fault cause index)
    (t : Tokenizer) :
    t.refusal? input =
      some (.markup cause t.offset index) := by
  rw [refusal?]
  split
  · next hOther =>
      rw [hFirst] at hOther
      cases hOther
  · next hOther =>
      rw [hFirst] at hOther
      cases hOther
      rfl
  · next hOther =>
      rw [hFirst] at hOther
      cases hOther

theorem refusal?_piece
    {input : List UInt8}
    {piece : Piece}
    {length : Nat}
    (hFirst : Piece.first input = .piece piece length)
    (t : Tokenizer) :
    t.refusal? input =
      match (t.dispatch piece t.offset).result with
      | .error e => some (.piece piece t.offset e)
      | .ok () =>
          refusal?
            ((t.dispatch piece t.offset).tokenizer.moved []
              (t.offset + length) false)
            (input.drop length) := by
  rw [refusal?]
  split
  · next hOther =>
      rw [hFirst] at hOther
      cases hOther
  · next hOther =>
      rw [hFirst] at hOther
      cases hOther
  · next hOther =>
      rw [hFirst] at hOther
      cases hOther
      rfl

theorem refusal?_piece_ok
    {t : Tokenizer}
    {input : List UInt8}
    {piece : Piece}
    {length : Nat}
    (hFirst : Piece.first input = .piece piece length)
    (hOk : (t.dispatch piece t.offset).result = .ok ()) :
    t.refusal? input =
      refusal?
        ((t.dispatch piece t.offset).tokenizer.moved []
          (t.offset + length) false)
        (input.drop length) := by
  rw [refusal?_piece hFirst, hOk]

theorem refusal?_piece_error
    {t : Tokenizer}
    {input : List UInt8}
    {piece : Piece}
    {length : Nat}
    {e : XmlError}
    (hFirst : Piece.first input = .piece piece length)
    (hError : (t.dispatch piece t.offset).result = .error e) :
    t.refusal? input = some (.piece piece t.offset e) := by
  rw [refusal?_piece hFirst, hError]

section Moved

variable
  {t : Tokenizer}
  {input : List UInt8}
  {piece : Piece}
  {length position : Nat}

/- A piece that begins at a position is refused there. -/
theorem refusal?_moved_error
    {e : XmlError}
    (hFirst : Piece.first input = .piece piece length)
    (hError : (t.dispatch piece position).result = .error e) :
    (t.moved [] position false).refusal? input =
      some (.piece piece position e) := by
  apply refusal?_piece_error hFirst
  have hMoved :=
    dispatch_moved [] position false t piece position
  exact (congrArg Outcome.result hMoved).trans hError

/- A refusal is looked for behind a piece at a position. -/
theorem refusal?_moved_ok
    (hFirst : Piece.first input = .piece piece length)
    (hOk : (t.dispatch piece position).result = .ok ()) :
    (t.moved [] position false).refusal? input =
      ((t.dispatch piece position).tokenizer.moved []
        (position + length) false).refusal?
          (input.drop length) := by
  have hMoved :=
    dispatch_moved [] position false t piece position
  have hResult :=
    (congrArg Outcome.result hMoved).trans hOk
  have hTokenizer := congrArg Outcome.tokenizer hMoved
  rw [refusal?_piece_ok hFirst hResult]
  refine Eq.trans
    (congrArg
      (fun after : Tokenizer =>
        (after.moved [] (position + length) false).refusal?
          (input.drop length)) hTokenizer) ?_
  rfl

end Moved

/- What can be read is refused for its end only. -/
theorem refusal?_read_ok
    {t : Tokenizer}
    {input : List UInt8}
    (hOk : (t.read input).result = .ok ()) :
    t.refusal? input =
      (t.read input).tokenizer.endRefusal? := by
  induction hLength : input.length using Nat.strongRecOn
    generalizing t input with
  | ind count ih =>
      cases hFirst : Piece.first input with
      | endOfInput =>
          rw [Piece.first_endOfInput hFirst, refusal?_nil,
            read_nil]
          rfl
      | fault cause index =>
          rw [read_fault hFirst] at hOk
          cases hOk
      | piece piece length =>
          have hShort := Piece.first_length hFirst
          rw [read_piece hFirst] at hOk ⊢
          rcases Outcome.andThen_result_ok hOk with
            ⟨value, hValue, hRest⟩
          rw [refusal?_piece_ok hFirst hValue]
          rw [ih (input.drop length).length
            (by simp only [List.length_drop]; omega)
            hRest rfl]
          simp [Outcome.andThen, hValue]

------------------------------------------------------------
-- Refusals Of Two Parts
------------------------------------------------------------

/- A text that goes on is refused as a text in either part. -/
theorem refusal?_text_append
    {t : Tokenizer}
    {raw second : List UInt8}
    (hRaw : ∀ b ∈ raw, Piece.isTextByte b = true)
    (hSome : raw ≠ [])
    (hOk : (t.read raw).result = .ok ())
    (hSecond :
      ∃ b ∈ second.head?, Piece.isTextByte b = true) :
    (t.refusal? (raw ++ second)).map Refusal.unlessText =
      ((t.read raw).tokenizer.refusal? second).map
        Refusal.unlessText := by
  rcases Piece.text_split second with
    ⟨more, rest, rfl, hMore, hRest⟩
  have hGoesOn : more ≠ [] := by
    rintro rfl
    rcases hSecond with ⟨b, hHead, hText⟩
    rw [List.nil_append] at hHead
    rw [hRest b hHead] at hText
    cases hText
  have hAlone := Piece.first_text_alone hRaw hSome
  have hLater :=
    Piece.first_text_append hMore hGoesOn hRest
  have hWhole :=
    Piece.first_text_append_append hRaw hMore hSome hRest
  rw [read_piece hAlone] at hOk ⊢
  rcases Outcome.andThen_result_ok hOk with
    ⟨value, hValue, _⟩
  have hSame :
      (t.dispatch (.text raw) t.offset).tokenizer = t := by
    rcases dispatch_text_cases t raw t.offset with
      ⟨events, hText, _⟩ | ⟨e, hText⟩
    · rw [hText]
    · rw [hText] at hValue
      cases hValue
  have hAfter :
      ((t.dispatch (.text raw) t.offset).andThen
        (fun after _ =>
          (after.moved [] (t.offset + raw.length)
            false).read (raw.drop raw.length))).tokenizer =
        t.moved [] (t.offset + raw.length) false := by
    simp only [Outcome.andThen, hValue, List.drop_length,
      read_nil, hSame]
    rfl
  rw [hAfter]
  have hParts :=
    dispatch_text_append hValue more
      (t.offset + raw.length)
  simp only [Outcome.andThen, hValue, hSame] at hParts
  unfold Outcome.Agree at hParts
  cases hFirst :
      (t.dispatch (.text (raw ++ more)) t.offset).result with
  | error e =>
      cases hMoreResult :
          (t.dispatch (.text more)
            (t.offset + raw.length)).result with
      | ok value =>
          simp only [hFirst, hMoreResult] at hParts
      | error e' =>
          rw [refusal?_piece_error hWhole hFirst,
            refusal?_moved_error hLater hMoreResult]
          rfl
  | ok value =>
      cases hMoreResult :
          (t.dispatch (.text more)
            (t.offset + raw.length)).result with
      | error e' =>
          simp only [hFirst, hMoreResult] at hParts
      | ok value' =>
          simp only [hFirst, hMoreResult] at hParts
          rw [refusal?_piece_ok hWhole hFirst,
            refusal?_moved_ok hLater hMoreResult,
            hParts.2.1, ← List.append_assoc,
            List.drop_left' rfl, List.drop_left' rfl,
            List.length_append, Nat.add_assoc]

/-
  A document whose first part can be read is refused for what
  the second part is refused for behind it, unless that is a
  text run.
-/
theorem refusal?_append
    {t : Tokenizer}
    {first : List UInt8}
    (hOk : (t.read first).result = .ok ())
    (second : List UInt8) :
    (t.refusal? (first ++ second)).map Refusal.unlessText =
      ((t.read first).tokenizer.refusal? second).map
        Refusal.unlessText := by
  induction hLength : first.length using Nat.strongRecOn
    generalizing t first with
  | ind count ih =>
      cases hFirst : Piece.first first with
      | endOfInput =>
          rw [Piece.first_endOfInput hFirst, read_nil]
          rfl
      | fault cause index =>
          rw [read_fault hFirst] at hOk
          cases hOk
      | piece piece length =>
          by_cases hSame :
              piece.isText = false ∨
                length < first.length ∨
                  ∀ b ∈ second.head?,
                    Piece.isTextByte b = false
          · -- the piece ends where it ended before
            have hShort := Piece.first_length hFirst
            rw [read_piece hFirst] at hOk ⊢
            rcases Outcome.andThen_result_ok hOk with
              ⟨value, hValue, hRest⟩
            rw [refusal?_piece_ok
                (Piece.first_append hFirst hSame) hValue,
              List.drop_append_of_le_length hShort.2,
              ih (first.drop length).length
                (by simp only [List.length_drop]; omega)
                hRest rfl]
            simp [Outcome.andThen, hValue]
          · -- the piece is text that goes on
            cases piece with
            | text raw =>
                rcases Piece.first_text hFirst with
                  ⟨rest, rfl, hSome, rfl, hRaw, _⟩
                have hNone : rest = [] := by
                  cases rest with
                  | nil => rfl
                  | cons b rest =>
                      exact absurd
                        (Or.inr (Or.inl (by simp))) hSame
                subst hNone
                rw [List.append_nil] at hOk ⊢
                apply refusal?_text_append hRaw hSome hOk
                simpa [Piece.isText] using hSame
            | _ => exact absurd (Or.inl rfl) hSame

/- What is refused behind a first part that can be read. -/
theorem refusal?_behind
    {t : Tokenizer}
    {first second : List UInt8}
    {r : Refusal}
    (hOk : (t.read first).result = .ok ())
    (hRefusal : t.refusal? (first ++ second) = some r)
    (hText : r.isText = false) :
    (t.read first).tokenizer.refusal? second = some r := by
  have hParts := refusal?_append hOk second
  have hSame : r.unlessText = some r := by
    simp [Refusal.unlessText, hText]
  rw [hRefusal, Option.map_some, hSame] at hParts
  rcases Option.map_eq_some_iff.mp hParts.symm with
    ⟨other, hOther, hEqual⟩
  rw [hOther, Refusal.unlessText_eq_some hEqual]

------------------------------------------------------------
-- Refusals Of One Chunk
------------------------------------------------------------

/- A text that is refused is refused whatever follows it. -/
theorem refusal?_text
    {t : Tokenizer}
    {raw : List UInt8}
    (hRaw : ∀ b ∈ raw, Piece.isTextByte b = true)
    (hSome : raw ≠ [])
    (hFails : ∀ more text,
      decodeText (raw ++ more) = .ok text →
        ∃ e, t.text text = t.stop (.error e))
    (position : Nat)
    (more : List UInt8) :
    ∃ r,
      (t.moved [] position false).refusal? (raw ++ more) =
          some r ∧
        r.isText = true := by
  rcases Piece.text_split more with
    ⟨text, rest, rfl, hText, hRest⟩
  have hWhole :=
    Piece.first_text_append_append hRaw hText hSome hRest
  have hError : ∃ e,
      (t.dispatch (.text (raw ++ text)) position).result =
        .error e := by
    cases hDecode : decodeText (raw ++ text) with
    | ok content =>
        rcases hFails text content hDecode with ⟨e, hSame⟩
        rw [dispatch_text_ok hDecode, hSame]
        exact ⟨e, rfl⟩
    | error cause =>
        rcases dispatch_text_refused hDecode t position with
          ⟨e, hSame⟩
        rw [hSame]
        exact ⟨e, rfl⟩
  rcases hError with ⟨e, hError⟩
  exact ⟨_, refusal?_moved_error hWhole hError, rfl⟩

/-
  When the pieces of an input are refused, so is any document
  that goes on as the rest of the input does: for the same
  error, or for a text run that was not at hand as a whole.
-/
theorem consume_refusal
    {work : Work}
    {t : Tokenizer}
    {consumed limit : Nat}
    {rest more : List UInt8}
    {e : XmlError}
    (hLimit : rest.length < limit)
    (hSuffix : work.input.drop consumed = rest)
    (hReach : work.Reaches consumed rest)
    (hFault :
      work.fault? =
        (Scan.ofBytesFrom limit consumed rest).fault?)
    (hMore : more = [] ∨ work.isFinal = false)
    (hError :
      (consume work t consumed
        (Scan.ofBytesFrom limit consumed
          rest).pieces).result = .error e) :
    ∃ r,
      (t.moved [] (t.offset + consumed) false).refusal?
          (rest ++ more) = some r ∧
        (r.error = e ∨
          r.isText = true ∧ work.isFinal = false) := by
  induction limit generalizing t consumed rest with
  | zero => omega
  | succ limit ih =>
      have hFollows :
          more = [] ∨
            work.isFinal = false ∧
              work.Reaches consumed rest :=
        hMore.imp_right (fun hOpen => ⟨hOpen, hReach⟩)
      cases hFirst : Piece.first rest with
      | endOfInput =>
          simp only [Scan.ofBytesFrom, hFirst, consume,
            consumeEnd] at hFault hError
          rw [hFault] at hError
          cases hError
      | fault cause index =>
          simp only [Scan.ofBytesFrom, hFirst, consume,
            consumeEnd] at hFault hError
          rw [hFault] at hError
          dsimp only at hError
          split at hError
          · cases hError
          · next hRefused =>
              cases hError
              refine ⟨.markup cause (t.offset + consumed) index,
                refusal?_fault
                  (first_refused_append hFirst
                    (fun _ => hSuffix) hRefused hFollows) _,
                Or.inl ?_⟩
              rw [Refusal.error, Nat.add_assoc]
      | piece piece length =>
          have hShort := Piece.first_length hFirst
          simp only [Scan.ofBytesFrom, hFirst]
            at hFault hError
          rcases piece_whole_or_held work piece
              (consumed + length) with
            hWhole | ⟨hText, hOpen, hEnd⟩
          · rw [consume_piece hWhole] at hError
            have hStable :=
              first_whole_append hFirst hWhole hFollows
            have hOffset :=
              dispatch_offset t piece (t.offset + consumed)
            cases hResult :
                (t.dispatch piece
                  (t.offset + consumed)).result with
            | error e' =>
                simp only [Outcome.andThen, hResult,
                  Except.error.injEq] at hError
                exact ⟨.piece piece (t.offset + consumed) e',
                  refusal?_moved_error hStable hResult,
                  Or.inl hError⟩
            | ok value =>
                simp only [Outcome.andThen, hResult] at hError
                rw [refusal?_moved_ok hStable hResult,
                  List.drop_append_of_le_length hShort.2]
                have hLess :
                    (rest.drop length).length < limit := by
                  rw [List.length_drop]
                  omega
                have hNext :=
                  ih hLess
                    (by rw [← hSuffix, List.drop_drop])
                    ((Work.reaches_drop work consumed
                      hShort.2).mpr hReach)
                    hFault hError
                rwa [hOffset, ← Nat.add_assoc] at hNext
          · -- only text at the end of a chunk is left
            cases piece with
            | text raw =>
                rw [consume_held hOpen hEnd] at hError
                rcases first_held hFirst hEnd
                    (Nat.le_of_eq hReach.symm) with
                  ⟨rfl, rfl, hSome, hRaw⟩
                cases hPartial :
                    (t.partialText rest
                      (t.offset + consumed)).result with
                | ok count =>
                    simp only [Outcome.andThen,
                      hPartial] at hError
                    cases hError
                | error e' =>
                    rcases refusal?_text hRaw hSome
                        (partialText_error hPartial).2
                        (t.offset + consumed) more with
                      ⟨r, hRefusal, hKind⟩
                    exact ⟨r, hRefusal,
                      Or.inr ⟨hKind, hOpen⟩⟩
            | _ => cases hText

/- When an input is refused, so is what it begins. -/
theorem tokenize_refusal
    {t : Tokenizer}
    {input more : List UInt8}
    {isFinal : Bool}
    {e : XmlError}
    (hMark : input.take 3 ≠ Utf8.byteOrderMark)
    (hMore : more = [] ∨ isFinal = false)
    (hError : (t.tokenize input isFinal).result = .error e) :
    ∃ r,
      t.cleared.refusal? (input ++ more) = some r ∧
        (r.error = e ∨ r.isText = true ∧ isFinal = false) := by
  unfold tokenize at hError
  rw [skipByteOrderMark_none hMark] at hError
  exact consume_refusal (Nat.lt_succ_self _) rfl
    (Nat.zero_add _).symm rfl hMore hError

/- The last chunk is refused for what is at hand. -/
theorem feed_final_refusal
    {t : Tokenizer}
    {chunk : List UInt8}
    (hMark :
      (t.pending ++ chunk).take 3 ≠ Utf8.byteOrderMark) :
    (t.feed chunk true).result =
      Refusal.result
        (t.cleared.refusal? (t.pending ++ chunk)) := by
  have hConsumed :=
    tokenize_consumed { t with pending := [] }
      (t.pending ++ chunk) true
  have hRefusal : ∀ e,
      (tokenize { t with pending := [] }
        (t.pending ++ chunk) true).result = .error e →
        ∃ r,
          t.cleared.refusal? (t.pending ++ chunk ++ []) =
              some r ∧
            (r.error = e ∨
              r.isText = true ∧ true = false) := by
    intro e hError
    exact tokenize_refusal
      (t := { t with pending := [] }) hMark (Or.inl rfl)
      hError
  rw [skipByteOrderMark_none hMark] at hConsumed
  rw [feed_tokenize (by simp)]
  generalize
    tokenize { t with pending := [] } (t.pending ++ chunk)
      true = outcome at hConsumed hRefusal ⊢
  rcases outcome with ⟨after, events, result⟩
  cases result with
  | error e =>
      rcases hRefusal e rfl with
        ⟨r, hSome, hSame | ⟨_, hOpen⟩⟩
      · rw [List.append_nil] at hSome
        rw [hSome, Refusal.result, hSame]
        rfl
      · cases hOpen
  | ok count =>
      rcases hConsumed with
        ⟨taken, kept, hParts, _, hRead, _, _, _, hNone, _⟩
      rw [hNone rfl, List.append_nil] at hParts
      have hWhole :
          t.cleared.read (t.pending ++ chunk) =
            ⟨after.moved [] (t.offset + count) false,
              events, .ok ()⟩ := by
        rw [hParts]
        exact hRead
      have hOk :
          (t.cleared.read (t.pending ++ chunk)).result =
            .ok () := by
        rw [hWhole]
      rw [refusal?_read_ok hOk, hWhole, Outcome.andThen_ok]
      have hFinish :
          (after.keep (t.pending ++ chunk) count).finish =
            (after.moved [] (t.offset + count)
              false).finish :=
        rfl
      simp only [stop, if_true, hFinish, endRefusal?]
      cases (after.moved [] (t.offset + count)
          false).finish with
      | error e => rfl
      | ok value => rfl

/-
  When a chunk is refused that does not end the document, so
  is the document, whatever follows: for the same error, or
  for a text run.
-/
theorem feed_open_refusal
    {t : Tokenizer}
    {chunk : List UInt8}
    {e : XmlError}
    (hMark :
      (t.pending ++ chunk).take 3 ≠ Utf8.byteOrderMark)
    (hError : (t.feed chunk false).result = .error e)
    (more : List UInt8) :
    ∃ r,
      t.cleared.refusal? (t.pending ++ chunk ++ more) =
          some r ∧
        (r.error = e ∨ r.isText = true) := by
  have hFull :
      ¬ (t.awaitingMarkupEnd = true ∧ false = false ∧
        byte '>' ∉ chunk) := by
    rintro ⟨hAwaiting, _, hChunk⟩
    rw [feed_awaiting hAwaiting hChunk] at hError
    cases hError
  rw [feed_tokenize hFull] at hError
  cases hScan :
      (tokenize { t with pending := [] }
        (t.pending ++ chunk) false).result with
  | ok count =>
      simp [Outcome.andThen, hScan, stop] at hError
  | error e' =>
      simp only [Outcome.andThen, hScan,
        Except.error.injEq] at hError
      subst hError
      have hMore : more = [] ∨ false = false := Or.inr rfl
      rcases tokenize_refusal hMark hMore hScan with
        ⟨r, hRefusal, hSame | ⟨hText, _⟩⟩
      · exact ⟨r, hRefusal, Or.inl hSame⟩
      · exact ⟨r, hRefusal, Or.inr hText⟩

------------------------------------------------------------
-- Refusals Of Several Chunks
------------------------------------------------------------

/-
  A document that is refused for anything but a text run is
  refused with that error however it is cut into chunks.
-/
theorem feedAll_refusal
    {t : Tokenizer}
    {pieces : List (List UInt8)}
    {last : List UInt8}
    {r : Refusal}
    (hDocument :
      Markless (t.pending ++ (pieces.flatten ++ last)))
    (hRefusal :
      t.cleared.refusal?
        (t.pending ++ (pieces.flatten ++ last)) = some r)
    (hText : r.isText = false) :
    (t.feedAll
        (unmarked pieces ++ [(last, true)])).result =
      .error r.error := by
  induction pieces generalizing t with
  | nil =>
      rw [List.flatten_nil, List.nil_append]
        at hDocument hRefusal
      have hMark :
          (t.pending ++ last).take 3 ≠
            Utf8.byteOrderMark := by
        apply Markless.start [] _ []
        rw [List.append_nil]
        exact hDocument
      have hFinal := feed_final_refusal hMark
      rw [hRefusal, Refusal.result] at hFinal
      have hStep :
          t.feedAll (unmarked [] ++ [(last, true)]) =
            (t.feed last true).andThen (fun t _ =>
              t.stop (.ok true)) := rfl
      rw [hStep]
      simp [Outcome.andThen, hFinal]
  | cons piece pieces ih =>
      have hStep :
          t.feedAll
              (unmarked (piece :: pieces) ++
                [(last, true)]) =
            (t.feed piece false).andThen (fun t _ =>
              t.feedAll
                (unmarked pieces ++ [(last, true)])) := rfl
      rw [List.flatten_cons, List.append_assoc,
        ← List.append_assoc] at hDocument hRefusal
      have hMark := Markless.start [] _ _ hDocument
      rw [hStep]
      cases hFirst : (t.feed piece false).result with
      | error e =>
          rcases feed_open_refusal hMark hFirst
              (pieces.flatten ++ last) with
            ⟨other, hOther, hSame⟩
          rw [hRefusal] at hOther
          cases hOther
          rcases hSame with rfl | hKind
          · simp [Outcome.andThen, hFirst]
          · rw [hText] at hKind
            cases hKind
      | ok value =>
          rcases feed_open_ok hMark hFirst with
            ⟨taken, hParts, hRead, _⟩
          rw [hParts, List.append_assoc]
            at hDocument hRefusal
          have hBehind :=
            refusal?_behind (by rw [hRead]) hRefusal hText
          rw [hRead] at hBehind
          simp only [Outcome.andThen, hFirst]
          exact ih hDocument.suffix hBehind

end Tokenizer

------------------------------------------------------------
-- Positions Of Errors
------------------------------------------------------------

/- An error that carries no other position than this one. -/
def XmlError.PlacedAt
    (position : Nat)
    (e : XmlError) : Prop :=
  ∀ other cause, e = .syntaxAt other cause → other = position

/- An error that carries no position. -/
def XmlError.Unplaced (e : XmlError) : Prop :=
  ∀ position cause, e ≠ .syntaxAt position cause

theorem XmlError.Unplaced.placedAt
    {e : XmlError}
    (hUnplaced : e.Unplaced)
    (position : Nat) :
    e.PlacedAt position :=
  fun other cause hSame => absurd hSame (hUnplaced other cause)

/- A list is refused for one of its members. -/
theorem mapM_error
    {α β ε : Type}
    {f : α → Except ε β}
    {list : List α}
    {e : ε}
    (hError : list.mapM f = .error e) :
    ∃ a ∈ list, f a = .error e := by
  induction list with
  | nil => cases hError
  | cons a list ih =>
      rw [List.mapM_cons] at hError
      cases hHead : f a with
      | error e' =>
          rw [hHead] at hError
          cases hError
          exact ⟨a, List.mem_cons_self, hHead⟩
      | ok b =>
          rw [hHead] at hError
          cases hTail : list.mapM f with
          | error e' =>
              rw [hTail] at hError
              cases hError
              rcases ih hTail with ⟨other, hMember, hOther⟩
              exact ⟨other, List.mem_cons_of_mem _ hMember,
                hOther⟩
          | ok rest =>
              rw [hTail] at hError
              cases hError

theorem decodeName_unplaced
    {raw : List UInt8}
    {e : XmlError}
    (hError : decodeName raw = .error e) :
    e.Unplaced := by
  unfold decodeName at hError
  split at hError
  · cases hError
  · cases hError
    simp [XmlError.Unplaced]

theorem validQName_unplaced
    {text : String}
    {e : XmlError}
    (hError : validQName text = .error e) :
    e.Unplaced := by
  unfold validQName at hError
  dsimp only at hError
  split at hError
  · cases hError
    simp [XmlError.Unplaced]
  · split at hError
    · cases hError
    · cases hError
      simp [XmlError.Unplaced]

theorem faultAt_placedAt
    {α : Type}
    {position : Nat}
    {result : Except XmlFault α}
    {e : XmlError}
    (hError : faultAt position result = .error e) :
    e.PlacedAt position := by
  cases result with
  | ok value => cases hError
  | error cause =>
      cases hError
      intro other _ hSame
      cases hSame
      rfl

theorem boundOrError_unplaced
    {result : Except String Name}
    {e : XmlError}
    (hError : boundOrError result = .error e) :
    e.Unplaced := by
  unfold boundOrError at hError
  split at hError
  · cases hError
  · cases hError
    simp [XmlError.Unplaced]

theorem decodeTagName_unplaced
    {content : List UInt8}
    {e : XmlError}
    (hError : decodeTagName content = .error e) :
    e.Unplaced := by
  unfold decodeTagName at hError
  cases hName : decodeName (tagNameBytes content) with
  | error e' =>
      rw [hName] at hError
      cases hError
      exact decodeName_unplaced hName
  | ok name =>
      rw [hName] at hError
      exact validQName_unplaced hError

/- An attribute is refused where its tag begins. -/
theorem TagAttribute.ofRaw_placedAt
    {position : Nat}
    {raw : RawAttribute}
    {e : XmlError}
    (hError : TagAttribute.ofRaw position raw = .error e) :
    e.PlacedAt position := by
  unfold TagAttribute.ofRaw at hError
  cases hKey : decodeName raw.key with
  | error e' =>
      rw [hKey] at hError
      cases hError
      exact (decodeName_unplaced hKey).placedAt position
  | ok key =>
      rw [hKey] at hError
      cases hValue :
          faultAt position (decodeText raw.value) with
      | error e' =>
          rw [hValue] at hError
          cases hError
          exact faultAt_placedAt hValue
      | ok value =>
          rw [hValue] at hError
          simp only [bind, Except.bind,
            TagAttribute.ofParts] at hError
          split at hError
          · cases hError
          · split at hError
            · split at hError
              · cases hError
              · cases hError
                intro other _ hSame
                cases hSame
            · cases hValid : validQName key with
              | ok name =>
                  rw [hValid] at hError
                  cases hError
              | error e' =>
                  rw [hValid] at hError
                  cases hError
                  exact (validQName_unplaced
                    hValid).placedAt position

theorem decodeTagAttributes_placedAt
    {position : Nat}
    {content : List UInt8}
    {e : XmlError}
    (hError :
      decodeTagAttributes position content = .error e) :
    e.PlacedAt position := by
  unfold decodeTagAttributes decodeAttributes at hError
  dsimp only at hError
  generalize
    RawAttribute.read (tagNameBytes content).length
      (content.drop (tagNameBytes content).length) = list
    at hError
  cases hList :
      list.1.mapM (TagAttribute.ofRaw position) with
  | error e' =>
      rw [hList] at hError
      cases hError
      rcases mapM_error hList with ⟨raw, _, hRaw⟩
      exact TagAttribute.ofRaw_placedAt hRaw
  | ok attributes =>
      rw [hList] at hError
      simp only [bind, Except.bind] at hError
      split at hError
      · cases hError
        intro other _ hSame
        cases hSame
      · cases hError

namespace Tokenizer

theorem resolveStartTag_unplaced
    {t : Tokenizer}
    {name : QName}
    {attributes : List TagAttribute}
    {e : XmlError}
    (hError : t.resolveStartTag name attributes = .error e) :
    e.Unplaced := by
  unfold resolveStartTag at hError
  cases hName : t.elementName name with
  | error e' =>
      rw [hName] at hError
      cases hError
      exact boundOrError_unplaced hName
  | ok resolved =>
      rw [hName] at hError
      simp only [bind, Except.bind] at hError
      split at hError
      · next hOthers =>
          cases hError
          rcases mapM_error hOthers with ⟨part, _, hPart⟩
          unfold resolveAttribute at hPart
          cases hAttribute : t.attributeName part.1 with
          | ok name =>
              rw [hAttribute] at hPart
              cases hPart
          | error e' =>
              rw [hAttribute] at hPart
              cases hPart
              exact boundOrError_unplaced hAttribute
      · cases hError

/- A start tag is refused where it begins. -/
theorem startTag_placedAt
    {t : Tokenizer}
    {content : List UInt8}
    {position : Nat}
    {e : XmlError}
    (hError :
      (t.startTag content position).result = .error e) :
    e.PlacedAt position := by
  unfold startTag at hError
  cases hEnter : t.enterRoot with
  | error e' =>
      rw [hEnter] at hError
      cases hError
      unfold enterRoot at hEnter
      split at hEnter
      · cases hEnter
      · split at hEnter
        · cases hEnter
          intro other _ hSame
          cases hSame
        · cases hEnter
  | ok entered =>
      rw [hEnter] at hError
      dsimp only at hError
      cases hName : decodeTagName content with
      | error e' =>
          rw [hName] at hError
          cases hError
          exact (decodeTagName_unplaced hName).placedAt _
      | ok name =>
          rw [hName] at hError
          dsimp only at hError
          cases hAttributes :
              decodeTagAttributes position content with
          | error e' =>
              rw [hAttributes] at hError
              cases hError
              exact decodeTagAttributes_placedAt hAttributes
          | ok attributes =>
              rw [hAttributes] at hError
              dsimp only at hError
              split at hError
              · next hTag =>
                  cases hError
                  exact (resolveStartTag_unplaced
                    hTag).placedAt _
              · cases hError

/- An end tag is refused without a position. -/
theorem endTag_unplaced
    {t : Tokenizer}
    {raw : List UInt8}
    {e : XmlError}
    (hError : (t.endTag raw).result = .error e) :
    e.Unplaced := by
  unfold endTag at hError
  cases hName : decodeName raw with
  | error e' =>
      rw [hName] at hError
      cases hError
      exact decodeName_unplaced hName
  | ok found =>
      rw [hName] at hError
      dsimp only at hError
      split at hError
      · cases hError
        simp [XmlError.Unplaced]
      · split at hError
        · split at hError
          · next hResolve =>
              cases hError
              exact boundOrError_unplaced hResolve
          · cases hError
        · cases hError
          simp [XmlError.Unplaced]

end Tokenizer

namespace Piece

/-
  The pieces whose errors carry the position where the piece
  begins, text runs apart.
-/
def isPlaced : Piece → Bool
| .startTag _ => true
| .emptyTag _ => true
| .declaration _ => true
| _ => false

end Piece

namespace Tokenizer

theorem text_unplaced
    {t : Tokenizer}
    {content : String}
    {e : XmlError}
    (hError : (t.text content).result = .error e) :
    e.Unplaced := by
  unfold text at hError
  split at hError
  · cases hError
  · split at hError
    · cases hError
    · cases hError
      simp [XmlError.Unplaced]

/-
  An error of a piece carries the position where the piece
  begins, and only tags, declarations and text runs have
  errors with a position.
-/
theorem dispatch_placed
    {t : Tokenizer}
    {piece : Piece}
    {position other : Nat}
    {cause : XmlFault}
    (hText : piece.isText = false)
    (hError :
      (t.dispatch piece position).result =
        .error (.syntaxAt other cause)) :
    other = position ∧ piece.isPlaced = true := by
  unfold dispatch at hError
  cases piece with
  | text raw => cases hText
  | startTag content =>
      exact ⟨startTag_placedAt hError other cause rfl, rfl⟩
  | emptyTag content =>
      refine ⟨?_, rfl⟩
      dsimp only at hError
      cases hStart : (t.startTag content position).result with
      | error e =>
          simp only [Outcome.andThen, hStart,
            Except.error.injEq] at hError
          exact startTag_placedAt hStart other cause hError
      | ok value =>
          simp only [Outcome.andThen, hStart] at hError
          exact absurd rfl (endTag_unplaced hError other cause)
  | endTag name =>
      exact absurd rfl (endTag_unplaced hError other cause)
  | cdata raw =>
      dsimp only at hError
      split at hError
      · next hName =>
          cases hError
          exact absurd rfl
            (decodeName_unplaced hName other cause)
      · exact absurd rfl (text_unplaced hError other cause)
  | declaration content =>
      refine ⟨?_, rfl⟩
      simp only [stop, checkEncoding] at hError
      split at hError
      · split at hError
        · cases hError
        · cases hError
      · split at hError
        · cases hError
          rfl
        · cases hError
  | instruction => cases hError
  | comment => cases hError
  | doctype => cases hError

/-
  A fault is at the angle bracket of its markup, unless the
  markup is a document type that names nothing.
-/
theorem first_fault_index
    {input : List UInt8}
    {cause : MarkupFault}
    {index : Nat}
    (hFirst : Piece.first input = .fault cause index)
    (hCause : cause ≠ .missingDoctypeName) :
    index = 0 := by
  rcases Piece.first_fault hFirst with ⟨content, rfl, hRead⟩
  unfold Piece.readMarkup Piece.readBang Piece.readCdata
    Piece.readComment Piece.readDoctype Piece.readInstruction
    Piece.readTag Piece.closed at hRead
  dsimp only at hRead
  repeat' split at hRead
  all_goals cases hRead
  all_goals first | rfl | exact absurd rfl hCause

/-
  Where a document is refused: the bytes in front of that
  place can be read, and what begins there is the piece that
  is refused behind them, or the markup that cannot be read.
  Otherwise all of the document can be read.
-/
def RefusedAt
    (t : Tokenizer)
    (input : List UInt8) : Refusal → Prop
| .piece piece position e =>
    ∃ front rest length,
      input = front ++ rest ∧
        position = t.offset + front.length ∧
        (t.read front).result = .ok () ∧
        Piece.first rest = .piece piece length ∧
        ((t.read front).tokenizer.dispatch piece
          position).result = .error e
| .markup cause position index =>
    ∃ front rest,
      input = front ++ rest ∧
        position = t.offset + front.length ∧
        (t.read front).result = .ok () ∧
        Piece.first rest = .fault cause index
| .ending e =>
    (t.read input).result = .ok () ∧
      (t.read input).tokenizer.finish = .error e

/- A first part that goes on behind an accepted piece. -/
theorem read_take_piece
    {t : Tokenizer}
    {input front rest : List UInt8}
    {piece : Piece}
    {length : Nat}
    (hFirst : Piece.first input = .piece piece length)
    (hOk : (t.dispatch piece t.offset).result = .ok ())
    (hDrop : input.drop length = front ++ rest) :
    let after :=
      (t.dispatch piece t.offset).tokenizer.moved []
        (t.offset + length) false
    let whole := t.read (input.take length ++ front)
    whole.result = (after.read front).result ∧
      whole.tokenizer = (after.read front).tokenizer := by
  have hShort := Piece.first_length hFirst
  have hTake : (input.take length).length = length := by
    rw [List.length_take]
    omega
  have hWhole :
      Piece.first
          (input.take length ++ (front ++ rest)) =
        .piece piece (input.take length).length := by
    rw [hTake, ← hDrop, List.take_append_drop]
    exact hFirst
  have hFront := Piece.first_shorten hWhole
  rw [hTake] at hFront
  dsimp only
  rw [read_piece hFront, List.drop_left' hTake]
  unfold Outcome.andThen
  rw [hOk]
  exact ⟨rfl, rfl⟩

/- A refusal behind an accepted piece is one of the whole. -/
theorem RefusedAt.behind
    {t : Tokenizer}
    {input : List UInt8}
    {piece : Piece}
    {length : Nat}
    {r : Refusal}
    (hFirst : Piece.first input = .piece piece length)
    (hOk : (t.dispatch piece t.offset).result = .ok ())
    (hLater :
      RefusedAt
        ((t.dispatch piece t.offset).tokenizer.moved []
          (t.offset + length) false)
        (input.drop length) r) :
    t.RefusedAt input r := by
  have hShort := Piece.first_length hFirst
  have hLength : ∀ front : List UInt8,
      t.offset + length + front.length =
        t.offset + (input.take length ++ front).length := by
    intro front
    rw [List.length_append, List.length_take]
    omega
  have hParts : ∀ front rest : List UInt8,
      input.drop length = front ++ rest →
        input = (input.take length ++ front) ++ rest := by
    intro front rest hDrop
    rw [List.append_assoc, ← hDrop, List.take_append_drop]
  cases r with
  | piece refused position e =>
      rcases hLater with
        ⟨front, rest, other, hDrop, hPosition, hRead, hOther,
          hError⟩
      rcases read_take_piece hFirst hOk hDrop with
        ⟨hResult, hAfter⟩
      refine ⟨input.take length ++ front, rest, other,
        hParts _ _ hDrop, hPosition.trans (hLength front),
        hResult.trans hRead, hOther, ?_⟩
      rw [hAfter]
      exact hError
  | markup cause position index =>
      rcases hLater with
        ⟨front, rest, hDrop, hPosition, hRead, hOther⟩
      rcases read_take_piece hFirst hOk hDrop with
        ⟨hResult, _⟩
      exact ⟨input.take length ++ front, rest,
        hParts _ _ hDrop, hPosition.trans (hLength front),
        hResult.trans hRead, hOther⟩
  | ending e =>
      rcases hLater with ⟨hRead, hFinish⟩
      rcases read_take_piece hFirst hOk
          (List.append_nil _).symm with
        ⟨hResult, hAfter⟩
      rw [List.take_append_drop] at hResult hAfter
      refine ⟨hResult.trans hRead, ?_⟩
      rw [hAfter]
      exact hFinish

theorem refusal?_place
    {t : Tokenizer}
    {input : List UInt8}
    {r : Refusal}
    (hRefusal : t.refusal? input = some r) :
    t.RefusedAt input r := by
  induction hLength : input.length using Nat.strongRecOn
    generalizing t input with
  | ind count ih =>
      cases hFirst : Piece.first input with
      | endOfInput =>
          rw [Piece.first_endOfInput hFirst, refusal?_nil]
            at hRefusal
          rw [Piece.first_endOfInput hFirst]
          unfold endRefusal? at hRefusal
          split at hRefusal
          · next e hFinish =>
              cases hRefusal
              refine ⟨?_, ?_⟩
              · rw [read_nil]
                rfl
              · rw [read_nil]
                exact hFinish
          · cases hRefusal
      | fault cause index =>
          rw [refusal?_fault hFirst] at hRefusal
          cases hRefusal
          refine ⟨[], input, rfl, rfl, ?_, hFirst⟩
          rw [read_nil]
          rfl
      | piece piece length =>
          have hShort := Piece.first_length hFirst
          cases hResult :
              (t.dispatch piece t.offset).result with
          | error e =>
              rw [refusal?_piece_error hFirst hResult]
                at hRefusal
              cases hRefusal
              refine ⟨[], input, length, rfl, rfl, ?_, hFirst,
                ?_⟩
              · rw [read_nil]
                rfl
              · rw [read_nil]
                exact hResult
          | ok value =>
              rw [refusal?_piece_ok hFirst hResult]
                at hRefusal
              have hShorter :
                  (input.drop length).length < count := by
                rw [List.length_drop]
                omega
              exact RefusedAt.behind hFirst hResult
                (ih _ hShorter hRefusal rfl)

/- A document is complete or it ends without a position. -/
theorem finish_unplaced
    {t : Tokenizer}
    {e : XmlError}
    (hError : t.finish = .error e) :
    e.Unplaced := by
  unfold finish at hError
  split at hError
  · cases hError
    simp [XmlError.Unplaced]
  · split at hError
    · cases hError
      simp [XmlError.Unplaced]
    · cases hError

/-
  The position in the error of a refusal is where the markup
  that is refused begins: an angle bracket in front of which
  all bytes can be read.  Behind them, the tag or declaration
  that begins there is refused with this very error, or there
  is markup that cannot be read.  Only in a document type that
  names nothing is the position behind the bracket.
-/
def PlacedIn
    (document : List UInt8)
    (position : Nat)
    (cause : XmlFault) : Refusal → Prop
| .piece piece start _ =>
    let front := Tokenizer.start.read (document.take start)
    position = start ∧ piece.isPlaced = true ∧
      document[start]? = some (byte '<') ∧
      front.result = .ok () ∧
      (∃ length,
        Piece.first (document.drop start) =
          .piece piece length) ∧
      (front.tokenizer.dispatch piece start).result =
        .error (.syntaxAt position cause)
| .markup fault start index =>
    position = start + index ∧ cause = .markup fault ∧
      document[start]? = some (byte '<') ∧
      (Tokenizer.start.read (document.take start)).result =
        .ok () ∧
      Piece.first (document.drop start) =
        .fault fault index ∧
      (fault ≠ .missingDoctypeName → index = 0)
| .ending _ => False

theorem placedIn_of_refusal
    {document : List UInt8}
    {r : Refusal}
    {position : Nat}
    {cause : XmlFault}
    (hRefusal : Tokenizer.start.refusal? document = some r)
    (hText : r.isText = false)
    (hError : r.error = .syntaxAt position cause) :
    PlacedIn document position cause r := by
  have hPlace := refusal?_place hRefusal
  cases r with
  | ending e =>
      exact absurd hError (finish_unplaced hPlace.2 _ _)
  | piece piece start e =>
      rcases hPlace with
        ⟨front, rest, length, rfl, hStart, hRead, hFirst,
          hResult⟩
      have hSame : start = front.length :=
        hStart.trans (Nat.zero_add _)
      have hPosition : e = .syntaxAt position cause := hError
      subst hSame hPosition
      rcases dispatch_placed hText hResult with
        ⟨rfl, hPlaced⟩
      rcases Piece.first_markup hFirst hText with
        ⟨inner, others, rfl, _⟩
      unfold PlacedIn
      dsimp only
      rw [List.take_left, List.drop_left]
      exact ⟨rfl, hPlaced, by simp, hRead,
        ⟨length, hFirst⟩, hResult⟩
  | markup fault start index =>
      rcases hPlace with
        ⟨front, rest, rfl, hStart, hRead, hFirst⟩
      have hSame : start = front.length :=
        hStart.trans (Nat.zero_add _)
      subst hSame
      cases hError
      rcases Piece.first_fault hFirst with
        ⟨content, rfl, _⟩
      unfold PlacedIn
      dsimp only
      rw [List.take_left, List.drop_left]
      exact ⟨rfl, rfl, by simp, hRead, hFirst,
        first_fault_index hFirst⟩

/-
  A document in one piece is refused for its refusal.  When
  that is no text run, the document is refused with the same
  error however it is cut, and a position in that error is
  that of the markup which is refused, behind bytes that can
  be read.
-/
theorem feedAll_error_cut
    {document : List UInt8}
    (hMark : ¬ Utf8.byteOrderMark <:+: document) :
    (Tokenizer.start.feed document true).result =
        Refusal.result (Tokenizer.start.refusal? document) ∧
      ∀ r : Refusal,
        Tokenizer.start.refusal? document = some r →
        r.isText = false →
        (∀ pieces : List (List UInt8),
          pieces.flatten = document →
            (Tokenizer.start.feedAll
                (unmarked pieces ++ [([], true)])).result =
              .error r.error) ∧
          ∀ position cause,
            r.error = .syntaxAt position cause →
              PlacedIn document position cause r := by
  have hStart :
      (Tokenizer.start.pending ++ document).take 3 ≠
        Utf8.byteOrderMark := by
    apply Markless.start [] _ []
    rw [List.append_nil]
    exact hMark
  refine ⟨feed_final_refusal hStart, ?_⟩
  intro r hRefusal hText
  refine ⟨?_, ?_⟩
  · intro pieces hCut
    have hDocument :
        Tokenizer.start.pending ++ (pieces.flatten ++ []) =
          document := by
      rw [List.append_nil]
      exact hCut
    apply feedAll_refusal _ _ hText
    · rw [hDocument]
      exact hMark
    · rw [hDocument]
      exact hRefusal
  · intro position cause hError
    exact placedIn_of_refusal hRefusal hText hError

/-
  A start tag with a reference that names nothing, behind a
  text, in a document that is cut inside of the tag and inside
  of the reference.
-/
theorem feedAll_error_cut_reference :
    (¬ Utf8.byteOrderMark <:+:
        bytes "<a>t<b c='&x;'/></a>") ∧
      Tokenizer.start.refusal?
          (bytes "<a>t<b c='&x;'/></a>") =
        some
          (.piece (.emptyTag (bytes "b c='&x;'")) 4
            (.syntaxAt 4
              (.reference (.unrecognized 1 2 "x")))) ∧
      [bytes "<a>t<b c", bytes "='&", bytes "x;'/></a>"].flatten =
        bytes "<a>t<b c='&x;'/></a>" ∧
      (Tokenizer.start.feedAll
          (unmarked
              [bytes "<a>t<b c", bytes "='&",
                bytes "x;'/></a>"] ++
            [([], true)])).result =
        .error
          (.syntaxAt 4
            (.reference (.unrecognized 1 2 "x"))) ∧
      PlacedIn (bytes "<a>t<b c='&x;'/></a>") 4
        (.reference (.unrecognized 1 2 "x"))
        (.piece (.emptyTag (bytes "b c='&x;'")) 4
          (.syntaxAt 4
            (.reference (.unrecognized 1 2 "x")))) := by
  have hMark :
      ¬ Utf8.byteOrderMark <:+:
        bytes "<a>t<b c='&x;'/></a>" :=
    Markless.of_not_mem (by decide)
  have hRefusal :
      Tokenizer.start.refusal?
          (bytes "<a>t<b c='&x;'/></a>") =
        some
          (.piece (.emptyTag (bytes "b c='&x;'")) 4
            (.syntaxAt 4
              (.reference (.unrecognized 1 2 "x")))) := by
    cbv
  have hCut :
      [bytes "<a>t<b c", bytes "='&",
          bytes "x;'/></a>"].flatten =
        bytes "<a>t<b c='&x;'/></a>" := by
    decide
  have hError :=
    (feedAll_error_cut hMark).2 _ hRefusal rfl
  exact ⟨hMark, hRefusal, hCut, hError.1 _ hCut,
    hError.2 _ _ rfl⟩

end Tokenizer

end RdfXml
