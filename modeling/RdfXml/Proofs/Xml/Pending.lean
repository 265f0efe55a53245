import RdfXml.Proofs.Xml.HeldText
import RdfXml.Proofs.Xml.Refusal
import RdfXml.Proofs.Xml.Waiting

/-
  The bytes that are pending between two chunks.

  After chunks that were all accepted, the pending bytes are
  the end of the document so far, and the offset counts those
  in front of them, which have been read.  They are markup
  whose end is missing, or the end of a text of which no part
  could have been decoded yet.

  Main declarations:
    * `Tokenizer.read_offset`
    * `Tokenizer.HeldMarkup`
    * `Tokenizer.feedAll_pending`
-/

------------------------------------------------------------
-- Bytes That Have Been Read
------------------------------------------------------------

namespace RdfXml

namespace Tokenizer

/- What has been read is counted. -/
theorem read_offset
    {t : Tokenizer}
    {input : List UInt8}
    (hOk : (t.read input).result = .ok ()) :
    (t.read input).tokenizer.offset =
      t.offset + input.length := by
  induction hLength : input.length using Nat.strongRecOn
    generalizing t input with
  | ind count ih =>
      cases hFirst : Piece.first input with
      | endOfInput =>
          rw [Piece.first_endOfInput hFirst] at hLength ⊢
          rw [read_nil, ← hLength]
          rfl
      | fault cause index =>
          rw [read_fault hFirst] at hOk
          cases hOk
      | piece piece length =>
          have hShort := Piece.first_length hFirst
          rw [read_piece hFirst] at hOk ⊢
          rcases Outcome.andThen_result_ok hOk with
            ⟨value, hValue, hRest⟩
          have hAfter :=
            ih (input.drop length).length
              (by simp only [List.length_drop]; omega)
              hRest rfl
          simp only [Outcome.andThen, hValue]
          rw [hAfter, List.length_drop]
          simp only [moved]
          omega

------------------------------------------------------------
-- Markup That Is Held Back
------------------------------------------------------------

/-
  Bytes that begin with markup which is refused where it
  begins, because its end is missing or because it is unknown.
-/
def HeldMarkup (kept : List UInt8) : Prop :=
  ∃ cause rest,
    kept = byte '<' :: rest ∧
      Piece.first kept = .fault cause 0 ∧
        (cause.isCutOff kept = true ∨
          Piece.isUnknown kept = true)

/- What a tokenizer waits with is held back as markup. -/
theorem WaitsWith.heldMarkup
    {kept : List UInt8}
    (hWaits : WaitsWith kept) :
    HeldMarkup kept := by
  rcases hWaits with ⟨cause, index, hFirst, hCut⟩ | hUnknown
  · have hNamed : cause ≠ .missingDoctypeName := by
      rintro rfl
      cases hCut
    have hIndex := first_fault_index hFirst hNamed
    subst hIndex
    rcases Piece.first_fault hFirst with ⟨rest, hRest, _⟩
    exact ⟨cause, rest, hRest, hFirst, Or.inl hCut⟩
  · have hFirst := Piece.first_unknown hUnknown
    rcases Piece.first_fault hFirst with ⟨rest, hRest, _⟩
    exact ⟨_, rest, hRest, hFirst, Or.inr hUnknown⟩

/- No part of what is held back as markup is a piece. -/
theorem HeldMarkup.first_part
    {part rest : List UInt8}
    (hHeld : HeldMarkup (part ++ rest))
    (piece : Piece)
    (length : Nat) :
    Piece.first part ≠ .piece piece length := by
  intro hFirst
  rcases hHeld with ⟨cause, content, hOpen, hFault, _⟩
  have hMarkup : piece.isText = false := by
    cases piece with
    | text raw =>
        rcases Piece.first_text hFirst with
          ⟨tail, rfl, hSome, _, hRaw, _⟩
        cases raw with
        | nil => exact absurd rfl hSome
        | cons b raw =>
            have hText := hRaw b List.mem_cons_self
            cases hOpen
            exact absurd hText (by decide)
    | _ => rfl
  rw [Piece.first_append hFirst (Or.inl hMarkup)] at hFault
  cases hFault

------------------------------------------------------------
-- Between Two Chunks
------------------------------------------------------------

/-
  After chunks that were all accepted, nothing of the document
  is lost and nothing is read twice: the bytes in front of
  those that are pending have been read, and the offset counts
  them.  While the end of markup is awaited, the pending bytes
  begin with markup of which no part is complete.  Otherwise
  they hold no markup, and are an unfinished character and an
  open reference, either of which may be missing; no part of
  them could have been decoded.
-/
theorem feedAll_pending
    {pieces : List (List UInt8)}
    (hMark : ¬ Utf8.byteOrderMark <:+: pieces.flatten)
    (hOk :
      (Tokenizer.start.feedAll (unmarked pieces)).result =
        .ok false) :
    let outcome := Tokenizer.start.feedAll (unmarked pieces)
    let t := outcome.tokenizer
    (∃ taken,
      pieces.flatten = taken ++ t.pending ∧
        t.offset = taken.length ∧
        (Tokenizer.start.read taken).result = .ok () ∧
        Event.merged (Tokenizer.start.read taken).events =
          Event.merged outcome.events) ∧
      (t.awaitingMarkupEnd = true ∧
          HeldMarkup t.pending ∧
          (∀ part rest,
            t.pending = part ++ rest →
              ∀ piece length,
                Piece.first part ≠ .piece piece length) ∨
        t.awaitingMarkupEnd = false ∧
          byte '<' ∉ t.pending ∧
          (∃ character reference,
            t.pending = character ++ reference ∧
              Utf8.IsUnfinished character ∧
              character.length ≤ 3 ∧
              Reference.IsOpen reference) ∧
          ∀ part rest,
            t.pending = part ++ rest →
            part ≠ [] →
              ∀ text, decodeText part ≠ .ok text) := by
  have hDocument :
      Markless (Tokenizer.start.pending ++ pieces.flatten) :=
    hMark
  rcases feedAll_open_ok hDocument hOk with
    ⟨taken, hParts, hRead, hKept⟩
  have hWaits :
      (Tokenizer.start.feedAll
          (unmarked pieces)).tokenizer.awaitingMarkupEnd =
        true →
        WaitsWith
          (Tokenizer.start.feedAll
            (unmarked pieces)).tokenizer.pending :=
    feedAll_waits hDocument (fun hBefore => nomatch hBefore)
      hOk
  have hKept := hKept keptBack_nil
  have hReadOk := (hRead.ok_iff ()).mpr rfl
  have hOffset := read_offset hReadOk
  rw [hRead.tokenizer_eq hReadOk] at hOffset
  have hEvents := hRead.merged_eq hReadOk
  dsimp only
  generalize Tokenizer.start.feedAll (unmarked pieces) =
    outcome at hParts hEvents hKept hWaits hOffset ⊢
  refine ⟨⟨taken, hParts, ?_, hReadOk, hEvents⟩, ?_⟩
  · exact hOffset.trans (Nat.zero_add _)
  · rcases hKept with
      ⟨hAwaiting, _⟩ | ⟨hOther, raw, hRaw, hPending⟩
    · have hHeld := (hWaits hAwaiting).heldMarkup
      refine Or.inl ⟨hAwaiting, hHeld, ?_⟩
      intro part rest hSplit
      rw [hSplit] at hHeld
      exact hHeld.first_part
    · have hHeld := heldText_drop raw
      rw [← hPending] at hHeld
      refine Or.inr ⟨hOther, ?_, ?_, ?_⟩
      · intro hBracket
        rw [hPending] at hBracket
        have hText :=
          hRaw _ (List.mem_of_mem_drop hBracket)
        exact absurd hText (by decide)
      · rcases hHeld with
          ⟨character, reference, hSplit, hCharacter, hOpen⟩
        exact ⟨character, reference, hSplit, hCharacter,
          hCharacter.length_le, hOpen⟩
      · intro part rest hSplit hSome
        rw [hSplit] at hHeld
        exact hHeld.not_decodeText hSome Utf8.decode_nil

/-
  A document that is cut in a character and in a reference:
  the last chunk makes the character wrong, but only the
  character and the bytes behind it are held back.
-/
theorem feedAll_pending_reference :
    let pieces := [bytes "<a>caf", [0xC3], bytes "&am"]
    (¬ Utf8.byteOrderMark <:+: pieces.flatten) ∧
      (Tokenizer.start.feedAll (unmarked pieces)).result =
          .ok false ∧
        (∃ taken,
          pieces.flatten = taken ++ 0xC3 :: bytes "&am" ∧
            taken.length = 6) ∧
        ∀ part rest,
          0xC3 :: bytes "&am" = part ++ rest →
          part ≠ [] →
            ∀ text, decodeText part ≠ .ok text := by
  have hMark :
      ¬ Utf8.byteOrderMark <:+:
        [bytes "<a>caf", [0xC3], bytes "&am"].flatten :=
    Markless.of_not_mem (by decide)
  have hOk :
      (Tokenizer.start.feedAll
        (unmarked
          [bytes "<a>caf", [0xC3], bytes "&am"])).result =
        .ok false := by
    rfl
  rcases feedAll_pending hMark hOk with
    ⟨⟨taken, hParts, hOffset, _⟩, ⟨hAwaiting, _⟩ | hHeld⟩
  · cases hAwaiting
  · exact ⟨hMark, hOk, ⟨taken, hParts, hOffset.symm⟩,
      hHeld.2.2.2⟩

end Tokenizer

end RdfXml
