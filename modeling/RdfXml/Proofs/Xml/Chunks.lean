import RdfXml.Proofs.Xml.Feeding

/-
  Documents that are fed in several chunks.

  However the bytes of a document are cut, the events that
  are settled are those of reading the document in one go,
  and the document is accepted when it can be read and is
  complete.

  Main declarations:
    * `Tokenizer.feedAll`
    * `unmarked`
    * `Tokenizer.feedAll_open_ok`
    * `Tokenizer.feedAll_open_error`
    * `Tokenizer.feedAll_open_settled`
    * `Tokenizer.feedAll_closed`
-/

------------------------------------------------------------
-- Runs Of Feeds
------------------------------------------------------------

namespace RdfXml

/- Pieces of which none is marked as the last. -/
def unmarked
    (pieces : List (List UInt8)) :
    List (List UInt8 × Bool) :=
  pieces.map (fun piece => (piece, false))

namespace Tokenizer

/-
  Feed chunks in order up to the first error or to the chunk
  that is marked as the last.  The result tells whether the
  document has ended.
-/
def feedAll :
    Tokenizer → List (List UInt8 × Bool) → Outcome Bool
| t, [] => t.stop (.ok false)
| t, (chunk, isFinal) :: rest =>
    (t.feed chunk isFinal).andThen (fun t _ =>
      if isFinal then t.stop (.ok true)
      else feedAll t rest)

theorem feedAll_append
    (t : Tokenizer)
    (pieces : List (List UInt8))
    (rest : List (List UInt8 × Bool)) :
    t.feedAll (unmarked pieces ++ rest) =
      (t.feedAll (unmarked pieces)).andThen
        (fun t _ => t.feedAll rest) := by
  induction pieces generalizing t with
  | nil =>
      simp [unmarked, feedAll, stop, Outcome.andThen_ok]
  | cons piece pieces ih =>
      have hRest := fun t => ih t
      unfold unmarked at hRest ⊢
      simp only [List.map_cons, List.cons_append, feedAll,
        Bool.false_eq_true, if_false, hRest,
        Outcome.andThen_assoc]

------------------------------------------------------------
-- Documents That Have Not Ended
------------------------------------------------------------

/- A document without a byte order mark in it. -/
def Markless (document : List UInt8) : Prop :=
  ¬ Utf8.byteOrderMark <:+: document

/- A mark begins with a byte that few documents have. -/
theorem Markless.of_not_mem
    {document : List UInt8}
    (hOther : 0xEF ∉ document) :
    Markless document := by
  intro hMark
  exact hOther (hMark.subset (by decide))

/- No suffix of a document without marks begins with one. -/
theorem Markless.start
    (front rest back : List UInt8)
    (hDocument : Markless (front ++ (rest ++ back))) :
    rest.take 3 ≠ Utf8.byteOrderMark := by
  intro hMark
  apply hDocument
  refine ⟨front, rest.drop 3 ++ back, ?_⟩
  rw [← hMark, List.append_assoc, ← List.append_assoc _ _
    back, List.take_append_drop]

theorem Markless.front
    {front back : List UInt8}
    (hDocument : Markless (front ++ back)) :
    Markless front := by
  rintro ⟨before, after, rfl⟩
  exact hDocument ⟨before, after ++ back, by simp⟩

theorem Markless.suffix
    {front rest : List UInt8}
    (hDocument : Markless (front ++ rest)) :
    Markless rest := by
  rintro ⟨before, after, rfl⟩
  exact hDocument ⟨front ++ before, after, by simp⟩

/-
  After chunks that are all accepted, a first part of the
  document has been read, up to the places where text is cut,
  and the rest is pending.
-/
theorem feedAll_open_ok
    {t : Tokenizer}
    {pieces : List (List UInt8)}
    {ended : Bool}
    (hDocument : Markless (t.pending ++ pieces.flatten))
    (hOk :
      (t.feedAll (unmarked pieces)).result = .ok ended) :
    ∃ taken,
      t.pending ++ pieces.flatten =
          taken ++
            (t.feedAll (unmarked pieces)).tokenizer.pending ∧
        (t.cleared.read taken).Agree
          ⟨(t.feedAll (unmarked pieces)).tokenizer.cleared,
            (t.feedAll (unmarked pieces)).events,
            .ok ()⟩ ∧
        (KeptBack t.awaitingMarkupEnd t.pending →
          KeptBack
            (t.feedAll
              (unmarked pieces)).tokenizer.awaitingMarkupEnd
            (t.feedAll
              (unmarked pieces)).tokenizer.pending) := by
  induction pieces generalizing t with
  | nil =>
      refine ⟨[], by simp [unmarked, feedAll, stop], ?_, ?_⟩
      · rw [read_nil]
        exact Outcome.Agree.refl _
      · exact id
  | cons piece pieces ih =>
      have hStep : t.feedAll (unmarked (piece :: pieces)) =
          (t.feed piece false).andThen (fun t _ =>
            t.feedAll (unmarked pieces)) := rfl
      rw [hStep] at hOk ⊢
      rw [List.flatten_cons] at hDocument ⊢
      rcases Outcome.andThen_result_ok hOk with
        ⟨value, hFirst, hRest⟩
      have hMark :
          (t.pending ++ piece).take 3 ≠
            Utf8.byteOrderMark := by
        rw [← List.append_assoc] at hDocument
        exact Markless.start [] _ _ hDocument
      rcases feed_open_ok hMark hFirst with
        ⟨taken, hParts, hRead, hKept⟩
      have hWhole :
          t.pending ++ (piece ++ pieces.flatten) =
            taken ++
              ((t.feed piece false).tokenizer.pending ++
                pieces.flatten) := by
        rw [← List.append_assoc, hParts, List.append_assoc]
      rw [hWhole] at hDocument ⊢
      rcases ih hDocument.suffix hRest with
        ⟨more, hMoreParts, hMoreRead, hMoreKept⟩
      generalize t.feed piece false = outcome
        at hFirst hRest hRead hKept hMoreParts hMoreRead
          hMoreKept hWhole ⊢
      rcases outcome with ⟨after, events, result⟩
      cases hFirst
      rw [Outcome.andThen_ok]
      refine ⟨taken ++ more, ?_, ?_,
        fun hBefore => hMoreKept (hKept hBefore)⟩
      · rw [List.append_assoc, ← hMoreParts]
      · have hReadOk :
            (t.cleared.read taken).result = .ok () := by
          rw [hRead]
        refine (read_append hReadOk more).trans ?_
        rw [hRead]
        exact hMoreRead.behind events

/-
  When one of several chunks is refused, reading fails with
  the same settled events, whatever follows.
-/
theorem feedAll_open_error
    {t : Tokenizer}
    {pieces : List (List UInt8)}
    {e : XmlError}
    (hDocument : Markless (t.pending ++ pieces.flatten))
    (hError :
      (t.feedAll (unmarked pieces)).result = .error e)
    (more : List UInt8) :
    (∃ e,
      (t.cleared.read
        (t.pending ++ pieces.flatten ++ more)).result =
          .error e) ∧
      Event.settled
          (t.cleared.read
            (t.pending ++ pieces.flatten ++ more)).events =
        Event.settled
          (t.feedAll (unmarked pieces)).events := by
  induction pieces generalizing t with
  | nil => cases hError
  | cons piece pieces ih =>
      have hStep : t.feedAll (unmarked (piece :: pieces)) =
          (t.feed piece false).andThen (fun t _ =>
            t.feedAll (unmarked pieces)) := rfl
      rw [hStep] at hError ⊢
      rw [List.flatten_cons] at hDocument ⊢
      have hMark :
          (t.pending ++ piece).take 3 ≠
            Utf8.byteOrderMark := by
        rw [← List.append_assoc] at hDocument
        exact Markless.start [] _ _ hDocument
      cases hFirst : (t.feed piece false).result with
      | error e' =>
          have hRead :=
            feed_open_error hMark hFirst
              (pieces.flatten ++ more)
          simp only [List.append_assoc] at hRead ⊢
          refine ⟨hRead.1, hRead.2.trans ?_⟩
          generalize t.feed piece false = outcome
            at hFirst ⊢
          rcases outcome with ⟨after, events, result⟩
          cases hFirst
          rfl
      | ok value =>
          rcases feed_open_ok hMark hFirst with
            ⟨taken, hParts, hRead, _⟩
          have hWhole :
              t.pending ++ (piece ++ pieces.flatten) =
                taken ++
                  ((t.feed piece false).tokenizer.pending ++
                    pieces.flatten) := by
            rw [← List.append_assoc, hParts,
              List.append_assoc]
          rw [hWhole] at hDocument ⊢
          generalize t.feed piece false = outcome
            at hFirst hError hRead hDocument ⊢
          rcases outcome with ⟨after, events, result⟩
          cases hFirst
          rcases ih hDocument.suffix hError with
            ⟨⟨e', hLater⟩, hSettled⟩
          have hReadOk :
              (t.cleared.read taken).result = .ok () := by
            rw [hRead]
          have hAgree :=
            read_append hReadOk
              (after.pending ++ pieces.flatten ++ more)
          rw [hRead, Outcome.andThen_ok] at hAgree
          rw [List.append_assoc]
          refine ⟨hAgree.error hLater, ?_⟩
          refine hAgree.settled.trans ?_
          exact Event.settled_append_congr rfl hSettled

/- Reading bytes that may be kept settles nothing. -/
theorem read_kept
    {awaiting : Bool}
    {kept : List UInt8}
    (hKept : KeptBack awaiting kept)
    (t : Tokenizer) :
    Event.settled (t.read kept).events =
      Event.settled [] := by
  rcases hKept with
    ⟨_, cause, index, hFirst⟩ | ⟨_, raw, hRaw, rfl⟩
  · rw [read_fault hFirst]
    rfl
  · have hText :
        ∀ b ∈ raw.drop (completeTextLength raw),
          Piece.isTextByte b = true := by
      intro b hB
      exact hRaw b (List.mem_of_mem_drop hB)
    generalize raw.drop (completeTextLength raw) = kept
      at hText
    by_cases hSome : kept = []
    · rw [hSome, read_nil]
      rfl
    · rw [read_piece (Piece.first_text_alone hText hSome),
        List.drop_length]
      rcases dispatch_text_cases t kept t.offset with
        ⟨events, hSame, hEvents⟩ | ⟨e, hError⟩
      · rw [hSame, Outcome.andThen_ok, read_nil]
        simp only [stop, List.append_nil]
        exact hEvents
      · rw [hError]
        rfl

/-
  The settled events of a document that has not ended depend
  on its bytes alone.
-/
theorem feedAll_open_settled
    (t : Tokenizer)
    (pieces : List (List UInt8))
    (hKept : KeptBack t.awaitingMarkupEnd t.pending)
    (hDocument : Markless (t.pending ++ pieces.flatten)) :
    Event.settled (t.feedAll (unmarked pieces)).events =
      Event.settled
        (t.cleared.read
          (t.pending ++ pieces.flatten)).events := by
  cases hResult : (t.feedAll (unmarked pieces)).result with
  | error e =>
      have hRead :=
        feedAll_open_error hDocument hResult []
      rw [List.append_nil] at hRead
      exact hRead.2.symm
  | ok ended =>
      rcases feedAll_open_ok hDocument hResult with
        ⟨taken, hParts, hRead, hAfter⟩
      have hReadOk :=
        (hRead.ok_iff ()).mpr rfl
      rw [hParts]
      refine Eq.symm
        ((read_append hReadOk _).settled.trans ?_)
      have hLast :=
        read_kept (hAfter hKept)
          (t.cleared.read taken).tokenizer
      generalize t.cleared.read taken = outcome
        at hRead hReadOk hLast ⊢
      rcases outcome with ⟨after, events, result⟩
      cases hReadOk
      rw [Outcome.andThen_ok]
      refine
        (Event.settled_append_congr rfl hLast).trans ?_
      rw [List.append_nil]
      exact hRead.settled

------------------------------------------------------------
-- Documents That Have Ended
------------------------------------------------------------

/-
  What a document that has ended gives depends on its bytes
  alone: its settled events are those of reading it, and it
  is accepted when it can be read and is complete.
-/
theorem feedAll_closed
    (t : Tokenizer)
    (pieces : List (List UInt8))
    (last : List UInt8)
    (hDocument :
      Markless (t.pending ++ (pieces.flatten ++ last))) :
    t.cleared.ReadsAs
      (t.pending ++ (pieces.flatten ++ last))
      (t.feedAll (unmarked pieces ++ [(last, true)])) := by
  rw [feedAll_append]
  have hSplit := hDocument
  rw [← List.append_assoc] at hSplit
  have hFront := hSplit.front
  cases hResult : (t.feedAll (unmarked pieces)).result with
  | error e =>
      have hRead := feedAll_open_error hFront hResult last
      rw [List.append_assoc] at hRead
      generalize t.feedAll (unmarked pieces) = outcome
        at hResult hRead ⊢
      rcases outcome with ⟨after, events, result⟩
      cases hResult
      exact ReadsAs.of_error rfl hRead.1 hRead.2
  | ok ended =>
      rcases feedAll_open_ok hFront hResult with
        ⟨taken, hParts, hRead, _⟩
      generalize t.feedAll (unmarked pieces) = outcome
        at hResult hParts hRead ⊢
      rcases outcome with ⟨after, events, result⟩
      cases hResult
      have hWhole :
          t.pending ++ (pieces.flatten ++ last) =
            taken ++ (after.pending ++ last) := by
        rw [← List.append_assoc, hParts, List.append_assoc]
      rw [hWhole] at hDocument ⊢
      have hMark :
          (after.pending ++ last).take 3 ≠
            Utf8.byteOrderMark := by
        apply Markless.start taken _ []
        rw [List.append_nil]
        exact hDocument
      have hEnding := feed_final after last
      rw [skipByteOrderMark_none hMark] at hEnding
      rw [Outcome.andThen_ok]
      exact (hEnding.andThen_stop true).behind hRead

end Tokenizer

end RdfXml
