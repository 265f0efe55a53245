import RdfXml.Proofs.Xml.Chunks

/-
  Documents behind a byte order mark.

  The mark is skipped but stays in the bytes that a feed
  counts from.  The first feed that gets anywhere therefore
  keeps three bytes too many, and the bytes in front of them
  are read once more.  `Tokenizer.reread` is the document that
  is read in place of the marked one.

  Main declarations:
    * `lastThree`
    * `Tokenizer.reread`
    * `Tokenizer.feed_marked_ok`
    * `Tokenizer.reread_cases`
    * `Tokenizer.feedAll_marked`
-/

------------------------------------------------------------
-- Text Before A Mark
------------------------------------------------------------

namespace RdfXml

namespace Tokenizer

/-
  Bytes that can be read do not end within a character: where
  one begins that takes them to their end, it is complete.
-/
theorem read_ok_lead
    {t : Tokenizer}
    {front more : List UInt8}
    {x : UInt8}
    (hOk : (t.read (front ++ x :: more)).result = .ok ())
    (hLead : 0xC0 ≤ x.toNat)
    (hHigh : ∀ y ∈ more, 0x80 ≤ y.toNat) :
    ∃ chars, Utf8.decode (x :: more) = .ok chars := by
  have hBytes :
      ∀ y ∈ x :: more, y ≠ byte '<' ∧ y ≠ byte '>' := by
    have hAll : ∀ y ∈ x :: more, 0x80 ≤ y.toNat := by
      intro y hMember
      rcases List.mem_cons.mp hMember with rfl | hMore
      · omega
      · exact hHigh y hMore
    intro y hMember
    have hByte := hAll y hMember
    constructor
    · rintro rfl
      simp [byte] at hByte
    · rintro rfl
      simp [byte] at hByte
  induction hLength : front.length using Nat.strongRecOn
    generalizing t front with
  | ind count ih =>
      cases hFirst : Piece.first (front ++ x :: more) with
      | endOfInput =>
          have hNone := Piece.first_endOfInput hFirst
          simp at hNone
      | fault cause index =>
          rw [read_fault hFirst] at hOk
          cases hOk
      | piece piece length =>
          rw [read_piece hFirst] at hOk
          rcases Outcome.andThen_result_ok hOk with
            ⟨_, hPiece, hRest⟩
          by_cases hInside : length ≤ front.length
          · -- the piece ends in front of the character
            have hSome := (Piece.first_length hFirst).1
            rw [List.drop_append_of_le_length hInside]
              at hRest
            apply ih (front.drop length).length _ hRest rfl
            rw [List.length_drop]
            omega
          · -- the piece is text up to the end
            have hText :=
              Piece.first_long hFirst (by omega) hBytes
            subst hText
            rcases dispatch_text_decode hPiece with
              ⟨content, hContent⟩
            rcases decodeText_ok_iff.mp hContent with
              ⟨chars, hChars, _⟩
            exact Utf8.decode_lead_suffix hLead hChars

/- Bytes that can be read end in no part of a mark. -/
theorem read_ok_openMark
    {t : Tokenizer}
    {input : List UInt8}
    (hOk : (t.read input).result = .ok ()) :
    ¬ [0xEF] <:+ input ∧ ¬ [0xEF, 0xBB] <:+ input := by
  constructor
  · rintro ⟨front, rfl⟩
    rcases read_ok_lead hOk (by decide) (by simp) with
      ⟨chars, hChars⟩
    cases hChars
  · rintro ⟨front, rfl⟩
    rcases read_ok_lead hOk (by decide) (by simp) with
      ⟨chars, hChars⟩
    cases hChars

/- A mark begins with one byte only. -/
theorem Markless.cons
    {rest : List UInt8}
    (hRest : Markless rest)
    {b : UInt8}
    (hOther : b ≠ 0xEF) :
    Markless (b :: rest) := by
  rintro ⟨before, after, hParts⟩
  rw [List.append_assoc] at hParts
  cases before with
  | nil =>
      cases hParts
      exact hOther rfl
  | cons a before =>
      cases hParts
      exact hRest ⟨before, after, List.append_assoc _ _ _⟩

/- Two parts without marks make no mark between them. -/
theorem Markless.append
    {front rest : List UInt8}
    (hFront : Markless front)
    (hRest : Markless rest)
    (hOne : ¬ [0xEF] <:+ front)
    (hTwo : ¬ [0xEF, 0xBB] <:+ front) :
    Markless (front ++ rest) := by
  rintro ⟨before, after, hParts⟩
  rw [List.append_assoc] at hParts
  rcases List.append_eq_append_iff.mp hParts with
    ⟨middle, rfl, hMark⟩ | ⟨middle, rfl, rfl⟩
  · unfold Utf8.byteOrderMark at hMark
    rcases middle with _ | ⟨a, _ | ⟨b, _ | ⟨c, middle⟩⟩⟩
    · exact hRest ⟨[], after, hMark⟩
    · cases hMark
      exact hOne ⟨before, rfl⟩
    · cases hMark
      exact hTwo ⟨before, rfl⟩
    · cases hMark
      exact hFront ⟨before, middle, by
        simp [Utf8.byteOrderMark]⟩
  · exact hRest ⟨middle, after, by simp⟩

------------------------------------------------------------
-- One Chunk Behind A Mark
------------------------------------------------------------

/-
  A tokenizer that has read nothing and holds a mark and the
  bytes that came behind it.
-/
def waiting
    (front : List UInt8)
    (awaiting : Bool) : Tokenizer :=
  start.moved (Utf8.byteOrderMark ++ front) 0 awaiting

theorem waiting_cleared
    (front : List UInt8)
    (awaiting : Bool) :
    (waiting front awaiting).cleared = start :=
  rfl

theorem waiting_input
    (front : List UInt8)
    (awaiting : Bool)
    (chunk : List UInt8) :
    (waiting front awaiting).pending ++ chunk =
      Utf8.byteOrderMark ++ (front ++ chunk) :=
  List.append_assoc _ _ _

theorem skipByteOrderMark_marked (body : List UInt8) :
    skipByteOrderMark (Utf8.byteOrderMark ++ body) =
      body := by
  have hMark :
      (Utf8.byteOrderMark ++ body).take 3 =
        Utf8.byteOrderMark :=
    rfl
  unfold skipByteOrderMark
  rw [if_pos hMark]
  rfl

section Marked

variable
  {front chunk : List UInt8}
  {awaiting : Bool}

/-
  What a chunk behind a mark completes is read, and what is
  kept is counted from the mark on.
-/
theorem feed_marked_ok
    (hOk :
      ((waiting front awaiting).feed chunk false).result =
        .ok ()) :
    ∃ taken kept,
      front ++ chunk = taken ++ kept ∧
        ((waiting front awaiting).feed chunk
            false).tokenizer.offset =
          taken.length ∧
        ((waiting front awaiting).feed chunk
            false).tokenizer.pending =
          (Utf8.byteOrderMark ++ (taken ++ kept)).drop
            taken.length ∧
        start.read taken =
          ⟨((waiting front awaiting).feed chunk
              false).tokenizer.cleared,
            ((waiting front awaiting).feed chunk
              false).events, .ok ()⟩ ∧
        (awaiting = false →
          kept = [] ∨
            ∃ cause index,
              Piece.first kept = .fault cause index) := by
  by_cases hFull :
      (waiting front awaiting).awaitingMarkupEnd = true ∧
        false = false ∧ byte '>' ∉ chunk
  · rcases hFull with ⟨hAwaiting, _, hChunk⟩
    rw [feed_awaiting hAwaiting hChunk]
    refine ⟨[], front ++ chunk, rfl, rfl, ?_, ?_, ?_⟩
    · exact waiting_input front awaiting chunk
    · rw [read_nil]
      rfl
    · intro hNot
      rw [show awaiting = true from hAwaiting] at hNot
      cases hNot
  · have hConsumed :=
      tokenize_consumed
        { waiting front awaiting with pending := [] }
        ((waiting front awaiting).pending ++ chunk) false
    rw [feed_tokenize hFull] at hOk ⊢
    rw [waiting_input, skipByteOrderMark_marked]
      at hConsumed
    rw [waiting_input] at hOk ⊢
    generalize
      tokenize { waiting front awaiting with pending := [] }
        (Utf8.byteOrderMark ++ (front ++ chunk)) false =
        outcome at hConsumed hOk ⊢
    rcases outcome with ⟨after, events, result⟩
    cases result with
    | error e => cases hOk
    | ok count =>
        rcases hConsumed with
          ⟨taken, kept, hParts, hCount, hRead, hPending,
            hOffset, hKept, _, hEnd⟩
        dsimp only at hParts hCount hRead hOffset hEnd hKept
        rw [Nat.zero_add] at hCount
        have hOffset : after.offset = 0 := hOffset
        simp only [Outcome.andThen_ok, keep, stop]
        refine ⟨taken, kept, hParts, ?_, ?_, ?_, ?_⟩
        · rw [hOffset, hCount, Nat.zero_add]
        · rw [hParts, hCount]
        · rw [List.append_nil]
          refine Eq.trans hRead ?_
          rw [hOffset]
          rfl
        · intro _
          have hNot :
              ¬ Work.Reaches
                ⟨Utf8.byteOrderMark ++ (front ++ chunk),
                  false,
                  (Scan.ofBytes (front ++ chunk)).fault?⟩ 0
                (front ++ chunk) := by
            unfold Work.Reaches
            rw [List.length_append, Nat.zero_add]
            simp [Utf8.byteOrderMark]
          rcases hEnd hNot with hAwaiting | hNone
          · rcases hKept with ⟨_, hFault⟩ | ⟨hOpen, _⟩
            · exact Or.inr hFault
            · rw [hAwaiting] at hOpen
              cases hOpen
          · exact Or.inl hNone

/- Where nothing was read, the tokenizer waits on. -/
theorem feed_marked_waiting
    {kept : List UInt8}
    {events : List Event}
    {after : Tokenizer}
    (hCount : after.offset = ([] : List UInt8).length)
    (hPending :
      after.pending =
        (Utf8.byteOrderMark ++ ([] ++ kept)).drop
          ([] : List UInt8).length)
    (hRead :
      start.read [] = ⟨after.cleared, events, .ok ()⟩) :
    after = waiting kept after.awaitingMarkupEnd := by
  rw [read_nil] at hRead
  have hStart : start = after.cleared :=
    congrArg Outcome.tokenizer hRead
  have hSame :
      after =
        after.cleared.moved after.pending after.offset
          after.awaitingMarkupEnd :=
    rfl
  rw [← hStart, hPending, hCount] at hSame
  exact hSame

/-
  When a chunk behind a mark is refused, the document is
  refused with the same settled events where it ends there.
-/
theorem feed_marked_error
    {e : XmlError}
    (hError :
      ((waiting front awaiting).feed chunk false).result =
        .error e) :
    (∃ e,
      (start.read (front ++ chunk)).result = .error e) ∧
      Event.settled (start.read (front ++ chunk)).events =
        Event.settled
          ((waiting front awaiting).feed chunk
            false).events := by
  have hFull :
      ¬ ((waiting front awaiting).awaitingMarkupEnd = true ∧
        false = false ∧ byte '>' ∉ chunk) := by
    rintro ⟨hAwaiting, _, hChunk⟩
    rw [feed_awaiting hAwaiting hChunk] at hError
    cases hError
  have hConsumed :=
    tokenize_consumed
      { waiting front awaiting with pending := [] }
      ((waiting front awaiting).pending ++ chunk) false
  rw [feed_tokenize hFull] at hError ⊢
  rw [waiting_input, skipByteOrderMark_marked]
    at hConsumed
  rw [waiting_input] at hError ⊢
  generalize
    tokenize { waiting front awaiting with pending := [] }
      (Utf8.byteOrderMark ++ (front ++ chunk)) false =
      outcome at hConsumed hError ⊢
  rcases outcome with ⟨after, events, result⟩
  cases result with
  | ok count => cases hError
  | error e =>
      have hRead := hConsumed [] (Or.inl rfl)
      rw [List.append_nil] at hRead
      exact hRead

end Marked

------------------------------------------------------------
-- Runs Of Chunks Behind A Mark
------------------------------------------------------------

end Tokenizer

/- The last three bytes of a byte list. -/
def lastThree (input : List UInt8) : List UInt8 :=
  input.drop (input.length - 3)

namespace Tokenizer

/-
  The document that is read in place of the chunks of a
  marked one.  It ends early where a chunk is refused.  After
  the first chunk that gets anywhere, the last three bytes of
  the mark and what was read stand a second time.
-/
def reread :
    Tokenizer → List (List UInt8) → List UInt8
| t, [] => skipByteOrderMark t.pending
| t, chunk :: rest =>
    let body := skipByteOrderMark (t.pending ++ chunk)
    let outcome := t.feed chunk false
    match outcome.result with
    | .error _ => body
    | .ok () =>
        let count := outcome.tokenizer.offset
        if count = 0 then
          reread outcome.tokenizer rest
        else
          body.take count ++
            (lastThree
                (Utf8.byteOrderMark ++ body.take count) ++
              (body.drop count ++ rest.flatten))

/- What is kept is what was read last, and the rest. -/
theorem drop_marked (taken kept : List UInt8) :
    (Utf8.byteOrderMark ++ (taken ++ kept)).drop
        taken.length =
      lastThree (Utf8.byteOrderMark ++ taken) ++ kept := by
  unfold lastThree
  rw [← List.append_assoc, List.drop_append_of_le_length]
  · simp [Utf8.byteOrderMark]
  · simp

/- No mark stands in the bytes that are read once more. -/
theorem Markless.lastThree
    {taken more : List UInt8}
    (hDocument : Markless (taken ++ more))
    (hSome : taken ≠ []) :
    Markless
      (lastThree (Utf8.byteOrderMark ++ taken) ++ more) := by
  by_cases hLong : 3 ≤ taken.length
  · have hLast :
        RdfXml.lastThree (Utf8.byteOrderMark ++ taken) =
          taken.drop (taken.length - 3) := by
      have hMark : Utf8.byteOrderMark.length = 3 := rfl
      unfold RdfXml.lastThree
      rw [List.length_append, List.drop_append, hMark,
        Nat.add_sub_cancel_left,
        List.drop_eq_nil_of_le (by rw [hMark]; exact hLong),
        List.nil_append]
    rw [hLast]
    rw [← List.take_append_drop (taken.length - 3) taken,
      List.append_assoc] at hDocument
    exact hDocument.suffix
  · rcases taken with _ | ⟨x, _ | ⟨y, _ | ⟨z, taken⟩⟩⟩
    · exact absurd rfl hSome
    · exact (hDocument.cons (by decide)).cons (by decide)
    · exact hDocument.cons (by decide)
    · simp at hLong

theorem reread_refused
    {t : Tokenizer}
    {chunk : List UInt8}
    {e : XmlError}
    (hError : (t.feed chunk false).result = .error e)
    (rest : List (List UInt8)) :
    t.reread (chunk :: rest) =
      skipByteOrderMark (t.pending ++ chunk) := by
  rw [reread]
  dsimp only
  rw [hError]

theorem reread_waiting
    {t : Tokenizer}
    {chunk : List UInt8}
    (hOk : (t.feed chunk false).result = .ok ())
    (hNone : (t.feed chunk false).tokenizer.offset = 0)
    (rest : List (List UInt8)) :
    t.reread (chunk :: rest) =
      (t.feed chunk false).tokenizer.reread rest := by
  rw [reread]
  dsimp only
  rw [hOk]
  simp only [hNone, if_true]

theorem reread_taken
    {front chunk taken kept : List UInt8}
    {awaiting : Bool}
    (hOk :
      ((waiting front awaiting).feed chunk false).result =
        .ok ())
    (hParts : front ++ chunk = taken ++ kept)
    (hCount :
      ((waiting front awaiting).feed chunk
        false).tokenizer.offset = taken.length)
    (hSome : taken ≠ [])
    (rest : List (List UInt8)) :
    (waiting front awaiting).reread (chunk :: rest) =
      taken ++
        (lastThree (Utf8.byteOrderMark ++ taken) ++
          (kept ++ rest.flatten)) := by
  have hLength : taken.length ≠ 0 := by
    simpa using hSome
  rw [reread, waiting_input, skipByteOrderMark_marked]
  dsimp only
  rw [hOk, hCount, hParts, List.take_left, List.drop_left]
  simp only [hLength, if_false]

/-
  What is read in place of a document is a first part of it,
  or the document with three bytes written twice.
-/
theorem reread_cases
    (chunks : List (List UInt8))
    (front : List UInt8)
    (awaiting : Bool) :
    ∃ taken rest,
      front ++ chunks.flatten = taken ++ rest ∧
        ((waiting front awaiting).reread chunks = taken ∨
          taken ≠ [] ∧
            (waiting front awaiting).reread chunks =
              taken ++
                (lastThree (Utf8.byteOrderMark ++ taken) ++
                  rest)) := by
  induction chunks generalizing front awaiting with
  | nil =>
      exact ⟨front, [], rfl,
        Or.inl (skipByteOrderMark_marked front)⟩
  | cons chunk rest ih =>
      rw [List.flatten_cons, ← List.append_assoc]
      cases hResult :
          ((waiting front awaiting).feed chunk
            false).result with
      | error e =>
          rw [reread_refused hResult, waiting_input,
            skipByteOrderMark_marked]
          exact ⟨front ++ chunk, rest.flatten, rfl,
            Or.inl rfl⟩
      | ok value =>
          rcases feed_marked_ok hResult with
            ⟨taken, kept, hParts, hCount, hPending, hRead, _⟩
          by_cases hSome : taken = []
          · subst hSome
            rw [reread_waiting hResult hCount,
              feed_marked_waiting hCount hPending hRead,
              hParts]
            exact ih kept _
          · rw [reread_taken hResult hParts hCount hSome,
              hParts, List.append_assoc]
            exact ⟨taken, kept ++ rest.flatten, rfl,
              Or.inr ⟨hSome, rfl⟩⟩

/-
  From the first part that was read on, no mark is in front
  any more.
-/
theorem reads_taken
    {taken kept : List UInt8}
    {after : Tokenizer}
    {events : List Event}
    {rest : List (List UInt8)}
    (hDocument :
      Markless (taken ++ (kept ++ rest.flatten)))
    (hSome : taken ≠ [])
    (hPending :
      after.pending =
        (Utf8.byteOrderMark ++ (taken ++ kept)).drop
          taken.length)
    (hRead :
      start.read taken = ⟨after.cleared, events, .ok ()⟩) :
    Markless
        (taken ++
          (lastThree (Utf8.byteOrderMark ++ taken) ++
            (kept ++ rest.flatten))) ∧
      start.ReadsAs
        (taken ++
          (lastThree (Utf8.byteOrderMark ++ taken) ++
            (kept ++ rest.flatten)))
        (Outcome.andThen ⟨after, events, .ok ()⟩
          (fun t _ =>
            t.feedAll (unmarked rest ++ [([], true)]))) := by
  have hLater := hDocument.lastThree hSome
  have hTaken : (start.read taken).result = .ok () := by
    rw [hRead]
  rcases read_ok_openMark hTaken with ⟨hOne, hTwo⟩
  refine ⟨hDocument.front.append hLater hOne hTwo, ?_⟩
  rw [drop_marked] at hPending
  have hClosed :=
    feedAll_closed after rest [] (by
      rw [hPending, List.append_nil, List.append_assoc]
      exact hLater)
  rw [hPending, List.append_nil, List.append_assoc]
    at hClosed
  apply hClosed.behind
  rw [hRead]
  exact Outcome.Agree.refl _

/-
  However a document behind a mark is cut, what is read is
  the document that stands in its place, and no mark stands
  in that one.
-/
theorem feedAll_marked
    (chunks : List (List UInt8))
    (front : List UInt8)
    (awaiting : Bool)
    (hDocument : Markless (front ++ chunks.flatten)) :
    Markless ((waiting front awaiting).reread chunks) ∧
      start.ReadsAs
        ((waiting front awaiting).reread chunks)
        ((waiting front awaiting).feedAll
          (unmarked chunks ++ [([], true)])) := by
  induction chunks generalizing front awaiting with
  | nil =>
      have hEnding := feed_final (waiting front awaiting) []
      rw [waiting_input, skipByteOrderMark_marked,
        List.append_nil, waiting_cleared] at hEnding
      have hFront :
          (waiting front awaiting).reread [] = front :=
        skipByteOrderMark_marked front
      rw [hFront]
      exact ⟨hDocument.front, hEnding.andThen_stop true⟩
  | cons chunk rest ih =>
      have hStep :
          (waiting front awaiting).feedAll
              (unmarked (chunk :: rest) ++ [([], true)]) =
            ((waiting front awaiting).feed chunk
              false).andThen (fun t _ =>
                t.feedAll (unmarked rest ++ [([], true)])) :=
        rfl
      rw [hStep]
      cases hResult :
          ((waiting front awaiting).feed chunk
            false).result with
      | error e =>
          rw [reread_refused hResult, waiting_input,
            skipByteOrderMark_marked]
          have hRead := feed_marked_error hResult
          generalize
            (waiting front awaiting).feed chunk false =
              outcome at hResult hRead ⊢
          rcases outcome with ⟨after, events, result⟩
          cases hResult
          rw [List.flatten_cons, ← List.append_assoc]
            at hDocument
          exact ⟨hDocument.front,
            ReadsAs.of_error rfl hRead.1 hRead.2⟩
      | ok value =>
          rcases feed_marked_ok hResult with
            ⟨taken, kept, hParts, hCount, hPending, hRead, _⟩
          rw [List.flatten_cons, ← List.append_assoc, hParts,
            List.append_assoc] at hDocument
          by_cases hSome : taken = []
          · -- the mark is still all that has been skipped
            subst hSome
            have hAfter :=
              feed_marked_waiting hCount hPending hRead
            rw [reread_waiting hResult hCount]
            generalize
              (waiting front awaiting).feed chunk false =
                outcome at hResult hRead hAfter ⊢
            rcases outcome with ⟨after, events, result⟩
            cases hResult
            dsimp only at hAfter ⊢
            rw [read_nil] at hRead
            have hEvents : [] = events :=
              congrArg Outcome.events hRead
            subst hEvents
            rw [Outcome.andThen_ok, hAfter]
            exact ih kept _ hDocument
          · rw [reread_taken hResult hParts hCount hSome]
            generalize
              (waiting front awaiting).feed chunk false =
                outcome at hResult hPending hRead ⊢
            rcases outcome with ⟨after, events, result⟩
            cases hResult
            exact
              reads_taken hDocument hSome hPending hRead

/- A first chunk that begins with the mark is one behind it. -/
theorem feedAll_start_marked
    (first : List UInt8)
    (rest : List (List UInt8)) :
    start.feedAll
        (unmarked ((Utf8.byteOrderMark ++ first) :: rest) ++
          [([], true)]) =
      (waiting [] false).feedAll
        (unmarked (first :: rest) ++ [([], true)]) :=
  rfl

theorem reread_start_marked
    (first : List UInt8)
    (rest : List (List UInt8)) :
    start.reread
        ((Utf8.byteOrderMark ++ first) :: rest) =
      (waiting [] false).reread (first :: rest) :=
  rfl

end Tokenizer

end RdfXml
