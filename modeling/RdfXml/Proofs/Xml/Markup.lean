import RdfXml.Xml.Markup

/-
  Pieces of markup depend on their own bytes alone.

  Markup that is complete is read the same way whatever
  follows it, markup that is beyond repair stays so, and
  markup without an end gets none from bytes among which
  there is no closing angle bracket.

  Main declarations:
    * `Piece.readMarkup_piece`
    * `Piece.first_markup`
    * `Piece.readMarkup_fault_append`
    * `Piece.first_fault_append`
    * `Piece.first_fault_of_no_bracket`
-/

------------------------------------------------------------
-- Searches For An End
------------------------------------------------------------

namespace RdfXml

namespace Piece

/-
  A search finds the closing angle bracket at index `stop`
  and looks at no byte behind it.
-/
def StopsAt
    (find : List UInt8 → Option Nat)
    (content : List UInt8)
    (stop : Nat) : Prop :=
  ∃ inner rest,
    content = inner ++ byte '>' :: rest ∧
      inner.length = stop ∧
      ∀ more, find (inner ++ byte '>' :: more) = some stop

/- A search that takes any closing angle bracket at once. -/
theorem stopsAt_bracket
    {find : List UInt8 → Option Nat}
    (rest : List UInt8)
    (hFind : ∀ more, find (byte '>' :: more) = some 0) :
    StopsAt find (byte '>' :: rest) 0 :=
  ⟨[], rest, rfl, rfl, hFind⟩

/-
  A search that passes over a byte and goes on as `next`
  stops where `next` stops.
-/
theorem stopsAt_cons
    {find : List UInt8 → Option Nat}
    (next : List UInt8 → Option Nat)
    {b : UInt8}
    {content : List UInt8}
    {stop : Nat}
    (hStep :
      ∀ more, find (b :: more) = (next more).map (· + 1))
    (hNext :
      ∀ {stop}, next content = some stop →
        StopsAt next content stop)
    (hFound : find (b :: content) = some stop) :
    StopsAt find (b :: content) stop := by
  rw [hStep] at hFound
  rcases Option.map_eq_some_iff.mp hFound with
    ⟨before, hBefore, rfl⟩
  rcases hNext hBefore with
    ⟨inner, rest, rfl, rfl, hInner⟩
  refine ⟨b :: inner, rest, rfl, rfl, ?_⟩
  intro more
  rw [List.cons_append, hStep, hInner]
  rfl

theorem tagEnd?_stopsAt
    {quote? : Option UInt8}
    {content : List UInt8}
    {stop : Nat}
    (hFound : tagEnd? quote? content = some stop) :
    StopsAt (tagEnd? quote?) content stop := by
  induction content generalizing quote? stop with
  | nil => simp [tagEnd?] at hFound
  | cons b content ih =>
      cases quote? with
      | none =>
          by_cases hBracket : b = byte '>'
          · subst hBracket
            have hStop : stop = 0 := by
              simpa [tagEnd?] using hFound.symm
            subst hStop
            exact stopsAt_bracket content
              (fun more => by simp [tagEnd?])
          · by_cases hQuote : b = byte '"' ∨ b = byte '\''
            · exact stopsAt_cons (tagEnd? (some b))
                (fun more => by
                  simp [tagEnd?, hBracket, hQuote])
                ih hFound
            · exact stopsAt_cons (tagEnd? none)
                (fun more => by
                  simp [tagEnd?, hBracket, hQuote])
                ih hFound
      | some quote =>
          by_cases hQuote : b = quote
          · exact stopsAt_cons (tagEnd? none)
              (fun more => by simp [tagEnd?, hQuote])
              ih hFound
          · exact stopsAt_cons (tagEnd? (some quote))
              (fun more => by simp [tagEnd?, hQuote])
              ih hFound

theorem pairEnd?_stopsAt
    {mark : UInt8}
    {least : Nat}
    {before : Option UInt8 × Option UInt8}
    {content : List UInt8}
    {stop : Nat}
    (hFound :
      pairEnd? mark least before content = some stop) :
    StopsAt (pairEnd? mark least before) content stop := by
  induction content generalizing least before stop with
  | nil => simp [pairEnd?] at hFound
  | cons b content ih =>
      by_cases hEnd :
          b = byte '>' ∧ least = 0 ∧
            before.1 = some mark ∧ before.2 = some mark
      · rcases hEnd with ⟨rfl, rfl, hFirst, hSecond⟩
        have hStop : stop = 0 := by
          simpa [pairEnd?, hFirst, hSecond] using hFound.symm
        subst hStop
        exact stopsAt_bracket content
          (fun more => by simp [pairEnd?, hFirst, hSecond])
      · exact stopsAt_cons
          (pairEnd? mark (least - 1) (before.2, some b))
          (fun more => by
            simp only [pairEnd?]
            rw [if_neg (by simpa [and_assoc] using hEnd)])
          ih hFound

theorem balancedEnd?_stopsAt
    {depth : Nat}
    {content : List UInt8}
    {stop : Nat}
    (hFound : balancedEnd? depth content = some stop) :
    StopsAt (balancedEnd? depth) content stop := by
  induction content generalizing depth stop with
  | nil => simp [balancedEnd?] at hFound
  | cons b content ih =>
      by_cases hOpen : b = byte '<'
      · exact stopsAt_cons (balancedEnd? (depth + 1))
          (fun more => by simp [balancedEnd?, hOpen])
          ih hFound
      · by_cases hClose : b = byte '>'
        · cases depth with
          | zero =>
              subst hClose
              have hStop : stop = 0 := by
                simpa [balancedEnd?, hOpen] using
                  hFound.symm
              subst hStop
              exact stopsAt_bracket content
                (fun more => by simp [balancedEnd?, hOpen])
          | succ outer =>
              exact stopsAt_cons (balancedEnd? outer)
                (fun more => by
                  rw [balancedEnd?, if_neg hOpen,
                    if_pos hClose])
                ih hFound
        · exact stopsAt_cons (balancedEnd? depth)
            (fun more => by
              simp [balancedEnd?, hOpen, hClose])
            ih hFound

theorem instructionEnd?_stopsAt
    {before? : Option UInt8}
    {content : List UInt8}
    {stop : Nat}
    (hFound : instructionEnd? before? content = some stop) :
    StopsAt (instructionEnd? before?) content stop := by
  induction content generalizing before? stop with
  | nil => simp [instructionEnd?] at hFound
  | cons b content ih =>
      by_cases hEnd :
          b = byte '>' ∧ before? = some (byte '?')
      · rcases hEnd with ⟨rfl, rfl⟩
        have hStop : stop = 0 := by
          simpa [instructionEnd?] using hFound.symm
        subst hStop
        exact stopsAt_bracket content
          (fun more => by simp [instructionEnd?])
      · exact stopsAt_cons (instructionEnd? (some b))
          (fun more => by
            simp only [instructionEnd?]
            rw [if_neg (by simpa using hEnd)])
          ih hFound

------------------------------------------------------------
-- Beginnings
------------------------------------------------------------

/-
  A word without a closing angle bracket that a text begins
  with ends before the first one.
-/
theorem take_of_bracket
    (change : UInt8 → UInt8)
    {word inner rest : List UInt8}
    (hWord : change (byte '>') ∉ word)
    (hBegins :
      ((inner ++ byte '>' :: rest).take word.length).map
        change = word)
    (more : List UInt8) :
    ((inner ++ byte '>' :: more).take word.length).map
      change = word := by
  by_cases hLength : word.length ≤ inner.length
  · rw [List.take_append_of_le_length hLength] at hBegins ⊢
    exact hBegins
  · exfalso
    apply hWord
    rw [← hBegins]
    apply List.mem_map_of_mem
    rw [List.mem_take_iff_getElem]
    exact
      ⟨inner.length, by simp; omega, by simp⟩

theorem length_bytes (text : String) :
    (bytes text).length = text.length := by
  simp [bytes, String.length_toList]

theorem begins_bracket
    {start : String}
    {inner rest : List UInt8}
    (hStart : byte '>' ∉ bytes start)
    (hBegins : begins start (inner ++ byte '>' :: rest))
    (more : List UInt8) :
    begins start (inner ++ byte '>' :: more) := by
  have hTake :=
    take_of_bracket id hStart
      (by simpa [begins, length_bytes] using hBegins) more
  simpa [begins, length_bytes] using hTake

theorem beginsIgnoringCase_bracket
    {start : String}
    {inner rest : List UInt8}
    (hStart : byte '>' ∉ (bytes start).map lowerByte)
    (hBegins :
      beginsIgnoringCase start (inner ++ byte '>' :: rest))
    (more : List UInt8) :
    beginsIgnoringCase start
      (inner ++ byte '>' :: more) := by
  have hTake :=
    take_of_bracket lowerByte hStart
      (by
        simpa [beginsIgnoringCase, length_bytes] using
          hBegins) more
  simpa [beginsIgnoringCase, length_bytes] using hTake

------------------------------------------------------------
-- Complete Markup
------------------------------------------------------------

/- A piece is a text run. -/
def isText : Piece → Bool
| .text _ => true
| _ => false

/-
  A reader finds markup of some length at the start of a
  byte list, whatever follows its closing angle bracket.
-/
def MarkupAt
    (read : List UInt8 → Reading)
    (content : List UInt8)
    (piece : Piece)
    (length : Nat) : Prop :=
  piece.isText = false ∧
    ∃ inner rest,
      content = inner ++ byte '>' :: rest ∧
        inner.length + 2 = length ∧
        ∀ more,
          read (inner ++ byte '>' :: more) =
            .piece piece length

theorem readComment_piece
    {content : List UInt8}
    {piece : Piece}
    {length : Nat}
    (hRead : readComment content = .piece piece length) :
    MarkupAt readComment content piece length := by
  unfold readComment at hRead
  split at hRead
  · cases hRead
  · next stop hFound =>
      split at hRead
      · next hBegins =>
          cases hRead
          rcases pairEnd?_stopsAt hFound with
            ⟨inner, rest, rfl, rfl, hInner⟩
          refine ⟨rfl, inner, rest, rfl, rfl, ?_⟩
          intro more
          have hMore :=
            begins_bracket (by decide) hBegins more
          simp [readComment, hInner, hMore, closed]
      · cases hRead

theorem readCdata_piece
    {content : List UInt8}
    {piece : Piece}
    {length : Nat}
    (hRead : readCdata content = .piece piece length) :
    MarkupAt readCdata content piece length := by
  unfold readCdata at hRead
  split at hRead
  · cases hRead
  · next stop hFound =>
      split at hRead
      · next hBegins =>
          cases hRead
          rcases pairEnd?_stopsAt hFound with
            ⟨inner, rest, rfl, rfl, hInner⟩
          refine ⟨rfl, inner, rest, rfl, rfl, ?_⟩
          intro more
          have hMore :=
            begins_bracket (by decide) hBegins more
          simp [readCdata, hInner, hMore, closed,
            List.take_append_of_le_length]
      · cases hRead

theorem readDoctype_piece
    {content : List UInt8}
    {piece : Piece}
    {length : Nat}
    (hRead : readDoctype content = .piece piece length) :
    MarkupAt readDoctype content piece length := by
  unfold readDoctype at hRead
  split at hRead
  · cases hRead
  · next stop hFound =>
      split at hRead
      · next hBegins =>
          split at hRead
          · cases hRead
          · next hName =>
              cases hRead
              rcases balancedEnd?_stopsAt hFound with
                ⟨inner, rest, rfl, rfl, hInner⟩
              refine ⟨rfl, inner, rest, rfl, rfl, ?_⟩
              intro more
              have hMore :=
                beginsIgnoringCase_bracket (by decide)
                  hBegins more
              simp only [List.take_left'] at hName
              simp [readDoctype, hInner, hMore, hName,
                closed]
      · cases hRead

theorem readInstruction_piece
    {content : List UInt8}
    {piece : Piece}
    {length : Nat}
    (hRead : readInstruction content = .piece piece length) :
    MarkupAt readInstruction content piece length := by
  cases hFound : instructionEnd? none content with
  | none => simp [readInstruction, hFound] at hRead
  | some stop =>
      rcases instructionEnd?_stopsAt hFound with
        ⟨inner, rest, rfl, rfl, hInner⟩
      have hTake :
          ∀ more : List UInt8,
            (inner ++ byte '>' :: more).take
                (inner.length - 1) =
              inner.take (inner.length - 1) :=
        fun more => List.take_append_of_le_length (by omega)
      have hSame :
          ∀ more,
            readInstruction (inner ++ byte '>' :: more) =
              readInstruction (inner ++ byte '>' :: rest) := by
        intro more
        simp only [readInstruction, hInner, hTake]
      have hKind :
          piece.isText = false ∧
            inner.length + 2 = length := by
        simp only [readInstruction, hInner] at hRead
        split at hRead
        · cases hRead
        · split at hRead
          · cases hRead
            exact ⟨rfl, rfl⟩
          · cases hRead
            exact ⟨rfl, rfl⟩
      exact
        ⟨hKind.1, inner, rest, rfl, hKind.2,
          fun more => (hSame more).trans hRead⟩

theorem readTag_piece
    {content : List UInt8}
    {piece : Piece}
    {length : Nat}
    (hRead : readTag content = .piece piece length) :
    MarkupAt readTag content piece length := by
  cases hFound : tagEnd? none content with
  | none => simp [readTag, hFound] at hRead
  | some stop =>
      rcases tagEnd?_stopsAt hFound with
        ⟨inner, rest, rfl, rfl, hInner⟩
      have hTake :
          ∀ more : List UInt8,
            (inner ++ byte '>' :: more).take inner.length =
              inner :=
        fun more => List.take_left' rfl
      have hSame :
          ∀ more,
            readTag (inner ++ byte '>' :: more) =
              readTag (inner ++ byte '>' :: rest) := by
        intro more
        simp only [readTag, hInner, hTake]
      have hKind :
          piece.isText = false ∧
            inner.length + 2 = length := by
        simp only [readTag, hInner, hTake] at hRead
        cases inner with
        | nil =>
            cases hRead
            exact ⟨rfl, rfl⟩
        | cons b inner =>
            dsimp only at hRead
            split at hRead
            · cases hRead
              exact ⟨rfl, rfl⟩
            · cases hRead
              refine ⟨?_, rfl⟩
              unfold ofTagContent
              split <;> rfl
      exact
        ⟨hKind.1, inner, rest, rfl, hKind.2,
          fun more => (hSame more).trans hRead⟩

/- A reader that goes on as another one finds the same. -/
theorem MarkupAt.congr
    {read next : List UInt8 → Reading}
    {content : List UInt8}
    {piece : Piece}
    {length : Nat}
    (hNext : MarkupAt next content piece length)
    (hSame :
      ∀ inner rest more,
        content = inner ++ byte '>' :: rest →
          read (inner ++ byte '>' :: more) =
            next (inner ++ byte '>' :: more)) :
    MarkupAt read content piece length := by
  rcases hNext with
    ⟨hKind, inner, rest, hContent, hLength, hMore⟩
  refine ⟨hKind, inner, rest, hContent, hLength, ?_⟩
  intro more
  rw [hSame inner rest more hContent, hMore]

theorem readBang_piece
    {content : List UInt8}
    {piece : Piece}
    {length : Nat}
    (hRead :
      readBang (byte '!' :: content) =
        .piece piece length) :
    MarkupAt readBang (byte '!' :: content) piece
      length := by
  cases content with
  | nil => simp [readBang] at hRead
  | cons b content =>
      -- The byte that selects the kind stands in front of
      -- the closing angle bracket, or is that bracket.
      have hSecond :
          ∀ inner rest more : List UInt8,
            byte '!' :: b :: content =
                inner ++ byte '>' :: rest →
              (inner ++ byte '>' :: more)[1]? = some b := by
        intro inner rest more hContent
        cases inner with
        | nil =>
            exact absurd (List.cons.inj hContent).1
              (by decide)
        | cons a inner =>
            cases inner with
            | nil => simp_all
            | cons c inner => simp_all
      simp only [readBang, List.getElem?_cons_succ,
        List.getElem?_cons_zero] at hRead
      split at hRead
      · next hCdata =>
          apply (readCdata_piece hRead).congr
          intro inner rest more hContent
          simp [readBang, hSecond inner rest more hContent,
            hCdata]
      · next hCdata =>
          split at hRead
          · next hComment =>
              apply (readComment_piece hRead).congr
              intro inner rest more hContent
              simp only [readBang,
                hSecond inner rest more hContent,
                if_neg hCdata, if_pos hComment]
          · next hComment =>
              split at hRead
              · next hDoctype =>
                  apply (readDoctype_piece hRead).congr
                  intro inner rest more hContent
                  simp only [readBang,
                    hSecond inner rest more hContent,
                    if_neg hCdata, if_neg hComment,
                    if_pos hDoctype]
              · cases hRead

theorem readMarkup_piece
    {content : List UInt8}
    {piece : Piece}
    {length : Nat}
    (hRead : readMarkup content = .piece piece length) :
    MarkupAt readMarkup content piece length := by
  cases content with
  | nil => cases hRead
  | cons b content =>
      have hFirst :
          ∀ inner rest more : List UInt8,
            b :: content = inner ++ byte '>' :: rest →
              ∃ tail,
                inner ++ byte '>' :: more = b :: tail := by
        intro inner rest more hContent
        cases inner with
        | nil => exact ⟨more, by simp_all⟩
        | cons a inner =>
            exact ⟨inner ++ byte '>' :: more, by simp_all⟩
      simp only [readMarkup] at hRead
      split at hRead
      · next hBang =>
          subst hBang
          apply (readBang_piece hRead).congr
          intro inner rest more hContent
          rcases hFirst inner rest more hContent with
            ⟨tail, hTail⟩
          simp [readMarkup, hTail]
      · next hBang =>
          split at hRead
          · next hQuestion =>
              apply (readInstruction_piece hRead).congr
              intro inner rest more hContent
              rcases hFirst inner rest more hContent with
                ⟨tail, hTail⟩
              simp only [readMarkup, hTail, if_neg hBang,
                if_pos hQuestion]
          · next hQuestion =>
              apply (readTag_piece hRead).congr
              intro inner rest more hContent
              rcases hFirst inner rest more hContent with
                ⟨tail, hTail⟩
              simp only [readMarkup, hTail, if_neg hBang,
                if_neg hQuestion]

------------------------------------------------------------
-- Faults Of Markup
------------------------------------------------------------

/- Content without an end of an instruction shows none. -/
theorem hasInstructionEnd_of_instructionEnd?
    {before? : Option UInt8}
    {content : List UInt8}
    (hNone : instructionEnd? before? content = none) :
    MarkupFault.hasInstructionEnd content = false := by
  induction content generalizing before? with
  | nil => rfl
  | cons b content ih =>
      simp only [instructionEnd?] at hNone
      split at hNone
      · cases hNone
      · have hRest :
            instructionEnd? (some b) content = none := by
          simpa using hNone
        simp only [MarkupFault.hasInstructionEnd, ih hRest,
          Bool.or_false, Bool.and_eq_false_imp,
          beq_eq_false_iff_ne, beq_iff_eq]
        rintro rfl hHead
        cases content with
        | nil => cases hHead
        | cons c content =>
            cases hHead
            simp [instructionEnd?] at hRest

theorem readComment_fault
    {content : List UInt8}
    {cause : MarkupFault}
    {index : Nat}
    (hRead : readComment content = .fault cause index) :
    cause = .unclosedComment := by
  unfold readComment at hRead
  split at hRead
  · cases hRead
    rfl
  · split at hRead
    · cases hRead
    · cases hRead
      rfl

theorem readCdata_fault
    {content : List UInt8}
    {cause : MarkupFault}
    {index : Nat}
    (hRead : readCdata content = .fault cause index) :
    cause = .unclosedCdata := by
  unfold readCdata at hRead
  split at hRead
  · cases hRead
    rfl
  · split at hRead
    · cases hRead
    · cases hRead
      rfl

theorem readTag_fault
    {content : List UInt8}
    {cause : MarkupFault}
    {index : Nat}
    (hRead : readTag content = .fault cause index) :
    cause = .unclosedTag := by
  unfold readTag at hRead
  split at hRead
  · cases hRead
    rfl
  · split at hRead
    · cases hRead
    · split at hRead
      · cases hRead
      · cases hRead

theorem readDoctype_fault_append
    {content : List UInt8}
    {cause : MarkupFault}
    {index : Nat}
    (hRead : readDoctype content = .fault cause index)
    (hFinal : cause ≠ .unclosedDoctype)
    (more : List UInt8) :
    readDoctype (content ++ more) = .fault cause index := by
  unfold readDoctype at hRead
  split at hRead
  · cases hRead
    exact absurd rfl hFinal
  · next stop hFound =>
      rcases balancedEnd?_stopsAt hFound with
        ⟨inner, rest, rfl, rfl, hInner⟩
      split at hRead
      · next hBegins =>
          have hMore :=
            beginsIgnoringCase_bracket (by decide) hBegins
              (rest ++ more)
          split at hRead
          · next hName =>
              cases hRead
              simp only [List.take_left'] at hName
              simp [readDoctype, hInner, hMore, hName]
          · cases hRead
      · cases hRead
        exact absurd rfl hFinal

theorem readInstruction_fault
    {content : List UInt8}
    {cause : MarkupFault}
    {index : Nat}
    (hRead : readInstruction content = .fault cause index) :
    cause = .unclosedInstruction ∧ index = 0 := by
  unfold readInstruction at hRead
  split at hRead
  · cases hRead
    exact ⟨rfl, rfl⟩
  · split at hRead
    · cases hRead
      exact ⟨rfl, rfl⟩
    · dsimp only at hRead
      split at hRead
      · cases hRead
      · cases hRead

theorem readInstruction_fault_append
    {content : List UInt8}
    {cause : MarkupFault}
    {index : Nat}
    (hRead : readInstruction content = .fault cause index)
    (hEnd : MarkupFault.hasInstructionEnd content = true)
    (more : List UInt8) :
    readInstruction (content ++ more) =
      .fault cause index := by
  cases hFound : instructionEnd? none content with
  | none =>
      rw [hasInstructionEnd_of_instructionEnd? hFound] at hEnd
      cases hEnd
  | some stop =>
      rcases instructionEnd?_stopsAt hFound with
        ⟨inner, rest, rfl, rfl, hInner⟩
      simp only [readInstruction, hInner] at hRead
      split at hRead
      · next hStop =>
          cases hRead
          simp [readInstruction, hInner, hStop]
      · split at hRead
        · cases hRead
        · cases hRead

theorem readBang_fault_append
    {content : List UInt8}
    {cause : MarkupFault}
    {index : Nat}
    (hRead :
      readBang (byte '!' :: content) = .fault cause index)
    (hFinal :
      cause.isCutOff
          ((byte '<' :: byte '!' :: content).drop index) =
        false)
    (more : List UInt8) :
    readBang (byte '!' :: (content ++ more)) =
      .fault cause index := by
  cases content with
  | nil =>
      simp only [readBang] at hRead
      cases hRead
      simp [MarkupFault.isCutOff, bytes] at hFinal
  | cons b content =>
      simp only [readBang, List.getElem?_cons_succ,
        List.getElem?_cons_zero, List.cons_append] at hRead ⊢
      split at hRead
      · rw [readCdata_fault hRead] at hFinal
        cases hFinal
      · next hCdata =>
          rw [if_neg hCdata]
          split at hRead
          · rw [readComment_fault hRead] at hFinal
            cases hFinal
          · next hComment =>
              rw [if_neg hComment]
              split at hRead
              · next hDoctype =>
                  rw [if_pos hDoctype]
                  apply readDoctype_fault_append hRead
                  rintro rfl
                  cases hFinal
              · next hDoctype =>
                  rw [if_neg hDoctype]
                  exact hRead

/-
  Markup that is beyond repair gives the same fault when more
  input follows.
-/
theorem readMarkup_fault_append
    {content : List UInt8}
    {cause : MarkupFault}
    {index : Nat}
    (hRead : readMarkup content = .fault cause index)
    (hFinal :
      cause.isCutOff
        ((byte '<' :: content).drop index) = false)
    (more : List UInt8) :
    readMarkup (content ++ more) = .fault cause index := by
  cases content with
  | nil =>
      cases hRead
      cases hFinal
  | cons b content =>
      simp only [readMarkup, List.cons_append] at hRead ⊢
      split at hRead
      · next hBang =>
          subst hBang
          exact readBang_fault_append hRead hFinal more
      · next hBang =>
          rw [if_neg hBang]
          split at hRead
          · next hQuestion =>
              rw [if_pos hQuestion]
              apply readInstruction_fault_append hRead
              rcases readInstruction_fault hRead with
                ⟨rfl, rfl⟩
              have hOpen :
                  (byte '<' == byte '?') = false := by decide
              rw [List.drop_zero, MarkupFault.isCutOff,
                MarkupFault.hasInstructionEnd, hOpen,
                Bool.false_and, Bool.false_or] at hFinal
              simpa using hFinal
          · rw [readTag_fault hRead] at hFinal
            cases hFinal

/- Reading markup finds a piece or a fault. -/
theorem readMarkup_ne_endOfInput
    (content : List UInt8) :
    readMarkup content ≠ .endOfInput := by
  unfold readMarkup readBang readCdata readComment
    readDoctype readInstruction readTag closed
  dsimp only
  repeat' split
  all_goals simp

/-
  Markup without an end gets none from bytes among which
  there is no closing angle bracket.
-/
theorem readMarkup_fault_of_no_bracket
    {content more : List UInt8}
    {cause : MarkupFault}
    {index : Nat}
    (hRead : readMarkup content = .fault cause index)
    (hMore : byte '>' ∉ more) :
    ∃ cause index,
      readMarkup (content ++ more) =
        .fault cause index := by
  cases hLonger : readMarkup (content ++ more) with
  | endOfInput =>
      exact absurd hLonger (readMarkup_ne_endOfInput _)
  | fault cause index => exact ⟨cause, index, rfl⟩
  | piece piece length =>
      exfalso
      rcases readMarkup_piece hLonger with
        ⟨_, inner, rest, hSplit, _, hInner⟩
      rcases List.append_eq_append_iff.mp hSplit with
        ⟨tail, rfl, hTail⟩ | ⟨tail, rfl, hTail⟩
      · apply hMore
        rw [hTail]
        simp
      · cases tail with
        | nil =>
            apply hMore
            simp at hTail
            rw [← hTail]
            simp
        | cons b tail =>
            simp only [List.cons_append,
              List.cons.injEq] at hTail
            rw [← hTail.1, hInner] at hRead
            cases hRead

------------------------------------------------------------
-- First Pieces
------------------------------------------------------------

theorem first_of_markup (content : List UInt8) :
    first (byte '<' :: content) = readMarkup content := by
  simp [first]

/- A text run is read where no markup begins. -/
theorem first_of_text
    {b : UInt8}
    (hText : isTextByte b = true)
    (input : List UInt8) :
    first (b :: input) =
      .piece (.text ((b :: input).takeWhile isTextByte))
        ((b :: input).takeWhile isTextByte).length := by
  have hOpen : b ≠ byte '<' := by
    simpa [isTextByte] using hText
  simp [first, hOpen]

/-
  Markup at the start of an input stands between two angle
  brackets, and is read the same way whatever follows it.
-/
theorem first_markup
    {input : List UInt8}
    {piece : Piece}
    {length : Nat}
    (hFirst : first input = .piece piece length)
    (hKind : piece.isText = false) :
    ∃ inner rest,
      input = (byte '<' :: inner ++ [byte '>']) ++ rest ∧
        (byte '<' :: inner ++ [byte '>']).length = length ∧
        ∀ more,
          first ((byte '<' :: inner ++ [byte '>']) ++ more) =
            .piece piece length := by
  cases input with
  | nil => cases hFirst
  | cons b input =>
      by_cases hOpen : b = byte '<'
      · subst hOpen
        rw [first_of_markup] at hFirst
        rcases readMarkup_piece hFirst with
          ⟨_, inner, rest, rfl, hLength, hMore⟩
        refine ⟨inner, rest, by simp, by simpa, ?_⟩
        intro more
        simpa [first_of_markup] using hMore more
      · rw [first_of_text (by simpa [isTextByte] using hOpen)]
          at hFirst
        cases hFirst
        cases hKind

/- Any input begins with bytes of text, if only with none. -/
theorem text_split (input : List UInt8) :
    ∃ raw rest,
      input = raw ++ rest ∧
        (∀ b ∈ raw, isTextByte b = true) ∧
          ∀ b ∈ rest.head?, isTextByte b = false := by
  refine ⟨input.takeWhile isTextByte,
    input.dropWhile isTextByte,
    List.takeWhile_append_dropWhile.symm, ?_, ?_⟩
  · have hAll :
        (input.takeWhile isTextByte).all isTextByte =
          true :=
      List.all_takeWhile
    exact List.all_eq_true.mp hAll
  · intro b hHead
    have hStop :=
      List.head?_dropWhile_not isTextByte input
    rw [Option.mem_def.mp hHead] at hStop
    exact hStop

/- A text run ends where the input does or markup begins. -/
theorem first_text_append
    {raw rest : List UInt8}
    (hRaw : ∀ b ∈ raw, isTextByte b = true)
    (hSome : raw ≠ [])
    (hRest : ∀ b ∈ rest.head?, isTextByte b = false) :
    first (raw ++ rest) =
      .piece (.text raw) raw.length := by
  have hTake :
      (raw ++ rest).takeWhile isTextByte = raw := by
    rw [List.takeWhile_append_of_pos hRaw]
    cases rest with
    | nil => simp
    | cons b rest =>
        have hStop : isTextByte b = false :=
          hRest b (by simp)
        simp [hStop]
  cases raw with
  | nil => exact absurd rfl hSome
  | cons b raw =>
      rw [List.cons_append] at hTake ⊢
      rw [first_of_text (hRaw b (by simp)), hTake]

theorem first_text_alone
    {raw : List UInt8}
    (hRaw : ∀ b ∈ raw, isTextByte b = true)
    (hSome : raw ≠ []) :
    first raw = .piece (.text raw) raw.length := by
  have hEnd :
      ∀ b ∈ ([] : List UInt8).head?,
        isTextByte b = false := by
    simp
  simpa using first_text_append hRaw hSome hEnd

/- A text run in two parts is one text run. -/
theorem first_text_append_append
    {raw more rest : List UInt8}
    (hRaw : ∀ b ∈ raw, isTextByte b = true)
    (hMore : ∀ b ∈ more, isTextByte b = true)
    (hSome : raw ≠ [])
    (hRest : ∀ b ∈ rest.head?, isTextByte b = false) :
    first (raw ++ (more ++ rest)) =
      .piece (.text (raw ++ more)) (raw ++ more).length := by
  rw [← List.append_assoc]
  apply first_text_append _ (by simp [hSome]) hRest
  intro b hB
  rcases List.mem_append.mp hB with hB | hB
  · exact hRaw b hB
  · exact hMore b hB

/- What a text run at the start of an input is. -/
theorem first_text
    {input raw : List UInt8}
    {length : Nat}
    (hFirst : first input = .piece (.text raw) length) :
    ∃ rest,
      input = raw ++ rest ∧ raw ≠ [] ∧
        length = raw.length ∧
          (∀ b ∈ raw, isTextByte b = true) ∧
            ∀ b ∈ rest.head?, isTextByte b = false := by
  rcases text_split input with
    ⟨text, rest, rfl, hText, hRest⟩
  by_cases hSome : text = []
  · subst hSome
    cases rest with
    | nil => cases hFirst
    | cons b rest =>
        have hOpen : b = byte '<' := by
          simpa [isTextByte] using hRest b (by simp)
        rw [hOpen, List.nil_append, first_of_markup]
          at hFirst
        cases (readMarkup_piece hFirst).1
  · rw [first_text_append hText hSome hRest] at hFirst
    cases hFirst
    exact ⟨rest, rfl, hSome, rfl, hText, hRest⟩

/- A fault is one of the markup at the start of an input. -/
theorem first_fault
    {input : List UInt8}
    {cause : MarkupFault}
    {index : Nat}
    (hFirst : first input = .fault cause index) :
    ∃ content,
      input = byte '<' :: content ∧
        readMarkup content = .fault cause index := by
  cases input with
  | nil => cases hFirst
  | cons b input =>
      by_cases hOpen : b = byte '<'
      · subst hOpen
        rw [first_of_markup] at hFirst
        exact ⟨input, rfl, hFirst⟩
      · rw [first_of_text (by simpa [isTextByte] using hOpen)]
          at hFirst
        cases hFirst

theorem first_fault_append
    {input : List UInt8}
    {cause : MarkupFault}
    {index : Nat}
    (hFirst : first input = .fault cause index)
    (hFinal : cause.isCutOff (input.drop index) = false)
    (more : List UInt8) :
    first (input ++ more) = .fault cause index := by
  rcases first_fault hFirst with ⟨content, rfl, hRead⟩
  rw [List.cons_append, first_of_markup]
  exact readMarkup_fault_append hRead hFinal more

theorem first_fault_of_no_bracket
    {input more : List UInt8}
    {cause : MarkupFault}
    {index : Nat}
    (hFirst : first input = .fault cause index)
    (hMore : byte '>' ∉ more) :
    ∃ cause index,
      first (input ++ more) = .fault cause index := by
  rcases first_fault hFirst with ⟨content, rfl, hRead⟩
  rw [List.cons_append, first_of_markup]
  exact readMarkup_fault_of_no_bracket hRead hMore

/- The bytes that a first piece takes. -/
theorem first_length
    {input : List UInt8}
    {piece : Piece}
    {length : Nat}
    (hFirst : first input = .piece piece length) :
    0 < length ∧ length ≤ input.length := by
  cases hKind : piece.isText with
  | false =>
      rcases first_markup hFirst hKind with
        ⟨inner, rest, rfl, rfl, _⟩
      constructor
      · simp
      · simp
  | true =>
      cases piece with
      | text raw =>
          rcases first_text hFirst with
            ⟨rest, rfl, hSome, rfl, _⟩
          constructor
          · exact List.length_pos_iff.mpr hSome
          · simp
      | _ => cases hKind

theorem first_endOfInput
    {input : List UInt8}
    (hFirst : first input = .endOfInput) :
    input = [] := by
  cases input with
  | nil => rfl
  | cons b input =>
      by_cases hOpen : b = byte '<'
      · subst hOpen
        rw [first_of_markup] at hFirst
        exact absurd hFirst (readMarkup_ne_endOfInput _)
      · rw [first_of_text (by simpa [isTextByte] using hOpen)]
          at hFirst
        cases hFirst

/-
  A first piece is read the same way whatever follows it,
  unless it is text that goes on.
-/
theorem first_append
    {input more : List UInt8}
    {piece : Piece}
    {length : Nat}
    (hFirst : first input = .piece piece length)
    (hMore :
      piece.isText = false ∨ length < input.length ∨
        ∀ b ∈ more.head?, isTextByte b = false) :
    first (input ++ more) = .piece piece length := by
  cases hKind : piece.isText with
  | false =>
      rcases first_markup hFirst hKind with
        ⟨inner, rest, rfl, _, hSame⟩
      rw [List.append_assoc]
      exact hSame (rest ++ more)
  | true =>
      cases piece with
      | text raw =>
          rcases first_text hFirst with
            ⟨rest, rfl, hSome, rfl, hRaw, hRest⟩
          rw [List.append_assoc]
          apply first_text_append hRaw hSome
          cases rest with
          | nil =>
              rcases hMore with hMarkup | hLess | hStop
              · cases hMarkup
              · simp at hLess
              · exact hStop
          | cons b rest => exact hRest
      | _ => cases hKind

/-
  A first piece is read the same way when the input ends
  earlier behind it.
-/
theorem first_shorten
    {taken kept more : List UInt8}
    {piece : Piece}
    (hFirst :
      first (taken ++ (kept ++ more)) =
        .piece piece taken.length) :
    first (taken ++ kept) = .piece piece taken.length := by
  cases hKind : piece.isText with
  | false =>
      rcases first_markup hFirst hKind with
        ⟨inner, rest, hParts, hLength, hSame⟩
      have hTaken :=
        (List.append_inj hParts hLength.symm).1
      have hKept := hSame kept
      rw [← hTaken] at hKept
      exact hKept
  | true =>
      cases piece with
      | text raw =>
          rcases first_text hFirst with
            ⟨rest, hParts, hSome, hLength, hRaw, hRest⟩
          rcases List.append_inj hParts hLength with
            ⟨rfl, rfl⟩
          apply first_text_append hRaw hSome
          cases kept with
          | nil => simp
          | cons b kept => exact hRest
      | _ => cases hKind

/- A byte behind a longer first part is in the second one. -/
theorem mem_of_append_eq
    {front back first rest : List UInt8}
    {b : UInt8}
    (hParts : front ++ back = first ++ b :: rest)
    (hLength : front.length ≤ first.length) :
    b ∈ back := by
  rcases List.append_eq_append_iff.mp hParts with
    ⟨middle, _, rfl⟩ | ⟨middle, rfl, hRest⟩
  · simp
  · have hNone : middle = [] := by
      apply List.eq_nil_of_length_eq_zero
      rw [List.length_append] at hLength
      omega
    rw [hNone, List.nil_append] at hRest
    rw [← hRest]
    simp

/-
  A first piece that goes on into bytes among which there is
  no angle bracket is text, and takes them all.
-/
theorem first_long
    {front back : List UInt8}
    {piece : Piece}
    {length : Nat}
    (hFirst : first (front ++ back) = .piece piece length)
    (hLong : front.length < length)
    (hBack :
      ∀ b ∈ back, b ≠ byte '<' ∧ b ≠ byte '>') :
    piece = .text (front ++ back) := by
  cases hKind : piece.isText with
  | false =>
      rcases first_markup hFirst hKind with
        ⟨inner, rest, hParts, rfl, _⟩
      rw [List.append_assoc] at hParts
      have hInner :
          front.length ≤ (byte '<' :: inner).length := by
        rw [List.length_append, List.length_singleton]
          at hLong
        omega
      have hEnd := mem_of_append_eq hParts hInner
      exact absurd rfl (hBack _ hEnd).2
  | true =>
      cases piece with
      | text raw =>
          rcases first_text hFirst with
            ⟨rest, hParts, _, rfl, _, hRest⟩
          cases rest with
          | nil =>
              rw [List.append_nil] at hParts
              rw [hParts]
          | cons b rest =>
              have hOpen : b = byte '<' := by
                simpa [isTextByte] using hRest b (by simp)
              have hMember :=
                mem_of_append_eq hParts (Nat.le_of_lt hLong)
              exact absurd hOpen (hBack b hMember).1
      | _ => cases hKind

end Piece

end RdfXml
