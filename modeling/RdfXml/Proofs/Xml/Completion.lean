import RdfXml.Proofs.Xml.Waiting

/-
  Markup that more bytes can complete.

  Markup whose end has not arrived counts as cut off, and
  some bytes behind it would complete it, with one exception:
  a comment, a CDATA section, or a document type that its
  first byte announces, but whose opening goes wrong later.
  Nothing completes such markup, and still a tokenizer keeps
  it, and all that follows, until the last chunk.

  Main declarations:
    * `Piece.Completable`
    * `Piece.accords`
    * `Piece.isMisbegun`
    * `Piece.isCutOff_iff_completable`
    * `Tokenizer.feedAll_misbegun`
-/

------------------------------------------------------------
-- Openings
------------------------------------------------------------

namespace RdfXml

namespace Piece

/- Some bytes behind the content let a reader find a piece. -/
def Completes
    (read : List UInt8 → Reading)
    (content : List UInt8) : Prop :=
  ∃ more piece length,
    read (content ++ more) = .piece piece length

/- Some bytes behind the input make a piece at its start. -/
def Completable (input : List UInt8) : Prop :=
  Completes first input

/-
  A content begins with a word or is the beginning of one,
  bytes being compared after a change.
-/
def accords
    (change : UInt8 → UInt8)
    (word : String)
    (content : List UInt8) : Bool :=
  ((bytes word).map change).isPrefixOf
      (content.map change) ||
    (content.map change).isPrefixOf
      ((bytes word).map change)

/- What a content has not yet got of a word. -/
def lacking
    (word : String)
    (content : List UInt8) : List UInt8 :=
  (bytes word).drop content.length

/-
  A content, from its exclamation mark on, opens a comment, a
  CDATA section, or a document type, as far as it goes.
-/
def opensBang (content : List UInt8) : Bool :=
  accords id "!--" content ||
    accords id "![CDATA[" content ||
      accords lowerByte "!DOCTYPE" content

/- Bytes that begin a kind of markup behind `<!`. -/
def isBangKind (b : UInt8) : Bool :=
  b == byte '[' || b == byte '-' ||
    b == byte 'D' || b == byte 'd'

/-
  The bytes begin with `<!` and a byte that a comment, a CDATA
  section, or a document type goes on with, but not with the
  opening of any of them.
-/
def isMisbegun : List UInt8 → Bool
| bracket :: bang :: b :: rest =>
    bracket == byte '<' && bang == byte '!' &&
      isBangKind b && !opensBang (bang :: b :: rest)
| _ => false

section Words

variable
  {change : UInt8 → UInt8}
  {word : String}
  {content : List UInt8}

theorem accords_iff :
    accords change word content = true ↔
      (bytes word).map change <+: content.map change ∨
        content.map change <+: (bytes word).map change := by
  simp [accords]

/- A content accords with a word that it begins with. -/
theorem accords_of_begins
    (hBegins :
      (content.take word.length).map change =
        (bytes word).map change) :
    accords change word content = true := by
  refine accords_iff.mpr (Or.inl ?_)
  rw [← hBegins]
  exact (List.take_prefix _ _).map change

/- What a longer text accords with, its start does, too. -/
theorem accords_of_append
    {more : List UInt8}
    (hAccords : accords change word (content ++ more) = true) :
    accords change word content = true := by
  have hContent :
      content.map change <+: (content ++ more).map change :=
    (List.prefix_append _ _).map change
  rw [accords_iff] at hAccords ⊢
  rcases hAccords with hWord | hShort
  · exact List.prefix_or_prefix_of_prefix hWord hContent
  · exact Or.inr (hContent.trans hShort)

/- What it lacks lets a content begin with a word. -/
theorem take_lacking
    (hAccords : accords change word content = true)
    (more : List UInt8) :
    ((content ++ (lacking word content ++ more)).take
        word.length).map change =
      (bytes word).map change := by
  have hLength := length_bytes word
  unfold lacking
  rcases accords_iff.mp hAccords with hWord | hContent
  · have hLess : word.length ≤ content.length := by
      have hMapped := hWord.length_le
      rwa [List.length_map, List.length_map, hLength]
        at hMapped
    rw [List.take_append_of_le_length hLess, List.map_take]
    rw [← hLength, ← List.length_map (f := change)]
    exact (List.prefix_iff_eq_take.mp hWord).symm
  · have hLess : content.length ≤ word.length := by
      have hMapped := hContent.length_le
      rwa [List.length_map, List.length_map, hLength]
        at hMapped
    have hWhole :
        (content ++ (bytes word).drop content.length).length =
          word.length := by
      rw [List.length_append, List.length_drop, hLength]
      omega
    have hFront :
        content.map change =
          ((bytes word).take content.length).map change := by
      rw [List.map_take, ← List.length_map (f := change)]
      exact List.prefix_iff_eq_take.mp hContent
    rw [← List.append_assoc, List.take_left' hWhole,
      List.map_append, hFront, ← List.map_append,
      List.take_append_drop]

theorem begins_lacking
    (hAccords : accords id word content = true)
    (more : List UInt8) :
    begins word (content ++ (lacking word content ++ more)) =
      true := by
  have hTake := take_lacking hAccords more
  rw [List.map_id, List.map_id] at hTake
  exact beq_iff_eq.mpr hTake

theorem beginsIgnoringCase_lacking
    (hAccords : accords lowerByte word content = true)
    (more : List UInt8) :
    beginsIgnoringCase word
        (content ++ (lacking word content ++ more)) =
      true :=
  beq_iff_eq.mpr (take_lacking hAccords more)

theorem length_lacking (word : String) (content : List UInt8) :
    word.length ≤ (content ++ lacking word content).length := by
  rw [List.length_append, lacking, List.length_drop,
    length_bytes]
  omega

/-
  A content with a byte that the word does not have is no
  beginning of the word.
-/
theorem take_of_accords
    {b : UInt8}
    (hAccords : accords change word content = true)
    (hWord : change b ∉ (bytes word).map change)
    (hContent : b ∈ content) :
    (content.take word.length).map change =
      (bytes word).map change := by
  rcases accords_iff.mp hAccords with hBegins | hShort
  · rw [List.map_take, ← length_bytes word,
      ← List.length_map (f := change)]
    exact (List.prefix_iff_eq_take.mp hBegins).symm
  · exact absurd
      (hShort.subset (List.mem_map_of_mem hContent)) hWord

end Words

------------------------------------------------------------
-- Ends That Complete
------------------------------------------------------------

/- Two marks and a closing angle bracket end a pair. -/
theorem pairEnd?_completes
    {mark : UInt8}
    (hMark : mark ≠ byte '>')
    {least : Nat}
    {before : Option UInt8 × Option UInt8}
    {content : List UInt8}
    (hLeast : least ≤ content.length + 2) :
    ∃ stop,
      pairEnd? mark least before
        (content ++ [mark, mark, byte '>']) = some stop := by
  induction content generalizing least before with
  | nil =>
      have hNone : least - 1 - 1 = 0 := by
        rw [List.length_nil] at hLeast
        omega
      exact ⟨2, by simp [pairEnd?, hMark, hNone]⟩
  | cons b content ih =>
      rw [List.cons_append, pairEnd?]
      split
      · exact ⟨0, rfl⟩
      · have hLater : least - 1 ≤ content.length + 2 := by
          rw [List.length_cons] at hLeast
          omega
        rcases ih hLater with ⟨stop, hStop⟩
        exact ⟨stop + 1, by rw [hStop]; rfl⟩

/- A search that has found nothing goes on behind a content. -/
def GoesOn
    (find next : List UInt8 → Option Nat)
    (content : List UInt8) : Prop :=
  ∀ more,
    find (content ++ more) =
      (next more).map (· + content.length)

theorem goesOn_nil (find : List UInt8 → Option Nat) :
    GoesOn find find [] := by
  intro more
  simp

/- A search that passes over a byte goes on as `later`. -/
theorem goesOn_cons
    {find later next : List UInt8 → Option Nat}
    {b : UInt8}
    {content : List UInt8}
    (hStep :
      ∀ more, find (b :: more) = (later more).map (· + 1))
    (hLater : GoesOn later next content) :
    GoesOn find next (b :: content) := by
  intro more
  rw [List.cons_append, hStep, hLater, Option.map_map]
  rfl

/- A search that passes over a byte has found nothing yet. -/
theorem none_of_step
    {find later : List UInt8 → Option Nat}
    {b : UInt8}
    {content : List UInt8}
    (hStep :
      ∀ more, find (b :: more) = (later more).map (· + 1))
    (hNone : find (b :: content) = none) :
    later content = none := by
  rw [hStep] at hNone
  exact Option.map_eq_none_iff.mp hNone

theorem tagEnd?_goesOn
    {quote? : Option UInt8}
    {content : List UInt8}
    (hNone : tagEnd? quote? content = none) :
    ∃ quote?', GoesOn (tagEnd? quote?) (tagEnd? quote?')
      content := by
  induction content generalizing quote? with
  | nil => exact ⟨quote?, goesOn_nil _⟩
  | cons b content ih =>
      -- the state of the search behind this byte
      have hStep :
          ∃ later?, ∀ more,
            tagEnd? quote? (b :: more) =
              (tagEnd? later? more).map (· + 1) := by
        cases quote? with
        | none =>
            have hBracket : b ≠ byte '>' := by
              rintro rfl
              simp [tagEnd?] at hNone
            by_cases hQuote : b = byte '"' ∨ b = byte '\''
            · exact ⟨some b, fun more => by
                simp [tagEnd?, hBracket, hQuote]⟩
            · exact ⟨none, fun more => by
                simp [tagEnd?, hBracket, hQuote]⟩
        | some quote =>
            by_cases hQuote : b = quote
            · exact ⟨none, fun more => by
                simp [tagEnd?, hQuote]⟩
            · exact ⟨some quote, fun more => by
                simp [tagEnd?, hQuote]⟩
      rcases hStep with ⟨later?, hStep⟩
      rcases ih (none_of_step hStep hNone) with
        ⟨quote?', hLater⟩
      exact ⟨quote?', goesOn_cons hStep hLater⟩

theorem balancedEnd?_goesOn
    {depth : Nat}
    {content : List UInt8}
    (hNone : balancedEnd? depth content = none) :
    ∃ depth', GoesOn (balancedEnd? depth)
      (balancedEnd? depth') content := by
  induction content generalizing depth with
  | nil => exact ⟨depth, goesOn_nil _⟩
  | cons b content ih =>
      have hStep :
          ∃ later, ∀ more,
            balancedEnd? depth (b :: more) =
              (balancedEnd? later more).map (· + 1) := by
        by_cases hOpen : b = byte '<'
        · exact ⟨depth + 1, fun more => by
            simp [balancedEnd?, hOpen]⟩
        · by_cases hClose : b = byte '>'
          · cases depth with
            | zero =>
                rw [balancedEnd?, if_neg hOpen,
                  if_pos hClose] at hNone
                cases hNone
            | succ outer =>
                exact ⟨outer, fun more => by
                  rw [balancedEnd?, if_neg hOpen,
                    if_pos hClose]⟩
          · exact ⟨depth, fun more => by
              simp [balancedEnd?, hOpen, hClose]⟩
      rcases hStep with ⟨later, hStep⟩
      rcases ih (none_of_step hStep hNone) with
        ⟨depth', hLater⟩
      exact ⟨depth', goesOn_cons hStep hLater⟩

/- Bytes without angle brackets leave a balance as it is. -/
theorem balancedEnd?_plain
    (depth : Nat)
    {content : List UInt8}
    (hPlain :
      ∀ b ∈ content, b ≠ byte '<' ∧ b ≠ byte '>') :
    GoesOn (balancedEnd? depth) (balancedEnd? depth)
      content := by
  induction content with
  | nil => exact goesOn_nil _
  | cons b content ih =>
      have hThis := hPlain b (by simp)
      refine goesOn_cons (fun more => ?_)
        (ih (fun c hMember => hPlain c (by simp [hMember])))
      simp [balancedEnd?, hThis.1, hThis.2]

/- As many closing angle brackets as are open, and one. -/
theorem balancedEnd?_closing (depth : Nat) :
    balancedEnd? depth
        (List.replicate (depth + 1) (byte '>')) =
      some depth := by
  have hOther : byte '>' ≠ byte '<' := by decide
  induction depth with
  | zero => rfl
  | succ depth ih =>
      rw [List.replicate_succ, balancedEnd?, if_neg hOther,
        if_pos rfl, ih]
      rfl

theorem instructionEnd?_goesOn
    {before? : Option UInt8}
    {content : List UInt8}
    (hNone : instructionEnd? before? content = none) :
    ∃ before?', GoesOn (instructionEnd? before?)
      (instructionEnd? before?') content := by
  induction content generalizing before? with
  | nil => exact ⟨before?, goesOn_nil _⟩
  | cons b content ih =>
      have hStep : ∀ more,
          instructionEnd? before? (b :: more) =
            (instructionEnd? (some b) more).map (· + 1) := by
        intro more
        rw [instructionEnd?] at hNone ⊢
        split at hNone
        · cases hNone
        · next hOther => rw [if_neg hOther]
      rcases ih (none_of_step hStep hNone) with
        ⟨before?', hLater⟩
      exact ⟨before?', goesOn_cons hStep hLater⟩

theorem GoesOn.trans
    {find middle next : List UInt8 → Option Nat}
    {content more : List UInt8}
    (hFirst : GoesOn find middle content)
    (hSecond : GoesOn middle next more) :
    GoesOn find next (content ++ more) := by
  intro rest
  rw [List.append_assoc, hFirst, hSecond, Option.map_map,
    List.length_append]
  congr 1
  funext index
  simp only [Function.comp_apply]
  omega

------------------------------------------------------------
-- Markup By Its Kind
------------------------------------------------------------

theorem completes_of_closed
    {read : List UInt8 → Reading}
    {content more : List UInt8}
    {stop : Nat}
    (hRead : ∃ piece,
      read (content ++ more) = closed piece stop) :
    Completes read content := by
  rcases hRead with ⟨piece, hRead⟩
  exact ⟨more, piece, stop + 2, hRead⟩

section Found

variable
  {content : List UInt8}
  {stop : Nat}

theorem readComment_found
    (hFound :
      pairEnd? (byte '-') 5 (none, none) content = some stop)
    (hBegins : begins "!--" content = true) :
    ∃ piece, readComment content = closed piece stop := by
  refine ⟨.comment, ?_⟩
  rw [readComment, hFound]
  exact if_pos hBegins

theorem readCdata_found
    (hFound :
      pairEnd? (byte ']') 0 (none, none) content = some stop)
    (hBegins : begins "![CDATA[" content = true) :
    ∃ piece, readCdata content = closed piece stop := by
  refine ⟨.cdata ((content.take (stop - 2)).drop 8), ?_⟩
  rw [readCdata, hFound]
  exact if_pos hBegins

theorem readDoctype_found
    (hFound : balancedEnd? 0 content = some stop)
    (hBegins : beginsIgnoringCase "!DOCTYPE" content = true)
    (hName :
      ((content.take stop).drop 8).all isBlankByte = false) :
    ∃ piece, readDoctype content = closed piece stop := by
  refine ⟨.doctype, ?_⟩
  rw [readDoctype, hFound]
  dsimp only
  rw [if_pos hBegins, hName]
  rfl

theorem readTag_found
    (hFound : tagEnd? none content = some stop) :
    ∃ piece, readTag content = closed piece stop := by
  rw [readTag, hFound]
  dsimp only
  split
  · exact ⟨_, rfl⟩
  · split
    · exact ⟨_, rfl⟩
    · exact ⟨_, rfl⟩

theorem readInstruction_found
    (hFound : instructionEnd? none content = some stop)
    (hStop : 2 ≤ stop) :
    ∃ piece, readInstruction content = closed piece stop := by
  rw [readInstruction, hFound]
  dsimp only
  rw [if_neg (by omega)]
  split
  · exact ⟨_, rfl⟩
  · exact ⟨_, rfl⟩

end Found

section Misbegun

variable {content : List UInt8}

theorem readComment_misbegun
    (hOther : accords id "!--" content = false) :
    readComment content = .fault .unclosedComment 0 := by
  unfold readComment
  split
  · rfl
  · refine if_neg ?_
    intro hBegins
    rw [accords_of_begins (by simpa [begins] using hBegins)]
      at hOther
    cases hOther

theorem readCdata_misbegun
    (hOther : accords id "![CDATA[" content = false) :
    readCdata content = .fault .unclosedCdata 0 := by
  unfold readCdata
  split
  · rfl
  · refine if_neg ?_
    intro hBegins
    rw [accords_of_begins (by simpa [begins] using hBegins)]
      at hOther
    cases hOther

theorem readDoctype_misbegun
    (hOther : accords lowerByte "!DOCTYPE" content = false) :
    readDoctype content = .fault .unclosedDoctype 0 := by
  unfold readDoctype
  split
  · rfl
  · refine if_neg ?_
    intro hBegins
    rw [accords_of_begins
      (by simpa [beginsIgnoringCase] using hBegins)] at hOther
    cases hOther

/-
  A reader that refuses what does not accord with a word
  completes only what does.
-/
theorem accords_of_completes
    {change : UInt8 → UInt8}
    {word : String}
    {read : List UInt8 → Reading}
    {cause : MarkupFault}
    (hRefuses :
      ∀ {content}, accords change word content = false →
        read content = .fault cause 0)
    (hCompletes : Completes read content) :
    accords change word content = true := by
  rcases hCompletes with ⟨more, piece, length, hRead⟩
  cases hAll : accords change word (content ++ more) with
  | true => exact accords_of_append hAll
  | false =>
      rw [hRefuses hAll] at hRead
      cases hRead

end Misbegun

theorem readComment_completes_iff (content : List UInt8) :
    Completes readComment content ↔
      accords id "!--" content = true := by
  constructor
  · exact accords_of_completes readComment_misbegun
  · intro hAccords
    have hLength := length_lacking "!--" content
    have hLeast :
        5 ≤ (content ++ lacking "!--" content).length + 2 :=
      Nat.add_le_add_right hLength 2
    have hMark : byte '-' ≠ byte '>' := by decide
    rcases pairEnd?_completes hMark hLeast with
      ⟨stop, hStop⟩
    rw [List.append_assoc] at hStop
    exact completes_of_closed
      (readComment_found hStop (begins_lacking hAccords _))

theorem readCdata_completes_iff (content : List UInt8) :
    Completes readCdata content ↔
      accords id "![CDATA[" content = true := by
  constructor
  · exact accords_of_completes readCdata_misbegun
  · intro hAccords
    have hLeast :
        0 ≤ (content ++
          lacking "![CDATA[" content).length + 2 :=
      Nat.zero_le _
    have hMark : byte ']' ≠ byte '>' := by decide
    rcases pairEnd?_completes hMark hLeast with
      ⟨stop, hStop⟩
    rw [List.append_assoc] at hStop
    exact completes_of_closed
      (readCdata_found hStop (begins_lacking hAccords _))

/- A well-begun document type that is refused has no end. -/
theorem balancedEnd?_of_fault
    {content : List UInt8}
    {cause : MarkupFault}
    (hRead : readDoctype content = .fault cause 0)
    (hAccords :
      accords lowerByte "!DOCTYPE" content = true) :
    balancedEnd? 0 content = none := by
  cases hFound : balancedEnd? 0 content with
  | none => rfl
  | some stop =>
      rcases balancedEnd?_stopsAt hFound with
        ⟨inner, rest, rfl, _, _⟩
      have hBegins :
          beginsIgnoringCase "!DOCTYPE"
            (inner ++ byte '>' :: rest) = true :=
        beq_iff_eq.mpr
          (take_of_accords hAccords (b := byte '>')
            (by decide) (by simp))
      rw [readDoctype, hFound] at hRead
      dsimp only at hRead
      rw [if_pos hBegins] at hRead
      split at hRead
      · cases hRead
      · cases hRead

/- The rest of the word and a name hold no bracket. -/
theorem lacking_plain (content : List UInt8) :
    ∀ b ∈ lacking "!DOCTYPE" content ++ [byte 'x'],
      b ≠ byte '<' ∧ b ≠ byte '>' := by
  have hWord :
      (bytes "!DOCTYPE" ++ [byte 'x']).all
          (fun b => b != byte '<' && b != byte '>') =
        true := by
    decide +kernel
  intro b hMember
  have hInWord : b ∈ bytes "!DOCTYPE" ++ [byte 'x'] := by
    rcases List.mem_append.mp hMember with hLeft | hName
    · exact List.mem_append_left _
        (List.mem_of_mem_drop hLeft)
    · exact List.mem_append_right _ hName
  simpa using List.all_eq_true.mp hWord b hInWord

/- A document type that has no end yet may still name one. -/
theorem readDoctype_completes_iff
    {content : List UInt8}
    {cause : MarkupFault}
    (hRead : readDoctype content = .fault cause 0) :
    Completes readDoctype content ↔
      accords lowerByte "!DOCTYPE" content = true := by
  constructor
  · exact accords_of_completes readDoctype_misbegun
  · intro hAccords
    have hNone := balancedEnd?_of_fault hRead hAccords
    rcases balancedEnd?_goesOn hNone with ⟨depth, hOpen⟩
    let opening := content ++ lacking "!DOCTYPE" content
    let name :=
      byte 'x' :: List.replicate depth (byte '>')
    have hLength : 8 ≤ opening.length :=
      length_lacking "!DOCTYPE" content
    have hPlain := lacking_plain content
    have hFound :=
      hOpen.trans (balancedEnd?_plain depth hPlain)
        (List.replicate (depth + 1) (byte '>'))
    rw [balancedEnd?_closing, Option.map_some] at hFound
    have hParts :
        content ++ (lacking "!DOCTYPE" content ++ [byte 'x']) ++
            List.replicate (depth + 1) (byte '>') =
          (opening ++ name) ++ [byte '>'] := by
      simp [opening, name, List.replicate_succ']
    have hStop :
        (opening ++ name).length =
          depth + (content ++
            (lacking "!DOCTYPE" content ++
              [byte 'x'])).length := by
      simp [opening, name]
      omega
    have hName :
        (((opening ++ name ++ [byte '>']).take
          (opening ++ name).length).drop 8).all
            isBlankByte = false := by
      rw [List.take_left', List.drop_append_of_le_length hLength,
        List.all_append]
      · simp [name, isBlankByte, byte]
      · rfl
    rw [hParts, ← hStop] at hFound
    have hBegins :=
      beginsIgnoringCase_lacking hAccords
        (byte 'x' :: List.replicate (depth + 1) (byte '>'))
    have hWhole :
        content ++ (lacking "!DOCTYPE" content ++
            byte 'x' ::
              List.replicate (depth + 1) (byte '>')) =
          opening ++ name ++ [byte '>'] := by
      rw [← hParts]
      simp
    rw [hWhole] at hBegins
    have hWholeRead := readDoctype_found hFound hBegins hName
    rw [← hWhole] at hWholeRead
    exact completes_of_closed hWholeRead

/- Every tag can be completed. -/
theorem readTag_completes (content : List UInt8) :
    Completes readTag content := by
  cases hFound : tagEnd? none content with
  | some stop =>
      have hRead := readTag_found hFound
      rw [← List.append_nil content] at hRead
      exact completes_of_closed hRead
  | none =>
      rcases tagEnd?_goesOn hFound with ⟨quote?, hOpen⟩
      cases quote? with
      | none =>
          have hEnd := hOpen [byte '>']
          rw [tagEnd?, if_pos rfl, Option.map_some] at hEnd
          exact completes_of_closed (readTag_found hEnd)
      | some quote =>
          have hEnd := hOpen [quote, byte '>']
          rw [tagEnd?, if_pos rfl, tagEnd?, if_pos rfl,
            Option.map_some, Option.map_some] at hEnd
          exact completes_of_closed (readTag_found hEnd)

/- An instruction can be completed that has no end yet. -/
theorem readInstruction_completes
    {content : List UInt8}
    (hNone : instructionEnd? none content = none)
    (hSome : content ≠ []) :
    Completes readInstruction content := by
  rcases instructionEnd?_goesOn hNone with
    ⟨before?, hOpen⟩
  have hEnd := hOpen [byte '?', byte '>']
  have hOther : byte '?' ≠ byte '>' := by decide
  have hTwo :
      instructionEnd? before? [byte '?', byte '>'] =
        some 1 := by
    simp [instructionEnd?, hOther]
  rw [hTwo, Option.map_some] at hEnd
  have hLength := List.length_pos_iff.mpr hSome
  exact completes_of_closed
    (readInstruction_found hEnd (by omega))

/- Where a search ends, the end of an instruction stands. -/
theorem hasInstructionEnd_of_found
    {before? : Option UInt8}
    {content : List UInt8}
    {stop : Nat}
    (hFound : instructionEnd? before? content = some stop) :
    MarkupFault.hasInstructionEnd
      (before?.toList ++ content) = true := by
  induction content generalizing before? stop with
  | nil => cases hFound
  | cons b content ih =>
      rw [instructionEnd?] at hFound
      split at hFound
      · next hEnd =>
          simp only [Bool.and_eq_true, decide_eq_true_eq]
            at hEnd
          rcases hEnd with ⟨rfl, rfl⟩
          rfl
      · rcases Option.map_eq_some_iff.mp hFound with
          ⟨later, hLater, _⟩
        have hInside := ih hLater
        cases before? with
        | none => exact hInside
        | some before =>
            simp only [Option.toList_some, List.cons_append,
              List.nil_append] at hInside ⊢
            rw [MarkupFault.hasInstructionEnd, hInside,
              Bool.or_true]

------------------------------------------------------------
-- Cut-Off Markup
------------------------------------------------------------

theorem Completes.congr
    {read next : List UInt8 → Reading}
    {content : List UInt8}
    (hSame :
      ∀ more, read (content ++ more) = next (content ++ more)) :
    Completes read content ↔ Completes next content := by
  unfold Completes
  simp only [hSame]

theorem completable_markup (content : List UInt8) :
    Completable (byte '<' :: content) ↔
      Completes readMarkup content := by
  unfold Completable Completes
  simp only [List.cons_append, first_of_markup]

/- An instruction is cut off when it can be completed. -/
theorem instruction_isCutOff_iff
    {content : List UInt8}
    {cause : MarkupFault}
    {index : Nat}
    (hRead :
      readInstruction (byte '?' :: content) =
        .fault cause index) :
    cause.isCutOff (byte '<' :: byte '?' :: content) = true ↔
      Completes readInstruction (byte '?' :: content) := by
  have hCause := (readInstruction_fault hRead).1
  have hCutOff :
      cause.isCutOff (byte '<' :: byte '?' :: content) =
        !MarkupFault.hasInstructionEnd
          (byte '?' :: content) := by
    rw [hCause]
    rfl
  rw [hCutOff]
  cases hEnd :
      MarkupFault.hasInstructionEnd (byte '?' :: content) with
  | true =>
      have hNever : ¬ Completes readInstruction
          (byte '?' :: content) := by
        rintro ⟨more, piece, length, hMore⟩
        rw [readInstruction_fault_append hRead hEnd] at hMore
        cases hMore
      simpa using hNever
  | false =>
      have hNone :
          instructionEnd? none (byte '?' :: content) =
            none := by
        cases hFound :
            instructionEnd? none (byte '?' :: content) with
        | none => rfl
        | some stop =>
            have hOther := hasInstructionEnd_of_found hFound
            rw [Option.toList_none, List.nil_append, hEnd]
              at hOther
            cases hOther
      simpa using readInstruction_completes hNone (by simp)

/-
  A comment, a CDATA section, or a document type that is
  refused can be completed when it is well begun.
-/
theorem readBang_completes_iff
    {b : UInt8}
    {content : List UInt8}
    {cause : MarkupFault}
    (hKind : isBangKind b = true)
    (hRead :
      readBang (byte '!' :: b :: content) =
        .fault cause 0) :
    Completes readBang (byte '!' :: b :: content) ↔
      opensBang (byte '!' :: b :: content) = true := by
  simp only [isBangKind, Bool.or_eq_true, beq_iff_eq] at hKind
  rcases hKind with ((rfl | rfl) | rfl) | rfl
  · have hOpens :
        opensBang (byte '!' :: byte '[' :: content) =
          accords id "![CDATA["
            (byte '!' :: byte '[' :: content) :=
      Bool.or_false _
    rw [hOpens, ← readCdata_completes_iff]
    exact Completes.congr (fun _ => rfl)
  · have hOpens :
        opensBang (byte '!' :: byte '-' :: content) =
          accords id "!--"
            (byte '!' :: byte '-' :: content) :=
      (Bool.or_false _).trans (Bool.or_false _)
    rw [hOpens, ← readComment_completes_iff]
    exact Completes.congr (fun _ => rfl)
  · have hDoctype :
        readDoctype (byte '!' :: byte 'D' :: content) =
          .fault cause 0 :=
      hRead
    have hOpens :
        opensBang (byte '!' :: byte 'D' :: content) =
          accords lowerByte "!DOCTYPE"
            (byte '!' :: byte 'D' :: content) :=
      rfl
    rw [hOpens, ← readDoctype_completes_iff hDoctype]
    exact Completes.congr (fun _ => rfl)
  · have hDoctype :
        readDoctype (byte '!' :: byte 'd' :: content) =
          .fault cause 0 :=
      hRead
    have hOpens :
        opensBang (byte '!' :: byte 'd' :: content) =
          accords lowerByte "!DOCTYPE"
            (byte '!' :: byte 'd' :: content) :=
      rfl
    rw [hOpens, ← readDoctype_completes_iff hDoctype]
    exact Completes.congr (fun _ => rfl)

/- A refused document type is cut off where it begins. -/
theorem readDoctype_fault_start
    {content : List UInt8}
    {cause : MarkupFault}
    (hRead : readDoctype content = .fault cause 0) :
    cause = .unclosedDoctype := by
  unfold readDoctype at hRead
  split at hRead
  · cases hRead
    rfl
  · split at hRead
    · split at hRead
      · cases hRead
      · cases hRead
    · cases hRead
      rfl

theorem readBang_isCutOff
    {b : UInt8}
    {content : List UInt8}
    {cause : MarkupFault}
    (hKind : isBangKind b = true)
    (hRead :
      readBang (byte '!' :: b :: content) = .fault cause 0)
    (input : List UInt8) :
    cause.isCutOff input = true := by
  simp only [isBangKind, Bool.or_eq_true, beq_iff_eq] at hKind
  rcases hKind with ((rfl | rfl) | rfl) | rfl
  · rw [readCdata_fault hRead]
    rfl
  · rw [readComment_fault hRead]
    rfl
  · rw [readDoctype_fault_start hRead]
    rfl
  · rw [readDoctype_fault_start hRead]
    rfl

/- No other byte behind `<!` begins any markup. -/
theorem readBang_unknown
    {b : UInt8}
    (hKind : isBangKind b = false)
    (content : List UInt8) :
    readBang (byte '!' :: b :: content) =
      .fault .invalidBang 0 := by
  simp only [isBangKind, Bool.or_eq_false_iff,
    beq_eq_false_iff_ne] at hKind
  rcases hKind with ⟨⟨⟨hCdata, hComment⟩, hLarge⟩, hSmall⟩
  simp [readBang, hCdata, hComment, hLarge, hSmall]

/- Where an exclamation mark follows the angle bracket. -/
theorem bang_isCutOff_iff
    {content : List UInt8}
    {cause : MarkupFault}
    (hRead : readBang (byte '!' :: content) = .fault cause 0) :
    let input := byte '<' :: byte '!' :: content
    (Completes readBang (byte '!' :: content) ↔
      cause.isCutOff input = true ∧
        isMisbegun input = false) ∧
    (isMisbegun input = true →
      cause.isCutOff input = true) := by
  cases content with
  | nil =>
      cases hRead
      have hComment :
          readBang (byte '!' :: bytes "---->") =
            closed .comment 5 :=
        rfl
      refine ⟨iff_of_true ?_ ⟨rfl, rfl⟩, fun _ => rfl⟩
      exact completes_of_closed ⟨.comment, hComment⟩
  | cons b content =>
      cases hKind : isBangKind b with
      | true =>
          have hMisbegun :
              isMisbegun
                  (byte '<' :: byte '!' :: b :: content) =
                !opensBang (byte '!' :: b :: content) := by
            simp [isMisbegun, hKind]
          have hCutOff := readBang_isCutOff hKind hRead
          dsimp only
          rw [readBang_completes_iff hKind hRead, hCutOff,
            hMisbegun]
          simp
      | false =>
          have hMisbegun :
              isMisbegun
                  (byte '<' :: byte '!' :: b :: content) =
                false := by
            simp [isMisbegun, hKind]
          have hNever :
              ¬ Completes readBang
                (byte '!' :: b :: content) := by
            rintro ⟨more, piece, length, hMore⟩
            rw [List.cons_append, List.cons_append,
              readBang_unknown hKind] at hMore
            cases hMore
          rw [readBang_unknown hKind] at hRead
          cases hRead
          dsimp only
          rw [hMisbegun]
          refine ⟨iff_of_false hNever ?_, fun h => nomatch h⟩
          simp [MarkupFault.isCutOff, bytes]

/-
  Markup that is refused where it begins is kept for the next
  chunk when some bytes behind it would complete it, and else
  only when it is misbegun.  In particular no markup that can
  be completed is rejected.  Markup that nothing completes is
  reported at once, unless it is misbegun.
-/
theorem isCutOff_iff_completable
    {input : List UInt8}
    {cause : MarkupFault}
    (hFirst : first input = .fault cause 0) :
    (Completable input ↔
      cause.isCutOff input = true ∧
        isMisbegun input = false) ∧
    (isMisbegun input = true →
      cause.isCutOff input = true) := by
  rcases first_fault hFirst with ⟨content, rfl, hRead⟩
  rw [completable_markup]
  cases content with
  | nil =>
      cases hRead
      have hTag :
          readMarkup (bytes "a>") =
            closed (.startTag (bytes "a")) 1 :=
        rfl
      refine ⟨iff_of_true ?_ ⟨rfl, rfl⟩, fun _ => rfl⟩
      exact completes_of_closed ⟨_, hTag⟩
  | cons b content =>
      by_cases hBang : b = byte '!'
      · subst hBang
        exact bang_isCutOff_iff hRead
      · have hMisbegun :
            isMisbegun (byte '<' :: b :: content) = false := by
          unfold isMisbegun
          split
          · next hParts =>
              cases hParts
              simp [hBang]
          · rfl
        rw [hMisbegun]
        by_cases hQuestion : b = byte '?'
        · subst hQuestion
          have hCutOff := instruction_isCutOff_iff hRead
          refine ⟨?_, fun h => nomatch h⟩
          rw [hCutOff, and_iff_left rfl]
          exact Completes.congr (fun _ => rfl)
        · have hTag :
              ∀ more,
                readMarkup (b :: (content ++ more)) =
                  readTag (b :: (content ++ more)) := by
            intro more
            simp [readMarkup, hBang, hQuestion]
          have hCause : cause = .unclosedTag := by
            have hSame := hTag []
            rw [List.append_nil] at hSame
            exact readTag_fault (hSame.symm.trans hRead)
          have hCompletes :
              Completes readMarkup (b :: content) :=
            (Completes.congr hTag).mpr (readTag_completes _)
          rw [hCause]
          exact ⟨iff_of_true hCompletes ⟨rfl, rfl⟩,
            fun h => nomatch h⟩

/-
  A hyphen behind `<!` announces a comment.  It can be
  completed, and with an `x` behind it, it cannot; both are
  cut off.  An instruction that ends too early is not.
-/
theorem isCutOff_iff_completable_hyphen :
    Completable (bytes "<!-") ∧
      (first (bytes "<!-x") = .fault .unclosedComment 0 ∧
        MarkupFault.unclosedComment.isCutOff
            (bytes "<!-x") = true ∧
          ¬ Completable (bytes "<!-x")) ∧
      (first (bytes "<?>") = .fault .unclosedInstruction 0 ∧
        MarkupFault.unclosedInstruction.isCutOff
            (bytes "<?>") = false ∧
          ¬ Completable (bytes "<?>")) := by
  have hHyphen :
      first (bytes "<!-") = .fault .unclosedComment 0 := by
    decide
  have hComment :
      first (bytes "<!-x") = .fault .unclosedComment 0 := by
    decide
  have hInstruction :
      first (bytes "<?>") = .fault .unclosedInstruction 0 := by
    decide
  refine ⟨?_, ⟨hComment, rfl, ?_⟩, hInstruction, rfl, ?_⟩
  · exact (isCutOff_iff_completable hHyphen).1.mpr
      (by decide)
  · intro hCompletes
    have hHeld :=
      (isCutOff_iff_completable hComment).1.mp hCompletes
    revert hHeld
    decide
  · intro hCompletes
    have hHeld :=
      (isCutOff_iff_completable hInstruction).1.mp hCompletes
    revert hHeld
    decide

------------------------------------------------------------
-- Misbegun Markup
------------------------------------------------------------

/- The parts of misbegun markup. -/
theorem isMisbegun_iff {input : List UInt8} :
    isMisbegun input = true ↔
      ∃ b content,
        input = byte '<' :: byte '!' :: b :: content ∧
          isBangKind b = true ∧
            opensBang (byte '!' :: b :: content) = false := by
  constructor
  · intro hMisbegun
    unfold isMisbegun at hMisbegun
    split at hMisbegun
    · next bracket bang b content =>
        simp only [Bool.and_eq_true, beq_iff_eq,
          Bool.not_eq_true'] at hMisbegun
        rcases hMisbegun with
          ⟨⟨⟨rfl, rfl⟩, hKind⟩, hOpens⟩
        exact ⟨b, content, rfl, hKind, hOpens⟩
    · cases hMisbegun
  · rintro ⟨b, content, rfl, hKind, hOpens⟩
    simp [isMisbegun, hKind, hOpens]

/- More bytes do not mend an opening. -/
theorem isMisbegun_append
    {input : List UInt8}
    (hMisbegun : isMisbegun input = true)
    (more : List UInt8) :
    isMisbegun (input ++ more) = true := by
  rcases isMisbegun_iff.mp hMisbegun with
    ⟨b, content, rfl, hKind, hOpens⟩
  refine isMisbegun_iff.mpr
    ⟨b, content ++ more, rfl, hKind, ?_⟩
  rw [← Bool.not_eq_true] at hOpens ⊢
  intro hLater
  apply hOpens
  rw [← List.cons_append, ← List.cons_append] at hLater
  simp only [opensBang, Bool.or_eq_true] at hLater ⊢
  exact hLater.imp
    (Or.imp accords_of_append accords_of_append)
    accords_of_append

/- Misbegun markup is cut off, as far as the reader tells. -/
theorem isMisbegun_unfinished
    {input : List UInt8}
    (hMisbegun : isMisbegun input = true) :
    Unfinished input := by
  rcases isMisbegun_iff.mp hMisbegun with
    ⟨b, content, rfl, hKind, hOpens⟩
  have hRefused :
      ∃ cause,
        readBang (byte '!' :: b :: content) =
          .fault cause 0 := by
    simp only [opensBang, Bool.or_eq_false_iff] at hOpens
    rcases hOpens with ⟨⟨hComment, hCdata⟩, hDoctype⟩
    simp only [isBangKind, Bool.or_eq_true, beq_iff_eq]
      at hKind
    rcases hKind with ((rfl | rfl) | rfl) | rfl
    · exact ⟨_, readCdata_misbegun hCdata⟩
    · exact ⟨_, readComment_misbegun hComment⟩
    · exact ⟨_, readDoctype_misbegun hDoctype⟩
    · exact ⟨_, readDoctype_misbegun hDoctype⟩
  rcases hRefused with ⟨cause, hRead⟩
  have hFirst :
      first (byte '<' :: byte '!' :: b :: content) =
        .fault cause 0 := by
    rw [first_of_markup]
    exact hRead
  exact ⟨cause, 0, hFirst, readBang_isCutOff hKind hRead _⟩

end Piece

namespace Tokenizer

/-
  A tokenizer that waits with misbegun markup keeps every
  chunk but the last one unread, even one that would end the
  markup if it were well begun.
-/
theorem feed_misbegun
    {t : Tokenizer}
    (hAwaiting : t.awaitingMarkupEnd = true)
    (hMisbegun : Piece.isMisbegun t.pending = true)
    (chunk : List UInt8) :
    t.feed chunk false =
      stop { t with pending := t.pending ++ chunk }
        (.ok ()) := by
  by_cases hEnd : byte '>' ∈ chunk
  · have hUnfinished :=
      Piece.isMisbegun_unfinished
        (Piece.isMisbegun_append hMisbegun chunk)
    have hGuard :
        (t.awaitingMarkupEnd && !false &&
          !chunk.contains (byte '>')) = false := by
      simp [hEnd]
    unfold feed
    dsimp only
    rw [hGuard, tokenize_waits hUnfinished]
    simp [stop, Outcome.andThen_ok, keep, moved, hAwaiting]
  · exact feed_awaiting hAwaiting hEnd

/- So it keeps all chunks, and no error is reported. -/
theorem feedAll_misbegun
    {t : Tokenizer}
    (hAwaiting : t.awaitingMarkupEnd = true)
    (hMisbegun : Piece.isMisbegun t.pending = true)
    (pieces : List (List UInt8)) :
    t.feedAll (unmarked pieces) =
      stop { t with pending := t.pending ++ pieces.flatten }
        (.ok false) := by
  induction pieces generalizing t with
  | nil => simp [unmarked, feedAll]
  | cons piece pieces ih =>
      have hStep :
          t.feedAll (unmarked (piece :: pieces)) =
            (t.feed piece false).andThen (fun t _ =>
              t.feedAll (unmarked pieces)) :=
        rfl
      have hRest :=
        @ih { t with pending := t.pending ++ piece } hAwaiting
          (Piece.isMisbegun_append hMisbegun piece)
      rw [hStep, feed_misbegun hAwaiting hMisbegun piece, stop,
        Outcome.andThen_ok, hRest]
      simp [stop]

end Tokenizer

end RdfXml
