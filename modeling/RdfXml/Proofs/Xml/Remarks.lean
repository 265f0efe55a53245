import RdfXml.Proofs.Xml.Deliveries
import RdfXml.Proofs.Xml.Resolved

/-
  Comments and instructions are invisible.

  A remark is a comment or a processing instruction.  When it
  is put between two pieces of a document that can be read, or
  inside of a text run where no character and no reference is
  torn apart, the document still can be read, and its events
  differ only in the places where text is cut.

  Main declarations:
    * `IsRemark`
    * `Piece.first_remark`
    * `Gap`
    * `Gap.read_front`
    * `Tokenizer.read_moved`
    * `Tokenizer.read_remark`
-/

------------------------------------------------------------
-- Remarks
------------------------------------------------------------

namespace RdfXml

/- An instruction with this content declares the document. -/
def IsDeclared (content : List UInt8) : Prop :=
  ∃ rest,
    content = bytes "xml" ++ rest ∧
      ∀ b ∈ rest.head?, isBlankByte b = true

/-
  One complete comment, or one processing instruction that
  does not declare the document.  The content of an
  instruction begins with anything but the angle bracket that
  would close it, in particular with any letter.
-/
inductive IsRemark : List UInt8 → Prop where
| comment
    (content : List UInt8)
    (hEnd : ¬ bytes "-->" <:+: content) :
    IsRemark (bytes "<!--" ++ (content ++ bytes "-->"))
| instruction
    (content : List UInt8)
    (hBegin : byte '>' ∉ content.head?)
    (hEnd : ¬ bytes "?>" <:+: content)
    (hOther : ¬ IsDeclared content) :
    IsRemark (bytes "<?" ++ (content ++ bytes "?>"))

namespace Piece

theorem isDeclaration_iff (content : List UInt8) :
    isDeclaration content = true ↔ IsDeclared content := by
  have hLength : (bytes "xml").length = 3 := rfl
  unfold isDeclaration IsDeclared begins
  rw [Bool.and_eq_true, beq_iff_eq, Option.all_eq_true]
  constructor
  · rintro ⟨hName, hBlank⟩
    refine ⟨content.drop 3, ?_, ?_⟩
    · rw [← hName]
      exact (List.take_append_drop 3 content).symm
    · intro b hHead
      rw [List.head?_drop] at hHead
      exact hBlank b hHead
  · rintro ⟨rest, rfl, hBlank⟩
    refine ⟨List.take_left' rfl, ?_⟩
    intro b hNext
    apply hBlank
    rw [List.getElem?_append_right (Nat.le_refl 3)] at hNext
    rw [List.head?_eq_getElem?]
    exact hNext

/-
  Behind two bytes, a comment goes on for as long as no
  closing angle bracket follows two hyphens.
-/
theorem pairEnd?_behind
    (first second : UInt8)
    {content : List UInt8}
    (hEnd : ¬ bytes "-->" <:+: first :: second :: content)
    (more : List UInt8) :
    pairEnd? (byte '-') 0 (some first, some second)
        (content ++ (bytes "-->" ++ more)) =
      some (content.length + 2) := by
  induction content generalizing first second with
  | nil => simp [pairEnd?, bytes, byte]
  | cons b content ih =>
      have hOpen :
          ¬ (b = byte '>' ∧ first = byte '-' ∧
            second = byte '-') := by
        rintro ⟨rfl, rfl, rfl⟩
        exact hEnd (List.prefix_append _ content).isInfix
      have hLater :
          ¬ bytes "-->" <:+: second :: b :: content :=
        fun hInner =>
          hEnd (hInner.trans (List.suffix_cons _ _).isInfix)
      rw [List.cons_append, pairEnd?, if_neg,
        ih second b hLater]
      · rfl
      · simpa [and_assoc] using hOpen

/- The end of a comment, counted from its two hyphens. -/
theorem pairEnd?_comment
    {content : List UInt8}
    (hEnd : ¬ bytes "-->" <:+: content)
    (more : List UInt8) :
    pairEnd? (byte '-') 2 (some (byte '-'), some (byte '-'))
        (content ++ (bytes "-->" ++ more)) =
      some (content.length + 2) := by
  -- the bracket may not close a comment within two bytes
  match content with
  | [] => simp [pairEnd?, bytes, byte]
  | [b] => simp [pairEnd?, bytes, byte]
  | first :: second :: content =>
      have hLater := pairEnd?_behind first second hEnd more
      simp [pairEnd?, hLater]

theorem readComment_content
    {content : List UInt8}
    (hEnd : ¬ bytes "-->" <:+: content)
    (more : List UInt8) :
    readComment
        (bytes "!--" ++
          (content ++ (bytes "-->" ++ more))) =
      .piece .comment (content.length + 7) := by
  have hFound :
      pairEnd? (byte '-') 5 (none, none)
          (bytes "!--" ++
            (content ++ (bytes "-->" ++ more))) =
        some (content.length + 5) := by
    have hLater := pairEnd?_comment hEnd more
    simp [pairEnd?, bytes, byte] at hLater ⊢
    exact hLater
  have hBegins :
      begins "!--"
        (bytes "!--" ++
          (content ++ (bytes "-->" ++ more))) = true :=
    beq_iff_eq.mpr (List.take_left' rfl)
  simp [readComment, hFound, hBegins, closed]

/-
  Behind a byte, an instruction goes on for as long as no
  closing angle bracket follows a question mark.
-/
theorem instructionEnd?_behind
    (first : UInt8)
    {content : List UInt8}
    (hEnd : ¬ bytes "?>" <:+: first :: content)
    (more : List UInt8) :
    instructionEnd? (some first)
        (content ++ (bytes "?>" ++ more)) =
      some (content.length + 1) := by
  induction content generalizing first with
  | nil => simp [instructionEnd?, bytes, byte]
  | cons b content ih =>
      have hOpen :
          ¬ (b = byte '>' ∧ first = byte '?') := by
        rintro ⟨rfl, rfl⟩
        exact hEnd (List.prefix_append _ content).isInfix
      have hLater : ¬ bytes "?>" <:+: b :: content :=
        fun hInner =>
          hEnd (hInner.trans (List.suffix_cons _ _).isInfix)
      rw [List.cons_append, instructionEnd?, if_neg,
        ih b hLater]
      · rfl
      · simpa using hOpen

theorem readInstruction_content
    {content : List UInt8}
    (hBegin : byte '>' ∉ content.head?)
    (hEnd : ¬ bytes "?>" <:+: content)
    (hOther : ¬ IsDeclared content)
    (more : List UInt8) :
    readInstruction
        (byte '?' :: (content ++ (bytes "?>" ++ more))) =
      .piece .instruction (content.length + 4) := by
  have hInside : ¬ bytes "?>" <:+: byte '?' :: content := by
    rw [List.infix_cons_iff]
    rintro (⟨rest, hSame⟩ | hLater)
    · apply hBegin
      rw [← (List.cons.inj hSame).2]
      rfl
    · exact hEnd hLater
  have hFound :
      instructionEnd? none
          (byte '?' :: (content ++ (bytes "?>" ++ more))) =
        some (content.length + 2) := by
    have hLater := instructionEnd?_behind _ hInside more
    simp [instructionEnd?, hLater]
  have hInner :
      ((byte '?' :: (content ++ (bytes "?>" ++ more))).take
          (content.length + 2 - 1)).drop 1 = content := by
    simp
  have hKind : isDeclaration content = false := by
    rw [← Bool.not_eq_true, isDeclaration_iff]
    exact hOther
  simp only [readInstruction, hFound, hInner, hKind]
  simp [closed]

/- A remark is one piece, whatever follows it. -/
theorem first_remark
    {remark : List UInt8}
    (hRemark : IsRemark remark)
    (more : List UInt8) :
    ∃ piece,
      first (remark ++ more) =
          .piece piece remark.length ∧
        (piece = .comment ∨ piece = .instruction) := by
  cases hRemark with
  | comment content hEnd =>
      refine ⟨.comment, ?_, Or.inl rfl⟩
      have hRead := readComment_content hEnd more
      have hParts :
          bytes "<!--" ++ (content ++ bytes "-->") ++ more =
            byte '<' ::
              (bytes "!--" ++
                (content ++ (bytes "-->" ++ more))) := by
        simp [bytes]
      have hBang :
          readMarkup
              (bytes "!--" ++
                (content ++ (bytes "-->" ++ more))) =
            readComment
              (bytes "!--" ++
                (content ++ (bytes "-->" ++ more))) :=
        rfl
      rw [hParts, first_of_markup, hBang, hRead]
      simp [bytes]
  | instruction content hBegin hEnd hOther =>
      refine ⟨.instruction, ?_, Or.inr rfl⟩
      have hRead :=
        readInstruction_content hBegin hEnd hOther more
      have hParts :
          bytes "<?" ++ (content ++ bytes "?>") ++ more =
            byte '<' :: byte '?' ::
              (content ++ (bytes "?>" ++ more)) := by
        simp [bytes]
      have hQuestion :
          readMarkup
              (byte '?' ::
                (content ++ (bytes "?>" ++ more))) =
            readInstruction
              (byte '?' ::
                (content ++ (bytes "?>" ++ more))) :=
        rfl
      rw [hParts, first_of_markup, hQuestion, hRead]
      simp [bytes]

end Piece

------------------------------------------------------------
-- Gaps
------------------------------------------------------------

/- Every ampersand is followed by a semicolon. -/
def WithoutOpenReference (raw : List UInt8) : Prop :=
  ∀ first rest,
    raw = first ++ byte '&' :: rest → byte ';' ∈ rest

/-
  A gap in a document, between what stands in front of it and
  what stands behind it: at the start, inside of a text run
  between two characters and in no reference, or behind a
  piece and some gap in the rest.
-/
inductive Gap : List UInt8 → List UInt8 → Prop where
| start (back : List UInt8) : Gap [] back
| inText
    {before after rest : List UInt8}
    {chars : List Char}
    (hText :
      Piece.first (before ++ (after ++ rest)) =
        .piece (.text (before ++ after))
          (before ++ after).length)
    (hSome : before ≠ [])
    (hChars : Utf8.decode before = .ok chars)
    (hReference : WithoutOpenReference before) :
    Gap before (after ++ rest)
| behind
    {taken front back : List UInt8}
    {piece : Piece}
    (hPiece :
      Piece.first (taken ++ (front ++ back)) =
        .piece piece taken.length)
    (hLater : Gap front back) :
    Gap (taken ++ front) back

/- No ampersand is left behind a semicolon at the end. -/
theorem WithoutOpenReference.of_getLast?
    {raw : List UInt8}
    (hLast : raw.getLast? = some (byte ';')) :
    WithoutOpenReference raw := by
  rintro first rest rfl
  rw [List.getLast?_append, List.getLast?_cons,
    Option.some_or] at hLast
  cases hRest : rest.getLast? with
  | none =>
      rw [hRest] at hLast
      have hSame : byte '&' = byte ';' :=
        Option.some.inj hLast
      exact absurd hSame (by decide)
  | some last =>
      rw [hRest] at hLast
      have hSemi : last = byte ';' := Option.some.inj hLast
      rw [← hSemi]
      exact List.mem_of_getLast? hRest

/- Behind the last semicolon there is no ampersand. -/
theorem WithoutOpenReference.split
    {raw : List UInt8}
    (hReference : WithoutOpenReference raw) :
    ∃ closed plain,
      raw = closed ++ plain ∧ byte '&' ∉ plain ∧
        (closed = [] ∨
          ∃ before, closed = before ++ [byte ';']) := by
  rcases withoutOpenReference_cases raw with
    ⟨tail, hRaw, hOpen, _⟩ | ⟨_, hSplit⟩
  · exact absurd (hReference _ _ hRaw) hOpen
  · exact hSplit

/-
  Character data can be decoded up to any place between two
  characters that is in no reference.
-/
theorem decodeText_front
    {before after : List UInt8}
    {chars : List Char}
    {text : String}
    (hText : decodeText (before ++ after) = .ok text)
    (hChars : Utf8.decode before = .ok chars)
    (hReference : WithoutOpenReference before) :
    ∃ front, decodeText before = .ok front := by
  rcases decodeText_ok_iff.mp hText with
    ⟨all, hAll, hFollow⟩
  rcases Utf8.decode_append_ok hChars hAll with
    ⟨more, _, rfl⟩
  rcases hReference.split with
    ⟨closed, plain, rfl, hPlain, hClosed⟩
  exact decodeText_of_closed hClosed hPlain hChars hFollow

namespace Tokenizer

/- A text that is accepted is accepted up to such a place. -/
theorem dispatch_text_front
    {t : Tokenizer}
    {before after : List UInt8}
    {chars : List Char}
    {position : Nat}
    (hOk :
      (t.dispatch (.text (before ++ after)) position).result =
        .ok ())
    (hChars : Utf8.decode before = .ok chars)
    (hReference : WithoutOpenReference before) :
    (t.dispatch (.text before) position).result =
      .ok () := by
  rcases dispatch_text_decode hOk with ⟨text, hText⟩
  rcases decodeText_front hText hChars hReference with
    ⟨front, hFront⟩
  rcases (decodeText_append hFront after text).mp hText with
    ⟨rest, _, rfl⟩
  rw [dispatch_text_ok hText] at hOk
  rw [dispatch_text_ok hFront]
  rcases text_cases t front with
    ⟨_, hDone⟩ | ⟨_, _, hDone⟩ | ⟨hOutside, hInk, _⟩
  · rw [hDone]
    rfl
  · rw [hDone]
    rfl
  · -- what is no blank outside of the root stays so
    rw [text, hOutside, isWhitespaceOnly_append, hInk] at hOk
    cases hOk

end Tokenizer

/- What stands in front of a gap can be read. -/
theorem Gap.read_front
    {front back : List UInt8}
    (hGap : Gap front back)
    {t : Tokenizer}
    (hOk : (t.read (front ++ back)).result = .ok ()) :
    (t.read front).result = .ok () := by
  induction hGap generalizing t with
  | start back =>
      rw [Tokenizer.read_nil]
      rfl
  | @inText before after rest chars hText hSome hChars
      hReference =>
      rcases Piece.first_text hText with
        ⟨_, _, _, _, hRaw, _⟩
      have hBefore :
          ∀ b ∈ before, Piece.isTextByte b = true :=
        fun b hMember =>
          hRaw b (List.mem_append_left after hMember)
      rw [Tokenizer.read_piece hText] at hOk
      rcases Outcome.andThen_result_ok hOk with
        ⟨value, hValue, _⟩
      rw [Tokenizer.read_piece
          (Piece.first_text_alone hBefore hSome),
        List.drop_length]
      simp only [Tokenizer.read_nil, Outcome.andThen,
        Tokenizer.dispatch_text_front hValue hChars
          hReference]
      rfl
  | @behind taken front back piece hPiece hLater ih =>
      rw [List.append_assoc,
        Tokenizer.read_piece hPiece, List.drop_left] at hOk
      rcases Outcome.andThen_result_ok hOk with
        ⟨value, hValue, hRest⟩
      rw [Tokenizer.read_piece (Piece.first_shorten hPiece),
        List.drop_left]
      simp only [Outcome.andThen, hValue]
      exact ih hRest

------------------------------------------------------------
-- Offsets
------------------------------------------------------------

/- What one function finds the other one finds as well. -/
theorem mapM_ok_of_ok
    {α β ε : Type}
    {f g : α → Except ε β}
    (hSame : ∀ x value, f x = .ok value → g x = .ok value)
    {xs : List α}
    {values : List β}
    (hOk : xs.mapM f = .ok values) :
    xs.mapM g = .ok values := by
  induction xs generalizing values with
  | nil => exact hOk
  | cons x xs ih =>
      rcases mapM_cons_ok hOk with
        ⟨value, rest, hHead, hTail, rfl⟩
      rw [List.mapM_cons, hSame x value hHead, ih hTail]
      rfl

/- Decoding needs the position of a tag for faults only. -/
theorem decodeAttributes_position
    {position : Nat}
    {list : List RawAttribute × Option AttributeFault}
    {attributes : List TagAttribute}
    (hOk : decodeAttributes position list = .ok attributes)
    (other : Nat) :
    decodeAttributes other list = .ok attributes := by
  unfold decodeAttributes at hOk ⊢
  cases hAll :
      list.1.mapM (TagAttribute.ofRaw position) with
  | error e =>
      rw [hAll] at hOk
      cases hOk
  | ok found =>
      rw [hAll] at hOk
      rw [mapM_ok_of_ok
        (fun raw a hRaw =>
          TagAttribute.ofRaw_ok_iff.mpr
            (TagAttribute.ofRaw_ok_iff.mp hRaw)) hAll]
      exact hOk

namespace Tokenizer

section Position

variable
  {t : Tokenizer}
  {position : Nat}

theorem startTag_position
    {content : List UInt8}
    (hOk : (t.startTag content position).result = .ok ())
    (other : Nat) :
    t.startTag content other =
      t.startTag content position := by
  rcases startTag_cases t content position with
    ⟨after, e, hRefused⟩ |
      ⟨entered, opened, name, attributes, tag, hEnter, hName,
        hAttributes, hOpened, hTag, hStart⟩
  · rw [hRefused] at hOk
    cases hOk
  · subst hOpened
    have hOther :
        decodeTagAttributes other content =
          .ok attributes :=
      decodeAttributes_position hAttributes other
    rw [hStart]
    simp only [startTag, hEnter, hName,
      hOther, hTag]

/- A piece that is accepted may begin at any position. -/
theorem dispatch_position
    {piece : Piece}
    (hOk : (t.dispatch piece position).result = .ok ())
    (other : Nat) :
    t.dispatch piece other = t.dispatch piece position := by
  cases piece with
  | text raw =>
      rcases dispatch_text_decode hOk with ⟨text, hText⟩
      rw [dispatch_text_ok hText, dispatch_text_ok hText]
  | startTag content => exact startTag_position hOk other
  | emptyTag content =>
      rcases Outcome.andThen_result_ok hOk with
        ⟨value, hStart, _⟩
      simp only [dispatch, startTag_position hStart other]
  | declaration content =>
      have hChecked :
          checkEncoding content position = .ok () := hOk
      have hOther :
          checkEncoding content other = .ok () := by
        unfold checkEncoding at hChecked ⊢
        dsimp only at hChecked ⊢
        split at hChecked
        · exact hChecked
        · split at hChecked
          · cases hChecked
          · rfl
      simp only [dispatch, hChecked, hOther]
  | endTag name => rfl
  | cdata raw => rfl
  | instruction => rfl
  | comment => rfl
  | doctype => rfl

end Position

/-
  What can be read can be read at any offset, and only the
  offset is another one afterwards.
-/
theorem read_moved
    {t : Tokenizer}
    {input : List UInt8}
    (hOk : (t.read input).result = .ok ())
    (offset : Nat) :
    ∃ last,
      (t.moved [] offset false).read input =
        (t.read input).mapTokenizer
          (moved [] last false) := by
  induction hLength : input.length using Nat.strongRecOn
    generalizing t input offset with
  | ind count ih =>
      cases hFirst : Piece.first input with
      | endOfInput =>
          rw [Piece.first_endOfInput hFirst, read_nil,
            read_nil]
          exact ⟨offset, rfl⟩
      | fault cause index =>
          rw [read_fault hFirst] at hOk
          cases hOk
      | piece piece length =>
          have hShort := Piece.first_length hFirst
          rw [read_piece hFirst] at hOk
          rcases Outcome.andThen_result_ok hOk with
            ⟨value, hValue, hRest⟩
          rcases ih (input.drop length).length
              (by simp only [List.length_drop]; omega)
              hRest (offset + length) rfl with
            ⟨last, hLast⟩
          refine ⟨last, ?_⟩
          rw [read_piece_moved hFirst,
            dispatch_position hValue, read_piece hFirst]
          rcases hPiece : t.dispatch piece t.offset with
            ⟨after, events, result⟩
          rw [hPiece] at hValue hLast
          dsimp only at hValue
          subst hValue
          simp only [Outcome.mapTokenizer, Outcome.andThen_ok]
          have hAgain :
              ((after.moved [] offset false).moved []
                  (offset + length) false) =
                (after.moved [] (t.offset + length)
                  false).moved [] (offset + length) false :=
            rfl
          rw [hAgain, hLast]
          rfl

end Tokenizer

------------------------------------------------------------
-- Reading With Remarks
------------------------------------------------------------

/- Outcomes go on agreeing with their tokenizers changed. -/
theorem Outcome.Agree.mapTokenizer
    {α : Type}
    {left right : Outcome α}
    (hAgree : left.Agree right)
    (change : Tokenizer → Tokenizer) :
    (left.mapTokenizer change).Agree
      (right.mapTokenizer change) := by
  rcases left with ⟨t, events, result⟩
  rcases right with ⟨t', events', result'⟩
  cases result with
  | error e =>
      cases result' with
      | error e' => exact hAgree
      | ok value' => exact hAgree.elim
  | ok value =>
      cases result' with
      | error e' => exact hAgree.elim
      | ok value' =>
          rcases hAgree with ⟨hValue, hSame, hEvents⟩
          exact ⟨hValue, congrArg change hSame, hEvents⟩

namespace Tokenizer

/- A remark is read in front of what can be read. -/
theorem read_remark_first
    {t : Tokenizer}
    {remark back : List UInt8}
    (hRemark : IsRemark remark)
    (hOk : (t.read back).result = .ok ()) :
    ∃ last,
      t.read (remark ++ back) =
        (t.read back).mapTokenizer
          (moved [] last false) := by
  rcases Piece.first_remark hRemark back with
    ⟨piece, hFirst, hKind⟩
  have hDone :
      t.dispatch piece t.offset = t.stop (.ok ()) := by
    rcases hKind with rfl | rfl <;> rfl
  rcases read_moved hOk (t.offset + remark.length) with
    ⟨last, hLast⟩
  refine ⟨last, ?_⟩
  rw [read_piece hFirst, List.drop_left, hDone]
  simp only [stop, Outcome.andThen_ok, hLast,
    List.nil_append]

/-
  A remark that is put into a gap of what can be read changes
  nothing but offsets and the places where text is cut.
-/
theorem read_remark
    {t : Tokenizer}
    {front back remark : List UInt8}
    (hGap : Gap front back)
    (hRemark : IsRemark remark)
    (hOk : (t.read (front ++ back)).result = .ok ()) :
    ∃ last,
      (t.read (front ++ (remark ++ back))).Agree
        ((t.read (front ++ back)).mapTokenizer
          (moved [] last false)) := by
  have hFront := hGap.read_front hOk
  have hPlain := read_append hFront back
  rcases Outcome.andThen_result_ok
      ((hPlain.ok_iff ()).mp hOk) with
    ⟨value, hValue, hBack⟩
  rcases read_remark_first hRemark hBack with
    ⟨last, hLast⟩
  refine ⟨last, ?_⟩
  refine (read_append hFront (remark ++ back)).trans
    (Outcome.Agree.trans ?_
      (hPlain.mapTokenizer (moved [] last false)).symm)
  rcases hRead : t.read front with ⟨after, events, result⟩
  rw [hRead] at hValue hLast
  dsimp only at hValue hLast
  subst hValue
  simp only [Outcome.andThen_ok, hLast]
  exact Outcome.Agree.refl _

end Tokenizer

end RdfXml
