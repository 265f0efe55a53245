import RdfXml.Proofs.Xml.Reading

/-
  Behind the root element.

  When the root is closed, white space is all that three
  bytes can be: markup of three bytes is a tag, and no tag is
  accepted any more.

  Main declarations:
    * `IsBlankText`
    * `Piece.readMarkup_isTag`
    * `Tokenizer.dispatch_tag_closed`
    * `Tokenizer.read_closed`
    * `Tokenizer.read_append_closed`
-/

------------------------------------------------------------
-- White Space
------------------------------------------------------------

namespace RdfXml

/- A byte list is white space, as text of a document. -/
def IsBlankText (input : List UInt8) : Prop :=
  byte '<' ∉ input ∧
    ∃ text,
      decodeText input = .ok text ∧
        isWhitespaceOnly text = true

instance (input : List UInt8) :
    Decidable (IsBlankText input) :=
  match hText : decodeText input with
  | .error _ =>
      .isFalse (by
        rintro ⟨_, text, hOther, _⟩
        rw [hText] at hOther
        cases hOther)
  | .ok text =>
      decidable_of_iff
        (byte '<' ∉ input ∧ isWhitespaceOnly text = true)
        (by simp [IsBlankText, hText])

------------------------------------------------------------
-- Short Markup
------------------------------------------------------------

namespace Piece

/- The piece is a tag. -/
def isTag : Piece → Bool
| .startTag _ => true
| .emptyTag _ => true
| .endTag _ => true
| _ => false

theorem readTag_isTag
    {content : List UInt8}
    {piece : Piece}
    {length : Nat}
    (hRead : readTag content = .piece piece length) :
    piece.isTag = true := by
  unfold readTag at hRead
  split at hRead
  · cases hRead
  · split at hRead
    · cases hRead
      rfl
    · split at hRead
      · cases hRead
        rfl
      · cases hRead
        unfold ofTagContent
        split
        · rfl
        · rfl

section Short

variable
  {content : List UInt8}
  {piece : Piece}
  {length : Nat}

/- Content shorter than a word does not begin with it. -/
theorem begins_short
    {word : String}
    (hShort : content.length < word.length) :
    begins word content = false ∧
      beginsIgnoringCase word content = false := by
  constructor
  · apply beq_eq_false_iff_ne.mpr
    intro hSame
    have hLength := congrArg List.length hSame
    rw [List.length_take, length_bytes] at hLength
    omega
  · apply beq_eq_false_iff_ne.mpr
    intro hSame
    have hLength := congrArg List.length hSame
    rw [List.length_map, List.length_map, List.length_take,
      length_bytes] at hLength
    omega

theorem readBang_short
    (hShort : content.length ≤ 2) :
    readBang content ≠ .piece piece length := by
  have hComment :
      begins "!--" content = false :=
    (begins_short (Nat.lt_succ_of_le hShort)).1
  have hCdata :
      begins "![CDATA[" content = false :=
    (begins_short (Nat.lt_of_le_of_lt hShort (by decide))).1
  have hDoctype :
      beginsIgnoringCase "!DOCTYPE" content = false :=
    (begins_short (Nat.lt_of_le_of_lt hShort (by decide))).2
  intro hRead
  unfold readBang readCdata readComment readDoctype at hRead
  simp only [hComment, hCdata, hDoctype,
    Bool.false_eq_true, if_false] at hRead
  repeat' split at hRead
  all_goals cases hRead

theorem readInstruction_short
    (hShort : content.length ≤ 2) :
    readInstruction content ≠ .piece piece length := by
  intro hRead
  unfold readInstruction at hRead
  split at hRead
  · cases hRead
  · next stop hEnd =>
      rcases instructionEnd?_stopsAt hEnd with
        ⟨inner, rest, rfl, rfl, _⟩
      have hStop : inner.length < 2 := by
        rw [List.length_append, List.length_cons] at hShort
        omega
      rw [if_pos hStop] at hRead
      cases hRead

/- Markup of at most three bytes is a tag. -/
theorem readMarkup_isTag
    (hShort : content.length ≤ 2)
    (hRead : readMarkup content = .piece piece length) :
    piece.isTag = true := by
  unfold readMarkup at hRead
  split at hRead
  · cases hRead
  · next b rest =>
      split at hRead
      · exact absurd hRead (readBang_short hShort)
      · split at hRead
        · exact absurd hRead (readInstruction_short hShort)
        · exact readTag_isTag hRead

end Short

end Piece

------------------------------------------------------------
-- Bytes Behind The Root
------------------------------------------------------------

namespace Tokenizer

/- Behind the root element no tag is accepted. -/
theorem dispatch_tag_closed
    {t : Tokenizer}
    {piece : Piece}
    (hClosed : t.finish = .ok ())
    (hTag : piece.isTag = true)
    (position : Nat) :
    ∃ e, (t.dispatch piece position).result = .error e := by
  rcases finish_ok hClosed with ⟨hOpen, hSeen⟩
  have hStart : ∀ content,
      t.startTag content position =
        t.stop (.error .multipleRoots) := by
    intro content
    simp [startTag, enterRoot, hOpen, hSeen]
  cases piece with
  | startTag content =>
      exact ⟨_, congrArg Outcome.result (hStart content)⟩
  | emptyTag content =>
      have hDispatch :
          t.dispatch (.emptyTag content) position =
            (t.startTag content position).andThen
              (fun t _ =>
                t.endTag (tagNameBytes content)) :=
        rfl
      rw [hDispatch, hStart]
      exact ⟨_, rfl⟩
  | endTag name =>
      have hDispatch :
          t.dispatch (.endTag name) position =
            t.endTag name :=
        rfl
      rw [hDispatch]
      unfold endTag
      cases decodeName name with
      | error e => exact ⟨e, rfl⟩
      | ok found =>
          rw [hOpen]
          exact ⟨_, rfl⟩
  | _ => cases hTag

/- Nor is any markup of at most three bytes. -/
theorem read_markup_closed
    {t : Tokenizer}
    {content : List UInt8}
    (hClosed : t.finish = .ok ())
    (hShort : content.length ≤ 2) :
    ∃ e, (t.read (byte '<' :: content)).result = .error e := by
  cases hFirst : Piece.first (byte '<' :: content) with
  | endOfInput =>
      cases Piece.first_endOfInput hFirst
  | fault cause index =>
      rw [read_fault hFirst]
      exact ⟨_, rfl⟩
  | piece piece length =>
      have hRead := hFirst
      rw [Piece.first_of_markup] at hRead
      rcases dispatch_tag_closed hClosed
          (Piece.readMarkup_isTag hShort hRead) t.offset with
        ⟨e, hError⟩
      rw [read_piece hFirst]
      refine ⟨e, ?_⟩
      generalize t.dispatch piece t.offset = outcome
        at hError ⊢
      rcases outcome with ⟨after, events, result⟩
      cases hError
      rfl

/- Text behind the root element is white space. -/
theorem dispatch_text_closed
    {t : Tokenizer}
    {raw : List UInt8}
    (hClosed : t.finish = .ok ())
    (hRaw : byte '<' ∉ raw)
    (position : Nat) :
    IsBlankText raw ∧
        t.dispatch (.text raw) position = t.stop (.ok ()) ∨
      ¬ IsBlankText raw ∧
        ∃ e,
          t.dispatch (.text raw) position =
            t.stop (.error e) := by
  have hOpen := (finish_ok hClosed).1
  cases hDecode : decodeText raw with
  | error cause =>
      refine Or.inr
        ⟨?_, dispatch_text_refused hDecode t position⟩
      rintro ⟨_, content, hText, _⟩
      rw [hDecode] at hText
      cases hText
  | ok content =>
      rw [dispatch_text_ok hDecode]
      rcases text_cases t content with
        ⟨hNot, _⟩ | ⟨_, hBlank, hText⟩ | ⟨_, hBlank, hText⟩
      · rw [hOpen] at hNot
        cases hNot
      · exact Or.inl ⟨⟨hRaw, content, hDecode, hBlank⟩, hText⟩
      · refine Or.inr ⟨?_, _, hText⟩
        rintro ⟨_, other, hOther, hSpace⟩
        rw [hDecode] at hOther
        cases hOther
        rw [hBlank] at hSpace
        cases hSpace

/-
  At most three bytes behind the root element are accepted
  exactly when they are white space, and then mean nothing.
-/
theorem read_closed
    {t : Tokenizer}
    {input : List UInt8}
    (hClosed : t.finish = .ok ())
    (hShort : input.length ≤ 3) :
    IsBlankText input ∧
        (∃ after,
          t.read input = ⟨after, [], .ok ()⟩ ∧
            after.finish = .ok ()) ∨
      ¬ IsBlankText input ∧
        ∃ e, (t.read input).result = .error e := by
  rcases Piece.text_split input with
    ⟨raw, rest, rfl, hRaw, hRest⟩
  have hNoMarkup : byte '<' ∉ raw := by
    intro hMember
    have hText := hRaw _ hMember
    simp [Piece.isTextByte] at hText
  cases rest with
  | nil =>
      rw [List.append_nil]
      by_cases hSome : raw = []
      · subst hSome
        rw [read_nil]
        exact Or.inl
          ⟨⟨hNoMarkup, "", decodeText_nil, rfl⟩, t, rfl,
            hClosed⟩
      · rw [read_piece (Piece.first_text_alone hRaw hSome)]
        rcases dispatch_text_closed hClosed hNoMarkup
            t.offset with
          ⟨hBlank, hText⟩ | ⟨hBlank, e, hText⟩
        · rw [hText, List.drop_length]
          simp only [stop, Outcome.andThen_ok, read_nil]
          exact Or.inl ⟨hBlank, _, rfl, hClosed⟩
        · rw [hText]
          exact Or.inr ⟨hBlank, e, rfl⟩
  | cons b rest =>
      have hMarkup : b = byte '<' := by
        simpa [Piece.isTextByte] using hRest b (by simp)
      subst hMarkup
      refine Or.inr ⟨fun hBlank => hBlank.1 (by simp), ?_⟩
      rw [List.length_append, List.length_cons] at hShort
      by_cases hSome : raw = []
      · subst hSome
        exact read_markup_closed hClosed
          (by rw [List.length_nil] at hShort; omega)
      · rw [read_piece
          (Piece.first_text_append hRaw hSome hRest)]
        rcases dispatch_text_closed hClosed hNoMarkup
            t.offset with
          ⟨_, hText⟩ | ⟨_, e, hText⟩
        · rw [hText, List.drop_left' rfl]
          simp only [stop, Outcome.andThen_ok]
          exact read_markup_closed hClosed (by omega)
        · rw [hText]
          exact ⟨e, rfl⟩

/-
  At most three bytes behind a complete document leave it as
  it is when they are white space, and spoil it otherwise.
-/
theorem read_append_closed
    {t : Tokenizer}
    {document input : List UInt8}
    (hRead : (t.read document).result = .ok ())
    (hComplete : (t.read document).tokenizer.finish = .ok ())
    (hShort : input.length ≤ 3) :
    IsBlankText input ∧
        (∃ after,
          (t.read (document ++ input)).Agree
              ⟨after, (t.read document).events, .ok ()⟩ ∧
            after.finish = .ok ()) ∨
      ¬ IsBlankText input ∧
        (t.read (document ++ input)).result ≠ .ok () := by
  have hAgree := read_append hRead input
  rcases read_closed hComplete hShort with
    ⟨hBlank, after, hInput, hEnd⟩ | ⟨hBlank, e, hInput⟩
  · left
    refine ⟨hBlank, after, ?_, hEnd⟩
    generalize t.read document = outcome
      at hAgree hRead hInput ⊢
    rcases outcome with ⟨before, events, result⟩
    cases hRead
    rw [Outcome.andThen_ok, hInput, List.append_nil]
      at hAgree
    exact hAgree
  · right
    refine ⟨hBlank, ?_⟩
    intro hOk
    rw [hAgree.ok_iff ()] at hOk
    rcases Outcome.andThen_result_ok hOk with
      ⟨_, _, hInputOk⟩
    rw [hInput] at hInputOk
    cases hInputOk

end Tokenizer

end RdfXml
