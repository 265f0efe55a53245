import RdfXml.Proofs.Xml.CharacterData
import RdfXml.Proofs.Xml.Event
import RdfXml.Proofs.Xml.Markup

/-
  A document read in one go.

  `Tokenizer.read` processes a byte list piece by piece and
  keeps nothing back.  Reading two parts in a row agrees with
  reading the whole, up to the places where text is cut.

  Main declarations:
    * `Outcome.Agree`
    * `Tokenizer.moved`
    * `Tokenizer.dispatch_moved`
    * `Tokenizer.read`
    * `Tokenizer.read_append`
-/

------------------------------------------------------------
-- Outcomes In A Row
------------------------------------------------------------

namespace RdfXml

namespace Outcome

variable {α β γ : Type}

theorem andThen_assoc
    (outcome : Outcome α)
    (first : Tokenizer → α → Outcome β)
    (second : Tokenizer → β → Outcome γ) :
    (outcome.andThen first).andThen second =
      outcome.andThen (fun t value =>
        (first t value).andThen second) := by
  rcases outcome with ⟨t, events, result⟩
  cases result with
  | error e => rfl
  | ok value =>
      simp only [andThen]
      split <;> simp_all

/- A step with the same events in front is a step. -/
theorem andThen_ok
    (t : Tokenizer)
    (events : List Event)
    (value : α)
    (next : Tokenizer → α → Outcome β) :
    andThen ⟨t, events, .ok value⟩ next =
      ⟨(next t value).tokenizer,
        events ++ (next t value).events,
        (next t value).result⟩ :=
  rfl

/-
  Two outcomes agree when they differ only in the places
  where text is cut.  After an error the text since the last
  markup may be missing, and another error may be reported.
-/
def Agree (left right : Outcome α) : Prop :=
  match left.result, right.result with
  | .ok value, .ok other =>
      value = other ∧ left.tokenizer = right.tokenizer ∧
        Event.merged left.events = Event.merged right.events
  | .error _, .error _ =>
      Event.settled left.events = Event.settled right.events
  | _, _ => False

theorem Agree.refl (outcome : Outcome α) :
    outcome.Agree outcome := by
  unfold Agree
  cases outcome.result with
  | error e => rfl
  | ok value => exact ⟨rfl, rfl, rfl⟩

theorem Agree.trans
    {first second third : Outcome α}
    (hFirst : first.Agree second)
    (hSecond : second.Agree third) :
    first.Agree third := by
  rcases first with ⟨t, events, result⟩
  rcases second with ⟨t', events', result'⟩
  rcases third with ⟨t'', events'', result''⟩
  cases result <;> cases result' <;> cases result'' <;>
    simp_all [Agree]

theorem Agree.symm
    {left right : Outcome α}
    (hAgree : left.Agree right) :
    right.Agree left := by
  rcases left with ⟨t, events, result⟩
  rcases right with ⟨t', events', result'⟩
  cases result <;> cases result' <;> simp_all [Agree]

/- Agreeing outcomes agree on the events that are settled. -/
theorem Agree.settled
    {left right : Outcome α}
    (hAgree : left.Agree right) :
    Event.settled left.events =
      Event.settled right.events := by
  unfold Agree at hAgree
  split at hAgree
  · exact Event.settled_of_merged hAgree.2.2
  · exact hAgree
  · exact hAgree.elim

/- Outcomes go on agreeing when the same step follows. -/
theorem Agree.andThen
    {left right : Outcome α}
    (hAgree : left.Agree right)
    (next : Tokenizer → α → Outcome β) :
    (left.andThen next).Agree (right.andThen next) := by
  rcases left with ⟨t, events, result⟩
  rcases right with ⟨t', events', result'⟩
  cases result with
  | error e =>
      cases result' with
      | error e' => exact hAgree
      | ok value' => exact hAgree.elim
  | ok value =>
      cases result' with
      | error e' => exact hAgree.elim
      | ok value' =>
          rcases hAgree with ⟨rfl, rfl, hEvents⟩
          simp only [andThen_ok]
          unfold Agree
          cases (next t value).result with
          | error e =>
              exact Event.settled_append_congr hEvents rfl
          | ok last =>
              exact ⟨rfl, rfl,
                Event.merged_append_congr hEvents rfl⟩

/- Outcomes go on agreeing with the same events in front. -/
theorem Agree.behind
    {left right : Outcome α}
    (hAgree : left.Agree right)
    (events : List Event) :
    Agree
      ⟨left.tokenizer, events ++ left.events, left.result⟩
      ⟨right.tokenizer, events ++ right.events,
        right.result⟩ := by
  unfold Agree at hAgree ⊢
  split at hAgree
  · next hLeft hRight =>
      simp only [hLeft, hRight]
      exact ⟨hAgree.1, hAgree.2.1,
        Event.merged_append_congr rfl hAgree.2.2⟩
  · next hLeft hRight =>
      simp only [hLeft, hRight]
      exact Event.settled_append_congr rfl hAgree
  · exact hAgree.elim

/- Outcomes agree when the steps after the same one do. -/
theorem Agree.andThen_next
    (outcome : Outcome α)
    {next next' : Tokenizer → α → Outcome β}
    (hNext : ∀ value,
      outcome.result = .ok value →
        (next outcome.tokenizer value).Agree
          (next' outcome.tokenizer value)) :
    (outcome.andThen next).Agree
      (outcome.andThen next') := by
  rcases outcome with ⟨t, events, result⟩
  cases result with
  | error e => rfl
  | ok value => exact (hNext value rfl).behind events

theorem Agree.ok_iff
    {left right : Outcome α}
    (hAgree : left.Agree right)
    (value : α) :
    left.result = .ok value ↔ right.result = .ok value := by
  unfold Agree at hAgree
  split at hAgree
  · next hLeft hRight =>
      rw [hLeft, hRight, hAgree.1]
  · next hLeft hRight =>
      rw [hLeft, hRight]
      constructor
      · intro hOk
        cases hOk
      · intro hOk
        cases hOk
  · exact hAgree.elim

theorem Agree.tokenizer_eq
    {left right : Outcome α}
    {value : α}
    (hAgree : left.Agree right)
    (hOk : left.result = .ok value) :
    left.tokenizer = right.tokenizer := by
  unfold Agree at hAgree
  split at hAgree
  · exact hAgree.2.1
  · next hLeft _ =>
      rw [hLeft] at hOk
      cases hOk
  · exact hAgree.elim

theorem Agree.merged_eq
    {left right : Outcome α}
    {value : α}
    (hAgree : left.Agree right)
    (hOk : left.result = .ok value) :
    Event.merged left.events =
      Event.merged right.events := by
  unfold Agree at hAgree
  split at hAgree
  · exact hAgree.2.2
  · next hLeft _ =>
      rw [hLeft] at hOk
      cases hOk
  · exact hAgree.elim

theorem Agree.error
    {left right : Outcome α}
    {e : XmlError}
    (hAgree : left.Agree right)
    (hError : right.result = .error e) :
    ∃ e, left.result = .error e := by
  cases hLeft : left.result with
  | error e => exact ⟨e, rfl⟩
  | ok value =>
      rw [(hAgree.ok_iff value).mp hLeft] at hError
      cases hError

theorem andThen_result_ok
    {outcome : Outcome α}
    {next : Tokenizer → α → Outcome β}
    {last : β}
    (hOk : (outcome.andThen next).result = .ok last) :
    ∃ value,
      outcome.result = .ok value ∧
        (next outcome.tokenizer value).result =
          .ok last := by
  rcases outcome with ⟨t, events, result⟩
  cases result with
  | error e => cases hOk
  | ok value => exact ⟨value, rfl, hOk⟩

/- The outcome with its tokenizer changed. -/
def mapTokenizer
    (change : Tokenizer → Tokenizer)
    (outcome : Outcome α) : Outcome α :=
  { outcome with tokenizer := change outcome.tokenizer }

theorem mapTokenizer_andThen
    (change : Tokenizer → Tokenizer)
    (outcome : Outcome α)
    (next next' : Tokenizer → α → Outcome β)
    (hNext : ∀ t value,
      next' (change t) value =
        (next t value).mapTokenizer change) :
    (outcome.mapTokenizer change).andThen next' =
      (outcome.andThen next).mapTokenizer change := by
  rcases outcome with ⟨t, events, result⟩
  cases result with
  | error e => rfl
  | ok value =>
      simp only [mapTokenizer, andThen_ok, hNext]

end Outcome

------------------------------------------------------------
-- What Pieces Do Not Depend On
------------------------------------------------------------

namespace Tokenizer

/- The tokenizer with other bytes to be read next. -/
def moved
    (pending : List UInt8)
    (offset : Nat)
    (awaiting : Bool)
    (t : Tokenizer) : Tokenizer :=
  { t with pending, offset, awaitingMarkupEnd := awaiting }

section Moved

variable
  (pending : List UInt8)
  (offset : Nat)
  (awaiting : Bool)

theorem enterRoot_moved (t : Tokenizer) :
    (t.moved pending offset awaiting).enterRoot =
      t.enterRoot.map (moved pending offset awaiting) := by
  unfold enterRoot
  cases hOpen : t.openElements.isEmpty with
  | false => simp [moved, hOpen, Except.map]
  | true =>
      cases hSeen : t.seenRoot with
      | false => simp [moved, hOpen, hSeen, Except.map]
      | true => simp [moved, hOpen, hSeen, Except.map]

theorem resolveStartTag_moved
    (t : Tokenizer)
    (name : QName)
    (attributes : List TagAttribute) :
    (t.moved pending offset awaiting).resolveStartTag name
        attributes =
      t.resolveStartTag name attributes :=
  rfl

theorem startTag_moved
    (t : Tokenizer)
    (content : List UInt8)
    (position : Nat) :
    (t.moved pending offset awaiting).startTag content
        position =
      (t.startTag content position).mapTokenizer
        (moved pending offset awaiting) := by
  unfold startTag
  rw [enterRoot_moved]
  cases t.enterRoot with
  | error e => rfl
  | ok t =>
      simp only [Except.map]
      cases decodeTagName content with
      | error e => rfl
      | ok name =>
          cases decodeTagAttributes position content with
          | error e => rfl
          | ok attributes =>
              dsimp only
              have hOpen :
                  (t.moved pending offset awaiting).openElement
                      name
                      (attributes.filterMap
                        TagAttribute.declaration?) =
                    (t.openElement name
                      (attributes.filterMap
                        TagAttribute.declaration?)).moved
                      pending offset awaiting := rfl
              rw [hOpen, resolveStartTag_moved]
              split <;> rfl

theorem endTag_moved
    (t : Tokenizer)
    (raw : List UInt8) :
    (t.moved pending offset awaiting).endTag raw =
      (t.endTag raw).mapTokenizer
        (moved pending offset awaiting) := by
  rcases t with ⟨_, _, _, bindings, openElements, seenRoot⟩
  unfold endTag
  cases decodeName raw with
  | error e => rfl
  | ok found =>
      cases openElements with
      | nil => rfl
      | cons element outer =>
          by_cases hName : element.name = found
          · simp only [moved, hName, if_true, elementName]
            cases boundOrError
                (bindings.resolveElement
                  (QName.ofString found)) with
            | error e => rfl
            | ok name => rfl
          · simp only [moved, hName, if_false]
            rfl

theorem text_moved
    (t : Tokenizer)
    (content : String) :
    (t.moved pending offset awaiting).text content =
      (t.text content).mapTokenizer
        (moved pending offset awaiting) := by
  unfold text
  cases hOpen : t.openElements.isEmpty with
  | false => simp [moved, hOpen, deliver,
      Outcome.mapTokenizer]
  | true =>
      by_cases hBlank : isWhitespaceOnly content = true
      · simp [moved, hOpen, hBlank, stop,
          Outcome.mapTokenizer]
      · simp [moved, hOpen, hBlank, stop,
          Outcome.mapTokenizer]

/-
  A piece is processed the same way wherever the bytes that
  are read next come from.
-/
theorem dispatch_moved
    (t : Tokenizer)
    (piece : Piece)
    (position : Nat) :
    (t.moved pending offset awaiting).dispatch piece
        position =
      (t.dispatch piece position).mapTokenizer
        (moved pending offset awaiting) := by
  unfold dispatch
  cases piece with
  | text raw =>
      dsimp only
      split
      · rfl
      · exact text_moved pending offset awaiting t _
  | startTag content =>
      exact startTag_moved pending offset awaiting t content
        position
  | emptyTag content =>
      dsimp only
      rw [startTag_moved]
      exact Outcome.mapTokenizer_andThen _ _ _ _
        (fun t _ =>
          endTag_moved pending offset awaiting t _)
  | endTag name =>
      exact endTag_moved pending offset awaiting t name
  | cdata raw =>
      dsimp only
      split
      · rfl
      · exact text_moved pending offset awaiting t _
  | declaration content => rfl
  | instruction => rfl
  | comment => rfl
  | doctype => rfl

end Moved

section Fixed

variable
  (t : Tokenizer)
  (piece : Piece)
  (position : Nat)

/- A piece leaves alone which bytes are read next. -/
theorem dispatch_fixed :
    (t.dispatch piece position).tokenizer =
      (t.dispatch piece position).tokenizer.moved
        t.pending t.offset t.awaitingMarkupEnd := by
  have hMoved :=
    dispatch_moved t.pending t.offset t.awaitingMarkupEnd
      t piece position
  exact congrArg Outcome.tokenizer hMoved

theorem dispatch_pending :
    (t.dispatch piece position).tokenizer.pending =
      t.pending := by
  rw [dispatch_fixed]
  rfl

theorem dispatch_offset :
    (t.dispatch piece position).tokenizer.offset =
      t.offset := by
  rw [dispatch_fixed]
  rfl

theorem dispatch_awaiting :
    (t.dispatch piece position).tokenizer.awaitingMarkupEnd =
      t.awaitingMarkupEnd := by
  rw [dispatch_fixed]
  rfl

end Fixed

------------------------------------------------------------
-- Text In Parts
------------------------------------------------------------

theorem isWhitespaceOnly_append
    (text more : String) :
    isWhitespaceOnly (text ++ more) =
      (isWhitespaceOnly text && isWhitespaceOnly more) := by
  simp [isWhitespaceOnly, List.all_append]

/- Text of the root element, or blanks outside of it. -/
theorem text_cases
    (t : Tokenizer)
    (content : String) :
    t.openElements.isEmpty = false ∧
        t.text content = t.deliver (.characters content) ∨
      t.openElements.isEmpty = true ∧
        isWhitespaceOnly content = true ∧
          t.text content = t.stop (.ok ()) ∨
      t.openElements.isEmpty = true ∧
        isWhitespaceOnly content = false ∧
          t.text content =
            t.stop (.error .textOutsideRoot) := by
  unfold text
  cases t.openElements.isEmpty with
  | false => simp
  | true =>
      cases isWhitespaceOnly content with
      | false => simp
      | true => simp

theorem dispatch_text_ok
    {raw : List UInt8}
    {content : String}
    (hText : decodeText raw = .ok content)
    (t : Tokenizer)
    (position : Nat) :
    t.dispatch (.text raw) position = t.text content := by
  simp [dispatch, hText, faultAt]

theorem dispatch_text_refused
    {raw : List UInt8}
    {cause : XmlFault}
    (hText : decodeText raw = .error cause)
    (t : Tokenizer)
    (position : Nat) :
    ∃ e,
      t.dispatch (.text raw) position =
        t.stop (.error e) :=
  ⟨.syntaxAt position cause, by
    simp [dispatch, hText, faultAt]⟩

theorem dispatch_text_error
    {raw : List UInt8}
    (hText : ∀ content, decodeText raw ≠ .ok content)
    (t : Tokenizer)
    (position : Nat) :
    ∃ e,
      t.dispatch (.text raw) position =
        t.stop (.error e) := by
  cases hDecode : decodeText raw with
  | ok content => exact absurd hDecode (hText content)
  | error cause =>
      exact dispatch_text_refused hDecode t position

/- A text that is accepted can be decoded. -/
theorem dispatch_text_decode
    {t : Tokenizer}
    {raw : List UInt8}
    {position : Nat}
    (hOk :
      (t.dispatch (.text raw) position).result = .ok ()) :
    ∃ content, decodeText raw = .ok content := by
  cases hDecode : decodeText raw with
  | ok content => exact ⟨content, rfl⟩
  | error cause =>
      rcases dispatch_text_refused hDecode t position with
        ⟨e, hError⟩
      rw [hError] at hOk
      cases hOk

/-
  A text is refused, or it leaves the tokenizer as it is and
  settles nothing.
-/
theorem dispatch_text_cases
    (t : Tokenizer)
    (raw : List UInt8)
    (position : Nat) :
    (∃ events,
      t.dispatch (.text raw) position =
          ⟨t, events, .ok ()⟩ ∧
        Event.settled events = Event.settled []) ∨
      ∃ e,
        t.dispatch (.text raw) position =
          t.stop (.error e) := by
  cases hDecode : decodeText raw with
  | error cause =>
      exact Or.inr (dispatch_text_refused hDecode t position)
  | ok content =>
      rw [dispatch_text_ok hDecode]
      rcases text_cases t content with
        ⟨_, hText⟩ | ⟨_, _, hText⟩ | ⟨_, _, hText⟩
      · exact Or.inl ⟨_, hText, rfl⟩
      · exact Or.inl ⟨_, hText, rfl⟩
      · exact Or.inr ⟨_, hText⟩

/- A text run may be processed in two parts. -/
theorem dispatch_text_append
    {t : Tokenizer}
    {raw : List UInt8}
    {position : Nat}
    (hOk :
      (t.dispatch (.text raw) position).result = .ok ())
    (more : List UInt8)
    (later : Nat) :
    (t.dispatch (.text (raw ++ more)) position).Agree
      ((t.dispatch (.text raw) position).andThen
        (fun t _ => t.dispatch (.text more) later)) := by
  cases hRaw : decodeText raw with
  | error cause =>
      rcases dispatch_text_refused hRaw t position with
        ⟨e, hError⟩
      rw [hError] at hOk
      cases hOk
  | ok content =>
      have hSplit := decodeText_append hRaw more
      rw [dispatch_text_ok hRaw] at hOk ⊢
      cases hMore : decodeText more with
      | error cause =>
          have hNone : ∀ all,
              decodeText (raw ++ more) ≠ .ok all := by
            intro all hAll
            rcases (hSplit all).mp hAll with
              ⟨rest, hRest, _⟩
            rw [hMore] at hRest
            cases hRest
          rcases dispatch_text_error hNone t position with
            ⟨e, hWhole⟩
          rcases dispatch_text_refused hMore t later with
            ⟨e', hLater⟩
          rw [hWhole]
          rcases text_cases t content with
            ⟨_, hText⟩ | ⟨_, _, hText⟩ | ⟨_, _, hText⟩
          · rw [hText]
            simp only [deliver, Outcome.andThen_ok, hLater,
              stop]
            rfl
          · rw [hText]
            simp only [stop, Outcome.andThen_ok, hLater]
            rfl
          · rw [hText] at hOk
            cases hOk
      | ok rest =>
          have hWhole :
              decodeText (raw ++ more) =
                .ok (content ++ rest) :=
            (hSplit _).mpr ⟨rest, hMore, rfl⟩
          rw [dispatch_text_ok hWhole]
          rcases text_cases t content with
            ⟨hOpen, hText⟩ | ⟨hOpen, hBlank, hText⟩ |
              ⟨_, _, hText⟩
          · rw [hText]
            simp only [deliver, Outcome.andThen_ok,
              dispatch_text_ok hMore, text, hOpen]
            exact ⟨rfl, rfl,
              (Event.merged_text_append _ _).symm⟩
          · rw [hText]
            simp only [stop, Outcome.andThen_ok,
              dispatch_text_ok hMore, text, hOpen,
              isWhitespaceOnly_append, hBlank,
              Bool.true_and, List.nil_append]
            exact Outcome.Agree.refl _
          · rw [hText] at hOk
            cases hOk

/- A complete document has a root, and it is closed. -/
theorem finish_ok
    {t : Tokenizer}
    (hComplete : t.finish = .ok ()) :
    t.openElements = [] ∧ t.seenRoot = true := by
  unfold finish at hComplete
  split at hComplete
  · cases hComplete
  · next hOpen =>
      split at hComplete
      · cases hComplete
      · next hSeen =>
          exact ⟨by simpa using hOpen, by simpa using hSeen⟩

------------------------------------------------------------
-- Reading
------------------------------------------------------------

/-
  Process the pieces of a byte list one after the other.  The
  offset is that of the next piece.
-/
def read
    (t : Tokenizer)
    (input : List UInt8) : Outcome Unit :=
  match _ : Piece.first input with
  | .endOfInput => t.stop (.ok ())
  | .fault cause index =>
      t.stop
        (.error (.syntaxAt (t.offset + index) (.markup cause)))
  | .piece piece length =>
      (t.dispatch piece t.offset).andThen (fun after _ =>
        read (after.moved [] (t.offset + length) false)
          (input.drop length))
termination_by input.length
decreasing_by
  rename_i hFirst
  have hLength := Piece.first_length hFirst
  simp only [List.length_drop]
  omega

theorem read_nil (t : Tokenizer) :
    t.read [] = t.stop (.ok ()) := by
  rw [read]
  rfl

theorem read_fault
    {input : List UInt8}
    {cause : MarkupFault}
    {index : Nat}
    (hFirst : Piece.first input = .fault cause index)
    (t : Tokenizer) :
    t.read input =
      t.stop
        (.error
          (.syntaxAt (t.offset + index)
            (.markup cause))) := by
  rw [read]
  split
  · next hOther =>
      rw [hFirst] at hOther
      cases hOther
  · next hOther =>
      rw [hFirst] at hOther
      cases hOther
      rfl
  · next hOther =>
      rw [hFirst] at hOther
      cases hOther

theorem read_piece
    {input : List UInt8}
    {piece : Piece}
    {length : Nat}
    (hFirst : Piece.first input = .piece piece length)
    (t : Tokenizer) :
    t.read input =
      (t.dispatch piece t.offset).andThen (fun after _ =>
        (after.moved [] (t.offset + length) false).read
          (input.drop length)) := by
  rw [read]
  split
  · next hOther =>
      rw [hFirst] at hOther
      cases hOther
  · next hOther =>
      rw [hFirst] at hOther
      cases hOther
  · next hOther =>
      rw [hFirst] at hOther
      cases hOther
      rfl

/-
  Where the bytes after a piece are read from does not matter
  to what follows, when that is decided again.
-/
theorem dispatch_moved_andThen
    {β : Type}
    (t : Tokenizer)
    (piece : Piece)
    (position : Nat)
    (pending : List UInt8)
    (offset : Nat)
    (awaiting : Bool)
    {next : Tokenizer → Unit → Outcome β}
    (hNext : ∀ t,
      next (t.moved pending offset awaiting) () =
        next t ()) :
    (((t.moved pending offset awaiting).dispatch piece
        position).andThen next).Agree
      ((t.dispatch piece position).andThen next) := by
  rw [dispatch_moved]
  rcases t.dispatch piece position with
    ⟨after, events, result⟩
  cases result with
  | error e => rfl
  | ok value =>
      simp only [Outcome.mapTokenizer, Outcome.andThen_ok,
        hNext]
      exact Outcome.Agree.refl _

/- A text that goes on is read in two parts. -/
theorem read_text_append
    {t : Tokenizer}
    {raw second : List UInt8}
    (hRaw : ∀ b ∈ raw, Piece.isTextByte b = true)
    (hSome : raw ≠ [])
    (hOk : (t.read raw).result = .ok ())
    (hSecond :
      ∃ b ∈ second.head?, Piece.isTextByte b = true) :
    (t.read (raw ++ second)).Agree
      ((t.read raw).andThen
        (fun after _ => after.read second)) := by
  rcases Piece.text_split second with
    ⟨more, rest, rfl, hMore, hRest⟩
  have hGoesOn : more ≠ [] := by
    rintro rfl
    rcases hSecond with ⟨b, hHead, hText⟩
    rw [List.nil_append] at hHead
    rw [hRest b hHead] at hText
    cases hText
  have hAlone := Piece.first_text_alone hRaw hSome
  have hLater :=
    Piece.first_text_append hMore hGoesOn hRest
  have hWhole :=
    Piece.first_text_append_append hRaw hMore hSome hRest
  rw [read_piece hAlone] at hOk ⊢
  rcases Outcome.andThen_result_ok hOk with
    ⟨value, hValue, _⟩
  rw [read_piece hWhole, ← List.append_assoc,
    List.drop_left' rfl, Outcome.andThen_assoc]
  have hParts :=
    dispatch_text_append hValue more
      (t.offset + raw.length)
  refine (hParts.andThen _).trans ?_
  rw [Outcome.andThen_assoc]
  apply Outcome.Agree.andThen_next
  intro _ _
  rw [List.drop_length, read_nil]
  simp only [stop, Outcome.andThen_ok, List.nil_append]
  rw [read_piece hLater, List.drop_left' rfl]
  refine Outcome.Agree.symm
    (Outcome.Agree.trans
      (dispatch_moved_andThen _ _ _ _ _ _ ?_) ?_)
  · intro t
    rfl
  · rw [List.length_append, ← Nat.add_assoc]
    exact Outcome.Agree.refl _

/- A text that is refused is refused whatever follows it. -/
theorem read_text_error
    {t : Tokenizer}
    {raw : List UInt8}
    (hRaw : ∀ b ∈ raw, Piece.isTextByte b = true)
    (hSome : raw ≠ [])
    (hFails : ∀ more text,
      decodeText (raw ++ more) = .ok text →
        ∃ e, t.text text = t.stop (.error e))
    (more : List UInt8) :
    (∃ e, (t.read (raw ++ more)).result = .error e) ∧
      (t.read (raw ++ more)).events = [] := by
  rcases Piece.text_split more with
    ⟨text, rest, rfl, hText, hRest⟩
  have hWhole :=
    Piece.first_text_append_append hRaw hText hSome hRest
  have hError : ∃ e,
      t.dispatch (.text (raw ++ text)) t.offset =
        t.stop (.error e) := by
    cases hDecode : decodeText (raw ++ text) with
    | ok content =>
        rw [dispatch_text_ok hDecode]
        exact hFails text content hDecode
    | error cause =>
        apply dispatch_text_error
        intro content hOk
        rw [hDecode] at hOk
        cases hOk
  rcases hError with ⟨e, hError⟩
  rw [read_piece hWhole, hError]
  exact ⟨⟨e, rfl⟩, rfl⟩

/-
  Reading two parts in a row agrees with reading them as one,
  when the first part can be read.
-/
theorem read_append
    {t : Tokenizer}
    {first : List UInt8}
    (hOk : (t.read first).result = .ok ())
    (second : List UInt8) :
    (t.read (first ++ second)).Agree
      ((t.read first).andThen
        (fun after _ => after.read second)) := by
  induction hLength : first.length using Nat.strongRecOn
    generalizing t first with
  | ind count ih =>
      cases hFirst : Piece.first first with
      | endOfInput =>
          rw [Piece.first_endOfInput hFirst, read_nil]
          simp only [stop, Outcome.andThen_ok,
            List.nil_append]
          exact Outcome.Agree.refl _
      | fault cause index =>
          rw [read_fault hFirst] at hOk
          cases hOk
      | piece piece length =>
          by_cases hSame :
              piece.isText = false ∨
                length < first.length ∨
                  ∀ b ∈ second.head?,
                    Piece.isTextByte b = false
          · -- the piece ends where it ended before
            have hShort := Piece.first_length hFirst
            rw [read_piece hFirst] at hOk ⊢
            rw [read_piece (Piece.first_append hFirst hSame),
              Outcome.andThen_assoc]
            apply Outcome.Agree.andThen_next
            intro value hValue
            rcases Outcome.andThen_result_ok hOk with
              ⟨value, hValue, hRest⟩
            rw [List.drop_append_of_le_length hShort.2]
            apply ih (first.drop length).length _ hRest rfl
            simp only [List.length_drop]
            omega
          · -- the piece is text that goes on
            cases piece with
            | text raw =>
                rcases Piece.first_text hFirst with
                  ⟨rest, rfl, hSome, rfl, hRaw, _⟩
                have hNone : rest = [] := by
                  cases rest with
                  | nil => rfl
                  | cons b rest =>
                      exact absurd
                        (Or.inr (Or.inl (by simp))) hSame
                subst hNone
                rw [List.append_nil] at hOk ⊢
                apply read_text_append hRaw hSome hOk
                simpa [Piece.isText] using hSame
            | _ => exact absurd (Or.inl rfl) hSame

end Tokenizer

end RdfXml
