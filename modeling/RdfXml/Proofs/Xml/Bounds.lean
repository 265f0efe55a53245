import RdfXml.Proofs.Xml.Refusal
import RdfXml.Proofs.Xml.WellNested

/-
  Feeding stays within bounds.

  A tokenizer cuts bytes at counts and positions that it has
  computed, and drops the declarations of an element from the
  bindings when it ends.  Here every such step is written with
  lists that cannot be cut behind their end.  Feeding with
  them never fails and changes nothing, whatever is fed, and
  also when feeding goes on after errors and after the last
  chunk: the open elements never declare more than is bound.

  Main declarations:
    * `dropWithin?`
    * `Tokenizer.feed?`
    * `Tokenizer.Covered`
    * `Tokenizer.feed_within`
    * `Tokenizer.feedEach`
    * `Tokenizer.feedEach_within`
-/

------------------------------------------------------------
-- Cutting Within Bounds
------------------------------------------------------------

namespace RdfXml

section Lists

variable {α : Type}

/- The first elements of a list, if it has as many. -/
def takeWithin?
    (count : Nat)
    (list : List α) : Option (List α) :=
  if count ≤ list.length then some (list.take count)
  else none

/- A list without its first elements, if it has as many. -/
def dropWithin?
    (count : Nat)
    (list : List α) : Option (List α) :=
  if count ≤ list.length then some (list.drop count)
  else none

theorem takeWithin?_some
    {count : Nat}
    {list : List α}
    (hCount : count ≤ list.length) :
    takeWithin? count list = some (list.take count) :=
  if_pos hCount

theorem dropWithin?_some
    {count : Nat}
    {list : List α}
    (hCount : count ≤ list.length) :
    dropWithin? count list = some (list.drop count) :=
  if_pos hCount

end Lists

/- Continue after a step unless it is missing or failed. -/
def Outcome.andThen?
    {α β : Type}
    (first? : Option (Outcome α))
    (next? : Tokenizer → α → Option (Outcome β)) :
    Option (Outcome β) :=
  first?.bind (fun first =>
    match first.result with
    | .error e =>
        some ⟨first.tokenizer, first.events, .error e⟩
    | .ok value =>
        (next? first.tokenizer value).map (fun after =>
          ⟨after.tokenizer, first.events ++ after.events,
            after.result⟩))

------------------------------------------------------------
-- Feeding Within Bounds
------------------------------------------------------------

namespace Tokenizer

/-
  Process an end tag.  The declarations of the element are
  dropped from as many bindings or more.
-/
def endTag?
    (t : Tokenizer)
    (raw : List UInt8) : Option (Outcome Unit) :=
  match decodeName raw with
  | .error e => some (t.stop (.error e))
  | .ok found =>
      match t.openElements with
      | [] => some (t.stop (.error (.unexpectedEndTag found)))
      | element :: outer =>
          let t := { t with openElements := outer }
          if element.name = found then
            match t.elementName (QName.ofString found) with
            | .error e => some (t.stop (.error e))
            | .ok name =>
                (dropWithin? element.declared
                  t.bindings).map (fun bindings =>
                    deliver { t with bindings }
                      (.endElement name))
          else
            some
              (t.stop
                (.error
                  (.mismatchedEndTag element.name found)))

/- Process the piece that begins at `position`. -/
def dispatch?
    (t : Tokenizer)
    (piece : Piece)
    (position : Nat) : Option (Outcome Unit) :=
  match piece with
  | .emptyTag content =>
      Outcome.andThen? (some (t.startTag content position))
        (fun t _ => t.endTag? (tagNameBytes content))
  | .endTag name => t.endTag? name
  | piece => some (t.dispatch piece position)

/- Process the part of a text run that is complete. -/
def partialText?
    (t : Tokenizer)
    (raw : List UInt8)
    (position : Nat) : Option (Outcome Nat) :=
  let length := completeTextLength raw
  if length = 0 then
    some (t.stop (.ok 0))
  else
    (takeWithin? length raw).bind (fun complete =>
      match decodeName complete with
      | .error e => some (t.stop (.error e))
      | .ok _ =>
          Outcome.andThen?
            (t.dispatch? (.text complete) position)
            (fun t _ => some (t.stop (.ok length))))

/- What follows the last piece, looked at where it begins. -/
def consumeEnd?
    (t : Tokenizer)
    (work : Work)
    (consumed : Nat) : Option (Outcome Nat) :=
  match work.fault? with
  | none => some (t.stop (.ok consumed))
  | some (cause, index) =>
      let error : XmlError :=
        .syntaxAt (t.offset + index) (.markup cause)
      if work.isFinal then
        some (t.stop (.error error))
      else
        (dropWithin? index work.input).map (fun rest =>
          if cause.isCutOff rest then
            stop { t with awaitingMarkupEnd := true }
              (.ok consumed)
          else
            t.stop (.error error))

/- Process pieces in order. -/
def consume?
    (work : Work) :
    Tokenizer → Nat → List (Piece × Nat) →
      Option (Outcome Nat)
| t, consumed, [] => t.consumeEnd? work consumed
| t, consumed, (piece, length) :: rest =>
    let position := t.offset + consumed
    let next := consumed + length
    match piece with
    | .text raw =>
        if !work.isFinal && next = work.input.length then
          Outcome.andThen? (t.partialText? raw position)
            (fun t complete =>
              some (t.stop (.ok (consumed + complete))))
        else
          Outcome.andThen? (t.dispatch? (.text raw) position)
            (fun t _ => consume? work t next rest)
    | piece =>
        Outcome.andThen? (t.dispatch? piece position)
          (fun t _ => consume? work t next rest)

/- Process the pieces of an input from its start. -/
def tokenize?
    (t : Tokenizer)
    (input : List UInt8)
    (isFinal : Bool) : Option (Outcome Nat) :=
  let scan := Scan.ofBytes (skipByteOrderMark input)
  consume? ⟨input, isFinal, scan.fault?⟩
    { t with awaitingMarkupEnd := false } 0 scan.pieces

/-
  Process the next chunk of a document.  What was consumed is
  dropped from as many pending bytes or more.
-/
def feed?
    (t : Tokenizer)
    (chunk : List UInt8)
    (isFinal : Bool) : Option (Outcome Unit) :=
  let input := t.pending ++ chunk
  if t.awaitingMarkupEnd && !isFinal &&
      !chunk.contains (byte '>') then
    some (stop { t with pending := input } (.ok ()))
  else
    Outcome.andThen?
      (tokenize? { t with pending := [] } input isFinal)
      (fun t consumed =>
        (dropWithin? consumed input).map (fun pending =>
          let t :=
            { t with pending, offset := t.offset + consumed }
          t.stop (if isFinal then t.finish else .ok ())))

end Tokenizer

------------------------------------------------------------
-- Positions Of Faults
------------------------------------------------------------

namespace Piece

/- Only a document type can be nameless. -/
theorem readMarkup_nameless
    {content : List UInt8}
    {index : Nat}
    (hRead :
      readMarkup content =
        .fault .missingDoctypeName index) :
    readDoctype content =
      .fault .missingDoctypeName index := by
  unfold readMarkup at hRead
  split at hRead
  · cases hRead
  · split at hRead
    · unfold readBang at hRead
      split at hRead
      · cases hRead
      · split at hRead
        · cases readCdata_fault hRead
        · split at hRead
          · cases readComment_fault hRead
          · split at hRead
            · exact hRead
            · cases hRead
    · split at hRead
      · cases (readInstruction_fault hRead).1
      · cases readTag_fault hRead

/- A fault is found at one of the bytes that are read. -/
theorem first_fault_within
    {input : List UInt8}
    {cause : MarkupFault}
    {index : Nat}
    (hFirst : first input = .fault cause index) :
    index < input.length := by
  rcases first_fault hFirst with ⟨content, rfl, hRead⟩
  by_cases hCause : cause = .missingDoctypeName
  · subst hCause
    have hDoctype := readMarkup_nameless hRead
    unfold readDoctype at hDoctype
    split at hDoctype
    · cases hDoctype
    · next stop hFound =>
        rcases balancedEnd?_stopsAt hFound with
          ⟨inner, rest, rfl, rfl, _⟩
        split at hDoctype
        · split at hDoctype
          · cases hDoctype
            simp
          · cases hDoctype
        · cases hDoctype
  · rw [Tokenizer.first_fault_index hFirst hCause]
    simp

end Piece

/- The fault that ends a scan is within what is scanned. -/
theorem Scan.fault_within
    {limit start : Nat}
    {input : List UInt8}
    {cause : MarkupFault}
    {index : Nat}
    (hFault :
      (ofBytesFrom limit start input).fault? =
        some (cause, index)) :
    index ≤ start + input.length := by
  induction limit generalizing start input with
  | zero => cases hFault
  | succ limit ih =>
      cases hFirst : Piece.first input with
      | endOfInput =>
          simp only [ofBytesFrom, hFirst] at hFault
          cases hFault
      | fault first place =>
          have hPlace := Piece.first_fault_within hFirst
          simp only [ofBytesFrom, hFirst] at hFault
          cases hFault
          omega
      | piece piece length =>
          have hShort := Piece.first_length hFirst
          simp only [ofBytesFrom, hFirst] at hFault
          have hRest := ih hFault
          rw [List.length_drop] at hRest
          omega

namespace Tokenizer

------------------------------------------------------------
-- Declarations That Are Bound
------------------------------------------------------------

/- How many namespaces the open elements declare. -/
def declaredCount (t : Tokenizer) : Nat :=
  (t.openElements.map OpenElement.declared).sum

/- As many namespaces are bound as are declared, or more. -/
def Covered (t : Tokenizer) : Prop :=
  t.declaredCount ≤ t.bindings.length

/- A step stays within bounds and leaves its tokenizer so. -/
structure Within
    {α : Type}
    (outcome? : Option (Outcome α))
    (outcome : Outcome α) : Prop where
  same : outcome? = some outcome
  covered : outcome.tokenizer.Covered

section Steps

variable
  {α β : Type}
  {t : Tokenizer}
  (hCovered : t.Covered)

theorem within_andThen
    {first? : Option (Outcome α)}
    {first : Outcome α}
    {next? : Tokenizer → α → Option (Outcome β)}
    {next : Tokenizer → α → Outcome β}
    (hFirst : Within first? first)
    (hNext : ∀ value,
      first.result = .ok value →
        Within (next? first.tokenizer value)
          (next first.tokenizer value)) :
    Within (Outcome.andThen? first? next?)
      (first.andThen next) := by
  rcases hFirst with ⟨rfl, hCovered⟩
  rcases first with ⟨t, events, result⟩
  cases result with
  | error e => exact ⟨rfl, hCovered⟩
  | ok value =>
      rcases hNext value rfl with ⟨hSame, hAfter⟩
      refine ⟨?_, hAfter⟩
      simp only [Outcome.andThen?, Option.bind_some]
      rw [hSame]
      rfl

include hCovered

theorem within_stop (result : Except XmlError α) :
    Within (some (t.stop result)) (t.stop result) :=
  ⟨rfl, hCovered⟩

/- A new element is bound all that it declares. -/
theorem openElement_covered
    (name : QName)
    (declarations : List Declaration) :
    (t.openElement name declarations).Covered := by
  unfold Covered declaredCount at hCovered ⊢
  simp only [openElement, List.map_cons, List.sum_cons,
    List.length_append, List.length_reverse]
  omega

/- An element that was opened and refused stays covered. -/
theorem startTag_covered
    (content : List UInt8)
    (position : Nat) :
    (t.startTag content position).tokenizer.Covered := by
  unfold startTag
  split
  · exact hCovered
  · next entered hEnter =>
      have hEntered : entered.Covered := by
        unfold enterRoot at hEnter
        split at hEnter
        · cases hEnter
          exact hCovered
        · split at hEnter
          · cases hEnter
          · cases hEnter
            exact hCovered
      split
      · exact hEntered
      · next name _ =>
          split
          · exact hEntered
          · next attributes _ =>
              have hOpened :=
                openElement_covered hEntered name
                  (attributes.filterMap
                    TagAttribute.declaration?)
              dsimp only
              split
              · exact hOpened
              · exact hOpened

/-
  An element that is closed or refused is not counted any
  more, and what it declares is bound until it is dropped.
-/
theorem endTag_within (raw : List UInt8) :
    Within (t.endTag? raw) (t.endTag raw) := by
  unfold endTag? endTag
  cases decodeName raw with
  | error e => exact within_stop hCovered _
  | ok found =>
      dsimp only
      cases hOpen : t.openElements with
      | nil => exact within_stop hCovered _
      | cons element outer =>
          have hCount :
              element.declared +
                  (outer.map OpenElement.declared).sum ≤
                t.bindings.length := by
            unfold Covered declaredCount at hCovered
            rw [hOpen, List.map_cons, List.sum_cons]
              at hCovered
            exact hCovered
          have hOuter :
              Covered { t with openElements := outer } := by
            unfold Covered declaredCount
            dsimp only
            omega
          dsimp only
          split
          · cases elementName { t with openElements := outer }
                (QName.ofString found) with
            | error e => exact within_stop hOuter _
            | ok name =>
                dsimp only
                rw [dropWithin?_some (by omega)]
                refine ⟨rfl, ?_⟩
                unfold Covered declaredCount
                simp only [deliver, List.length_drop]
                omega
          · exact within_stop hOuter _

/- An element that declares more than is bound. -/
omit hCovered in
example :
    endTag? { openElements := [⟨"a", 1⟩] } (bytes "a") =
      none := by
  rfl

theorem text_covered (content : String) :
    (t.text content).tokenizer.Covered := by
  rcases text_cases t content with
    ⟨_, hText⟩ | ⟨_, _, hText⟩ | ⟨_, _, hText⟩
  all_goals
    rw [hText]
    exact hCovered

theorem dispatch_within
    (piece : Piece)
    (position : Nat) :
    Within (t.dispatch? piece position)
      (t.dispatch piece position) := by
  cases piece with
  | text raw =>
      refine ⟨rfl, ?_⟩
      unfold dispatch
      dsimp only
      split
      · exact hCovered
      · exact text_covered hCovered _
  | startTag content =>
      exact ⟨rfl, startTag_covered hCovered content position⟩
  | emptyTag content =>
      have hStart := startTag_covered hCovered content position
      unfold dispatch? dispatch
      refine within_andThen ⟨rfl, hStart⟩ ?_
      intro _ _
      exact endTag_within hStart _
  | endTag name => exact endTag_within hCovered name
  | cdata raw =>
      refine ⟨rfl, ?_⟩
      unfold dispatch
      dsimp only
      split
      · exact hCovered
      · exact text_covered hCovered _
  | declaration content => exact within_stop hCovered _
  | instruction => exact within_stop hCovered _
  | comment => exact within_stop hCovered _
  | doctype => exact within_stop hCovered _

theorem partialText_within
    (raw : List UInt8)
    (position : Nat) :
    Within (t.partialText? raw position)
      (t.partialText raw position) := by
  unfold partialText? partialText
  dsimp only
  split
  · exact within_stop hCovered _
  · rw [takeWithin?_some (completeTextLength_le raw),
      Option.bind_some]
    cases decodeName (raw.take (completeTextLength raw)) with
    | error e => exact within_stop hCovered _
    | ok name =>
        have hText :=
          dispatch_within hCovered
            (.text (raw.take (completeTextLength raw)))
            position
        refine within_andThen hText ?_
        intro _ _
        exact within_stop hText.covered _

------------------------------------------------------------
-- Chunks
------------------------------------------------------------

variable
  {work : Work}
  (hFault : ∀ cause index,
    work.fault? = some (cause, index) →
      index ≤ work.input.length)

include hFault

theorem consumeEnd_within (consumed : Nat) :
    Within (t.consumeEnd? work consumed)
      (t.consumeEnd work consumed) := by
  unfold consumeEnd? consumeEnd
  cases hEnd : work.fault? with
  | none => exact within_stop hCovered _
  | some fault =>
      rcases fault with ⟨cause, index⟩
      dsimp only
      rw [dropWithin?_some (hFault cause index hEnd)]
      cases work.isFinal with
      | true => exact within_stop hCovered _
      | false =>
          simp only [Bool.false_eq_true, if_false,
            Option.map_some, Bool.not_false, Bool.true_and]
          split
          · exact ⟨rfl, hCovered⟩
          · exact within_stop hCovered _

theorem consume_within
    (consumed : Nat)
    (pieces : List (Piece × Nat)) :
    Within (consume? work t consumed pieces)
      (consume work t consumed pieces) := by
  induction pieces generalizing t consumed with
  | nil => exact consumeEnd_within hCovered hFault consumed
  | cons entry pieces ih =>
      rcases entry with ⟨piece, length⟩
      have hWhole :
          Within
            (Outcome.andThen?
              (t.dispatch? piece (t.offset + consumed))
              (fun t _ =>
                consume? work t (consumed + length) pieces))
            ((t.dispatch piece (t.offset + consumed)).andThen
              (fun t _ =>
                consume work t (consumed + length)
                  pieces)) := by
        have hPiece :=
          dispatch_within hCovered piece (t.offset + consumed)
        refine within_andThen hPiece ?_
        intro _ _
        exact ih hPiece.covered _
      cases piece with
      | text raw =>
          unfold consume? consume
          dsimp only
          split
          · -- the text may go on in the next chunk
            have hPart :=
              partialText_within hCovered raw
                (t.offset + consumed)
            refine within_andThen hPart ?_
            intro _ _
            exact within_stop hPart.covered _
          · exact hWhole
      | _ => exact hWhole

end Steps

/- No more is consumed than there is. -/
theorem tokenize_count
    {t : Tokenizer}
    {input : List UInt8}
    {isFinal : Bool}
    {count : Nat}
    (hOk : (t.tokenize input isFinal).result = .ok count) :
    count ≤ input.length := by
  have hConsumed := tokenize_consumed t input isFinal
  have hShort := skipByteOrderMark_length input
  simp only [Consumed, hOk] at hConsumed
  rcases hConsumed with ⟨taken, kept, hParts, hCount, _⟩
  have hLength := congrArg List.length hParts
  rw [List.length_append] at hLength
  omega

section Chunks

variable
  {t : Tokenizer}
  (hCovered : t.Covered)

include hCovered

theorem tokenize_within
    (input : List UInt8)
    (isFinal : Bool) :
    Within (t.tokenize? input isFinal)
      (t.tokenize input isFinal) := by
  have hStart :
      Covered { t with awaitingMarkupEnd := false } :=
    hCovered
  refine consume_within hStart ?_ 0 _
  intro cause index hFault
  have hIndex := Scan.fault_within hFault
  have hShort := skipByteOrderMark_length input
  dsimp only
  omega

/- A chunk is processed within bounds. -/
theorem feed_within
    (chunk : List UInt8)
    (isFinal : Bool) :
    Within (t.feed? chunk isFinal) (t.feed chunk isFinal) := by
  unfold feed? feed
  dsimp only
  split
  · exact ⟨rfl, hCovered⟩
  · have hEmpty : Covered { t with pending := [] } :=
      hCovered
    have hInput :=
      tokenize_within hEmpty (t.pending ++ chunk) isFinal
    refine within_andThen hInput ?_
    intro count hCount
    rw [dropWithin?_some (tokenize_count hCount)]
    exact ⟨rfl, hInput.covered⟩

end Chunks

------------------------------------------------------------
-- Feeding That Goes On
------------------------------------------------------------

/-
  Feed chunks in order, also after errors and after chunks
  that are marked as the last.
-/
def feedEach :
    Tokenizer → List (List UInt8 × Bool) →
      List (Outcome Unit)
| _, [] => []
| t, (chunk, isFinal) :: rest =>
    t.feed chunk isFinal ::
      (t.feed chunk isFinal).tokenizer.feedEach rest

/- Feed chunks in order, each within bounds. -/
def feedEach? :
    Tokenizer → List (List UInt8 × Bool) →
      Option (List (Outcome Unit))
| _, [] => some []
| t, (chunk, isFinal) :: rest =>
    (t.feed? chunk isFinal).bind (fun outcome =>
      (outcome.tokenizer.feedEach? rest).map
        (outcome :: ·))

theorem feedEach_covered
    {t : Tokenizer}
    (hCovered : t.Covered)
    (calls : List (List UInt8 × Bool)) :
    t.feedEach? calls = some (t.feedEach calls) ∧
      ∀ outcome ∈ t.feedEach calls,
        outcome.tokenizer.Covered := by
  induction calls generalizing t with
  | nil => exact ⟨rfl, fun _ hNone => nomatch hNone⟩
  | cons call calls ih =>
      rcases call with ⟨chunk, isFinal⟩
      have hFeed := feed_within hCovered chunk isFinal
      rcases ih hFeed.covered with ⟨hSame, hRest⟩
      constructor
      · simp only [feedEach?, hFeed.same, Option.bind_some,
          hSame, Option.map_some, feedEach]
      · intro outcome hMember
        rcases List.mem_cons.mp hMember with rfl | hLater
        · exact hFeed.covered
        · exact hRest outcome hLater

/-
  As long as no call fails, the events delivered so far and
  the open elements and the bindings belong together.
-/
theorem feedEach_tracks
    {t : Tokenizer}
    {p : Progress}
    {calls : List (List UInt8 × Bool)}
    {front back : List (Outcome Unit)}
    {last : Outcome Unit}
    (hTracks : t.Tracks p)
    (hCalls : t.feedEach calls = front ++ last :: back)
    (hOk : ∀ outcome ∈ front ++ [last],
      outcome.result = .ok ()) :
    ∃ later : Progress,
      later.events =
          p.events ++
            (front ++ [last]).flatMap Outcome.events ∧
        last.tokenizer.Tracks later := by
  induction calls generalizing t p front with
  | nil => simp [feedEach] at hCalls
  | cons call calls ih =>
      rcases call with ⟨chunk, isFinal⟩
      rcases feed_follows hTracks chunk isFinal with
        ⟨later, hEvents, hLater⟩
      rw [feedEach] at hCalls
      cases front with
      | nil =>
          cases hCalls
          have hLast := hOk _ (List.mem_singleton.mpr rfl)
          refine ⟨later, ?_, hLater () hLast⟩
          simpa using hEvents
      | cons first front =>
          rw [List.cons_append] at hCalls
          rcases List.cons.inj hCalls with ⟨rfl, hRest⟩
          have hFirst := hOk _ List.mem_cons_self
          have hAfter : ∀ outcome ∈ front ++ [last],
              outcome.result = .ok () := by
            intro outcome hMember
            exact hOk outcome
              (List.mem_cons_of_mem _ hMember)
          rcases ih (hLater () hFirst) hRest hAfter with
            ⟨current, hCurrent, hTracked⟩
          refine ⟨current, ?_, hTracked⟩
          rw [hCurrent, hEvents, List.cons_append,
            List.flatMap_cons, List.append_assoc]

/- The bindings are all that the open elements declare. -/
theorem Tracks.declaredCount_eq
    {t : Tokenizer}
    {p : Progress}
    (hTracks : t.Tracks p) :
    t.declaredCount = t.bindings.length := by
  rw [declaredCount, hTracks.opened, hTracks.bound,
    bindingsOf, openElementsOf, List.map_map,
    List.length_flatMap]
  simp [Function.comp_def]

/-
  Whatever is fed, also after errors and after the last chunk,
  no list is cut behind its end, and after every call the open
  elements declare no more than is bound.  As long as no call
  has failed, the bindings are exactly the declarations of the
  elements that have been started and not ended, in order.
-/
theorem feedEach_within
    (calls : List (List UInt8 × Bool)) :
    Tokenizer.start.feedEach? calls =
        some (Tokenizer.start.feedEach calls) ∧
      (∀ outcome ∈ Tokenizer.start.feedEach calls,
        outcome.tokenizer.declaredCount ≤
          outcome.tokenizer.bindings.length) ∧
      ∀ front last back,
        Tokenizer.start.feedEach calls =
          front ++ last :: back →
        (∀ outcome ∈ front ++ [last],
          outcome.result = .ok ()) →
          ∃ p : Progress,
            p.events =
                (front ++ [last]).flatMap Outcome.events ∧
              last.tokenizer.openElements =
                openElementsOf p.openTags ∧
              last.tokenizer.bindings =
                bindingsOf p.openTags ∧
              last.tokenizer.declaredCount =
                last.tokenizer.bindings.length := by
  have hStart : Tokenizer.start.Covered :=
    Nat.le_refl 0
  rcases feedEach_covered hStart calls with
    ⟨hSame, hCovered⟩
  refine ⟨hSame, hCovered, ?_⟩
  intro front last back hCalls hOk
  rcases feedEach_tracks start_tracks hCalls hOk with
    ⟨p, hEvents, hTracks⟩
  exact ⟨p, hEvents, hTracks.opened, hTracks.bound,
    hTracks.declaredCount_eq⟩

end Tokenizer

end RdfXml
