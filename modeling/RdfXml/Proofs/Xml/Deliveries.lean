import RdfXml.Proofs.Xml.WellNested

/-
  The tokenizer at each of its deliveries.

  The outcome of a feed gives its events and the tokenizer
  after all of them.  A trace also gives the tokenizer at each
  event, in the state in which it hands the event over.
  Tracing changes no outcome, and what every single step keeps
  holds at every delivery.

  Main declarations:
    * `Delivery`
    * `Traced`
    * `Tokenizer.traceAll`
    * `Tokenizer.traceAll_outcome`
    * `Tokenizer.Invariant`
    * `Tokenizer.traceAll_keeps`
    * `Tokenizer.traceAll_tracks`
-/

------------------------------------------------------------
-- Traces
------------------------------------------------------------

namespace RdfXml

/- An event with the tokenizer that delivers it. -/
structure Delivery where
  event : Event
  tokenizer : Tokenizer
deriving DecidableEq, Repr

/- The outcome of a step with the deliveries of its events. -/
structure Traced (α : Type) where
  outcome : Outcome α
  deliveries : List Delivery
  complete : deliveries.map Delivery.event = outcome.events

namespace Traced

variable {α β : Type}

/-
  A step that leaves the tokenizer in the state in which it
  delivers.
-/
def single (outcome : Outcome α) : Traced α where
  outcome := outcome
  deliveries :=
    outcome.events.map
      (fun event => ⟨event, outcome.tokenizer⟩)
  complete := by
    rw [List.map_map]
    exact List.map_id _

/- Continue after a step unless it failed. -/
def andThen
    (first : Traced α)
    (next : Tokenizer → α → Traced β) : Traced β where
  outcome :=
    first.outcome.andThen
      (fun t value => (next t value).outcome)
  deliveries :=
    match first.outcome.result with
    | .error _ => first.deliveries
    | .ok value =>
        first.deliveries ++
          (next first.outcome.tokenizer value).deliveries
  complete := by
    have hFirst := first.complete
    unfold Outcome.andThen
    cases first.outcome.result with
    | error e => exact hFirst
    | ok value =>
        dsimp only
        rw [List.map_append, hFirst,
          (next first.outcome.tokenizer value).complete]

theorem andThen_outcome
    (first : Traced α)
    (next : Tokenizer → α → Traced β) :
    (first.andThen next).outcome =
      first.outcome.andThen
        (fun t value => (next t value).outcome) :=
  rfl

end Traced

namespace Tokenizer

open Traced

/- Process a piece; an empty tag is a start and an end. -/
def tracePiece
    (t : Tokenizer)
    (piece : Piece)
    (position : Nat) : Traced Unit :=
  match piece with
  | .emptyTag content =>
      (single (t.startTag content position)).andThen
        (fun t _ => single (t.endTag (tagNameBytes content)))
  | piece => single (t.dispatch piece position)

/- Process pieces in order. -/
def traceConsume
    (work : Work) :
    Tokenizer → Nat → List (Piece × Nat) → Traced Nat
| t, consumed, [] => single (t.consumeEnd work consumed)
| t, consumed, (piece, length) :: rest =>
    let position := t.offset + consumed
    let next := consumed + length
    match piece with
    | .text raw =>
        if !work.isFinal && next = work.input.length then
          (single (t.partialText raw position)).andThen
            (fun t complete =>
              single (t.stop (.ok (consumed + complete))))
        else
          (t.tracePiece (.text raw) position).andThen
            (fun t _ => traceConsume work t next rest)
    | piece =>
        (t.tracePiece piece position).andThen
          (fun t _ => traceConsume work t next rest)

/- Process the pieces of an input from its start. -/
def traceInput
    (t : Tokenizer)
    (input : List UInt8)
    (isFinal : Bool) : Traced Nat :=
  let scan := Scan.ofBytes (skipByteOrderMark input)
  traceConsume ⟨input, isFinal, scan.fault?⟩
    { t with awaitingMarkupEnd := false } 0 scan.pieces

/- Process the next chunk of a document. -/
def traceFeed
    (t : Tokenizer)
    (chunk : List UInt8)
    (isFinal : Bool) : Traced Unit :=
  let input := t.pending ++ chunk
  if t.awaitingMarkupEnd && !isFinal &&
      !chunk.contains (byte '>') then
    single (stop { t with pending := input } (.ok ()))
  else
    (traceInput { t with pending := [] } input
      isFinal).andThen
      (fun t consumed =>
        let t := t.keep input consumed
        single (t.stop (if isFinal then t.finish else .ok ())))

/- Feed chunks in order. -/
def traceAll :
    Tokenizer → List (List UInt8 × Bool) → Traced Bool
| t, [] => single (t.stop (.ok false))
| t, (chunk, isFinal) :: rest =>
    (t.traceFeed chunk isFinal).andThen (fun t _ =>
      if isFinal then single (t.stop (.ok true))
      else traceAll t rest)

------------------------------------------------------------
-- Traced Outcomes
------------------------------------------------------------

theorem tracePiece_outcome
    (t : Tokenizer)
    (piece : Piece)
    (position : Nat) :
    (t.tracePiece piece position).outcome =
      t.dispatch piece position := by
  cases piece with
  | _ => rfl

theorem traceConsume_outcome
    (work : Work)
    (t : Tokenizer)
    (consumed : Nat)
    (pieces : List (Piece × Nat)) :
    (traceConsume work t consumed pieces).outcome =
      consume work t consumed pieces := by
  induction pieces generalizing t consumed with
  | nil => rfl
  | cons entry pieces ih =>
      rcases entry with ⟨piece, length⟩
      have hNext :
          ((t.tracePiece piece
              (t.offset + consumed)).andThen
            (fun t _ =>
              traceConsume work t (consumed + length)
                pieces)).outcome =
            (t.dispatch piece (t.offset + consumed)).andThen
              (fun t _ =>
                consume work t (consumed + length)
                  pieces) := by
        rw [andThen_outcome, tracePiece_outcome]
        simp only [ih]
      cases piece with
      | text raw =>
          unfold traceConsume consume
          dsimp only
          split
          · rfl
          · exact hNext
      | _ => exact hNext

theorem traceFeed_outcome
    (t : Tokenizer)
    (chunk : List UInt8)
    (isFinal : Bool) :
    (t.traceFeed chunk isFinal).outcome =
      t.feed chunk isFinal := by
  unfold traceFeed feed
  dsimp only
  split
  · rfl
  · rw [andThen_outcome]
    unfold traceInput
    dsimp only
    rw [traceConsume_outcome]
    rfl

/- Tracing chunks is feeding them. -/
theorem traceAll_outcome
    (t : Tokenizer)
    (chunks : List (List UInt8 × Bool)) :
    (t.traceAll chunks).outcome = t.feedAll chunks := by
  induction chunks generalizing t with
  | nil => rfl
  | cons chunk chunks ih =>
      rcases chunk with ⟨piece, isFinal⟩
      unfold traceAll feedAll
      rw [andThen_outcome, traceFeed_outcome]
      cases isFinal with
      | true => rfl
      | false =>
          simp only [Bool.false_eq_true, if_false, ih]

/- The events of the deliveries are those of the feeds. -/
theorem traceAll_events
    (t : Tokenizer)
    (chunks : List (List UInt8 × Bool)) :
    (t.traceAll chunks).deliveries.map Delivery.event =
      (t.feedAll chunks).events := by
  rw [(t.traceAll chunks).complete, traceAll_outcome]

------------------------------------------------------------
-- Invariants
------------------------------------------------------------

section Invariants

variable
  {α β : Type}
  {Inv : List Event → Tokenizer → Prop}

/-
  A property of a tokenizer and the events that it has
  delivered holds after a step that succeeds.
-/
def Advances
    (Inv : List Event → Tokenizer → Prop)
    (past : List Event)
    (outcome : Outcome α) : Prop :=
  ∀ value,
    outcome.result = .ok value →
      Inv (past ++ outcome.events) outcome.tokenizer

/-
  A property that every step keeps, whatever bytes it is
  given.
-/
structure Invariant
    (Inv : List Event → Tokenizer → Prop) : Prop where
  moved : ∀ past t pending offset awaiting,
    Inv past t →
      Inv past (t.moved pending offset awaiting)
  startTag : ∀ past t content position,
    Inv past t →
      Advances Inv past (t.startTag content position)
  endTag : ∀ past t raw,
    Inv past t → Advances Inv past (t.endTag raw)
  text : ∀ past t content,
    Inv past t → Advances Inv past (t.text content)

/- A property that holds at every delivery of a step. -/
structure Keeps
    (Inv : List Event → Tokenizer → Prop)
    (past : List Event)
    (traced : Traced α) : Prop where
  delivered : ∀ front delivery back,
    traced.deliveries = front ++ delivery :: back →
      Inv
        (past ++
          (front.map Delivery.event ++ [delivery.event]))
        delivery.tokenizer
  advances : Advances Inv past traced.outcome

/- A step that does nothing or delivers one event. -/
def Simple (outcome : Outcome α) : Prop :=
  outcome.events = [] ∨
    ∃ event value,
      outcome.events = [event] ∧ outcome.result = .ok value

theorem Simple.deliver
    (t : Tokenizer)
    (event : Event) :
    Simple (t.deliver event) :=
  Or.inr ⟨event, (), rfl, rfl⟩

theorem Simple.stop
    (t : Tokenizer)
    (result : Except XmlError α) :
    Simple (t.stop result) :=
  Or.inl rfl

theorem keeps_single
    {past : List Event}
    {outcome : Outcome α}
    (hSimple : Simple outcome)
    (hAdvances : Advances Inv past outcome) :
    Keeps Inv past (single outcome) where
  advances := hAdvances
  delivered := by
    intro front delivery back hParts
    rcases hSimple with hNone | ⟨event, value, hOne, hOk⟩
    · simp [single, hNone] at hParts
    · have hAfter := hAdvances value hOk
      rw [hOne] at hAfter
      simp only [single, hOne, List.map_cons, List.map_nil]
        at hParts
      cases front with
      | nil =>
          cases hParts
          exact hAfter
      | cons first front => simp at hParts

theorem keeps_andThen
    {past : List Event}
    {first : Traced α}
    {next : Tokenizer → α → Traced β}
    (hFirst : Keeps Inv past first)
    (hNext : ∀ past t value,
      Inv past t → Keeps Inv past (next t value)) :
    Keeps Inv past (first.andThen next) := by
  have hComplete := first.complete
  cases hResult : first.outcome.result with
  | error e =>
      constructor
      · intro front delivery back hParts
        apply hFirst.delivered front delivery back
        simpa [andThen, hResult] using hParts
      · intro value hOk
        simp [andThen, Outcome.andThen, hResult] at hOk
  | ok value =>
      have hLater :=
        hNext _ _ value (hFirst.advances value hResult)
      constructor
      · intro front delivery back hParts
        simp only [andThen, hResult] at hParts
        rcases List.append_eq_append_iff.mp hParts with
          ⟨more, hFront, hSecond⟩ | ⟨more, hDone, hSecond⟩
        · -- the delivery belongs to the second step
          have hInv :=
            hLater.delivered more delivery back hSecond
          rw [← hComplete] at hInv
          rw [hFront]
          simpa using hInv
        · cases more with
          | nil =>
              have hInv :=
                hLater.delivered [] delivery back
                  hSecond.symm
              rw [← hComplete, hDone] at hInv
              simpa using hInv
          | cons head more =>
              cases hSecond
              exact hFirst.delivered front _ more hDone
      · intro last hOk
        simp only [andThen_outcome, Outcome.andThen,
          hResult] at hOk ⊢
        rw [← List.append_assoc]
        exact hLater.advances last hOk

/-
  A start tag is refused, or its name and its attributes are
  decoded and resolved with its declarations in scope.
-/
theorem startTag_cases
    (t : Tokenizer)
    (content : List UInt8)
    (position : Nat) :
    (∃ (after : Tokenizer) (e : XmlError),
        t.startTag content position =
          after.stop (.error e)) ∨
      ∃ (entered opened : Tokenizer) (name : QName)
          (attributes : List TagAttribute) (tag : StartTag),
        t.enterRoot = .ok entered ∧
          decodeTagName content = .ok name ∧
          decodeTagAttributes position content =
            .ok attributes ∧
          opened =
            entered.openElement name
              (attributes.filterMap
                TagAttribute.declaration?) ∧
          opened.resolveStartTag name attributes = .ok tag ∧
          t.startTag content position =
            opened.deliver (.startElement tag) := by
  unfold startTag
  split
  · exact Or.inl ⟨_, _, rfl⟩
  · next hEnter =>
      split
      · exact Or.inl ⟨_, _, rfl⟩
      · next hName =>
          split
          · exact Or.inl ⟨_, _, rfl⟩
          · next hAttributes =>
              dsimp only
              split
              · exact Or.inl ⟨_, _, rfl⟩
              · next hTag =>
                  exact Or.inr
                    ⟨_, _, _, _, _, hEnter, hName,
                      hAttributes, rfl, hTag, rfl⟩

/- An end tag is refused or ends an element. -/
theorem endTag_cases
    (t : Tokenizer)
    (raw : List UInt8) :
    (∃ (after : Tokenizer) (e : XmlError),
        t.endTag raw = after.stop (.error e)) ∨
      ∃ (after : Tokenizer) (name : Name),
        t.endTag raw = after.deliver (.endElement name) := by
  unfold endTag
  split
  · exact Or.inl ⟨_, _, rfl⟩
  · split
    · exact Or.inl ⟨_, _, rfl⟩
    · dsimp only
      split
      · split
        · exact Or.inl ⟨_, _, rfl⟩
        · exact Or.inr ⟨_, _, rfl⟩
      · exact Or.inl ⟨_, _, rfl⟩

theorem startTag_simple
    (t : Tokenizer)
    (content : List UInt8)
    (position : Nat) :
    Simple (t.startTag content position) := by
  rcases startTag_cases t content position with
    ⟨after, e, hSame⟩ |
      ⟨_, opened, _, _, tag, _, _, _, _, _, hSame⟩
  · rw [hSame]
    exact Simple.stop after _
  · rw [hSame]
    exact Simple.deliver opened _

theorem endTag_simple
    (t : Tokenizer)
    (raw : List UInt8) :
    Simple (t.endTag raw) := by
  rcases endTag_cases t raw with
    ⟨after, e, hSame⟩ | ⟨after, name, hSame⟩
  · rw [hSame]
    exact Simple.stop after _
  · rw [hSame]
    exact Simple.deliver after _

theorem text_simple
    (t : Tokenizer)
    (content : String) :
    Simple (t.text content) := by
  rcases text_cases t content with
    ⟨_, hText⟩ | ⟨_, _, hText⟩ | ⟨_, _, hText⟩
  · rw [hText]
    exact Simple.deliver _ _
  · rw [hText]
    exact Simple.stop _ _
  · rw [hText]
    exact Simple.stop _ _

theorem advances_stop
    {past : List Event}
    {t : Tokenizer}
    (hInv : Inv past t)
    (result : Except XmlError α) :
    Advances Inv past (t.stop result) := by
  intro _ _
  rw [show (t.stop result).events = [] from rfl,
    List.append_nil]
  exact hInv

theorem keeps_stop
    {past : List Event}
    {t : Tokenizer}
    (hInv : Inv past t)
    (result : Except XmlError α) :
    Keeps Inv past (single (t.stop result)) :=
  keeps_single (Simple.stop t result)
    (advances_stop hInv result)

theorem keeps_refused
    (past : List Event)
    (t : Tokenizer)
    (e : XmlError) :
    Keeps Inv past
      (single (t.stop (.error e : Except XmlError α))) :=
  keeps_single (Simple.stop t _)
    (fun _ hOk => by cases hOk)

theorem dispatch_text_simple
    (t : Tokenizer)
    (raw : List UInt8)
    (position : Nat) :
    Simple (t.dispatch (.text raw) position) := by
  unfold dispatch
  dsimp only
  split
  · exact Simple.stop _ _
  · exact text_simple _ _

variable
  (hInvariant : Invariant Inv)
  {past : List Event}
  {t : Tokenizer}

include hInvariant

/- Every piece keeps the invariant at its deliveries. -/
theorem tracePiece_keeps
    (hInv : Inv past t)
    (piece : Piece)
    (position : Nat) :
    Keeps Inv past (t.tracePiece piece position) := by
  have hText : ∀ content,
      Keeps Inv past (single (t.text content)) :=
    fun content =>
      keeps_single (text_simple t content)
        (hInvariant.text past t content hInv)
  cases piece with
  | text raw =>
      unfold tracePiece dispatch
      dsimp only
      split
      · exact keeps_refused past t _
      · exact hText _
  | cdata raw =>
      unfold tracePiece dispatch
      dsimp only
      split
      · exact keeps_refused past t _
      · exact hText _
  | startTag content =>
      exact keeps_single
        (startTag_simple t content position)
        (hInvariant.startTag past t content position hInv)
  | emptyTag content =>
      apply keeps_andThen
      · exact keeps_single
          (startTag_simple t content position)
          (hInvariant.startTag past t content position hInv)
      · intro past t _ hInv
        exact keeps_single (endTag_simple t _)
          (hInvariant.endTag past t _ hInv)
  | endTag name =>
      exact keeps_single (endTag_simple t name)
        (hInvariant.endTag past t name hInv)
  | declaration content => exact keeps_stop hInv _
  | instruction => exact keeps_stop hInv _
  | comment => exact keeps_stop hInv _
  | doctype => exact keeps_stop hInv _

/- The complete part of a text is one piece or none. -/
theorem partialText_keeps
    (hInv : Inv past t)
    (raw : List UInt8)
    (position : Nat) :
    Keeps Inv past (single (t.partialText raw position)) := by
  cases hResult : (t.partialText raw position).result with
  | error e =>
      apply keeps_single
      · exact Or.inl (partialText_error hResult).1
      · intro _ hOk
        rw [hResult] at hOk
        cases hOk
  | ok count =>
      rcases partialText_ok hResult with
        ⟨_, hSame, ⟨_, hNone⟩ | ⟨_, hPiece⟩⟩
      · apply keeps_single
        · exact Or.inl hNone
        · intro _ _
          rw [hNone, hSame, List.append_nil]
          exact hInv
      · have hText :=
          dispatch_text_simple t (raw.take count) position
        have hKeeps :=
          tracePiece_keeps hInvariant hInv
            (.text (raw.take count)) position
        have hAdvances := hKeeps.advances
        rw [tracePiece_outcome, hPiece] at hAdvances
        rw [hPiece] at hText
        apply keeps_single
        · rcases hText with hNone | ⟨event, _, hOne, _⟩
          · exact Or.inl hNone
          · exact Or.inr ⟨event, count, hOne, hResult⟩
        · intro _ _
          rw [hSame]
          exact hAdvances () rfl

theorem consumeEnd_keeps
    (hInv : Inv past t)
    (work : Work)
    (consumed : Nat) :
    Keeps Inv past (single (t.consumeEnd work consumed)) := by
  unfold consumeEnd
  split
  · exact keeps_stop hInv _
  · split
    · exact keeps_stop
        (hInvariant.moved past t t.pending t.offset true
          hInv) _
    · exact keeps_refused past t _

theorem traceConsume_keeps
    (hInv : Inv past t)
    (work : Work)
    (consumed : Nat)
    (pieces : List (Piece × Nat)) :
    Keeps Inv past
      (traceConsume work t consumed pieces) := by
  induction pieces generalizing past t consumed with
  | nil => exact consumeEnd_keeps hInvariant hInv work _
  | cons entry pieces ih =>
      rcases entry with ⟨piece, length⟩
      have hNext :
          Keeps Inv past
            ((t.tracePiece piece
                (t.offset + consumed)).andThen
              (fun t _ =>
                traceConsume work t (consumed + length)
                  pieces)) := by
        apply keeps_andThen
        · exact tracePiece_keeps hInvariant hInv _ _
        · intro past t _ hInv
          exact ih hInv _
      cases piece with
      | text raw =>
          unfold traceConsume
          dsimp only
          split
          · apply keeps_andThen
            · exact partialText_keeps hInvariant hInv _ _
            · intro past t _ hInv
              exact keeps_stop hInv _
          · exact hNext
      | _ => exact hNext

theorem traceFeed_keeps
    (hInv : Inv past t)
    (chunk : List UInt8)
    (isFinal : Bool) :
    Keeps Inv past (t.traceFeed chunk isFinal) := by
  unfold traceFeed
  dsimp only
  split
  · exact keeps_stop
      (hInvariant.moved past t (t.pending ++ chunk) t.offset
        t.awaitingMarkupEnd hInv) _
  · apply keeps_andThen
    · exact traceConsume_keeps hInvariant
        (hInvariant.moved past t [] t.offset false hInv)
        _ _ _
    · intro past t consumed hInv
      exact keeps_stop
        (hInvariant.moved past t _ _ t.awaitingMarkupEnd
          hInv) _

/-
  An invariant holds at every delivery, however the document
  is cut and whether or not it is accepted.
-/
theorem traceAll_keeps
    (hInv : Inv past t)
    (chunks : List (List UInt8 × Bool)) :
    Keeps Inv past (t.traceAll chunks) := by
  induction chunks generalizing past t with
  | nil => exact keeps_stop hInv _
  | cons chunk chunks ih =>
      rcases chunk with ⟨piece, isFinal⟩
      unfold traceAll
      apply keeps_andThen
      · exact traceFeed_keeps hInvariant hInv piece isFinal
      · intro past t _ hInv
        split
        · exact keeps_stop hInv _
        · exact ih hInv

end Invariants

------------------------------------------------------------
-- Progress At Deliveries
------------------------------------------------------------

/- The tokenizer is where the events are. -/
def Tracked
    (past : List Event)
    (t : Tokenizer) : Prop :=
  ∃ p : Progress, p.events = past ∧ t.Tracks p

theorem Tracked.advances
    {past : List Event}
    {t : Tokenizer}
    {outcome : Outcome Unit}
    (hTracked : Tracked past t)
    (hFollows : ∀ p, t.Tracks p → Follows p outcome) :
    Advances Tracked past outcome := by
  rcases hTracked with ⟨p, rfl, hTracks⟩
  rcases hFollows p hTracks with ⟨later, hEvents, hLater⟩
  intro value hOk
  exact ⟨later, hEvents, hLater value hOk⟩

theorem tracked_invariant :
    Invariant Tracked where
  moved := by
    rintro past t pending offset awaiting
      ⟨p, hEvents, hTracks⟩
    exact ⟨p, hEvents, hTracks.moved pending offset awaiting⟩
  startTag := by
    intro past t content position hTracked
    exact hTracked.advances
      (fun p hTracks =>
        startTag_follows hTracks content position)
  endTag := by
    intro past t raw hTracked
    exact hTracked.advances
      (fun p hTracks => endTag_follows hTracks raw)
  text := by
    intro past t content hTracked
    exact hTracked.advances
      (fun p hTracks => text_follows hTracks content)

/-
  At each delivery the events so far are those of a document
  whose open elements are the tokenizer's.
-/
theorem traceAll_tracks
    {chunks : List (List UInt8 × Bool)}
    {front back : List Delivery}
    {delivery : Delivery}
    (hParts :
      (Tokenizer.start.traceAll chunks).deliveries =
        front ++ delivery :: back) :
    Tracked
      (front.map Delivery.event ++ [delivery.event])
      delivery.tokenizer := by
  have hStart : Tracked [] Tokenizer.start :=
    ⟨.before, rfl, start_tracks⟩
  have hKeeps :=
    traceAll_keeps tracked_invariant hStart chunks
  exact hKeeps.delivered front delivery back hParts

end Tokenizer

end RdfXml
