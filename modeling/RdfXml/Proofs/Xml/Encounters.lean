import RdfXml.Proofs.Xml.LexicalScope

/-
  The start tags that a run comes to.

  An element whose prefix stands for nothing leaves no event,
  so events alone do not tell that it was refused.  A run
  encounters a start tag when it comes to process it; what it
  delivers then, or the error it ends with, depends on the
  declarations of that tag and of the open elements only.

  Main declarations:
    * `Encounter`
    * `Encounter.Leads`
    * `Tokenizer.Meets`
    * `Tokenizer.Meets.leads`
    * `Tokenizer.Meets.keeps`
    * `Tokenizer.feedAll_encountered`
    * `Tokenizer.feedAll_lexicallyScoped`
-/

------------------------------------------------------------
-- Encounters
------------------------------------------------------------

namespace RdfXml

/-
  A start tag or an empty tag that is about to be processed:
  the events before it, the tokenizer, what stands between
  the brackets, and where the tag begins.
-/
structure Encounter where
  past : List Event
  tokenizer : Tokenizer
  content : List UInt8
  position : Nat

/- What stands between the brackets of a tag that opens. -/
def Piece.opening? : Piece → Option (List UInt8)
| .startTag content => some content
| .emptyTag content => some content
| _ => none

namespace Encounter

/- What processing the start of the element does. -/
def step (e : Encounter) : Outcome Unit :=
  e.tokenizer.startTag e.content e.position

/-
  An element may begin here, and its name and its attributes
  can be decoded.
-/
structure Reads
    (e : Encounter)
    (name : QName)
    (attributes : List TagAttribute) : Prop where
  enters : ∃ entered, e.tokenizer.enterRoot = .ok entered
  name : decodeTagName e.content = .ok name
  attributes :
    decodeTagAttributes e.position e.content = .ok attributes

/-
  A run that has delivered some events before goes on as the
  start tag says: it ends with its error and without another
  event, or it delivers its start next.
-/
def Leads
    {α : Type}
    (e : Encounter)
    (past : List Event)
    (outcome : Outcome α) : Prop :=
  match e.step.result with
  | .error fault =>
      past ++ outcome.events = e.past ∧
        outcome.result = .error fault
  | .ok _ =>
      e.past ++ e.step.events <+: past ++ outcome.events

theorem step_error
    {e : Encounter}
    {fault : XmlError}
    (hError : e.step.result = .error fault) :
    e.step.events = [] := by
  rcases Tokenizer.startTag_cases e.tokenizer e.content
      e.position with
    ⟨after, found, hSame⟩ |
      ⟨_, opened, _, _, tag, _, _, _, _, _, hSame⟩
  · exact congrArg Outcome.events hSame
  · unfold step at hError
    rw [hSame] at hError
    cases hError

section Leads

variable
  {α β : Type}
  {e : Encounter}

/- What is processed first decides how the run goes on. -/
theorem leads_first
    (next : Tokenizer → Unit → Outcome β) :
    e.Leads e.past (e.step.andThen next) := by
  unfold Leads
  cases hResult : e.step.result with
  | error fault =>
      unfold Outcome.andThen
      rw [hResult]
      dsimp only
      rw [step_error hResult, List.append_nil]
      exact ⟨rfl, rfl⟩
  | ok value =>
      unfold Outcome.andThen
      rw [hResult]
      exact ⟨_, List.append_assoc _ _ _⟩

/- What was processed before belongs to the past. -/
theorem Leads.behind
    {past : List Event}
    {first : Outcome α}
    {next : Tokenizer → α → Outcome β}
    {value : α}
    (hOk : first.result = .ok value)
    (hLeads :
      e.Leads (past ++ first.events)
        (next first.tokenizer value)) :
    e.Leads past (first.andThen next) := by
  unfold Leads at hLeads ⊢
  unfold Outcome.andThen
  rw [hOk]
  simpa only [List.append_assoc] using hLeads

/- A step that follows delivers what it delivers later. -/
theorem Leads.andThen
    {past : List Event}
    {first : Outcome α}
    (hLeads : e.Leads past first)
    (next : Tokenizer → α → Outcome β) :
    e.Leads past (first.andThen next) := by
  unfold Leads at hLeads ⊢
  unfold Outcome.andThen
  cases hStep : e.step.result with
  | error fault =>
      rw [hStep] at hLeads
      rw [hLeads.2]
      exact ⟨hLeads.1, rfl⟩
  | ok value =>
      rw [hStep] at hLeads
      dsimp only at hLeads ⊢
      cases first.result with
      | error fault => exact hLeads
      | ok value =>
          dsimp only
          rw [← List.append_assoc]
          exact hLeads.trans (List.prefix_append _ _)

end Leads

end Encounter

------------------------------------------------------------
-- Runs
------------------------------------------------------------

namespace Tokenizer

/-
  While its pieces are processed, a chunk comes to a start
  tag: to the first piece, or behind a piece that succeeds.
-/
inductive ConsumeMeets (work : Work) :
    List Event → Tokenizer → Nat → List (Piece × Nat) →
      Encounter → Prop
| here {past : List Event} {t : Tokenizer}
    {consumed length : Nat} {piece : Piece}
    {content : List UInt8} {rest : List (Piece × Nat)}
    (hOpening : piece.opening? = some content) :
    ConsumeMeets work past t consumed
      ((piece, length) :: rest)
      ⟨past, t, content, t.offset + consumed⟩
| behind {past : List Event} {t : Tokenizer}
    {consumed length : Nat} {piece : Piece}
    {rest : List (Piece × Nat)} {e : Encounter}
    (hWhole :
      piece.isText = false ∨ work.isFinal = true ∨
        consumed + length ≠ work.input.length)
    (hOk :
      (t.dispatch piece (t.offset + consumed)).result =
        .ok ())
    (hRest :
      ConsumeMeets work
        (past ++
          (t.dispatch piece (t.offset + consumed)).events)
        (t.dispatch piece (t.offset + consumed)).tokenizer
        (consumed + length) rest e) :
    ConsumeMeets work past t consumed
      ((piece, length) :: rest) e

/- A chunk comes to a start tag unless it has to wait. -/
def FeedMeets
    (past : List Event)
    (t : Tokenizer)
    (chunk : List UInt8)
    (isFinal : Bool)
    (e : Encounter) : Prop :=
  ¬ (t.awaitingMarkupEnd = true ∧ isFinal = false ∧
      byte '>' ∉ chunk) ∧
    ConsumeMeets
      ⟨t.pending ++ chunk, isFinal,
        (Scan.ofBytes (skipByteOrderMark
          (t.pending ++ chunk))).fault?⟩
      past
      { t with pending := [], awaitingMarkupEnd := false } 0
      (Scan.ofBytes (skipByteOrderMark
        (t.pending ++ chunk))).pieces e

/-
  A run comes to a start tag: in its first chunk, or in those
  behind it.
-/
inductive Meets :
    List Event → Tokenizer → List (List UInt8 × Bool) →
      Encounter → Prop
| now {past : List Event} {t : Tokenizer}
    {chunk : List UInt8} {isFinal : Bool}
    {rest : List (List UInt8 × Bool)} {e : Encounter}
    (hFeed : FeedMeets past t chunk isFinal e) :
    Meets past t ((chunk, isFinal) :: rest) e
| later {past : List Event} {t : Tokenizer}
    {chunk : List UInt8} {rest : List (List UInt8 × Bool)}
    {e : Encounter}
    (hOk : (t.feed chunk false).result = .ok ())
    (hRest :
      Meets (past ++ (t.feed chunk false).events)
        (t.feed chunk false).tokenizer rest e) :
    Meets past t ((chunk, false) :: rest) e

------------------------------------------------------------
-- What An Encounter Leads To
------------------------------------------------------------

theorem andThen_stop
    {α : Type}
    (outcome : Outcome α) :
    outcome.andThen (fun t value => t.stop (.ok value)) =
      outcome := by
  rcases outcome with ⟨after, events, result⟩
  cases result with
  | error fault => rfl
  | ok value => simp [Outcome.andThen_ok, stop]

/- A tag that opens an element is processed by its start. -/
theorem dispatch_opening
    {piece : Piece}
    {content : List UInt8}
    (hOpening : piece.opening? = some content)
    (t : Tokenizer)
    (position : Nat) :
    ∃ next,
      t.dispatch piece position =
        (t.startTag content position).andThen next := by
  cases piece with
  | startTag inner =>
      cases hOpening
      exact ⟨_, (andThen_stop (t.startTag content
        position)).symm⟩
  | emptyTag inner =>
      cases hOpening
      exact
        ⟨fun t _ => t.endTag (tagNameBytes content), rfl⟩
  | _ => cases hOpening

theorem ConsumeMeets.leads
    {work : Work}
    {past : List Event}
    {t : Tokenizer}
    {consumed : Nat}
    {pieces : List (Piece × Nat)}
    {e : Encounter}
    (hMeets : ConsumeMeets work past t consumed pieces e) :
    e.Leads past (consume work t consumed pieces) := by
  induction hMeets with
  | @here past t consumed length piece content rest
      hOpening =>
      have hMarkup : piece.isText = false := by
        cases piece with
        | text raw => cases hOpening
        | _ => rfl
      rcases dispatch_opening hOpening t
        (t.offset + consumed) with ⟨next, hSame⟩
      rw [consume_piece (Or.inl hMarkup), hSame]
      exact (Encounter.leads_first
        (e := ⟨past, t, content, t.offset + consumed⟩)
        next).andThen _
  | behind hWhole hOk _ ih =>
      rw [consume_piece hWhole]
      exact ih.behind hOk

theorem FeedMeets.leads
    {past : List Event}
    {t : Tokenizer}
    {chunk : List UInt8}
    {isFinal : Bool}
    {e : Encounter}
    (hMeets : FeedMeets past t chunk isFinal e) :
    e.Leads past (t.feed chunk isFinal) := by
  rw [feed_tokenize hMeets.1]
  exact hMeets.2.leads.andThen _

/-
  A run goes on from a start tag that it comes to as the tag
  says.
-/
theorem Meets.leads
    {past : List Event}
    {t : Tokenizer}
    {chunks : List (List UInt8 × Bool)}
    {e : Encounter}
    (hMeets : Meets past t chunks e) :
    e.Leads past (t.feedAll chunks) := by
  induction hMeets with
  | now hFeed => exact hFeed.leads.andThen _
  | later hOk _ ih =>
      unfold feedAll
      apply Encounter.Leads.behind hOk
      simpa using ih

------------------------------------------------------------
-- What Holds At An Encounter
------------------------------------------------------------

section Invariants

variable
  {Inv : List Event → Tokenizer → Prop}
  (hInvariant : Invariant Inv)
  {past : List Event}
  {t : Tokenizer}

include hInvariant

theorem ConsumeMeets.keeps
    {work : Work}
    {consumed : Nat}
    {pieces : List (Piece × Nat)}
    {e : Encounter}
    (hInv : Inv past t)
    (hMeets : ConsumeMeets work past t consumed pieces e) :
    Inv e.past e.tokenizer := by
  induction hMeets with
  | here hOpening => exact hInv
  | @behind past t consumed length piece rest e hWhole hOk
      hRest ih =>
      have hKeeps :=
        tracePiece_keeps hInvariant hInv piece
          (t.offset + consumed)
      have hAdvances := hKeeps.advances
      rw [tracePiece_outcome] at hAdvances
      exact ih (hAdvances () hOk)

/- What every step keeps holds at every encounter. -/
theorem Meets.keeps
    {chunks : List (List UInt8 × Bool)}
    {e : Encounter}
    (hInv : Inv past t)
    (hMeets : Meets past t chunks e) :
    Inv e.past e.tokenizer := by
  induction hMeets with
  | @now past t chunk isFinal rest e hFeed =>
      exact ConsumeMeets.keeps hInvariant
        (hInvariant.moved past t [] t.offset false hInv)
        hFeed.2
  | @later past t chunk rest e hOk hRest ih =>
      have hKeeps :=
        traceFeed_keeps hInvariant hInv chunk false
      have hAdvances := hKeeps.advances
      rw [traceFeed_outcome] at hAdvances
      exact ih (hAdvances () hOk)

end Invariants

------------------------------------------------------------
-- Every Start Is Encountered
------------------------------------------------------------

/-
  Where the events of two steps are parted at some event, the
  first or the second step delivers it.
-/
theorem andThen_events_cases
    {α β : Type}
    {first : Outcome α}
    {next : Tokenizer → α → Outcome β}
    {front back : List Event}
    {event : Event}
    (hParts :
      (first.andThen next).events = front ++ event :: back) :
    (∃ later, first.events = front ++ event :: later) ∨
      ∃ value more,
        first.result = .ok value ∧
          front = first.events ++ more ∧
            (next first.tokenizer value).events =
              more ++ event :: back := by
  unfold Outcome.andThen at hParts
  cases hResult : first.result with
  | error fault =>
      rw [hResult] at hParts
      exact Or.inl ⟨back, hParts⟩
  | ok value =>
      rw [hResult] at hParts
      dsimp only at hParts
      rcases List.append_eq_append_iff.mp hParts with
        ⟨more, hFront, hSecond⟩ | ⟨more, hDone, hSecond⟩
      · exact Or.inr ⟨value, more, rfl, hFront, hSecond⟩
      · cases more with
        | nil =>
            refine Or.inr ⟨value, [], rfl, ?_, hSecond.symm⟩
            rw [hDone, List.append_nil, List.append_nil]
        | cons head more =>
            cases hSecond
            exact Or.inl ⟨more, hDone⟩

theorem text_events
    (t : Tokenizer)
    (content : String) :
    ∀ event ∈ (t.text content).events,
      event = .characters content := by
  rcases text_cases t content with
    ⟨_, hText⟩ | ⟨_, _, hText⟩ | ⟨_, _, hText⟩
  · rw [hText]
    simp [deliver]
  · rw [hText]
    simp [stop]
  · rw [hText]
    simp [stop]

/- Text is delivered as characters. -/
theorem dispatch_text_events
    (t : Tokenizer)
    (raw : List UInt8)
    (position : Nat)
    (tag : StartTag) :
    .startElement tag ∉
      (t.dispatch (.text raw) position).events := by
  unfold dispatch
  dsimp only
  split
  · simp [stop]
  · intro hMember
    cases text_events _ _ _ hMember

/- Only a tag that opens an element delivers its start. -/
theorem dispatch_startElement
    {t : Tokenizer}
    {piece : Piece}
    {position : Nat}
    {front later : List Event}
    {tag : StartTag}
    (hParts :
      (t.dispatch piece position).events =
        front ++ .startElement tag :: later) :
    ∃ content,
      piece.opening? = some content ∧ front = [] ∧
        (t.startTag content position).events =
          [.startElement tag] := by
  have hStart : ∀ content later,
      (t.startTag content position).events =
          front ++ .startElement tag :: later →
        front = [] ∧
          (t.startTag content position).events =
            [.startElement tag] := by
    intro content later hEvents
    rcases startTag_cases t content position with
      ⟨after, fault, hSame⟩ |
        ⟨_, opened, _, _, found, _, _, _, _, _, hSame⟩
    · rw [hSame] at hEvents
      simp [stop] at hEvents
    · rw [hSame] at hEvents ⊢
      cases front with
      | nil =>
          cases hEvents
          exact ⟨rfl, rfl⟩
      | cons event front => simp [deliver] at hEvents
  have hEnd : ∀ (t : Tokenizer) raw,
      .startElement tag ∉ (t.endTag raw).events := by
    intro t raw
    rcases endTag_cases t raw with
      ⟨after, fault, hSame⟩ | ⟨after, name, hSame⟩
    · rw [hSame]
      simp [stop]
    · rw [hSame]
      simp [deliver]
  have hMember :
      .startElement tag ∈
        (t.dispatch piece position).events := by
    simp [hParts]
  cases piece with
  | text raw =>
      exact absurd hMember
        (dispatch_text_events t raw position tag)
  | cdata raw =>
      unfold dispatch at hMember
      dsimp only at hMember
      split at hMember
      · simp [stop] at hMember
      · cases text_events _ _ _ hMember
  | startTag content =>
      exact ⟨content, rfl, hStart content later hParts⟩
  | emptyTag content =>
      rcases andThen_events_cases hParts with
        ⟨more, hFirst⟩ | ⟨_, more, _, _, hSecond⟩
      · exact ⟨content, rfl, hStart content more hFirst⟩
      · have hNot :=
          hEnd (t.startTag content position).tokenizer
            (tagNameBytes content)
        rw [hSecond] at hNot
        simp at hNot
  | endTag name => exact absurd hMember (hEnd t name)
  | declaration content => simp [dispatch, stop] at hMember
  | instruction => simp [dispatch, stop] at hMember
  | comment => simp [dispatch, stop] at hMember
  | doctype => simp [dispatch, stop] at hMember

/-
  Each start that a step delivers is that of a start tag it
  comes to.
-/
def Encountered
    {α : Type}
    (Meets : Encounter → Prop)
    (past : List Event)
    (outcome : Outcome α) : Prop :=
  ∀ front tag back,
    outcome.events = front ++ .startElement tag :: back →
      ∃ e,
        Meets e ∧ e.past = past ++ front ∧
          e.step.events = [.startElement tag]

theorem partialText_events
    (t : Tokenizer)
    (raw : List UInt8)
    (position : Nat)
    (tag : StartTag) :
    .startElement tag ∉
      (t.partialText raw position).events := by
  cases hResult : (t.partialText raw position).result with
  | error fault => simp [(partialText_error hResult).1]
  | ok count =>
      rcases partialText_ok hResult with
        ⟨_, _, ⟨_, hNone⟩ | ⟨_, hPiece⟩⟩
      · simp [hNone]
      · have hText :=
          dispatch_text_events t (raw.take count) position
            tag
        rw [hPiece] at hText
        exact hText

theorem consume_encountered
    (work : Work)
    (past : List Event)
    (t : Tokenizer)
    (consumed : Nat)
    (pieces : List (Piece × Nat)) :
    Encountered (ConsumeMeets work past t consumed pieces)
      past (consume work t consumed pieces) := by
  intro front tag back hParts
  induction pieces generalizing past t consumed front with
  | nil =>
      have hNone :
          (consumeEnd t work consumed).events = [] := by
        unfold consumeEnd
        split
        · rfl
        · split
          · rfl
          · rfl
      rw [consume, hNone] at hParts
      simp at hParts
  | cons entry pieces ih =>
      rcases entry with ⟨piece, length⟩
      by_cases hWhole :
          piece.isText = false ∨ work.isFinal = true ∨
            consumed + length ≠ work.input.length
      · rw [consume_piece hWhole] at hParts
        rcases andThen_events_cases hParts with
          ⟨later, hFirst⟩ | ⟨_, more, hOk, rfl, hSecond⟩
        · rcases dispatch_startElement hFirst with
            ⟨content, hOpening, rfl, hStart⟩
          exact ⟨_, .here hOpening,
            (List.append_nil past).symm, hStart⟩
        · rcases ih (past ++ (t.dispatch piece
              (t.offset + consumed)).events) _ _ _ hSecond
            with ⟨e, hMeets, hPast, hStep⟩
          exact ⟨e, .behind hWhole hOk hMeets,
            by rw [hPast, List.append_assoc], hStep⟩
      · cases piece with
        | text raw =>
            simp only [Piece.isText, Bool.true_eq_false,
              false_or, not_or, Bool.not_eq_true,
              Decidable.not_not] at hWhole
            rw [consume_held hWhole.1 hWhole.2] at hParts
            rcases andThen_events_cases hParts with
              ⟨later, hFirst⟩ | ⟨_, more, _, _, hSecond⟩
            · refine absurd ?_
                (partialText_events t raw
                  (t.offset + consumed) tag)
              rw [hFirst]
              simp
            · simp [stop] at hSecond
        | _ => exact absurd (Or.inl rfl) hWhole

theorem feed_encountered
    (past : List Event)
    (t : Tokenizer)
    (chunk : List UInt8)
    (isFinal : Bool) :
    Encountered (FeedMeets past t chunk isFinal) past
      (t.feed chunk isFinal) := by
  intro front tag back hParts
  by_cases hWaits :
      t.awaitingMarkupEnd = true ∧ isFinal = false ∧
        byte '>' ∉ chunk
  · rcases hWaits with ⟨hAwaiting, rfl, hChunk⟩
    rw [feed_awaiting hAwaiting hChunk] at hParts
    simp [stop] at hParts
  · rw [feed_tokenize hWaits] at hParts
    rcases andThen_events_cases hParts with
      ⟨later, hFirst⟩ | ⟨_, more, _, _, hSecond⟩
    · rcases consume_encountered _ past _ _ _ _ _ _ hFirst
        with ⟨e, hMeets, hPast, hStep⟩
      exact ⟨e, ⟨hWaits, hMeets⟩, hPast, hStep⟩
    · simp [stop] at hSecond

/-
  A run comes to a start tag for every start that it
  delivers.
-/
theorem feedAll_encountered
    (past : List Event)
    (t : Tokenizer)
    (chunks : List (List UInt8 × Bool)) :
    Encountered (Meets past t chunks) past
      (t.feedAll chunks) := by
  intro front tag back hParts
  induction chunks generalizing past t front with
  | nil => simp [feedAll, stop] at hParts
  | cons chunk chunks ih =>
      rcases chunk with ⟨piece, isFinal⟩
      rcases andThen_events_cases hParts with
        ⟨later, hFirst⟩ | ⟨_, more, hOk, rfl, hSecond⟩
      · rcases feed_encountered past t piece isFinal _ _ _
          hFirst with ⟨e, hMeets, hPast, hStep⟩
        exact ⟨e, .now hMeets, hPast, hStep⟩
      · cases isFinal with
        | true => simp [stop] at hSecond
        | false =>
            rcases ih (past ++ (t.feed piece false).events) _
              _ hSecond with ⟨e, hMeets, hPast, hStep⟩
            exact ⟨e, .later hOk hMeets,
              by rw [hPast, List.append_assoc], hStep⟩

------------------------------------------------------------
-- Lexical Scope
------------------------------------------------------------

/- The elements that are open after events that fit. -/
theorem Fitting.open_declaredOnce
    {events : List Event}
    (hFitting : Fitting events) :
    ∃ n,
      Nesting.start.Admits events n ∧
        DeclaredOnce (scopesOf n.openTags) := by
  rcases hFitting with ⟨n, hAdmits⟩
  refine ⟨n, hAdmits, ?_⟩
  have hSpelled :=
    hAdmits.spelled (by simp [Nesting.start])
  intro scope hMember
  rcases List.mem_map.mp hMember with ⟨tag, hTag, rfl⟩
  exact (hSpelled tag hTag).declaredOnce

end Tokenizer

namespace Encounter

open Tokenizer

variable
  {e : Encounter}
  {name : QName}
  {attributes : List TagAttribute}

/-
  A start tag that can be decoded is resolved with its own
  declarations in scope, and those of the open elements
  around it.
-/
theorem Reads.step
    {p : Progress}
    (hReads : e.Reads name attributes)
    (hTracks : e.tokenizer.Tracks p) :
    ∃ opened : Tokenizer,
      opened.bindings =
          Bindings.ofScopes
            (attributes.filterMap
                TagAttribute.declaration? ::
              scopesOf p.openTags) ∧
        (∀ fault,
          opened.resolveStartTag name attributes =
              .error fault →
            e.step.result = .error fault) ∧
          ∀ tag,
            opened.resolveStartTag name attributes =
                .ok tag →
              e.step = opened.deliver (.startElement tag) := by
  rcases hReads.enters with ⟨entered, hEnter⟩
  refine
    ⟨entered.openElement name
      (attributes.filterMap TagAttribute.declaration?),
      ?_, ?_, ?_⟩
  · unfold openElement
    dsimp only
    rw [enterRoot_bindings hEnter, hTracks.bound,
      Bindings.bindingsOf_scopes]
    rfl
  · intro fault hError
    unfold Encounter.step startTag
    rw [hEnter, hReads.name, hReads.attributes]
    dsimp only
    rw [hError]
    rfl
  · intro tag hOk
    unfold Encounter.step startTag
    rw [hEnter, hReads.name, hReads.attributes]
    dsimp only
    rw [hOk]

/-
  How a start tag decides what becomes of a run, given the
  scopes of the elements around it.  A prefix that stands for
  nothing ends the run with no event for the element.
-/
structure Decides
    {α : Type}
    (e : Encounter)
    (name : QName)
    (attributes : List TagAttribute)
    (outer : List (List Declaration))
    (run : Outcome α) : Prop where
  refused : ∀ label,
    FirstUnbound
        (attributes.filterMap TagAttribute.declaration? ::
          outer)
        label (namesOf name attributes) →
      run.events = e.past ∧
        run.result = .error (.unboundPrefix label)
  delivered :
    AllBound
        (attributes.filterMap TagAttribute.declaration? ::
          outer)
        (namesOf name attributes) →
      ∃ tag : StartTag,
        tag.WrittenAs name attributes ∧
          e.past ++ [.startElement tag] <+: run.events

/- A start tag that delivers its start was decoded for it. -/
theorem reads_of_step
    {tag : StartTag}
    (hEvents : e.step.events = [.startElement tag]) :
    ∃ name attributes,
      e.Reads name attributes ∧
        tag.WrittenAs name attributes := by
  rcases startTag_cases e.tokenizer e.content e.position
    with ⟨after, fault, hSame⟩ |
      ⟨entered, opened, name, attributes, found, hEnter,
        hName, hAttributes, hOpened, hTag, hSame⟩
  · unfold Encounter.step at hEvents
    rw [hSame] at hEvents
    cases hEvents
  · unfold Encounter.step at hEvents
    rw [hSame] at hEvents
    cases hEvents
    exact
      ⟨name, attributes,
        ⟨⟨entered, hEnter⟩, hName, hAttributes⟩,
        resolveStartTag_written hTag⟩

end Encounter

namespace Tokenizer

/-
  The names of every start that a run delivers stand for what
  the innermost declarations say, among those of the tag and
  of the elements that are open before it.
-/
theorem feedAll_delivered
    (chunks : List (List UInt8 × Bool))
    {front back : List Event}
    {tag : StartTag}
    (hParts :
      (Tokenizer.start.feedAll chunks).events =
        front ++ .startElement tag :: back) :
    ∃ n,
      Nesting.start.run? front = some n ∧
        DeclaredOnce
            (tag.declarations :: scopesOf n.openTags) ∧
          tag.LexicalIn (scopesOf n.openTags) := by
  rcases feedAll_admits chunks with ⟨last, hAdmits⟩
  rw [hParts, Nesting.admits_append] at hAdmits
  rcases hAdmits with ⟨n, hFront, next, _, hFits, _⟩
  rcases Fitting.open_declaredOnce ⟨n, hFront⟩ with
    ⟨found, hFound, hOuter⟩
  have hSame := hFound.run?
  rw [hFront.run?] at hSame
  cases hSame
  have hOnce :
      DeclaredOnce
        (tag.declarations :: scopesOf n.openTags) :=
    List.forall_mem_cons.mpr
      ⟨hFits.spelled.declaredOnce, hOuter⟩
  exact ⟨n, hFront.run?, hOnce,
    StartTag.lexicalIn hOnce hFits⟩

/-
  A run that comes to a start tag with an unbound prefix ends
  there, with nothing delivered for the element.  When all
  prefixes are bound it delivers the start of the element.
-/
theorem feedAll_encounter
    {chunks : List (List UInt8 × Bool)}
    {e : Encounter}
    {name : QName}
    {attributes : List TagAttribute}
    (hMeets : Meets [] Tokenizer.start chunks e)
    (hReads : e.Reads name attributes) :
    ∃ n,
      Nesting.start.run? e.past = some n ∧
        e.Decides name attributes (scopesOf n.openTags)
          (Tokenizer.start.feedAll chunks) := by
  have hStart : TrackedFitting [] Tokenizer.start :=
    ⟨⟨.before, rfl, start_tracks⟩, .start, rfl⟩
  rcases hMeets.keeps trackedFitting_invariant hStart with
    ⟨⟨p, hPast, hTracks⟩, hFitting⟩
  have hRun := p.run?_events
  rw [hPast] at hRun
  refine ⟨_, hRun, ?_⟩
  dsimp only
  rcases hFitting.open_declaredOnce with
    ⟨n, hAdmits, hOuter⟩
  rw [hAdmits.run?] at hRun
  cases hRun
  have hOnce :
      DeclaredOnce
        (attributes.filterMap TagAttribute.declaration? ::
          scopesOf p.openTags) :=
    List.forall_mem_cons.mpr
      ⟨declaredOnce_of_keys
        (decodeTagAttributes_written hReads.attributes).2,
        hOuter⟩
  have hLeads := hMeets.leads
  unfold Encounter.Leads at hLeads
  rcases hReads.step hTracks with
    ⟨opened, hBound, hRefused, hDelivered⟩
  constructor
  · intro label hFirst
    rw [hRefused _
      (resolveStartTag_unbound hOnce hBound hFirst)]
      at hLeads
    exact hLeads
  · intro hNames
    rcases resolveStartTag_bound hOnce hBound hNames with
      ⟨tag, hTag⟩
    rw [hDelivered tag hTag] at hLeads
    exact ⟨tag, resolveStartTag_written hTag, hLeads⟩

/-
  Namespaces are lexically scoped, however a document is cut
  and whether or not it is accepted.  The names of a start
  that is delivered stand for what the innermost declarations
  say.  The run came to its tag; and where a run comes to a
  tag with an unbound prefix, it ends with that prefix and
  without an event for the element.
-/
theorem feedAll_lexicallyScoped
    (chunks : List (List UInt8 × Bool)) :
    (∀ front tag back,
      (Tokenizer.start.feedAll chunks).events =
          front ++ .startElement tag :: back →
        (∃ n,
          Nesting.start.run? front = some n ∧
            DeclaredOnce
                (tag.declarations :: scopesOf n.openTags) ∧
              tag.LexicalIn (scopesOf n.openTags)) ∧
          ∃ e name attributes,
            Meets [] Tokenizer.start chunks e ∧
              e.past = front ∧ e.Reads name attributes ∧
                tag.WrittenAs name attributes) ∧
      ∀ e name attributes,
        Meets [] Tokenizer.start chunks e →
          e.Reads name attributes →
            ∃ n,
              Nesting.start.run? e.past = some n ∧
                e.Decides name attributes
                  (scopesOf n.openTags)
                  (Tokenizer.start.feedAll chunks) := by
  constructor
  · intro front tag back hParts
    refine ⟨feedAll_delivered chunks hParts, ?_⟩
    rcases feedAll_encountered [] Tokenizer.start chunks
      front tag back hParts with ⟨e, hMeets, hPast, hStep⟩
    rcases Encounter.reads_of_step hStep with
      ⟨name, attributes, hReads, hWritten⟩
    exact ⟨e, name, attributes, hMeets, hPast, hReads,
      hWritten⟩
  · intro e name attributes hMeets hReads
    exact feedAll_encounter hMeets hReads

end Tokenizer

end RdfXml
