import RdfXml.Proofs.Xml.WellNested

/-
  Events that are nested.

  A nesting is what is open at some point of a document.  An
  event takes one nesting to the next, unless it cannot stand
  there.

  Main declarations:
    * `Nesting`
    * `Nesting.step?`
    * `Nesting.run?`
    * `Nesting.content_of_run?`
    * `Progress.run?_events`
-/

------------------------------------------------------------
-- Nestings
------------------------------------------------------------

namespace RdfXml

/-
  The open elements, innermost first, and whether the root
  element has begun.
-/
structure Nesting where
  openTags : List StartTag
  hasRoot : Bool
deriving DecidableEq, Repr

namespace Nesting

/- Nothing has begun. -/
def start : Nesting :=
  ⟨[], false⟩

/-
  The nesting after an event.  Only one element may stand
  outside of all others, no text may, and an end carries the
  name of the innermost start.
-/
def step? (n : Nesting) (event : Event) : Option Nesting :=
  match event, n.openTags with
  | .startElement tag, [] =>
      if n.hasRoot then none else some ⟨[tag], true⟩
  | .startElement tag, tags =>
      some ⟨tag :: tags, n.hasRoot⟩
  | .endElement _, [] => none
  | .endElement name, tag :: outer =>
      if tag.name = name then some ⟨outer, n.hasRoot⟩
      else none
  | .characters _, [] => none
  | .characters _, _ :: _ => some n

theorem step?_startElement
    {n next : Nesting}
    {tag : StartTag}
    (hStep : n.step? (.startElement tag) = some next) :
    next.openTags = tag :: n.openTags := by
  rcases n with ⟨tags, hasRoot⟩
  cases tags with
  | nil =>
      cases hasRoot with
      | true => cases hStep
      | false =>
          cases hStep
          rfl
  | cons outer tags =>
      cases hStep
      rfl

theorem step?_endElement
    {n next : Nesting}
    {name : Name}
    (hStep : n.step? (.endElement name) = some next) :
    ∃ tag outer,
      n.openTags = tag :: outer ∧
        tag.name = name ∧
          next = ⟨outer, n.hasRoot⟩ := by
  rcases n with ⟨tags, hasRoot⟩
  cases tags with
  | nil => cases hStep
  | cons tag outer =>
      simp only [step?] at hStep
      split at hStep
      · next hName =>
          cases hStep
          exact ⟨tag, outer, rfl, hName, rfl⟩
      · cases hStep

theorem step?_characters
    {n next : Nesting}
    {content : String}
    (hStep : n.step? (.characters content) = some next) :
    n.openTags ≠ [] ∧ next = n := by
  rcases n with ⟨tags, hasRoot⟩
  cases tags with
  | nil => cases hStep
  | cons tag outer =>
      cases hStep
      exact ⟨by simp, rfl⟩

/- The nesting after events. -/
def run? : Nesting → List Event → Option Nesting
| n, [] => some n
| n, event :: rest =>
    (n.step? event).bind (fun next => run? next rest)

theorem run?_append
    (n : Nesting)
    (first second : List Event) :
    n.run? (first ++ second) =
      (n.run? first).bind (fun next => next.run? second) := by
  induction first generalizing n with
  | nil => rfl
  | cons event first ih =>
      simp only [List.cons_append, run?, Option.bind_assoc,
        ih]

/- What precedes nested events and one more is nested. -/
theorem run?_concat
    {n last : Nesting}
    {events : List Event}
    {event : Event}
    (hRun : n.run? (events ++ [event]) = some last) :
    ∃ before,
      n.run? events = some before ∧
        before.step? event = some last := by
  rw [run?_append] at hRun
  rcases Option.bind_eq_some_iff.mp hRun with
    ⟨before, hBefore, hStep⟩
  simp only [run?] at hStep
  exact ⟨before, hBefore, by simpa using hStep⟩

/-
  Events that close an element begin with its content and
  its end.  The induction is on the number of events, since
  what stands behind an inner element is no tail of them.
-/
theorem content_of_run?
    {tag : StartTag}
    {outer : List StartTag}
    {hasRoot : Bool}
    {last : Nesting}
    {events : List Event}
    (hRun :
      run? ⟨tag :: outer, hasRoot⟩ events = some last)
    (hClosed : last.openTags.length ≤ outer.length) :
    ∃ content rest,
      events =
          Content.events content ++
            .endElement tag.name :: rest ∧
        run? ⟨outer, hasRoot⟩ rest = some last := by
  induction hCount : events.length using Nat.strongRecOn
    generalizing tag outer events with
  | ind count ih =>
      cases events with
      | nil =>
          cases hRun
          rw [List.length_cons] at hClosed
          omega
      | cons event events =>
          have hShort : events.length < count := by
            rw [← hCount, List.length_cons]
            omega
          rcases Option.bind_eq_some_iff.mp hRun with
            ⟨next, hStep, hRest⟩
          cases event with
          | characters text =>
              cases hStep
              rcases ih _ hShort hRest hClosed rfl with
                ⟨content, rest, rfl, hLast⟩
              exact ⟨.text text content, rest, rfl, hLast⟩
          | endElement name =>
              rcases step?_endElement hStep with
                ⟨_, _, hTags, rfl, rfl⟩
              cases hTags
              exact ⟨.nil, events, rfl, hRest⟩
          | startElement inside =>
              cases hStep
              have hInner :
                  last.openTags.length ≤
                    (tag :: outer).length := by
                rw [List.length_cons]
                omega
              rcases ih _ hShort hRest hInner rfl with
                ⟨inner, more, rfl, hMore⟩
              have hLess : more.length < count := by
                simp only [List.length_append,
                  List.length_cons] at hShort
                omega
              rcases ih _ hLess hMore hClosed rfl with
                ⟨behind, rest, rfl, hLast⟩
              exact ⟨.element inside inner behind, rest,
                by simp [Content.events], hLast⟩

end Nesting

------------------------------------------------------------
-- Nestings Of Documents
------------------------------------------------------------

/- A content closes what it opens. -/
theorem Content.run?_events
    (content : Content)
    (tag : StartTag)
    (outer : List StartTag)
    (hasRoot : Bool) :
    Nesting.run? ⟨tag :: outer, hasRoot⟩ content.events =
      some ⟨tag :: outer, hasRoot⟩ := by
  induction content generalizing tag outer with
  | nil => rfl
  | text run rest ih => exact ih tag outer
  | element inside inner rest hInner hRest =>
      simp [events, Nesting.run?, Nesting.run?_append,
        Nesting.step?, hInner, hRest]

theorem Content.run?_inside
    (content : Content)
    {n : Nesting}
    (hOpen : n.openTags ≠ []) :
    n.run? content.events = some n := by
  rcases n with ⟨tags, hasRoot⟩
  cases tags with
  | nil => exact absurd rfl hOpen
  | cons tag outer =>
      exact content.run?_events tag outer hasRoot

theorem Progress.run?_pathEvents
    (path : List (StartTag × Content))
    (root : StartTag) :
    Nesting.run? ⟨[root], true⟩ (pathEvents path) =
      some ⟨path.map Prod.fst ++ [root], true⟩ := by
  induction path with
  | nil => rfl
  | cons entry path ih =>
      rcases entry with ⟨tag, front⟩
      have hFront :
          Nesting.run? ⟨path.map Prod.fst ++ [root], true⟩
              front.events =
            some ⟨path.map Prod.fst ++ [root], true⟩ :=
        front.run?_inside (by simp)
      have hStart :
          Nesting.step? ⟨path.map Prod.fst ++ [root], true⟩
              (.startElement tag) =
            some ⟨tag :: (path.map Prod.fst ++ [root]),
              true⟩ := by
        cases path with
        | nil => rfl
        | cons entry path => rfl
      simp [pathEvents, Nesting.run?, Nesting.run?_append, ih,
        hFront, hStart]

/- The events of a document nest as far as it has come. -/
theorem Progress.run?_events (p : Progress) :
    Nesting.start.run? p.events =
      some ⟨p.openTags, p.hasRoot⟩ := by
  cases p with
  | before => rfl
  | inside root path current =>
      have hCurrent :
          Nesting.run? ⟨path.map Prod.fst ++ [root], true⟩
              current.events =
            some ⟨path.map Prod.fst ++ [root], true⟩ :=
        current.run?_inside (by simp)
      simp [events, Nesting.start, Nesting.run?,
        Nesting.run?_append, Nesting.step?, hCurrent,
        run?_pathEvents, openTags, hasRoot]
  | after root =>
      simp [events, Element.events, Nesting.start,
        Nesting.run?, Nesting.run?_append, Nesting.step?,
        Content.run?_events, openTags, hasRoot]

end RdfXml
