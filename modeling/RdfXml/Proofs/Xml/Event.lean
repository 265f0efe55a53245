import RdfXml.Xml.Event

/-
  Events up to the places where text is cut.

  A run of text may be delivered in any number of events.
  `Event.merged` gives each run as one event and leaves out
  runs without a character.  `Event.settled` also leaves out
  the text at the end, which more text may follow.

  Main declarations:
    * `Event.merged`
    * `Event.settled`
    * `Event.merged_append_congr`
    * `Event.settled_append_congr`
    * `Event.settled_of_merged`
-/

------------------------------------------------------------
-- Runs Of Text
------------------------------------------------------------

namespace RdfXml

namespace Event

/- An event in front of merged events. -/
def join
    (event : Event)
    (rest : List Event) : List Event :=
  match event, rest with
  | .characters text, .characters more :: rest =>
      .characters (text ++ more) :: rest
  | .characters text, rest =>
      if text = "" then rest
      else .characters text :: rest
  | event, rest => event :: rest

/- Events with each run of text in one piece. -/
def merged (events : List Event) : List Event :=
  events.foldr join []

/- An event in front of merged events without text behind. -/
def joinSettled
    (event : Event)
    (rest : List Event) : List Event :=
  match event, rest with
  | .characters _, [] => []
  | event, rest => event.join rest

/- Merged events up to the last one that is no text. -/
def settled (events : List Event) : List Event :=
  events.foldr joinSettled []

/-
  A way of putting an event in front of others that depends
  only on the text of a run.
-/
structure RunWise
    (put : Event → List Event → List Event) : Prop where
  nothing : ∀ rest, put (.characters "") rest = rest
  parts : ∀ text more rest,
    put (.characters text) (put (.characters more) rest) =
      put (.characters (text ++ more)) rest

theorem join_runWise :
    RunWise join where
  nothing := by
    intro rest
    cases rest with
    | nil => rfl
    | cons event rest =>
        cases event with
        | startElement tag => rfl
        | endElement name => rfl
        | characters text => simp [join]
  parts := by
    intro text more rest
    by_cases hMore : more = ""
    · subst hMore
      cases rest with
      | nil => simp [join]
      | cons event rest =>
          cases event with
          | startElement tag => simp [join]
          | endElement name => simp [join]
          | characters last => simp [join]
    · cases rest with
      | nil => simp [join, hMore]
      | cons event rest =>
          cases event with
          | startElement tag =>
              simp [join, hMore]
          | endElement name =>
              simp [join, hMore]
          | characters last =>
              simp [join, String.append_assoc]

/- Nothing is put in front of no events. -/
theorem joinSettled_cons
    (event head : Event)
    (rest : List Event) :
    joinSettled event (head :: rest) =
      join event (head :: rest) := by
  cases event with
  | startElement tag => rfl
  | endElement name => rfl
  | characters text => rfl

theorem join_cons_ne_nil
    (event head : Event)
    (rest : List Event) :
    ∃ first others,
      join event (head :: rest) = first :: others := by
  unfold join
  split
  · exact ⟨_, _, rfl⟩
  · split
    · exact ⟨_, _, rfl⟩
    · exact ⟨_, _, rfl⟩
  · exact ⟨_, _, rfl⟩

theorem joinSettled_runWise :
    RunWise joinSettled where
  nothing := by
    intro rest
    cases rest with
    | nil => rfl
    | cons head rest =>
        rw [joinSettled_cons]
        exact join_runWise.nothing _
  parts := by
    intro text more rest
    cases rest with
    | nil => rfl
    | cons head rest =>
        rcases join_cons_ne_nil (.characters more) head rest
          with ⟨first, others, hJoin⟩
        rw [joinSettled_cons, joinSettled_cons, hJoin,
          joinSettled_cons, ← hJoin]
        exact join_runWise.parts _ _ _

------------------------------------------------------------
-- Congruence
------------------------------------------------------------

theorem foldr_join
    {put : Event → List Event → List Event}
    (hPut : RunWise put)
    (event : Event)
    (events base : List Event) :
    (join event events).foldr put base =
      put event (events.foldr put base) := by
  unfold join
  split
  · exact (hPut.parts _ _ _).symm
  · next text _ =>
      split
      · next hNone =>
          rw [hNone]
          exact (hPut.nothing _).symm
      · rfl
  · rfl

/- Merged events are put in front like the events. -/
theorem foldr_merged
    {put : Event → List Event → List Event}
    (hPut : RunWise put)
    (events base : List Event) :
    (merged events).foldr put base =
      events.foldr put base := by
  induction events with
  | nil => rfl
  | cons event events ih =>
      have hStep :=
        foldr_join hPut event (merged events) base
      rw [ih] at hStep
      exact hStep

theorem merged_append
    (first second : List Event) :
    merged (first ++ second) =
      first.foldr join (merged second) := by
  simp [merged, List.foldr_append]

theorem settled_append
    (first second : List Event) :
    settled (first ++ second) =
      first.foldr joinSettled (settled second) := by
  simp [settled, List.foldr_append]

/- Merged events decide what is merged from more of them. -/
theorem merged_append_congr
    {first first' second second' : List Event}
    (hFirst : merged first = merged first')
    (hSecond : merged second = merged second') :
    merged (first ++ second) =
      merged (first' ++ second') := by
  rw [merged_append, merged_append, hSecond,
    ← foldr_merged join_runWise first, hFirst,
    foldr_merged join_runWise]

theorem settled_append_congr
    {first first' second second' : List Event}
    (hFirst : merged first = merged first')
    (hSecond : settled second = settled second') :
    settled (first ++ second) =
      settled (first' ++ second') := by
  rw [settled_append, settled_append, hSecond,
    ← foldr_merged joinSettled_runWise first, hFirst,
    foldr_merged joinSettled_runWise]

theorem settled_of_merged
    {first second : List Event}
    (hMerged : merged first = merged second) :
    settled first = settled second := by
  have hSame :=
    settled_append_congr hMerged (rfl : settled [] = _)
  simpa using hSame

/- Two texts in a row are one run. -/
theorem merged_text_append
    (text more : String) :
    merged [.characters text, .characters more] =
      merged [.characters (text ++ more)] :=
  join_runWise.parts text more []

end Event

end RdfXml
