import RdfXml.Grammar.Machine
import RdfXml.Proofs.Xml.Event

/-
  Runs of the grammar over several events.

  A run over two lists is two runs in a row.  Text counts by
  what it says and not by how it is cut, and the text at the
  end of a run causes no signal.

  Main declarations:
    * `Machine.run_append`
    * `Machine.run_merged`
    * `Machine.run_signals_of_settled`
-/

------------------------------------------------------------
-- Runs In A Row
------------------------------------------------------------

namespace RdfXml

namespace Machine

theorem run_append
    (m : Machine)
    (first second : List Event) :
    m.run (first ++ second) =
      (((m.run first).1.run second).1,
        (m.run first).2 ++ ((m.run first).1.run second).2) := by
  induction first generalizing m with
  | nil => rfl
  | cons event first ih =>
      simp only [List.cons_append, run, ih,
        List.append_assoc]

theorem run_append_signals
    (m : Machine)
    (first second : List Event) :
    (m.run (first ++ second)).2 =
      (m.run first).2 ++ ((m.run first).1.run second).2 := by
  rw [run_append]

------------------------------------------------------------
-- Runs Of Text
------------------------------------------------------------

theorem escape_append (text more : String) :
    Reference.escape (text ++ more) =
      Reference.escape text ++ Reference.escape more := by
  simp [Reference.escape, List.flatMap_append]

theorem escape_empty :
    Reference.escape "" = "" := by
  simp [Reference.escape]

/- Text in two parts is collected like the whole. -/
theorem characters_append
    (m : Machine)
    (text more : String) :
    (m.characters text).characters more =
      m.characters (text ++ more) := by
  rcases m with ⟨base, nodes, frames, closed⟩
  cases frames with
  | nil => rfl
  | cons frame outer =>
      rcases frame with ⟨scope, kind⟩
      cases kind with
      | property link datatype? collected hasObject =>
          simp [characters, setTop, String.append_assoc]
      | literal link markup depth =>
          simp [characters, setTop, escape_append,
            String.append_assoc]
      | _ => rfl

theorem characters_empty (m : Machine) :
    m.characters "" = m := by
  rcases m with ⟨base, nodes, frames, closed⟩
  cases frames with
  | nil => rfl
  | cons frame outer =>
      rcases frame with ⟨scope, kind⟩
      cases kind with
      | property link datatype? collected hasObject =>
          simp [characters, setTop]
      | literal link markup depth =>
          simp [characters, setTop, escape_empty]
      | _ => rfl

/- An event that is joined to others acts in front of them. -/
theorem run_join
    (m : Machine)
    (event : Event)
    (rest : List Event) :
    m.run (event.join rest) = m.run (event :: rest) := by
  unfold Event.join
  split
  · next text more rest =>
      simp [run, step, characters_append]
  · next text _ =>
      split
      · next hNone =>
          subst hNone
          simp [run, step, characters_empty]
      · rfl
  · rfl

/- Merged events do what the events do. -/
theorem run_merged
    (m : Machine)
    (events : List Event) :
    m.run (Event.merged events) = m.run events := by
  induction events generalizing m with
  | nil => rfl
  | cons event events ih =>
      have hJoin :=
        run_join m event (Event.merged events)
      simp only [run, ih] at hJoin
      exact hJoin

theorem run_joinSettled_signals
    (m : Machine)
    (event : Event)
    (rest : List Event) :
    (m.run (event.joinSettled rest)).2 =
      (m.run (event :: rest)).2 := by
  cases rest with
  | nil =>
      cases event with
      | characters text => rfl
      | startElement tag => rfl
      | endElement name => rfl
  | cons head rest =>
      rw [Event.joinSettled_cons, run_join]

/- Settled events cause the signals of the events. -/
theorem run_settled_signals
    (m : Machine)
    (events : List Event) :
    (m.run (Event.settled events)).2 =
      (m.run events).2 := by
  induction events generalizing m with
  | nil => rfl
  | cons event events ih =>
      have hJoin :=
        run_joinSettled_signals m event
          (Event.settled events)
      simp only [run, ih] at hJoin
      exact hJoin

theorem run_signals_of_settled
    {first second : List Event}
    (hSame : Event.settled first = Event.settled second)
    (m : Machine) :
    (m.run first).2 = (m.run second).2 := by
  rw [← run_settled_signals, hSame, run_settled_signals]

end Machine

end RdfXml
