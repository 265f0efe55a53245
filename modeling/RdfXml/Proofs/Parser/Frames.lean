import RdfXml.Proofs.Grammar.Frames
import RdfXml.Proofs.Parser.CutIndependence
import RdfXml.Proofs.Xml.Deliveries

/-
  The frames of a parser against the elements that are open
  in its tokenizer.

  The two stacks are kept apart.  They agree after every
  event of every document, however it is cut and whether or
  not it is accepted.

  Main declarations:
    * `Parser.parseChunks_machine`
    * `Parser.parseChunks_frames`
-/

------------------------------------------------------------
-- Machines Of Parsers
------------------------------------------------------------

namespace RdfXml

namespace Parser

/-
  The machine of a parser has run over what its tokenizer
  has delivered.
-/
theorem parseChunks_machine
    {p : Parser}
    (hRunning : p.status = .running)
    (chunks : List (List UInt8 × Bool)) :
    (p.parseChunks chunks).1.machine =
      (p.machine.run
        (p.tokenizer.feedAll chunks).events).1 := by
  induction chunks generalizing p with
  | nil => rfl
  | cons chunk chunks ih =>
      rcases chunk with ⟨piece, isFinal⟩
      have hHead := parseChunk_running hRunning piece isFinal
      have hMachine :
          (p.advance piece isFinal).1.machine =
            (p.machine.run
              (p.tokenizer.feed piece isFinal).events).1 :=
        rfl
      have hTokenizer :
          (p.advance piece isFinal).1.tokenizer =
            (p.tokenizer.feed piece isFinal).tokenizer :=
        rfl
      -- nothing is run once the parser has stopped
      have hStop :
          (p.advance piece isFinal).1.status ≠ .running →
            ((p.advance piece isFinal).1.parseChunks
                chunks).1.machine =
              (p.machine.run
                (p.tokenizer.feed piece
                  isFinal).events).1 := by
        intro hStopped
        rw [(parseChunks_stopped _ hStopped chunks).1,
          hMachine]
      simp only [parseChunks, Tokenizer.feedAll, hHead]
      cases hResult :
          (p.tokenizer.feed piece isFinal).result with
      | error e =>
          have hStatus := advance_failed hResult
          rw [hStop (by rw [hStatus]; simp)]
          simp [Outcome.andThen, hResult]
      | ok value =>
          have hStatus := advance_ok hResult
          cases isFinal with
          | true =>
              rw [hStop (by rw [hStatus]; simp)]
              simp [Outcome.andThen, hResult,
                Tokenizer.stop]
          | false =>
              rw [ih hStatus, hMachine, hTokenizer]
              simp [Outcome.andThen, hResult,
                Machine.run_append]

/- Behind some of the events come the others. -/
theorem parseChunks_machine_append
    {chunks : List (List UInt8 × Bool)}
    {before later : List Event}
    (hEvents :
      (Tokenizer.start.feedAll chunks).events =
        before ++ later)
    (options : Options) :
    ((Parser.start options).1.parseChunks
        chunks).1.machine =
      (((Machine.start options).run before).1.run
        later).1 := by
  have hParts :
      ((Parser.start options).1.tokenizer.feedAll
          chunks).events = before ++ later :=
    hEvents
  rw [parseChunks_machine rfl, hParts, Machine.run_append]
  rfl

------------------------------------------------------------
-- Frames At Deliveries
------------------------------------------------------------

/-
  After every event that a document delivers, each element
  that is open in the tokenizer has a frame or is counted by
  the literal on top, and the frames stand on one another as
  their start tags say.  Every event finds the frames that it
  needs, and every property the node that it is a property
  of.
-/
theorem parseChunks_frames
    (options : Options)
    (chunks : List (List UInt8 × Bool)) :
    ((Parser.start options).1.parseChunks chunks).1.machine =
        ((Machine.start options).run
          ((Tokenizer.start.traceAll
            chunks).deliveries.map Delivery.event)).1 ∧
      ∀ front delivery back,
        (Tokenizer.start.traceAll chunks).deliveries =
          front ++ delivery :: back →
        ∃ n : Nesting,
          let before :=
            ((Machine.start options).run
              (front.map Delivery.event)).1
          let after := (before.step delivery.event).1
          Nesting.start.run?
              (front.map Delivery.event ++
                [delivery.event]) = some n ∧
            delivery.tokenizer.openElements =
              openElementsOf n.openTags ∧
            after.frames.length + after.literalDepth =
              delivery.tokenizer.openElements.length ∧
            Layered (n.openTags.drop after.literalDepth)
              after.frames ∧
            before.Grounded ∧
            before.Heeds delivery.event := by
  constructor
  · rw [parseChunks_machine rfl, Tokenizer.traceAll_events]
    rfl
  · intro front delivery back hParts
    rcases Tokenizer.traceAll_tracks hParts with
      ⟨p, hEvents, hTracks⟩
    have hRun := p.run?_events
    rw [hEvents] at hRun
    rcases Nesting.run?_concat hRun with
      ⟨n, hBefore, hStep⟩
    have hFramed :=
      (Machine.start_framed options).run hBefore
    have hAfter := hFramed.step hStep
    have hOpened := hTracks.opened
    refine ⟨_, hRun, hOpened, ?_, hAfter.stacked.layered,
      hFramed.grounded, hFramed.heeds hStep⟩
    rw [hAfter.counted, hOpened, openElementsOf,
      List.length_map]

end Parser

end RdfXml
