import RdfXml.Collector
import RdfXml.Proofs.Parser.CutIndependence

/-
  Whole documents by the calls of their parser.

  What a document adds to a graph, and whether it is accepted,
  is given by the calls that parsing its chunks makes.

  Main declarations:
    * `Collector.acceptAll_calls`
    * `Parser.parseWhileRunning_calls`
    * `readDocument_parse`
    * `ReadOutcome.Alike`
-/

------------------------------------------------------------
-- Collectors
------------------------------------------------------------

namespace RdfXml

namespace Collector

/- A signal that is no call leaves the collector as it is. -/
theorem accept_note
    {signal : Signal}
    (hNote : signal.isCall = false)
    (c : Collector) :
    (c.accept signal).1 = c := by
  cases signal with
  | statement s => cases hNote
  | declared label uri => cases hNote
  | _ => rfl

theorem acceptAll_calls
    (c : Collector)
    (signals : List Signal) :
    (c.acceptAll (callsOf signals)).1 =
      (c.acceptAll signals).1 := by
  induction signals generalizing c with
  | nil => rfl
  | cons signal signals ih =>
      cases hCall : signal.isCall with
      | true =>
          have hCalls :
              callsOf (signal :: signals) =
                signal :: callsOf signals := by
            simp [callsOf, hCall]
          rw [hCalls]
          exact ih _
      | false =>
          have hCalls :
              callsOf (signal :: signals) =
                callsOf signals := by
            simp [callsOf, hCall]
          rw [hCalls, ih]
          simp only [acceptAll, accept_note hCall]

end Collector

------------------------------------------------------------
-- Documents As Chunks
------------------------------------------------------------

namespace Parser

/-
  To stop giving chunks to a parser that has stopped changes
  nothing that it calls.
-/
theorem parseWhileRunning_calls
    (p : Parser)
    (chunks : List (List UInt8)) :
    (p.parseWhileRunning chunks).1 =
        (p.parseChunks (unmarked chunks)).1 ∧
      callsOf (p.parseWhileRunning chunks).2 =
        callsOf (p.parseChunks (unmarked chunks)).2 := by
  induction chunks generalizing p with
  | nil => exact ⟨rfl, rfl⟩
  | cons chunk rest ih =>
      by_cases hRunning : p.status = .running
      · have hStep :
            p.parseWhileRunning (chunk :: rest) =
              (((p.parseChunk chunk
                    false).1.parseWhileRunning rest).1,
                (p.parseChunk chunk false).2 ++
                  ((p.parseChunk chunk
                    false).1.parseWhileRunning rest).2) := by
          simp [parseWhileRunning, hRunning]
        rcases ih (p.parseChunk chunk false).1 with
          ⟨hParser, hCalls⟩
        rw [hStep]
        refine ⟨hParser, ?_⟩
        rw [callsOf_append, hCalls, ← callsOf_append]
        rfl
      · have hStop :
            p.parseWhileRunning (chunk :: rest) =
              (p, []) := by
          unfold parseWhileRunning
          split
          · next hStatus => exact absurd hStatus hRunning
          · rfl
        have hStopped :=
          parseChunks_stopped p hRunning
            (unmarked (chunk :: rest))
        rw [hStop, hStopped.1, hStopped.2]
        exact ⟨rfl, rfl⟩

end Parser

theorem chunksFrom_flatten
    {size limit : Nat}
    {input : List UInt8}
    (hSize : 0 < size)
    (hLimit : input.length ≤ limit) :
    (chunksFrom size limit input).flatten = input := by
  induction limit generalizing input with
  | zero =>
      rw [List.eq_nil_of_length_eq_zero
        (Nat.le_zero.mp hLimit)]
      rfl
  | succ limit ih =>
      unfold chunksFrom
      split
      · next hEmpty =>
          rw [List.isEmpty_iff.mp hEmpty]
          rfl
      · next hSome =>
          rw [List.flatten_cons, ih]
          · exact List.take_append_drop _ _
          · rw [List.length_drop]
            omega

/- The chunks of an input are the input. -/
theorem chunksOf_flatten
    {size : Nat}
    (hSize : 0 < size)
    (input : List UInt8) :
    (chunksOf size input).flatten = input :=
  chunksFrom_flatten hSize (Nat.le_refl _)

/-
  Reading a document is parsing its chunks, with the calls
  that this makes.
-/
theorem readDocument_parse
    (input : List UInt8)
    (options : Options)
    (graph : Graph) :
    (readDocument input options graph).graph =
        (Collector.acceptAll { graph }
          (callsOf
            (Parser.parseDocument options
              (unmarked
                (chunksOf documentChunkSize
                  input))).2)).1.graph ∧
      (readDocument input options graph).result =
        readResult
          (Parser.parseDocument options
            (unmarked
              (chunksOf documentChunkSize
                input))).1.result
          (Collector.acceptAll { graph }
            (callsOf
              (Parser.parseDocument options
                (unmarked
                  (chunksOf documentChunkSize
                    input))).2)).1.result := by
  rcases Parser.parseWhileRunning_calls
      (Parser.start options).1
      (chunksOf documentChunkSize input) with
    ⟨hParser, hCalls⟩
  unfold readDocument Parser.parseDocument
  dsimp only
  rw [← hParser, ← Collector.acceptAll_calls,
    callsOf_append, callsOf_append, callsOf_append,
    callsOf_append, hCalls]
  exact ⟨rfl, rfl⟩

------------------------------------------------------------
-- Readings That Are Alike
------------------------------------------------------------

/-
  Two readings are alike when both are accepted or neither,
  and they leave the same graph.
-/
def ReadOutcome.Alike (left right : ReadOutcome) : Prop :=
  (left.result = .ok () ↔ right.result = .ok ()) ∧
    left.graph = right.graph

theorem readResult_ok_iff
    {document : Except XmlError Unit}
    {terms : Except TermError Unit} :
    readResult document terms = .ok () ↔
      document = .ok () ∧ terms = .ok () := by
  cases document with
  | error e => simp [readResult]
  | ok value =>
      cases terms with
      | error e => simp [readResult]
      | ok value => simp [readResult]

/-
  Documents are read alike when their chunks make the same
  calls and both are accepted by the parser or neither.
-/
theorem readDocument_alike
    {left right : List UInt8}
    {options : Options}
    (hCalls :
      callsOf
          (Parser.parseDocument options
            (unmarked
              (chunksOf documentChunkSize left))).2 =
        callsOf
          (Parser.parseDocument options
            (unmarked
              (chunksOf documentChunkSize right))).2)
    (hAccepted :
      (Parser.parseDocument options
            (unmarked
              (chunksOf documentChunkSize
                left))).1.result = .ok () ↔
        (Parser.parseDocument options
            (unmarked
              (chunksOf documentChunkSize
                right))).1.result = .ok ())
    (graph : Graph) :
    (readDocument left options graph).Alike
      (readDocument right options graph) := by
  have hLeft := readDocument_parse left options graph
  have hRight := readDocument_parse right options graph
  rw [hCalls] at hLeft
  refine ⟨?_, hLeft.1.trans hRight.1.symm⟩
  rw [hLeft.2, hRight.2, readResult_ok_iff,
    readResult_ok_iff, hAccepted]

end RdfXml
