import RdfXml.Proofs.Grammar.Signals
import RdfXml.Proofs.Parser.CutIndependence

/-
  The life of a parser.

  A parser is given chunks, some of them marked as the last,
  and is then told that the document has ended.  It reports at
  most one error, and that is the last thing it reports.  Once
  it has finished or failed it stays as it is and reports
  nothing more, whatever it is given.

  Main declarations:
    * `resultsOf`
    * `errorsOf`
    * `Parser.Told`
    * `Parser.parseDocument_told`
    * `Parser.parseDocument_lifecycle`
-/

------------------------------------------------------------
-- Results
------------------------------------------------------------

namespace RdfXml

namespace Signal

/- A signal is a result, which notes are not. -/
def isResult : Signal → Bool
| .note _ => false
| _ => true

/- The error that a signal reports, if it reports one. -/
def error? : Signal → Option XmlError
| .failed e => some e
| _ => none

end Signal

/- The results among signals, in order. -/
def resultsOf (signals : List Signal) : List Signal :=
  signals.filter Signal.isResult

/- The errors among signals, in order. -/
def errorsOf (signals : List Signal) : List XmlError :=
  signals.filterMap Signal.error?

theorem resultsOf_append (first second : List Signal) :
    resultsOf (first ++ second) =
      resultsOf first ++ resultsOf second :=
  List.filter_append first second

/- What the grammar reports are calls and notes. -/
theorem AllOfGrammar.results
    {signals : List Signal}
    (hSignals : AllOfGrammar signals) :
    resultsOf signals = callsOf signals := by
  unfold resultsOf callsOf
  apply List.filter_congr
  intro signal hMem
  cases signal with
  | failed e => exact (hSignals _ hMem).elim
  | _ => rfl

/- Errors are among the results. -/
theorem errorsOf_results (signals : List Signal) :
    errorsOf (resultsOf signals) = errorsOf signals := by
  unfold errorsOf resultsOf
  rw [List.filterMap_filter]
  congr 1
  funext signal
  cases signal with
  | _ => rfl

/- Calls report no errors. -/
theorem errorsOf_calls (signals : List Signal) :
    errorsOf (callsOf signals) = [] := by
  unfold errorsOf callsOf
  rw [List.filterMap_filter, List.filterMap_eq_nil_iff]
  intro signal _
  cases signal with
  | _ => rfl

theorem failed_not_mem_calls
    (e : XmlError)
    (signals : List Signal) :
    Signal.failed e ∉ callsOf signals := by
  intro hMem
  have hCall := (List.mem_filter.mp hMem).2
  cases hCall

namespace Parser

------------------------------------------------------------
-- What Has Been Told
------------------------------------------------------------

/- The report of the error that stopped a parser. -/
def failure (p : Parser) : List Signal :=
  p.error?.toList.map .failed

/-
  The signals of a parser up to now: the results among them
  are its calls and then the error that stopped it, if any.
-/
def Told (p : Parser) (signals : List Signal) : Prop :=
  resultsOf signals = callsOf signals ++ p.failure

variable
  {p : Parser}
  {signals : List Signal}

/- No error has been reported by a parser that runs. -/
theorem failure_running
    (hRunning : p.status = .running) :
    p.failure = [] := by
  simp [failure, error?, hRunning]

theorem advance_told
    (p : Parser)
    (chunk : List UInt8)
    (isFinal : Bool) :
    (p.advance chunk isFinal).1.Told
      (p.advance chunk isFinal).2 := by
  have hMade :=
    (Machine.run_ofGrammar p.machine
      (p.tokenizer.feed chunk isFinal).events).results
  unfold Told
  rw [advance_calls]
  cases hResult :
      (p.tokenizer.feed chunk isFinal).result with
  | error e =>
      simp only [failure, error?, advance_failed hResult]
      unfold advance
      dsimp only
      rw [hResult, resultsOf_append, hMade]
      rfl
  | ok value =>
      have hStatus := advance_ok hResult
      cases isFinal with
      | true =>
          simp only [failure, error?, hStatus, if_true]
          unfold advance
          dsimp only
          rw [hResult, resultsOf_append, hMade]
          rfl
      | false =>
          rw [failure_running hStatus]
          unfold advance
          dsimp only
          rw [hResult, resultsOf_append, hMade]
          rfl

/- A parser that has stopped gives a note on a chunk. -/
theorem parseChunk_stopped
    (hStopped : p.status ≠ .running)
    (chunk : List UInt8)
    (isFinal : Bool) :
    (p.parseChunk chunk isFinal).1 = p ∧
      resultsOf (p.parseChunk chunk isFinal).2 = [] ∧
      callsOf (p.parseChunk chunk isFinal).2 = [] := by
  unfold parseChunk
  split
  · next hRunning => exact absurd hRunning hStopped
  · exact ⟨rfl, rfl, rfl⟩
  · exact ⟨rfl, rfl, rfl⟩

/- A chunk is told about behind what has been told. -/
theorem Told.parseChunk
    (hTold : p.Told signals)
    (chunk : List UInt8)
    (isFinal : Bool) :
    (p.parseChunk chunk isFinal).1.Told
      (signals ++ (p.parseChunk chunk isFinal).2) := by
  unfold Told at hTold ⊢
  rw [resultsOf_append, callsOf_append, hTold]
  by_cases hRunning : p.status = .running
  · have hNew := advance_told p chunk isFinal
    unfold Told at hNew
    rw [parseChunk_running hRunning, hNew,
      failure_running hRunning, List.append_nil,
      List.append_assoc]
  · rcases parseChunk_stopped hRunning chunk isFinal with
      ⟨hSame, hResults, hCalls⟩
    rw [hSame, hResults, hCalls, List.append_nil,
      List.append_nil]

theorem Told.parseChunks
    (hTold : p.Told signals)
    (chunks : List (List UInt8 × Bool)) :
    (p.parseChunks chunks).1.Told
      (signals ++ (p.parseChunks chunks).2) := by
  induction chunks generalizing p signals with
  | nil =>
      simpa [Parser.parseChunks] using hTold
  | cons chunk chunks ih =>
      simp only [Parser.parseChunks]
      rw [← List.append_assoc]
      exact ih (hTold.parseChunk chunk.1 chunk.2)

theorem Told.finish
    (hTold : p.Told signals) :
    p.finish.1.Told (signals ++ p.finish.2) := by
  unfold Parser.finish
  split
  · exact hTold.parseChunk [] true
  · rw [List.append_nil]
    exact hTold

theorem parseDocument_told
    (options : Options)
    (chunks : List (List UInt8 × Bool)) :
    (parseDocument options chunks).1.Told
      (parseDocument options chunks).2 := by
  have hStart :
      (Parser.start options).1.Told
        (Parser.start options).2 :=
    rfl
  exact (hStart.parseChunks chunks).finish

------------------------------------------------------------
-- Errors
------------------------------------------------------------

/- The errors told are the one that stopped the parser. -/
theorem Told.errors
    (hTold : p.Told signals) :
    errorsOf signals = p.error?.toList := by
  have hErrors :
      errorsOf p.failure = p.error?.toList := by
    unfold failure errorsOf
    cases p.error? with
    | none => rfl
    | some e => rfl
  rw [← errorsOf_results, hTold]
  unfold errorsOf at hErrors ⊢
  rw [List.filterMap_append, hErrors]
  exact congrArg (· ++ p.error?.toList)
    (errorsOf_calls signals)

/- No result stands behind an error. -/
theorem Told.after_failed
    {before after : List Signal}
    {e : XmlError}
    (hTold : p.Told (before ++ .failed e :: after)) :
    resultsOf after = [] := by
  unfold Told at hTold
  generalize hCalls :
    callsOf (before ++ .failed e :: after) = calls at hTold
  have hFailed : Signal.failed e ∉ calls :=
    hCalls ▸ failed_not_mem_calls e _
  have hResults :
      resultsOf before ++ .failed e :: resultsOf after =
        calls ++ p.failure := by
    rw [← hTold, resultsOf_append]
    rfl
  have hOne : p.failure.length ≤ 1 := by
    unfold failure
    cases p.error? with
    | none => simp
    | some e => simp
  rcases List.append_eq_append_iff.mp hResults with
    ⟨rest, hFront, hBack⟩ | ⟨rest, hFront, hBack⟩
  · -- the error would have to be among the calls
    cases rest with
    | nil =>
        rw [List.nil_append] at hBack
        rw [← hBack] at hOne
        simpa using hOne
    | cons head rest =>
        injection hBack with hHead _
        subst hHead
        exact absurd (by simp [hFront]) hFailed
  · rw [hBack] at hOne
    simp only [List.length_append, List.length_cons] at hOne
    exact List.eq_nil_of_length_eq_zero (by omega)

theorem result_error_iff
    {e : XmlError} :
    p.result = .error e ↔ p.error?.toList = [e] := by
  unfold result
  cases p.error? with
  | none => simp
  | some e => simp

theorem result_ok_iff :
    p.result = .ok () ↔ p.error?.toList = [] := by
  unfold result
  cases p.error? with
  | none => simp
  | some e => simp

------------------------------------------------------------
-- Parsers That Have Stopped
------------------------------------------------------------

theorem parseChunks_quiet
    (hStopped : p.status ≠ .running)
    (chunks : List (List UInt8 × Bool)) :
    (p.parseChunks chunks).1 = p ∧
      resultsOf (p.parseChunks chunks).2 = [] := by
  induction chunks with
  | nil => exact ⟨rfl, rfl⟩
  | cons chunk chunks ih =>
      rcases parseChunk_stopped hStopped chunk.1 chunk.2 with
        ⟨hSame, hResults, _⟩
      simp only [Parser.parseChunks, resultsOf_append, hSame,
        hResults, List.nil_append]
      exact ih

theorem finish_quiet
    (hStopped : p.status ≠ .running) :
    p.finish = (p, []) := by
  unfold finish
  split
  · next hRunning => exact absurd hRunning hStopped
  · rfl

/- The chunk that is marked as the last stops the parser. -/
theorem parseChunk_last
    (p : Parser)
    (chunk : List UInt8) :
    (p.parseChunk chunk true).1.status ≠ .running := by
  by_cases hRunning : p.status = .running
  · rw [parseChunk_running hRunning]
    cases hResult : (p.tokenizer.feed chunk true).result with
    | error e => simp [advance_failed hResult]
    | ok value => simp [advance_ok hResult]
  · rw [(parseChunk_stopped hRunning chunk true).1]
    exact hRunning

/-
  What a document makes is what its first chunks make and,
  when they have stopped the parser, no result after that.
  The parser stays as they have left it.
-/
theorem parseDocument_stopped
    (options : Options)
    {front : List (List UInt8 × Bool)}
    (hStopped :
      ((Parser.start options).1.parseChunks
        front).1.status ≠ .running)
    (back : List (List UInt8 × Bool)) :
    (parseDocument options (front ++ back)).1 =
        ((Parser.start options).1.parseChunks front).1 ∧
      ∃ after,
        (parseDocument options (front ++ back)).2 =
            (Parser.start options).2 ++
              ((Parser.start options).1.parseChunks
                front).2 ++ after ∧
          resultsOf after = [] := by
  rcases parseChunks_quiet hStopped back with
    ⟨hSame, hQuiet⟩
  unfold parseDocument
  dsimp only
  rw [parseChunks_append, hSame, finish_quiet hStopped]
  refine ⟨rfl, _, ?_, hQuiet⟩
  rw [List.append_nil, List.append_assoc]

------------------------------------------------------------
-- Lives Of Parsers
------------------------------------------------------------

/-
  For every sequence of chunks, marked as the last or not, and
  the end of the document after them: the result tells the one
  error that has been reported, if any; nothing is reported
  behind an error, nor after a chunk that has stopped the
  parser, as every last chunk does; and the status of a parser
  that has stopped stays as it is, to the end of the document.
-/
theorem parseDocument_lifecycle
    (options : Options)
    (chunks : List (List UInt8 × Bool)) :
    let p := (Parser.start options).1
    let document := parseDocument options chunks
    (∀ e,
        document.1.result = .error e ↔
          errorsOf document.2 = [e]) ∧
      (document.1.result = .ok () ↔
        errorsOf document.2 = []) ∧
      (∀ before e after,
        document.2 = before ++ .failed e :: after →
          resultsOf after = []) ∧
      (∀ front back,
        chunks = front ++ back →
        (p.parseChunks front).1.status ≠ .running →
        document.1.status = (p.parseChunks front).1.status ∧
          ∃ after,
            document.2 =
                (Parser.start options).2 ++
                  (p.parseChunks front).2 ++ after ∧
              resultsOf after = []) ∧
      (∀ front piece,
        (p.parseChunks
          (front ++ [(piece, true)])).1.status ≠
            .running) ∧
      ∀ front back,
        (p.parseChunks front).1.status ≠ .running →
          (p.parseChunks (front ++ back)).1.status =
            (p.parseChunks front).1.status := by
  intro p document
  have hTold := parseDocument_told options chunks
  refine ⟨?_, ?_, ?_, ?_, ?_, ?_⟩
  · intro e
    rw [hTold.errors]
    exact result_error_iff
  · rw [hTold.errors]
    exact result_ok_iff
  · intro before e after hParts
    rw [hParts] at hTold
    exact hTold.after_failed
  · rintro front back rfl hStopped
    rcases parseDocument_stopped options hStopped back with
      ⟨hSame, hQuiet⟩
    exact ⟨congrArg Parser.status hSame, hQuiet⟩
  · intro front piece
    rw [parseChunks_append]
    exact parseChunk_last _ piece
  · intro front back hStopped
    rw [parseChunks_append,
      (parseChunks_quiet hStopped back).1]

end Parser

end RdfXml
