import RdfXml.Parser
import RdfXml.Proofs.Grammar.Run
import RdfXml.Proofs.Xml.Chunks

/-
  What a parser reports does not depend on the cut.

  A parser calls its listener for statements and for the
  namespaces that elements declare.  For a document without a
  byte order mark in it these calls, and whether the document
  is accepted, are those of reading the document in one go.

  Main declarations:
    * `callsOf`
    * `Parser.parseChunks_calls`
    * `Parser.parseDocument`
    * `Parser.parseDocument_calls`
    * `Parser.cut_independent`
-/

------------------------------------------------------------
-- Calls
------------------------------------------------------------

namespace RdfXml

/- A signal that calls the listener of a running parser. -/
def Signal.isCall : Signal → Bool
| .statement _ => true
| .declared _ _ => true
| .failed _ => false
| .note _ => false

/- The calls among signals, in order. -/
def callsOf (signals : List Signal) : List Signal :=
  signals.filter Signal.isCall

theorem callsOf_append (first second : List Signal) :
    callsOf (first ++ second) =
      callsOf first ++ callsOf second :=
  List.filter_append first second

namespace Parser

------------------------------------------------------------
-- Parsers Against Tokenizers
------------------------------------------------------------

/- The status after a run of feeds. -/
def statusOf : Except XmlError Bool → Status
| .error e => .failed e
| .ok true => .finished
| .ok false => .running

/- A parser that has stopped calls nobody. -/
theorem parseChunks_stopped
    (p : Parser)
    (hStopped : p.status ≠ .running)
    (chunks : List (List UInt8 × Bool)) :
    (p.parseChunks chunks).1 = p ∧
      callsOf (p.parseChunks chunks).2 = [] := by
  induction chunks with
  | nil => exact ⟨rfl, rfl⟩
  | cons chunk chunks ih =>
      rcases chunk with ⟨piece, isFinal⟩
      cases hStatus : p.status with
      | running => exact absurd hStatus hStopped
      | finished =>
          simp only [parseChunks, parseChunk, hStatus,
            callsOf_append, ih.2]
          exact ⟨ih.1, rfl⟩
      | failed e =>
          simp only [parseChunks, parseChunk, hStatus,
            callsOf_append, ih.2]
          exact ⟨ih.1, rfl⟩

/- A chunk makes the calls of what the tokenizer delivers. -/
theorem advance_calls
    (p : Parser)
    (chunk : List UInt8)
    (isFinal : Bool) :
    callsOf (p.advance chunk isFinal).2 =
      callsOf
        (p.machine.run
          (p.tokenizer.feed chunk isFinal).events).2 := by
  unfold advance
  dsimp only
  rw [callsOf_append]
  cases (p.tokenizer.feed chunk isFinal).result with
  | error e => simp [settle, callsOf, Signal.isCall]
  | ok value =>
      cases isFinal with
      | true => simp [settle, callsOf, Signal.isCall]
      | false => simp [settle, callsOf]

theorem advance_failed
    {p : Parser}
    {chunk : List UInt8}
    {isFinal : Bool}
    {e : XmlError}
    (hError :
      (p.tokenizer.feed chunk isFinal).result = .error e) :
    (p.advance chunk isFinal).1.status = .failed e := by
  unfold advance
  dsimp only
  rw [hError]
  rfl

theorem advance_ok
    {p : Parser}
    {chunk : List UInt8}
    {isFinal : Bool}
    (hOk :
      (p.tokenizer.feed chunk isFinal).result = .ok ()) :
    (p.advance chunk isFinal).1.status =
      if isFinal then .finished else .running := by
  unfold advance
  dsimp only
  rw [hOk]
  cases isFinal with
  | true => rfl
  | false => rfl

theorem parseChunk_running
    {p : Parser}
    (hRunning : p.status = .running)
    (chunk : List UInt8)
    (isFinal : Bool) :
    p.parseChunk chunk isFinal = p.advance chunk isFinal := by
  simp [parseChunk, hRunning]

/-
  A running parser makes the calls of the machine on what its
  tokenizer delivers, and stops when the tokenizer does.
-/
theorem parseChunks_calls
    {p : Parser}
    (hRunning : p.status = .running)
    (chunks : List (List UInt8 × Bool)) :
    callsOf (p.parseChunks chunks).2 =
        callsOf
          (p.machine.run
            (p.tokenizer.feedAll chunks).events).2 ∧
      (p.parseChunks chunks).1.status =
        statusOf (p.tokenizer.feedAll chunks).result := by
  induction chunks generalizing p with
  | nil => exact ⟨rfl, hRunning⟩
  | cons chunk chunks ih =>
      rcases chunk with ⟨piece, isFinal⟩
      have hHead := parseChunk_running hRunning piece isFinal
      have hMachine :
          (p.advance piece isFinal).1.machine =
            (p.machine.run
              (p.tokenizer.feed piece isFinal).events).1 :=
        rfl
      have hTokenizer :
          (p.advance piece isFinal).1.tokenizer =
            (p.tokenizer.feed piece isFinal).tokenizer :=
        rfl
      simp only [parseChunks, Tokenizer.feedAll, hHead,
        callsOf_append, advance_calls]
      cases hResult :
          (p.tokenizer.feed piece isFinal).result with
      | error e =>
          have hStatus := advance_failed hResult
          have hRest :=
            parseChunks_stopped (p.advance piece isFinal).1
              (by rw [hStatus]; simp) chunks
          rw [hRest.1, hRest.2, hStatus]
          simp [Outcome.andThen, hResult, statusOf]
      | ok value =>
          have hStatus := advance_ok hResult
          cases isFinal with
          | true =>
              have hRest :=
                parseChunks_stopped (p.advance piece true).1
                  (by rw [hStatus]; simp) chunks
              rw [hRest.1, hRest.2, hStatus]
              simp [Outcome.andThen, hResult, statusOf,
                Tokenizer.stop]
          | false =>
              have hRest := ih hStatus
              rw [hMachine, hTokenizer] at hRest
              rw [hRest.1, hRest.2, ← callsOf_append,
                ← Machine.run_append_signals]
              simp [Outcome.andThen, hResult]

------------------------------------------------------------
-- Whole Documents
------------------------------------------------------------

/- Parse chunks and end the document. -/
def parseDocument
    (options : Options)
    (chunks : List (List UInt8 × Bool)) : Result :=
  let (p, first) := Parser.start options
  let (p, middle) := p.parseChunks chunks
  let (p, last) := p.finish
  (p, first ++ middle ++ last)

/- Parse chunks of a document that goes on. -/
def parseStart
    (options : Options)
    (pieces : List (List UInt8)) : Result :=
  let (p, first) := Parser.start options
  let (p, middle) := p.parseChunks (unmarked pieces)
  (p, first ++ middle)

/- Pieces of which the last one is marked as the last. -/
def lastMarked :
    List (List UInt8) → List (List UInt8 × Bool)
| [] => []
| [piece] => [(piece, true)]
| piece :: rest => (piece, false) :: lastMarked rest

/-
  Chunks that present the pieces of a document: the end of
  the document is told after them or with the last of them.
-/
def Presents
    (chunks : List (List UInt8 × Bool))
    (pieces : List (List UInt8)) : Prop :=
  chunks = unmarked pieces ∨ chunks = lastMarked pieces

theorem parseChunks_append
    (p : Parser)
    (first second : List (List UInt8 × Bool)) :
    p.parseChunks (first ++ second) =
      (((p.parseChunks first).1.parseChunks second).1,
        (p.parseChunks first).2 ++
          ((p.parseChunks first).1.parseChunks
            second).2) := by
  induction first generalizing p with
  | nil => rfl
  | cons chunk first ih =>
      rcases chunk with ⟨piece, isFinal⟩
      simp only [List.cons_append, parseChunks, ih,
        List.append_assoc]

/- Ending a document is parsing an empty last chunk. -/
theorem finish_calls (p : Parser) :
    callsOf p.finish.2 =
        callsOf (p.parseChunks [([], true)]).2 ∧
      p.finish.1 = (p.parseChunks [([], true)]).1 := by
  cases hStatus : p.status with
  | running =>
      simp [finish, parseChunks, parseChunk, hStatus]
  | finished =>
      simp [finish, parseChunks, parseChunk, hStatus,
        callsOf, Signal.isCall]
  | failed e =>
      simp [finish, parseChunks, parseChunk, hStatus,
        callsOf, Signal.isCall]

theorem parseDocument_chunks
    (options : Options)
    (chunks : List (List UInt8 × Bool)) :
    callsOf (parseDocument options chunks).2 =
        callsOf
          ((Parser.start options).1.parseChunks
            (chunks ++ [([], true)])).2 ∧
      (parseDocument options chunks).1 =
        ((Parser.start options).1.parseChunks
          (chunks ++ [([], true)])).1 := by
  have hStart : callsOf (Parser.start options).2 = [] := rfl
  rw [parseChunks_append]
  have hFinish :=
    finish_calls
      ((Parser.start options).1.parseChunks chunks).1
  refine ⟨?_, hFinish.2⟩
  unfold parseDocument
  dsimp only
  rw [callsOf_append, callsOf_append, hStart,
    List.nil_append, hFinish.1, ← callsOf_append]

/- The end of a document comes with some chunk. -/
theorem Presents.ended
    {chunks : List (List UInt8 × Bool)}
    {pieces : List (List UInt8)}
    (hPresents : Presents chunks pieces) :
    ∃ front last rest,
      chunks ++ [([], true)] =
          unmarked front ++ (last, true) :: rest ∧
        front.flatten ++ last = pieces.flatten := by
  rcases hPresents with rfl | rfl
  · exact ⟨pieces, [], [], rfl, List.append_nil _⟩
  · induction pieces with
    | nil => exact ⟨[], [], [], rfl, rfl⟩
    | cons piece pieces ih =>
        cases pieces with
        | nil =>
            exact ⟨[], piece, [([], true)], rfl, by simp⟩
        | cons next pieces =>
            rcases ih with ⟨front, last, rest, hSame, hFlat⟩
            refine ⟨piece :: front, last, rest, ?_, ?_⟩
            · exact congrArg ((piece, false) :: ·) hSame
            · rw [List.flatten_cons, List.append_assoc,
                hFlat]
              rfl

/- Nothing counts after the chunk marked as the last. -/
theorem feedAll_ended
    (t : Tokenizer)
    (pieces : List (List UInt8))
    (last : List UInt8)
    (rest : List (List UInt8 × Bool)) :
    t.feedAll (unmarked pieces ++ (last, true) :: rest) =
      t.feedAll (unmarked pieces ++ [(last, true)]) := by
  rw [Tokenizer.feedAll_append, Tokenizer.feedAll_append]
  rfl

/-
  When the tokenizer reads a document, the parser makes the
  calls for that document, and accepts it when it can be read
  and is complete.
-/
theorem parseDocument_reads
    (options : Options)
    {chunks rest : List (List UInt8 × Bool)}
    {front : List (List UInt8)}
    {last document : List UInt8}
    (hChunks :
      chunks ++ [([], true)] =
        unmarked front ++ (last, true) :: rest)
    (hReads :
      Tokenizer.start.ReadsAs document
        (Tokenizer.start.feedAll
          (unmarked front ++ [(last, true)]))) :
    callsOf (parseDocument options chunks).2 =
        callsOf
          ((Machine.start options).run
            (Tokenizer.start.read document).events).2 ∧
      ((parseDocument options chunks).1.result = .ok () ↔
        (Tokenizer.start.read document).result = .ok () ∧
          (Tokenizer.start.read document).tokenizer.finish =
            .ok ()) := by
  rcases parseDocument_chunks options chunks with
    ⟨hCalls, hParser⟩
  have hRunning :
      (Parser.start options).1.status = .running := rfl
  rcases parseChunks_calls hRunning
      (chunks ++ [([], true)]) with
    ⟨hRun, hStatus⟩
  rw [← hParser] at hStatus
  rw [← hCalls] at hRun
  rw [hChunks, feedAll_ended] at hRun hStatus
  have hTokenizer :
      (Parser.start options).1.tokenizer =
        Tokenizer.start :=
    rfl
  rw [hTokenizer] at hRun hStatus
  refine ⟨?_, ?_⟩
  · refine hRun.trans (congrArg callsOf ?_)
    exact Machine.run_signals_of_settled hReads.1 _
  · rw [← hReads.2]
    unfold result error?
    rw [hStatus]
    cases (Tokenizer.start.feedAll
        (unmarked front ++ [(last, true)])).result with
    | error e => simp [statusOf]
    | ok ended =>
        cases ended with
        | false => simp [statusOf]
        | true => simp [statusOf]

/-
  The calls for a document without a byte order mark in it,
  and whether it is accepted, are those of reading it in one
  go.
-/
theorem parseDocument_calls
    (options : Options)
    {chunks : List (List UInt8 × Bool)}
    {pieces : List (List UInt8)}
    (hPresents : Presents chunks pieces)
    (hMark : Tokenizer.Markless pieces.flatten) :
    callsOf (parseDocument options chunks).2 =
        callsOf
          ((Machine.start options).run
            (Tokenizer.start.read
              pieces.flatten).events).2 ∧
      ((parseDocument options chunks).1.result = .ok () ↔
        (Tokenizer.start.read pieces.flatten).result =
            .ok () ∧
          (Tokenizer.start.read
            pieces.flatten).tokenizer.finish = .ok ()) := by
  rcases hPresents.ended with
    ⟨front, last, rest, hChunks, hFlat⟩
  rw [← hFlat] at hMark ⊢
  exact parseDocument_reads options hChunks
    (Tokenizer.feedAll_closed Tokenizer.start front last
      hMark)

/- The calls for a document that goes on. -/
theorem parseStart_calls
    (options : Options)
    {pieces : List (List UInt8)}
    (hMark : Tokenizer.Markless pieces.flatten) :
    callsOf (parseStart options pieces).2 =
      callsOf
        ((Machine.start options).run
          (Tokenizer.start.read pieces.flatten).events).2 := by
  have hStart : callsOf (Parser.start options).2 = [] := rfl
  have hRunning :
      (Parser.start options).1.status = .running := rfl
  have hRun :=
    (parseChunks_calls hRunning (unmarked pieces)).1
  unfold parseStart
  dsimp only
  rw [callsOf_append, hStart, List.nil_append, hRun]
  apply congrArg callsOf
  apply Machine.run_signals_of_settled
  exact Tokenizer.feedAll_open_settled Tokenizer.start
    pieces Tokenizer.keptBack_nil hMark

/-
  However a document is cut, and whether its end is told with
  its last piece or after it, the calls made so far and the
  calls made in the end are the same, and so is whether it is
  accepted.
-/
theorem cut_independent
    (options : Options)
    {left right : List (List UInt8)}
    (hSame : left.flatten = right.flatten)
    (hMark : ¬ Utf8.byteOrderMark <:+: left.flatten) :
    callsOf (parseStart options left).2 =
        callsOf (parseStart options right).2 ∧
      ∀ leftChunks rightChunks,
        Presents leftChunks left →
        Presents rightChunks right →
        callsOf (parseDocument options leftChunks).2 =
            callsOf (parseDocument options rightChunks).2 ∧
          ((parseDocument options leftChunks).1.result =
              .ok () ↔
            (parseDocument options rightChunks).1.result =
              .ok ()) := by
  have hMark' : Tokenizer.Markless right.flatten := by
    rw [← hSame]
    exact hMark
  constructor
  · rw [parseStart_calls options hMark,
      parseStart_calls options hMark', hSame]
  · intro leftChunks rightChunks hLeft hRight
    have hLeftRun :=
      parseDocument_calls options hLeft hMark
    have hRightRun :=
      parseDocument_calls options hRight hMark'
    rw [hSame] at hLeftRun
    exact ⟨hLeftRun.1.trans hRightRun.1.symm,
      hLeftRun.2.trans hRightRun.2.symm⟩

/-
  A document that is cut inside of a reference and inside of
  an end tag, against the document in one piece.
-/
theorem cut_independent_reference :
    [bytes "<a>&am", bytes "p;</", bytes "a>"].flatten =
        [bytes "<a>&amp;</a>"].flatten ∧
      (¬ Utf8.byteOrderMark <:+:
        [bytes "<a>&am", bytes "p;</",
          bytes "a>"].flatten) ∧
        callsOf
            (parseStart {} [bytes "<a>&am", bytes "p;</",
              bytes "a>"]).2 =
          callsOf (parseStart {} [bytes "<a>&amp;</a>"]).2 ∧
        callsOf
            (parseDocument {}
              (unmarked [bytes "<a>&am", bytes "p;</",
                bytes "a>"])).2 =
          callsOf
            (parseDocument {}
              (lastMarked [bytes "<a>&amp;</a>"])).2 := by
  have hSame :
      [bytes "<a>&am", bytes "p;</", bytes "a>"].flatten =
        [bytes "<a>&amp;</a>"].flatten := by
    decide
  have hMark :
      ¬ Utf8.byteOrderMark <:+:
        [bytes "<a>&am", bytes "p;</",
          bytes "a>"].flatten :=
    Tokenizer.Markless.of_not_mem (by decide)
  have hCut := cut_independent {} hSame hMark
  exact ⟨hSame, hMark, hCut.1,
    (hCut.2 _ _ (Or.inl rfl) (Or.inr rfl)).1⟩

end Parser

end RdfXml
