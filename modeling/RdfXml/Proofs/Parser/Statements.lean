import RdfXml.Proofs.Collector
import RdfXml.Proofs.Grammar.Simulation

/-
  Reading a document into a graph, by the statements that its
  parser makes.

  A graph takes the triples of the statements that are triples
  and keeps the error of the first one that is none.  This is
  so for every document, whether it is accepted or fails at
  some place.

  Main declarations:
    * `Statement.refusal?`
    * `Collector.acceptAll_triples`
    * `Collector.acceptAll_refusal`
    * `readDocument_statements`
-/

------------------------------------------------------------
-- Graphs
------------------------------------------------------------

namespace RdfXml

theorem Graph.mem_insert
    {graph : Graph}
    {triple other : Triple} :
    other ∈ (graph.insert triple).triples ↔
      other ∈ graph.triples ∨ other = triple := by
  unfold Graph.insert Graph.contains
  by_cases hHeld : triple ∈ graph.triples
  · simp only [hHeld, decide_true, if_true]
    constructor
    · exact Or.inl
    · rintro (hOther | rfl)
      · exact hOther
      · exact hHeld
  · simp only [hHeld, decide_false, Bool.false_eq_true,
      if_false, List.mem_cons]
    exact Or.comm

/- Why a statement is no triple, if it is none. -/
def Statement.refusal?
    (statement : Statement) : Option TermError :=
  match statement.toTriple with
  | .ok _ => none
  | .error e => some e

theorem Statement.refusal?_eq_some_iff
    {statement : Statement}
    {e : TermError} :
    statement.refusal? = some e ↔
      statement.toTriple = .error e := by
  unfold Statement.refusal?
  cases statement.toTriple with
  | ok triple => simp
  | error cause => simp

theorem Statement.refusal?_eq_none_iff
    {statement : Statement} :
    statement.refusal? = none ↔
      ∃ triple, statement.toTriple = .ok triple := by
  unfold Statement.refusal?
  cases statement.toTriple with
  | ok triple => simp
  | error cause => simp

------------------------------------------------------------
-- Collectors
------------------------------------------------------------

theorem statementsOf_statement
    (statement : Statement)
    (signals : List Signal) :
    statementsOf (.statement statement :: signals) =
      statement :: statementsOf signals :=
  rfl

namespace Collector

/-
  A statement that is a triple goes into the graph.  One that
  is none leaves the graph as it is, and its error counts
  unless an earlier one does.
-/
theorem acceptStatement_cases
    (c : Collector)
    (statement : Statement) :
    (∀ triple,
        triple ∈
            (c.acceptStatement statement).1.graph.triples ↔
          triple ∈ c.graph.triples ∨
            statement.toTriple = .ok triple) ∧
      (c.acceptStatement statement).1.error? =
        c.error?.or statement.refusal? := by
  unfold acceptStatement Statement.refusal?
  cases statement.toTriple with
  | ok made =>
      refine ⟨fun triple => ?_, ?_⟩
      · simp [Graph.mem_insert, eq_comm]
      · simp
  | error e =>
      exact ⟨fun triple => by simp, rfl⟩

theorem acceptAll_cons
    (c : Collector)
    (signal : Signal)
    (signals : List Signal) :
    (c.acceptAll (signal :: signals)).1 =
      ((c.accept signal).1.acceptAll signals).1 :=
  rfl

/- A graph gains the triples of the statements it is given. -/
theorem acceptAll_triples
    (c : Collector)
    (signals : List Signal)
    (triple : Triple) :
    triple ∈ (c.acceptAll signals).1.graph.triples ↔
      triple ∈ c.graph.triples ∨
        ∃ s ∈ statementsOf signals,
          s.toTriple = .ok triple := by
  induction signals generalizing c with
  | nil => simp [acceptAll, statementsOf]
  | cons signal signals ih =>
      rw [acceptAll_cons, ih]
      cases signal with
      | statement s =>
          have hGraph :=
            (c.acceptStatement_cases s).1 triple
          rw [statementsOf_statement]
          simp only [List.mem_cons, exists_eq_or_imp]
          rw [← or_assoc, ← hGraph]
          rfl
      | _ => rfl

/-
  The error that is kept is that of the first statement that
  is no triple.
-/
theorem acceptAll_refusal
    (c : Collector)
    (signals : List Signal) :
    (c.acceptAll signals).1.error? =
      c.error?.or
        ((statementsOf signals).findSome?
          Statement.refusal?) := by
  induction signals generalizing c with
  | nil => simp [acceptAll, statementsOf]
  | cons signal signals ih =>
      rw [acceptAll_cons, ih]
      cases signal with
      | statement s =>
          have hError := (c.acceptStatement_cases s).2
          have hAccept :
              (c.accept (.statement s)).1.error? =
                c.error?.or s.refusal? :=
            hError
          rw [statementsOf_statement, List.findSome?_cons, hAccept,
            Option.or_assoc]
          cases s.refusal? with
          | none => rfl
          | some e => rfl
      | _ => rfl

end Collector

------------------------------------------------------------
-- Documents
------------------------------------------------------------

theorem readResult_cases
    (document : Except XmlError Unit)
    (c : Collector) :
    (∀ e,
        readResult document c.result =
            .error (.document e) ↔
          document = .error e) ∧
      (∀ e,
        readResult document c.result = .error (.term e) ↔
          document = .ok () ∧ c.error? = some e) ∧
      (readResult document c.result = .ok () ↔
        document = .ok () ∧ c.error? = none) := by
  unfold Collector.result
  cases document with
  | error cause => simp [readResult]
  | ok value =>
      cases c.error? with
      | none => simp [readResult]
      | some e => simp [readResult]

/-
  Let a parser be given the same chunks to the last one.  Then
  reading the document adds to the graph exactly the triples of
  the statements that the parser makes, whether or not it
  fails.  Reading fails as the parser does, and otherwise with
  the error of the first statement that is no triple.
-/
theorem readDocument_statements
    (input : List UInt8)
    (options : Options)
    (graph : Graph) :
    let parsed :=
      Parser.parseDocument options
        (unmarked (chunksOf documentChunkSize input))
    let made := statementsOf parsed.2
    let outcome := readDocument input options graph
    (∀ triple,
        triple ∈ outcome.graph.triples ↔
          triple ∈ graph.triples ∨
            ∃ s ∈ made, s.toTriple = .ok triple) ∧
      (∀ e,
        outcome.result = .error (.document e) ↔
          parsed.1.result = .error e) ∧
      (∀ e,
        outcome.result = .error (.term e) ↔
          parsed.1.result = .ok () ∧
            ∃ front s back,
              made = front ++ s :: back ∧
                s.toTriple = .error e ∧
                ∀ earlier ∈ front, ∃ triple,
                  earlier.toTriple = .ok triple) ∧
      (outcome.result = .ok () ↔
        parsed.1.result = .ok () ∧
          ∀ s ∈ made, ∃ triple, s.toTriple = .ok triple) := by
  intro parsed made outcome
  rcases readDocument_parse input options graph with
    ⟨hGraph, hResult⟩
  rw [Collector.acceptAll_calls] at hGraph hResult
  have hRefusal :=
    Collector.acceptAll_refusal { graph } parsed.2
  rw [Option.none_or] at hRefusal
  rcases readResult_cases parsed.1.result
      (Collector.acceptAll { graph } parsed.2).1 with
    ⟨hDocument, hTerm, hOk⟩
  rw [← hResult] at hDocument hTerm hOk
  rw [hRefusal] at hTerm hOk
  refine ⟨?_, hDocument, ?_, ?_⟩
  · intro triple
    have hTriples :=
      Collector.acceptAll_triples { graph } parsed.2 triple
    rw [← hGraph] at hTriples
    exact hTriples
  · intro e
    rw [hTerm e, List.findSome?_eq_some_iff]
    simp only [Statement.refusal?_eq_some_iff,
      Statement.refusal?_eq_none_iff]
    rfl
  · rw [hOk, List.findSome?_eq_none_iff]
    simp only [Statement.refusal?_eq_none_iff]
    rfl

end RdfXml
