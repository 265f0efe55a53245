import RdfXml.Proofs.CommandLine.Blocks
import RdfXml.Proofs.Grammar.Supply
import RdfXml.Proofs.Rdf.Statement
import RdfXml.Proofs.Text.Separated

/-
  Blank nodes of files that share one output.

  The number of a file in front of a label can be read back:
  it ends at the first underscore, since numbers have none.
  Labels of different files therefore stay apart, and those of
  one file are as different as they were.

  Main declarations:
    * `scopeReference_eq_iff`
    * `CommandLine.parseInput_formed`
    * `CommandLine.scopeBlankNodes_apart`
-/

------------------------------------------------------------
-- Numbered References
------------------------------------------------------------

namespace RdfXml

theorem toList_scopeReference
    {reference label : String}
    (hLabel : blankNodeLabel? reference = some label)
    (file : Nat) :
    (scopeReference file reference).toList =
      '_' :: ':' :: 'f' ::
        (Nat.toDigits 10 file ++ '_' :: label.toList) := by
  unfold scopeReference
  rw [hLabel]
  simp

/- What is numbered is still a blank node. -/
theorem blankNodeLabel?_scopeReference
    {reference label : String}
    (hLabel : blankNodeLabel? reference = some label)
    (file : Nat) :
    ∃ numbered,
      blankNodeLabel? (scopeReference file reference) =
        some numbered := by
  unfold blankNodeLabel?
  rw [toList_scopeReference hLabel]
  exact ⟨_, rfl⟩

/-
  Numbered references are the same only when the numbers and
  the references were.
-/
theorem scopeReference_eq_iff
    {first second label other : String}
    (hFirst : blankNodeLabel? first = some label)
    (hSecond : blankNodeLabel? second = some other)
    (i j : Nat) :
    scopeReference i first = scopeReference j second ↔
      i = j ∧ first = second := by
  constructor
  · intro hSame
    have hChars := congrArg String.toList hSame
    rw [toList_scopeReference hFirst,
      toList_scopeReference hSecond] at hChars
    simp only [List.cons.injEq, true_and] at hChars
    rcases (separated_eq_iff
        Nat.underscore_not_in_toDigits
        Nat.underscore_not_in_toDigits).mp hChars with
      ⟨hDigits, hLabels⟩
    refine ⟨toDigits_injective hDigits, ?_⟩
    rw [eq_of_blankNodeLabel? hFirst,
      eq_of_blankNodeLabel? hSecond,
      String.toList_injective hLabels]
  · rintro ⟨rfl, rfl⟩
    rfl

------------------------------------------------------------
-- Blank Nodes Of Statements
------------------------------------------------------------

namespace Statement

/- The blank nodes of a statement have labels. -/
theorem label_of_blankNode?
    {statement : Statement}
    {position : Position}
    {reference : String}
    (hFormed : statement.object.Formed)
    (hNode : statement.blankNode? position = some reference) :
    ∃ label, blankNodeLabel? reference = some label := by
  cases position with
  | subject =>
      exact (blankNode?_subject_eq_some_iff.mp hNode).2
  | object =>
      rw [blankNode?_object_eq_some_iff.mp hNode] at hFormed
      exact hFormed.label_of_blankNode

/- Each blank node is numbered where it stands. -/
theorem blankNode?_scopeBlankNodes
    {statement : Statement}
    {position : Position}
    {reference : String}
    (hNode : statement.blankNode? position = some reference)
    (file : Nat) :
    (scopeBlankNodes file statement).blankNode? position =
      some (scopeReference file reference) := by
  cases position with
  | subject =>
      rw [blankNode?_subject_eq_some_iff] at hNode ⊢
      rcases hNode with ⟨rfl, label, hLabel⟩
      exact ⟨rfl,
        blankNodeLabel?_scopeReference hLabel file⟩
  | object =>
      rw [blankNode?_object_eq_some_iff] at hNode ⊢
      simp [scopeBlankNodes, hNode]

/- A subject that is no blank node stays as it is. -/
theorem subject_scopeBlankNodes
    {statement : Statement}
    (hNone : statement.blankNode? .subject = none)
    (file : Nat) :
    (scopeBlankNodes file statement).subject =
      statement.subject := by
  have hLabel : blankNodeLabel? statement.subject = none := by
    rw [Option.eq_none_iff_forall_ne_some]
    intro label hLabel
    rw [blankNode?_subject_eq_some_iff.mpr
      ⟨rfl, label, hLabel⟩] at hNone
    cases hNone
  simp [scopeBlankNodes, scopeReference, hLabel]

/- So does an object that is no blank node. -/
theorem object_scopeBlankNodes
    {statement : Statement}
    (hNone : statement.blankNode? .object = none)
    (file : Nat) :
    (scopeBlankNodes file statement).object =
      statement.object := by
  rcases statement with ⟨subject, predicate, object⟩
  cases object with
  | blankNode reference => cases hNone
  | _ => rfl

end Statement

------------------------------------------------------------
-- Blank Nodes Of Files
------------------------------------------------------------

/- Statements of a parser have formed objects. -/
theorem Parser.parseDocument_formed
    {options : Options}
    {chunks : List (List UInt8 × Bool)}
    {statement : Statement}
    (hMade :
      statement ∈
        statementsOf (parseDocument options chunks).2) :
    statement.object.Formed := by
  rw [← statementsOf_calls,
    (parseDocument_chunks options chunks).1,
    statementsOf_calls, parseChunks_statements] at hMade
  rcases List.mem_filterMap.mp hMade with
    ⟨signal, hSignal, hStatement⟩
  have hFormed :=
    Machine.run_ofGrammar _ _ signal hSignal
  cases signal with
  | statement s =>
      cases hStatement
      exact hFormed
  | declared label uri => cases hStatement
  | failed e => cases hStatement
  | note n => cases hStatement

namespace CommandLine

theorem parseInput_formed
    {options : Options}
    {input : FileInput}
    {statement : Statement}
    (hMade :
      statement ∈
        statementsOf (parseInput options input).1) :
    statement.object.Formed := by
  rw [parseInput_statements] at hMade
  exact Parser.parseDocument_formed hMade

/-
  Take two statements that parsers make of the `i`th and of
  the `j`th file.  Numbered by their files, a blank node of
  the one is a blank node of the other only when the files are
  the same and so were the blank nodes.  All that is no blank
  node stays as it is.
-/
theorem scopeBlankNodes_apart
    {options : Options}
    {leftInput rightInput : FileInput}
    {left right : Statement}
    (hLeft :
      left ∈ statementsOf (parseInput options leftInput).1)
    (hRight :
      right ∈ statementsOf (parseInput options rightInput).1)
    (i j : Nat) :
    (∀ p q first second,
        left.blankNode? p = some first →
        right.blankNode? q = some second →
        ∃ first' second',
          (scopeBlankNodes i left).blankNode? p =
              some first' ∧
            (scopeBlankNodes j right).blankNode? q =
                some second' ∧
              (first' = second' ↔ i = j ∧ first = second)) ∧
      (scopeBlankNodes i left).predicate = left.predicate ∧
      (left.blankNode? .subject = none →
        (scopeBlankNodes i left).subject = left.subject) ∧
      (left.blankNode? .object = none →
        (scopeBlankNodes i left).object = left.object) := by
  refine ⟨?_, rfl,
    fun hNone => Statement.subject_scopeBlankNodes hNone i,
    fun hNone => Statement.object_scopeBlankNodes hNone i⟩
  intro p q first second hFirst hSecond
  rcases Statement.label_of_blankNode?
      (parseInput_formed hLeft) hFirst with
    ⟨label, hLabel⟩
  rcases Statement.label_of_blankNode?
      (parseInput_formed hRight) hSecond with
    ⟨other, hOther⟩
  exact ⟨_, _,
    Statement.blankNode?_scopeBlankNodes hFirst i,
    Statement.blankNode?_scopeBlankNodes hSecond j,
    scopeReference_eq_iff hLabel hOther i j⟩

/-
  Without the underscore behind the number, the first file's
  label would look like the twelfth file's.
-/
theorem scopeBlankNodes_apart_digits :
    let input (id : String) : FileInput :=
      ⟨[bytes
        ("<a xmlns='u:' xmlns:r='" ++ Rdf.space ++
          "' r:nodeID='" ++ id ++ "'/>")], none⟩
    let made (id : String) : Statement :=
      ⟨"_:" ++ id, Rdf.typeIri, .iri "u:a"⟩
    made "2x" ∈
        statementsOf (parseInput {} (input "2x")).1 ∧
      made "x" ∈
          statementsOf (parseInput {} (input "x")).1 ∧
        (scopeBlankNodes 1 (made "2x")).subject ≠
          (scopeBlankNodes 12 (made "x")).subject := by
  intro input made
  have hLeft :
      made "2x" ∈
        statementsOf (parseInput {} (input "2x")).1 := by
    decide +kernel
  have hRight :
      made "x" ∈
        statementsOf (parseInput {} (input "x")).1 := by
    decide +kernel
  rcases (scopeBlankNodes_apart hLeft hRight 1 12).1
      .subject .subject "_:2x" "_:x" (by decide +kernel)
      (by decide +kernel) with
    ⟨first, second, hFirst, hSecond, hSame⟩
  rw [Statement.blankNode?_subject_eq_some_iff]
    at hFirst hSecond
  refine ⟨hLeft, hRight, ?_⟩
  rw [hFirst.1, hSecond.1, Ne, hSame]
  decide

end CommandLine

end RdfXml
