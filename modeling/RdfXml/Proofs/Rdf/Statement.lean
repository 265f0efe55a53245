import RdfXml.Rdf.Statement

/-
  Blank nodes of statements.

  A statement has a blank node where it is marked as one: as
  a subject by how its text begins, as an object by its kind.

  Main declarations:
    * `eq_of_blankNodeLabel?`
    * `Statement.Position`
    * `Statement.blankNode?`
-/

------------------------------------------------------------
-- Labels
------------------------------------------------------------

namespace RdfXml

/- A label is what follows the marks of a blank node. -/
theorem eq_of_blankNodeLabel?
    {reference label : String}
    (hLabel : blankNodeLabel? reference = some label) :
    reference = blankNodeReference label := by
  unfold blankNodeLabel? at hLabel
  split at hLabel
  · next rest hChars =>
      cases hLabel
      apply String.toList_injective
      rw [hChars]
      simp [blankNodeReference]
  · cases hLabel

------------------------------------------------------------
-- Positions
------------------------------------------------------------

namespace Statement

/- Where a statement may have a blank node. -/
inductive Position where
| subject
| object
deriving DecidableEq, Repr

/- The reference to the blank node at a position, if any. -/
def blankNode?
    (statement : Statement) : Position → Option String
| .subject =>
    if (blankNodeLabel? statement.subject).isSome then
      some statement.subject
    else
      none
| .object =>
    match statement.object with
    | .blankNode reference => some reference
    | _ => none

theorem blankNode?_subject_eq_some_iff
    {statement : Statement}
    {reference : String} :
    statement.blankNode? .subject = some reference ↔
      statement.subject = reference ∧
        ∃ label, blankNodeLabel? reference = some label := by
  dsimp only [blankNode?]
  rw [Option.ite_none_right_eq_some, Option.some_inj,
    Option.isSome_iff_exists]
  constructor
  · rintro ⟨hLabel, rfl⟩
    exact ⟨rfl, hLabel⟩
  · rintro ⟨rfl, hLabel⟩
    exact ⟨hLabel, rfl⟩

theorem blankNode?_object_eq_some_iff
    {statement : Statement}
    {reference : String} :
    statement.blankNode? .object = some reference ↔
      statement.object = .blankNode reference := by
  rcases statement with ⟨subject, predicate, object⟩
  cases object with
  | blankNode other => simp [blankNode?]
  | iri other => simp [blankNode?]
  | literal value datatype language => simp [blankNode?]

end Statement

end RdfXml
