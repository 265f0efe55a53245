import RdfXml.Proofs.Grammar.Tree

/-
  The supply of blank nodes.

  A supply only ever grows, whatever the grammar makes of a
  content, and the reference that it issues next is none of
  those that it has issued.

  Main declarations:
    * `BlankNodes.HasIssued`
    * `BlankNodes.Grows`
    * `BlankNodes.next_fresh`
    * `Grammar.nodes_grows`
    * `Grammar.properties_grows`
-/

------------------------------------------------------------
-- Supplies
------------------------------------------------------------

namespace RdfXml

/- A number can be read back from its digits. -/
theorem toDigits_injective
    {first second : Nat}
    (hSame : Nat.toDigits 10 first = Nat.toDigits 10 second) :
    first = second := by
  have hNumber :=
    congrArg (fun digits => Nat.ofDigitChars 10 digits 0)
      hSame
  simpa only [Nat.ofDigitChars_ten_toDigits] using hNumber

namespace BlankNodes

/- The supply has issued a reference. -/
def HasIssued
    (supply : BlankNodes)
    (reference : String) : Prop :=
  ∃ count < supply.issued,
    reference = next ⟨supply.stem, count⟩

instance
    (supply : BlankNodes)
    (reference : String) :
    Decidable (supply.HasIssued reference) :=
  inferInstanceAs
    (Decidable
      (∃ count < supply.issued,
        reference = next ⟨supply.stem, count⟩))

/- What a supply becomes when it issues references. -/
structure Grows (supply later : BlankNodes) : Prop where
  stem : later.stem = supply.stem
  issued : supply.issued ≤ later.issued

variable {supply later last : BlankNodes}

theorem Grows.refl (supply : BlankNodes) :
    supply.Grows supply :=
  ⟨rfl, Nat.le_refl _⟩

theorem Grows.trans
    (hLater : supply.Grows later)
    (hLast : later.Grows last) :
    supply.Grows last :=
  ⟨hLast.stem.trans hLater.stem,
    Nat.le_trans hLater.issued hLast.issued⟩

theorem grows_advance (supply : BlankNodes) :
    supply.Grows supply.advance :=
  ⟨rfl, Nat.le_succ _⟩

theorem next_injective
    {stem : String}
    {first second : Nat}
    (hSame :
      next ⟨stem, first⟩ = next ⟨stem, second⟩) :
    first = second := by
  have hDigits :
      Nat.toDigits 10 (first + 1) =
        Nat.toDigits 10 (second + 1) := by
    have hChars := congrArg String.toList hSame
    simpa [next] using hChars
  have hNumber := toDigits_injective hDigits
  omega

/- What a supply issues next it has never issued before. -/
theorem next_fresh (supply : BlankNodes) :
    ¬ supply.HasIssued supply.next := by
  rintro ⟨count, hCount, hSame⟩
  have hNumber := next_injective hSame
  omega

/- What has been issued once stays issued. -/
theorem HasIssued.grows
    {reference : String}
    (hIssued : supply.HasIssued reference)
    (hGrows : supply.Grows later) :
    later.HasIssued reference := by
  rcases hIssued with ⟨count, hCount, rfl⟩
  refine ⟨count, ?_, ?_⟩
  · have hMore := hGrows.issued
    omega
  · rw [hGrows.stem]

theorem hasIssued_advance (supply : BlankNodes) :
    supply.advance.HasIssued supply.next :=
  ⟨supply.issued, Nat.lt_succ_self _, rfl⟩

end BlankNodes

------------------------------------------------------------
-- Supplies Of The Grammar
------------------------------------------------------------

namespace Grammar

open BlankNodes

theorem subjectOf_grows
    (attributes : ElementAttributes)
    (base : String)
    (supply : BlankNodes) :
    supply.Grows (subjectOf attributes base supply).2 := by
  unfold subjectOf
  split
  · exact Grows.refl supply
  · exact Grows.refl supply
  · exact Grows.refl supply
  · exact grows_advance supply

theorem objectOf_grows
    (attributes : ElementAttributes)
    (base : String)
    (supply : BlankNodes) :
    supply.Grows (objectOf attributes base supply).2 := by
  unfold objectOf
  split
  · exact Grows.refl supply
  · exact Grows.refl supply
  · exact grows_advance supply

theorem attach_grows
    (parent : Parent)
    (tail? : Option String)
    (supply : BlankNodes)
    (node : String) :
    supply.Grows (attach parent tail? supply node).2.2 := by
  cases parent with
  | document => exact Grows.refl supply
  | property link subject => exact Grows.refl supply
  | collection link subject => exact grows_advance supply

/-
  Nodes and properties only draw on the supply.  Both are
  shown by one induction on the content, since each of them
  is made of the other.
-/
theorem content_grows (content : Content) :
    (∀ scope parent tail? (supply : BlankNodes),
      supply.Grows
        (nodes scope parent tail? supply content).2.2) ∧
      ∀ scope subject members (supply : BlankNodes),
        supply.Grows
          (properties scope subject members supply
            content).2 := by
  induction content with
  | nil =>
      constructor
      · intro scope parent tail? supply
        exact Grows.refl supply
      · intro scope subject members supply
        exact Grows.refl supply
  | text run rest ih =>
      constructor
      · intro scope parent tail? supply
        exact ih.1 scope parent tail? supply
      · intro scope subject members supply
        exact ih.2 scope subject members supply
  | element tag inner rest ihInner ihRest =>
      constructor
      · intro scope parent tail? supply
        simp only [nodes]
        exact
          (((subjectOf_grows _ _ _).trans
            (attach_grows _ _ _ _)).trans
              (ihInner.2 _ _ _ _)).trans (ihRest.1 _ _ _ _)
      · intro scope subject members supply
        cases hForm :
            PropertyForm.ofAttributes
              (ElementAttributes.ofList
                tag.attributes) with
        | resource =>
            simp only [properties, hForm]
            exact
              ((grows_advance supply).trans
                (ihInner.2 _ _ _ _)).trans
                  (ihRest.2 _ _ _ _)
        | collection =>
            simp only [properties, hForm]
            exact (ihInner.1 _ _ _ _).trans
              (ihRest.2 _ _ _ _)
        | literal =>
            simp only [properties, hForm]
            exact ihRest.2 _ _ _ _
        | object =>
            simp only [properties, hForm]
            exact
              ((objectOf_grows _ _ _).trans
                (ihInner.1 _ _ _ _)).trans
                  (ihRest.2 _ _ _ _)
        | plain =>
            simp only [properties, hForm]
            exact (ihInner.1 _ _ _ _).trans
              (ihRest.2 _ _ _ _)

theorem nodes_grows
    (scope : Scope)
    (parent : Parent)
    (tail? : Option String)
    (supply : BlankNodes)
    (content : Content) :
    supply.Grows
      (nodes scope parent tail? supply content).2.2 :=
  (content_grows content).1 scope parent tail? supply

theorem properties_grows
    (scope : Scope)
    (subject : String)
    (members : Nat)
    (supply : BlankNodes)
    (content : Content) :
    supply.Grows
      (properties scope subject members supply content).2 :=
  (content_grows content).2 scope subject members supply

end Grammar

end RdfXml
