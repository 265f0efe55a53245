import RdfXml.Proofs.Grammar.Inheritance
import RdfXml.Proofs.Grammar.Supply

/-
  What the events of a document draw on the supply.

  The machine only ever issues more blank nodes, and issues
  all that an element needs when the element starts.

  Main declarations:
    * `Machine.startElement_cases`
    * `Machine.endElement_blankNodes`
    * `Machine.step_grows`
    * `Machine.run_grows`
-/

------------------------------------------------------------
-- Starts Of Elements
------------------------------------------------------------

namespace RdfXml

namespace Machine

open BlankNodes

theorem setTop_blankNodes
    (m : Machine)
    (kind : FrameKind) :
    (m.setTop kind).blankNodes = m.blankNodes := by
  unfold setTop
  split
  · rfl
  · rfl

theorem linkToParent_grows
    (m : Machine)
    (subject : String) :
    m.blankNodes.Grows
      (m.linkToParent subject).1.blankNodes := by
  unfold linkToParent
  split
  · rw [setTop_blankNodes]
    exact Grows.refl _
  · dsimp only
    rw [setTop_blankNodes]
    exact grows_advance _
  · exact Grows.refl _

theorem openProperty_grows
    {m : Machine}
    {supply : BlankNodes}
    (hSupply : m.blankNodes = supply)
    (attributes : ElementAttributes)
    (scope : Scope)
    (subject : String)
    (link : Link) :
    supply.Grows
      (m.openProperty attributes scope subject
        link).1.blankNodes := by
  subst hSupply
  cases hForm : PropertyForm.ofAttributes attributes with
  | resource =>
      rw [(openProperty_resource hForm).1]
      exact grows_advance _
  | collection =>
      rw [(openProperty_collection hForm).1]
      exact Grows.refl _
  | literal =>
      rw [(openProperty_literal hForm).1]
      exact Grows.refl _
  | object =>
      rw [(openProperty_object hForm rfl).1]
      exact Grammar.objectOf_grows _ _ _
  | plain =>
      rw [(openProperty_plain hForm).1]
      exact Grows.refl _

/- Properties are those of nodes. -/
theorem propertyElement_cases
    (m : Machine)
    (tag : StartTag)
    (attributes : ElementAttributes)
    (scope : Scope) :
    m.propertyElement tag attributes scope = (m, []) ∨
      ∃ inScope subject members outer,
        m.frames =
          ⟨inScope, .node subject members⟩ :: outer := by
  unfold propertyElement
  split
  · next inScope subject members outer hFrames =>
      exact .inr ⟨inScope, subject, members, outer, hFrames⟩
  · exact .inl rfl

theorem propertyElement_grows
    (m : Machine)
    (tag : StartTag)
    (attributes : ElementAttributes)
    (scope : Scope) :
    m.blankNodes.Grows
      (m.propertyElement tag attributes
        scope).1.blankNodes := by
  rcases m.propertyElement_cases tag attributes scope with
    hNone | ⟨inScope, subject, members, outer, hFrames⟩
  · rw [hNone]
    exact Grows.refl _
  · rw [propertyElement_node hFrames]
    apply openProperty_grows
    rfl

theorem openWithin_grows
    (m : Machine)
    (tag : StartTag)
    (scope : Scope) :
    m.blankNodes.Grows
      (m.openWithin tag scope).1.blankNodes := by
  unfold openWithin
  dsimp only
  split
  · exact Grows.refl _
  · split
    · unfold nodeElement
      rw [nodeSubject_subjectOf]
      have hLinked :=
        linkToParent_grows
          (m.placed
            (Grammar.subjectOf
              (ElementAttributes.ofList tag.attributes)
              scope.base m.blankNodes).2 m.frames)
          (Grammar.subjectOf
            (ElementAttributes.ofList tag.attributes)
            scope.base m.blankNodes).1
      exact (Grammar.subjectOf_grows _ _ _).trans hLinked
    · exact propertyElement_grows _ _ _ _

------------------------------------------------------------
-- Steps And Runs
------------------------------------------------------------

/- A start tag that opens no frame states nothing. -/
theorem startElement_cases
    (m : Machine)
    (tag : StartTag) :
    statementsOf (m.startElement tag).2 = [] ∧
        ((m.startElement tag).1 = m ∨
          (m.startElement tag).1 = m.captureStartTag tag) ∨
      roleOfNext m.frames ≠ .literalContent ∧
        ∃ notes,
          statementsOf notes = [] ∧
            m.startElement tag =
              after notes
                (m.openWithin tag
                  (m.currentScope.enter
                    (ElementAttributes.ofList
                      tag.attributes))) := by
  cases hOpen : m.rootClosed with
  | true =>
      refine .inl ⟨?_, .inl ?_⟩
      · unfold startElement
        rw [hOpen, if_pos rfl, statementsOf_after,
          statementsOf_declarations]
        rfl
      · simp [startElement, hOpen, after]
  | false =>
      by_cases hRole : roleOfNext m.frames = .literalContent
      · refine .inl ⟨?_, .inr ?_⟩
        · unfold startElement
          dsimp only
          rw [hOpen, if_neg (by simp), if_pos hRole,
            statementsOf_after, statementsOf_declarations]
          rfl
        · simp [startElement, hOpen, hRole, after]
      · exact
          .inr ⟨hRole, startElement_within hOpen hRole⟩

/- What ends was named when it started. -/
theorem endElement_blankNodes
    (m : Machine)
    (name : Name) :
    (m.endElement name).1.blankNodes = m.blankNodes := by
  unfold endElement
  split
  · exact setTop_blankNodes _ _
  · unfold pop
    split
    · rfl
    · rfl

theorem run_ends_blankNodes
    (m : Machine)
    (names : List Name) :
    (m.run (names.map .endElement)).1.blankNodes =
      m.blankNodes := by
  induction names generalizing m with
  | nil => rfl
  | cons name names ih =>
      exact (ih _).trans (m.endElement_blankNodes name)

theorem step_grows
    (m : Machine)
    (event : Event) :
    m.blankNodes.Grows (m.step event).1.blankNodes := by
  cases event with
  | startElement tag =>
      dsimp only [step]
      rcases m.startElement_cases tag with
        ⟨_, hSame | hCaptured⟩ | ⟨_, notes, _, hWithin⟩
      · rw [hSame]
        exact Grows.refl _
      · rw [hCaptured]
        unfold captureStartTag
        split
        · rw [setTop_blankNodes]
          exact Grows.refl _
        · exact Grows.refl _
      · rw [hWithin]
        exact openWithin_grows _ _ _
  | endElement name =>
      dsimp only [step]
      rw [endElement_blankNodes]
      exact Grows.refl _
  | characters content =>
      dsimp only [step]
      unfold characters
      split
      · rw [setTop_blankNodes]
        exact Grows.refl _
      · rw [setTop_blankNodes]
        exact Grows.refl _
      · exact Grows.refl _

theorem run_grows
    (m : Machine)
    (events : List Event) :
    m.blankNodes.Grows (m.run events).1.blankNodes := by
  induction events generalizing m with
  | nil => exact Grows.refl _
  | cons event events ih =>
      exact (m.step_grows event).trans (ih _)

end Machine

end RdfXml
