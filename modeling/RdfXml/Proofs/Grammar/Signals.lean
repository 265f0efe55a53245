import RdfXml.Grammar.Machine

/-
  What the grammar reports.

  A machine never reports a failure, and whether the object of
  a statement is an IRI or a blank node is read off its text.

  Main declarations:
    * `Object.Formed`
    * `Signal.OfGrammar`
    * `Machine.step_ofGrammar`
    * `Machine.run_ofGrammar`
-/

------------------------------------------------------------
-- Formed Objects
------------------------------------------------------------

namespace RdfXml

namespace Object

/- An object is a literal, or a resource by what it says. -/
inductive Formed : Object → Prop where
| resource (reference : String) :
    Formed (.ofResource reference)
| literal (value datatype language : String) :
    Formed (.literal value datatype language)

/- What is formed as a blank node has a label. -/
theorem Formed.label_of_blankNode
    {reference : String}
    (hFormed : (Object.blankNode reference).Formed) :
    ∃ label, blankNodeLabel? reference = some label := by
  generalize hObject : Object.blankNode reference = object
    at hFormed
  cases hFormed with
  | literal value datatype language => cases hObject
  | resource reference =>
      unfold ofResource at hObject
      cases hLabel : blankNodeLabel? reference with
      | none =>
          rw [hLabel] at hObject
          cases hObject
      | some label =>
          rw [hLabel] at hObject
          cases hObject
          exact ⟨label, hLabel⟩

end Object

------------------------------------------------------------
-- Signals Of The Grammar
------------------------------------------------------------

namespace Signal

/- A signal that the grammar makes. -/
def OfGrammar : Signal → Prop
| .statement s => s.object.Formed
| .declared _ _ => True
| .failed _ => False
| .note _ => True

end Signal

/- The grammar makes all of the signals. -/
def AllOfGrammar (signals : List Signal) : Prop :=
  ∀ signal ∈ signals, signal.OfGrammar

namespace AllOfGrammar

theorem nil : AllOfGrammar [] :=
  fun _ hSignal => absurd hSignal List.not_mem_nil

theorem append
    {first second : List Signal}
    (hFirst : AllOfGrammar first)
    (hSecond : AllOfGrammar second) :
    AllOfGrammar (first ++ second) := by
  intro signal hSignal
  rcases List.mem_append.mp hSignal with hMem | hMem
  · exact hFirst signal hMem
  · exact hSecond signal hMem

theorem note (note : Note) : AllOfGrammar [.note note] := by
  intro signal hSignal
  rw [List.mem_singleton.mp hSignal]
  trivial

theorem notes
    {α : Type}
    (noteOf : α → Note)
    (list : List α) :
    AllOfGrammar (list.map (fun a => .note (noteOf a))) := by
  intro signal hSignal
  rcases List.mem_map.mp hSignal with ⟨a, _, rfl⟩
  trivial

theorem statements
    {statements : List Statement}
    (hFormed : ∀ s ∈ statements, s.object.Formed) :
    AllOfGrammar (statementSignals statements) := by
  intro signal hSignal
  rcases List.mem_map.mp hSignal with ⟨s, hMem, rfl⟩
  exact hFormed s hMem

end AllOfGrammar

/- A link and its description only have formed objects. -/
theorem Link.statements_formed
    {object : Object}
    (hFormed : object.Formed)
    (link : Link)
    (subject : String) :
    ∀ s ∈ link.statements subject object,
      s.object.Formed := by
  intro s hMem
  unfold Link.statements at hMem
  cases hName : link.reification? with
  | none =>
      rw [hName] at hMem
      rw [List.mem_singleton.mp hMem]
      exact hFormed
  | some name =>
      rw [hName] at hMem
      simp only [description, List.mem_cons,
        List.not_mem_nil, or_false] at hMem
      rcases hMem with rfl | rfl | rfl | rfl | rfl
      · exact hFormed
      · exact .resource Rdf.statementIri
      · exact .resource _
      · exact .resource _
      · exact hFormed

namespace Machine

theorem resolutionNotes_ofGrammar (base reference : String) :
    AllOfGrammar (resolutionNotes base reference) := by
  unfold resolutionNotes
  split
  · exact .note _
  · exact .nil

theorem propertySignals_ofGrammar
    (scope : Scope)
    (subject : String)
    (properties : List PropertyAttribute) :
    AllOfGrammar
      (propertySignals scope subject properties) := by
  intro signal hSignal
  rcases List.mem_flatMap.mp hSignal with
    ⟨property, _, hMem⟩
  unfold attributeSignals at hMem
  split at hMem
  · rcases List.mem_append.mp hMem with hNote | hStatement
    · exact resolutionNotes_ofGrammar _ _ signal hNote
    · rw [List.mem_singleton.mp hStatement]
      exact Object.Formed.resource _
  · rw [List.mem_singleton.mp hMem]
    exact Object.Formed.literal _ _ _

theorem typeStatements_formed
    (name : Name)
    (subject : String) :
    ∀ s ∈ typeStatements name subject, s.object.Formed := by
  intro s hMem
  unfold typeStatements at hMem
  split at hMem
  · cases hMem
  · rw [List.mem_singleton.mp hMem]
    exact .resource _

------------------------------------------------------------
-- Starts Of Elements
------------------------------------------------------------

theorem push_ofGrammar
    (m : Machine)
    (scope : Scope)
    (kind : FrameKind) :
    AllOfGrammar (m.push scope kind).2 :=
  .note _

theorem linkToParent_ofGrammar
    (m : Machine)
    (subject : String) :
    AllOfGrammar (m.linkToParent subject).2 := by
  unfold linkToParent
  split
  · exact .statements
      (Link.statements_formed (.resource _) _ _)
  · apply AllOfGrammar.statements
    intro s hMem
    rcases List.mem_append.mp hMem with hLink | hFirst
    · split at hLink
      · exact Link.statements_formed (.resource _) _ _ s
          hLink
      · rw [List.mem_singleton.mp hLink]
        exact .resource _
    · rw [List.mem_singleton.mp hFirst]
      exact .resource _
  · exact .nil

theorem nodeElement_ofGrammar
    (m : Machine)
    (tag : StartTag)
    (attributes : ElementAttributes)
    (scope : Scope) :
    AllOfGrammar (m.nodeElement tag attributes scope).2 :=
  (((linkToParent_ofGrammar _ _).append
    (.statements (typeStatements_formed _ _))).append
      (propertySignals_ofGrammar _ _ _)).append
        (push_ofGrammar _ _ _)

theorem objectProperty_ofGrammar
    (m : Machine)
    (attributes : ElementAttributes)
    (scope : Scope)
    (subject : String)
    (link : Link) :
    AllOfGrammar
      (m.objectProperty attributes scope subject link).2 := by
  have hOpened :
      ∀ (notes : List Signal) (object : String)
          (opening : Machine),
        AllOfGrammar notes →
        AllOfGrammar
          (after
            (notes ++
              statementSignals
                (link.statements subject
                  (.ofResource object)) ++
              propertySignals scope object
                attributes.properties)
            (opening.push scope
              (.property link none "" true))).2 := by
    intro notes object opening hNotes
    exact
      ((hNotes.append
        (.statements
          (Link.statements_formed (.resource _) _ _))).append
            (propertySignals_ofGrammar _ _ _)).append
              (push_ofGrammar _ _ _)
  dsimp only [objectProperty]
  cases attributes.resource? with
  | some resource =>
      exact hOpened _ _ _ (resolutionNotes_ofGrammar _ _)
  | none =>
      cases attributes.nodeId? with
      | some nodeId => exact hOpened _ _ _ .nil
      | none => exact hOpened _ _ _ .nil

theorem openProperty_ofGrammar
    (m : Machine)
    (attributes : ElementAttributes)
    (scope : Scope)
    (subject : String)
    (link : Link) :
    AllOfGrammar
      (m.openProperty attributes scope subject link).2 := by
  unfold openProperty
  split
  · split
    · exact
        (AllOfGrammar.statements
          (Link.statements_formed (.resource _) _ _)).append
            (push_ofGrammar _ _ _)
    · split
      · exact push_ofGrammar _ _ _
      · refine AllOfGrammar.append ?_ (push_ofGrammar _ _ _)
        split
        · exact .nil
        · exact .note _
  · split
    · exact objectProperty_ofGrammar _ _ _ _ _
    · unfold contentProperty
      split
      · exact (resolutionNotes_ofGrammar _ _).append
          (push_ofGrammar _ _ _)
      · exact push_ofGrammar _ _ _

theorem propertyElement_ofGrammar
    (m : Machine)
    (tag : StartTag)
    (attributes : ElementAttributes)
    (scope : Scope) :
    AllOfGrammar
      (m.propertyElement tag attributes scope).2 := by
  unfold propertyElement
  split
  · dsimp only
    split
    · exact openProperty_ofGrammar _ _ _ _ _
    · exact openProperty_ofGrammar _ _ _ _ _
  · exact .nil

theorem openElement_ofGrammar
    (m : Machine)
    (tag : StartTag)
    (role : Role) :
    AllOfGrammar (m.openElement tag role).2 := by
  have hNotes :
      AllOfGrammar
        (m.scopeNotes
          (ElementAttributes.ofList
            tag.attributes).base?) := by
    unfold scopeNotes
    split
    · exact resolutionNotes_ofGrammar _ _
    · exact .nil
  refine ((AllOfGrammar.notes _ _).append hNotes).append ?_
  split
  · exact push_ofGrammar _ _ _
  · split
    · exact nodeElement_ofGrammar _ _ _ _
    · exact propertyElement_ofGrammar _ _ _ _

theorem startElement_ofGrammar
    (m : Machine)
    (tag : StartTag) :
    AllOfGrammar (m.startElement tag).2 := by
  have hDeclared : AllOfGrammar (declarationSignals tag) := by
    intro signal hSignal
    rcases List.mem_map.mp hSignal with ⟨d, _, rfl⟩
    trivial
  refine hDeclared.append ?_
  split
  · exact .note _
  · refine (AllOfGrammar.note _).append ?_
    split
    · exact .nil
    · exact openElement_ofGrammar _ _ _

------------------------------------------------------------
-- Ends Of Elements
------------------------------------------------------------

theorem closeFrame_formed
    (outer : List Frame)
    (frame : Frame) :
    ∀ s ∈ closeFrame outer frame, s.object.Formed := by
  unfold closeFrame
  split
  · intro s hMem
    rw [List.mem_singleton.mp hMem]
    exact .resource Rdf.nilIri
  · exact Link.statements_formed (.resource _) _ _
  · exact Link.statements_formed (.literal _ _ _) _ _
  · exact Link.statements_formed (.literal _ _ _) _ _
  · intro s hMem
    cases hMem

theorem endElement_ofGrammar
    (m : Machine)
    (name : Name) :
    AllOfGrammar (m.endElement name).2 := by
  unfold endElement
  split
  · exact .nil
  · unfold pop
    split
    · exact .statements (closeFrame_formed _ _)
    · exact .note _

------------------------------------------------------------
-- Runs
------------------------------------------------------------

theorem step_ofGrammar
    (m : Machine)
    (event : Event) :
    AllOfGrammar (m.step event).2 := by
  cases event with
  | startElement tag => exact startElement_ofGrammar m tag
  | endElement name => exact endElement_ofGrammar m name
  | characters content => exact .nil

theorem run_ofGrammar
    (m : Machine)
    (events : List Event) :
    AllOfGrammar (m.run events).2 := by
  induction events generalizing m with
  | nil => exact .nil
  | cons event events ih =>
      exact (step_ofGrammar m event).append (ih _)

end Machine

end RdfXml
