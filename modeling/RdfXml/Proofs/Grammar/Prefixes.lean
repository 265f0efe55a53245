import RdfXml.Proofs.Grammar.Simulation

/-
  The grammar without prefixes.

  A prefix says how a name is written, and the grammar only
  writes names where it captures an XML literal.  Outside of
  literals it takes a name by its namespace and its local
  name, so that events that only differ in prefixes and in
  namespace declarations make the same statements.

  Main declarations:
    * `Event.withoutPrefixes`
    * `Machine.openElement_withoutPrefixes`
    * `Machine.step_withoutPrefixes`
    * `Machine.outsideLiterals`
    * `Machine.run_withoutPrefixes`
    * `Machine.run_prefixes`
-/

------------------------------------------------------------
-- Erasing Prefixes
------------------------------------------------------------

namespace RdfXml

/- The name as if it was written without a prefix. -/
def Name.withoutPrefix (name : Name) : Name :=
  { name with label? := none }

def Attribute.withoutPrefix (a : Attribute) : Attribute :=
  { a with name := a.name.withoutPrefix }

/- A start tag by the namespaces and local names in it. -/
def StartTag.withoutPrefixes (tag : StartTag) : StartTag where
  name := tag.name.withoutPrefix
  declarations := []
  attributes := tag.attributes.map Attribute.withoutPrefix

/- An event by the namespaces and local names in it. -/
def Event.withoutPrefixes : Event → Event
| .startElement tag => .startElement tag.withoutPrefixes
| .endElement name => .endElement name.withoutPrefix
| .characters text => .characters text

------------------------------------------------------------
-- Attributes
------------------------------------------------------------

/- What an attribute means does not hang on its prefix. -/
theorem ElementAttributes.ofList_withoutPrefix
    (list : List Attribute) :
    ofList (list.map Attribute.withoutPrefix) =
      ofList list := by
  unfold ofList
  rw [List.foldl_map]
  rfl

theorem unqualifiedNames_withoutPrefix
    (list : List Attribute) :
    unqualifiedNames (list.map Attribute.withoutPrefix) =
      unqualifiedNames list := by
  unfold unqualifiedNames
  rw [List.filter_map, List.map_map]
  rfl

------------------------------------------------------------
-- Steps
------------------------------------------------------------

namespace Machine

/- Opening an element looks at no prefix. -/
theorem openElement_withoutPrefixes
    (m : Machine)
    (tag : StartTag)
    (role : Role) :
    m.openElement tag.withoutPrefixes role =
      m.openElement tag role := by
  unfold openElement
  rw [StartTag.withoutPrefixes,
    ElementAttributes.ofList_withoutPrefix,
    unqualifiedNames_withoutPrefix]
  rfl

/- Only the notes about a start tag show its prefixes. -/
theorem startElement_withoutPrefixes
    {m : Machine}
    (hOutside : roleOfNext m.frames ≠ .literalContent)
    (tag : StartTag) :
    Makes (m.startElement tag.withoutPrefixes)
      (statementsOf (m.startElement tag).2)
      (m.startElement tag).1 := by
  unfold startElement
  cases hClosed : m.rootClosed with
  | true =>
      refine ⟨rfl, ?_⟩
      simp only [if_true, statementsOf_after,
        statementsOf_declarations]
      rfl
  | false =>
      simp only [Bool.false_eq_true, if_false, hOutside,
        openElement_withoutPrefixes]
      refine ⟨rfl, ?_⟩
      simp only [statementsOf_after,
        statementsOf_declarations]
      rfl

/- An end tag closes the innermost frame by any name. -/
theorem endElement_withoutPrefix
    {m : Machine}
    (hOutside : roleOfNext m.frames ≠ .literalContent)
    (name : Name) :
    Makes (m.endElement name.withoutPrefix)
      (statementsOf (m.endElement name).2)
      (m.endElement name).1 := by
  unfold endElement
  split
  · next link markup depth outer hFrames =>
      rw [hFrames] at hOutside
      exact absurd rfl hOutside
  · unfold pop
    split
    · exact ⟨rfl, rfl⟩
    · exact ⟨rfl, rfl⟩

/-
  Outside of XML literals, an event does what it does without
  its prefixes and its declarations.
-/
theorem step_withoutPrefixes
    {m : Machine}
    (hOutside : roleOfNext m.frames ≠ .literalContent)
    (event : Event) :
    Makes (m.step event.withoutPrefixes)
      (statementsOf (m.step event).2) (m.step event).1 := by
  cases event with
  | startElement tag =>
      exact startElement_withoutPrefixes hOutside tag
  | endElement name =>
      exact endElement_withoutPrefix hOutside name
  | characters text => exact ⟨rfl, rfl⟩

------------------------------------------------------------
-- Runs
------------------------------------------------------------

/-
  No event of a run is content of an XML literal, nor the end
  of the property that holds one.
-/
def outsideLiterals : Machine → List Event → Bool
| _, [] => true
| m, event :: rest =>
    roleOfNext m.frames != .literalContent &&
      outsideLiterals (m.step event).1 rest

theorem outsideLiterals_cons
    {m : Machine}
    {event : Event}
    {rest : List Event} :
    m.outsideLiterals (event :: rest) = true ↔
      roleOfNext m.frames ≠ .literalContent ∧
        (m.step event).1.outsideLiterals rest = true := by
  rw [outsideLiterals, Bool.and_eq_true, bne_iff_ne]

/- Without prefixes a run goes through the same machines. -/
theorem run_withoutPrefixes
    {m : Machine}
    {events : List Event}
    (hOutside : m.outsideLiterals events = true) :
    m.Runs (events.map Event.withoutPrefixes)
      (statementsOf (m.run events).2) (m.run events).1 := by
  induction events generalizing m with
  | nil => exact ⟨rfl, rfl⟩
  | cons event rest ih =>
      rcases outsideLiterals_cons.mp hOutside with
        ⟨hHere, hRest⟩
      simp only [List.map_cons, run, statementsOf_append]
      exact runs_cons (step_withoutPrefixes hHere event)
        (ih hRest)

/- Whether literals are captured does not hang on prefixes. -/
theorem outsideLiterals_withoutPrefixes
    (m : Machine)
    (events : List Event) :
    m.outsideLiterals (events.map Event.withoutPrefixes) =
      m.outsideLiterals events := by
  induction events generalizing m with
  | nil => rfl
  | cons event rest ih =>
      simp only [List.map_cons, outsideLiterals]
      by_cases hHere : roleOfNext m.frames = .literalContent
      · rw [hHere]
        rfl
      · rw [(step_withoutPrefixes hHere event).1, ih]

/-
  When two lists of events are the same without prefixes and
  namespace declarations, and one of them has no property with
  an XML literal, machines with the same options make the same
  statements of them, in the same order, and end alike.
-/
theorem run_prefixes
    {events others : List Event}
    (hSame :
      events.map Event.withoutPrefixes =
        others.map Event.withoutPrefixes)
    {options : Options}
    (hOutside :
      (start options).outsideLiterals events = true) :
    let made := (start options).run events
    let remade := (start options).run others
    statementsOf made.2 = statementsOf remade.2 ∧
      made.1 = remade.1 := by
  intro made remade
  have hOthers :
      (start options).outsideLiterals others = true := by
    rw [← outsideLiterals_withoutPrefixes, ← hSame,
      outsideLiterals_withoutPrefixes, hOutside]
  have hMade := run_withoutPrefixes hOutside
  have hRemade := run_withoutPrefixes hOthers
  rw [← hSame] at hRemade
  exact
    ⟨hMade.2.symm.trans hRemade.2,
      hMade.1.symm.trans hRemade.1⟩

/-
  A typed node with a subject and a property, with a prefix
  for RDF and a default namespace, and the other way around.
-/
theorem run_prefixes_swapped :
    let name (label? : Option String)
        (space localName : String) : Name :=
      ⟨⟨label?, localName⟩, some space⟩
    let document (rdf? other? : Option String)
        (about : String) : List Event :=
      [.startElement
        ⟨name rdf? Rdf.space "RDF",
          [⟨rdf?, Rdf.space⟩, ⟨other?, "u:"⟩], []⟩,
       .startElement
        ⟨name other? "u:" "a", [],
          [⟨name (some about) Rdf.space "about", "u:x"⟩]⟩,
       .startElement ⟨name rdf? Rdf.space "li", [], []⟩,
       .characters "text",
       .endElement (name rdf? Rdf.space "li"),
       .endElement (name other? "u:" "a"),
       .endElement (name rdf? Rdf.space "RDF")]
    let events := document (some "r") none "r"
    let others := document none (some "o") "s"
    let made := (start {}).run events
    let remade := (start {}).run others
    events.map Event.withoutPrefixes =
        others.map Event.withoutPrefixes ∧
      (start {}).outsideLiterals events = true ∧
      statementsOf made.2 = statementsOf remade.2 ∧
      statementsOf remade.2 =
        [⟨"u:x", Rdf.typeIri, .ofResource "u:a"⟩,
          ⟨"u:x", Rdf.space ++ "_1", .plain "text" ""⟩] := by
  intro name document events others made remade
  have hSame :
      events.map Event.withoutPrefixes =
        others.map Event.withoutPrefixes := by
    decide +kernel
  have hOutside :
      (start {}).outsideLiterals events = true := by
    decide +kernel
  exact
    ⟨hSame, hOutside, (run_prefixes hSame hOutside).1,
      by decide +kernel⟩

end Machine

end RdfXml
