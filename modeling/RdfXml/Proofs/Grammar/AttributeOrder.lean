import RdfXml.Proofs.Grammar.Simulation
import RdfXml.Proofs.Xml.AttributeOrder

/-
  The grammar with attributes in another order.

  Of several attributes with the same meaning only the last
  one counts.  As long as it has the same value in another
  order, a start tag does the same to a machine and makes the
  same statements, those of its properties in the other
  order.  Content of an XML literal is captured as it is
  written, so that no order may change there.

  Main declarations:
    * `Reserved`
    * `StartTag.last?`
    * `StartTag.SameReserved`
    * `StartTag.SameReserved.of_unique`
    * `ElementAttributes.add_meant`
    * `ElementAttributes.add_unmeant`
    * `ElementAttributes.ofList_reordered`
    * `Machine.MakesAlike`
    * `Machine.openElement_reordered`
    * `Machine.keepsContent`
    * `Machine.run_reordered`
-/

------------------------------------------------------------
-- Reserved Attributes
------------------------------------------------------------

namespace RdfXml

/- The meanings that an attribute may have by its name. -/
inductive Reserved where
| about
| id
| nodeId
| resource
| datatype
| parseType
| lang
| base
deriving DecidableEq, Repr

namespace Reserved

def all : List Reserved :=
  [.about, .id, .nodeId, .resource, .datatype, .parseType,
   .lang, .base]

def space : Reserved → String
| .lang => xmlNamespace
| .base => xmlNamespace
| _ => Rdf.space

def localName : Reserved → String
| .about => "about"
| .id => "ID"
| .nodeId => "nodeID"
| .resource => "resource"
| .datatype => "datatype"
| .parseType => "parseType"
| .lang => "lang"
| .base => "base"

/- An attribute has this meaning. -/
def isMeantBy
    (reserved : Reserved)
    (a : Attribute) : Bool :=
  a.name.denotes reserved.space reserved.localName

end Reserved

namespace StartTag

/- The value of the last attribute with a meaning. -/
def last?
    (tag : StartTag)
    (reserved : Reserved) : Option String :=
  (tag.attributes.reverse.find? reserved.isMeantBy).map
    Attribute.value

/- For each meaning the last attribute has the same value. -/
def SameReserved (tag other : StartTag) : Prop :=
  ∀ reserved ∈ Reserved.all,
    tag.last? reserved = other.last? reserved

instance (tag other : StartTag) :
    Decidable (tag.SameReserved other) :=
  inferInstanceAs (Decidable (∀ _ ∈ Reserved.all, _))

end StartTag

------------------------------------------------------------
-- Attributes Of Elements
------------------------------------------------------------

namespace ElementAttributes

/- What an element has for a meaning. -/
def value? (attributes : ElementAttributes) :
    Reserved → Option String
| .about => attributes.about?
| .id => attributes.id?
| .nodeId => attributes.nodeId?
| .resource => attributes.resource?
| .datatype => attributes.datatype?
| .parseType => attributes.parseType?
| .lang => attributes.lang?
| .base => attributes.base?

/- The property that an attribute stands for, if any. -/
def property? (a : Attribute) : Option PropertyAttribute :=
  if a.name.space?.isNone ||
      a.name.space? == some xmlNamespace ||
        Reserved.all.any (·.isMeantBy a) then
    none
  else
    some ⟨a.name.expanded, a.value⟩

/- Attributes with another value for a meaning. -/
def set
    (attributes : ElementAttributes)
    (value : String) : Reserved → ElementAttributes
| .about => { attributes with about? := some value }
| .id => { attributes with id? := some value }
| .nodeId => { attributes with nodeId? := some value }
| .resource => { attributes with resource? := some value }
| .datatype => { attributes with datatype? := some value }
| .parseType => { attributes with parseType? := some value }
| .lang => { attributes with lang? := some value }
| .base => { attributes with base? := some value }

theorem value?_set
    (attributes : ElementAttributes)
    (value : String)
    (reserved other : Reserved) :
    (attributes.set value reserved).value? other =
      if other = reserved then some value
      else attributes.value? other := by
  cases reserved with
  | _ =>
      cases other with
      | _ => rfl

theorem properties_set
    (attributes : ElementAttributes)
    (value : String)
    (reserved : Reserved) :
    (attributes.set value reserved).properties =
      attributes.properties := by
  cases reserved with
  | _ => rfl

theorem value?_properties
    (attributes : ElementAttributes)
    (properties : List PropertyAttribute)
    (reserved : Reserved) :
    value? { attributes with properties } reserved =
      attributes.value? reserved := by
  cases reserved with
  | _ => rfl

/- An attribute with a meaning sets the value for it. -/
theorem add_meant
    {a : Attribute}
    {reserved : Reserved}
    (hMeant : reserved.isMeantBy a = true)
    (attributes : ElementAttributes) :
    attributes.add a = attributes.set a.value reserved := by
  have hSpaces : xmlNamespace ≠ Rdf.space := by decide
  simp only [Reserved.isMeantBy, Name.denotes,
    Bool.and_eq_true, beq_iff_eq] at hMeant
  rcases hMeant with ⟨hSpace, hName⟩
  cases reserved with
  | _ =>
      simp [add, addRdf, addXml, hSpace, hName, hSpaces,
        Reserved.space, Reserved.localName, set]

/- One without a meaning is a property or is ignored. -/
theorem add_unmeant
    {a : Attribute}
    (hUnmeant :
      ∀ reserved ∈ Reserved.all,
        reserved.isMeantBy a = false)
    (attributes : ElementAttributes) :
    attributes.add a =
      { attributes with
        properties :=
          attributes.properties ++ (property? a).toList } := by
  have hSpaces : Rdf.space ≠ xmlNamespace := by decide
  have hNone : Reserved.all.any (·.isMeantBy a) = false := by
    simpa using hUnmeant
  have hNames :
      ∀ reserved ∈ Reserved.all,
        a.name.space? = some reserved.space →
          a.name.localName ≠ reserved.localName := by
    intro reserved hMember hSpace hName
    have hOther := hUnmeant reserved hMember
    simp [Reserved.isMeantBy, Name.denotes, hSpace, hName]
      at hOther
  simp only [Reserved.all, List.forall_mem_cons,
    Reserved.space, Reserved.localName] at hNames
  unfold add property?
  rw [hNone]
  cases hSpace : a.name.space? with
  | none => simp
  | some space =>
      by_cases hRdf : space = Rdf.space
      · subst hRdf
        simp [addRdf, addProperty, hSpace, hSpaces, hNames]
      · by_cases hXml : space = xmlNamespace
        · subst hXml
          simp [addXml, hSpace, hRdf, hNames]
        · simp [addProperty, hRdf, hXml]

/- An attribute replaces what it has the meaning of. -/
theorem value?_add
    (attributes : ElementAttributes)
    (a : Attribute)
    (reserved : Reserved) :
    (attributes.add a).value? reserved =
      if reserved.isMeantBy a then some a.value
      else attributes.value? reserved := by
  cases hMeant : reserved.isMeantBy a with
  | true => simp [add_meant hMeant, value?_set]
  | false =>
      by_cases hAny :
          ∃ other ∈ Reserved.all, other.isMeantBy a = true
      · rcases hAny with ⟨other, _, hOther⟩
        have hDifferent : reserved ≠ other := by
          rintro rfl
          rw [hMeant] at hOther
          cases hOther
        simp [add_meant hOther, value?_set, hDifferent]
      · rw [add_unmeant (by simpa using hAny),
          value?_properties]
        rfl

/- All that has no such meaning is a property or ignored. -/
theorem properties_add
    (attributes : ElementAttributes)
    (a : Attribute) :
    (attributes.add a).properties =
      attributes.properties ++ (property? a).toList := by
  by_cases hAny :
      ∃ reserved ∈ Reserved.all, reserved.isMeantBy a = true
  · have hSome : Reserved.all.any (·.isMeantBy a) = true :=
      List.any_eq_true.mpr hAny
    rcases hAny with ⟨reserved, _, hMeant⟩
    rw [add_meant hMeant, properties_set]
    simp [property?, hSome]
  · rw [add_unmeant (by simpa using hAny)]

theorem ofList_concat
    (list : List Attribute)
    (a : Attribute) :
    ofList (list ++ [a]) = (ofList list).add a := by
  simp [ofList]

/- An element has the value of the last attribute. -/
theorem value?_ofList
    (tag : StartTag)
    (reserved : Reserved) :
    (ofList tag.attributes).value? reserved =
      tag.last? reserved := by
  unfold StartTag.last?
  induction tag.attributes using List.reverseRecOn with
  | nil =>
      cases reserved with
      | _ => rfl
  | append_singleton list a ih =>
      rw [ofList_concat, value?_add, ih, List.reverse_concat,
        List.find?_cons]
      cases reserved.isMeantBy a with
      | true => rfl
      | false => rfl

theorem properties_ofList (list : List Attribute) :
    (ofList list).properties = list.filterMap property? := by
  induction list using List.reverseRecOn with
  | nil => rfl
  | append_singleton list a ih =>
      rw [ofList_concat, properties_add, ih, List.filterMap_append]
      cases hProperty : property? a with
      | none => simp [hProperty]
      | some property => simp [hProperty]

/- Elements with the same values differ in properties. -/
theorem eq_of_values
    {attributes others : ElementAttributes}
    (hValues :
      ∀ reserved ∈ Reserved.all,
        attributes.value? reserved =
          others.value? reserved) :
    others =
      { attributes with properties := others.properties } := by
  rcases attributes with ⟨_, _, _, _, _, _, _, _, _⟩
  rcases others with ⟨_, _, _, _, _, _, _, _, _⟩
  simp only [Reserved.all, List.forall_mem_cons, value?]
    at hValues
  simp [hValues]

/-
  A tag in another order has the same properties in another
  order, and all else as it was.
-/
theorem ofList_reordered
    {tag other : StartTag}
    (hTags : tag.Reordered other)
    (hReserved : tag.SameReserved other) :
    ∃ properties,
      (ofList tag.attributes).properties.Perm properties ∧
        ofList other.attributes =
          { ofList tag.attributes with properties } := by
  refine ⟨(ofList other.attributes).properties, ?_, ?_⟩
  · rw [properties_ofList, properties_ofList]
    exact hTags.attributes.filterMap _
  · apply eq_of_values
    intro reserved hMember
    rw [value?_ofList, value?_ofList]
    exact hReserved reserved hMember

end ElementAttributes

/-
  When no two attributes of a tag have the same meaning, the
  last one with a meaning is the same in every order.
-/
theorem StartTag.SameReserved.of_unique
    {tag other : StartTag}
    (hTags : tag.Reordered other)
    (hUnique :
      ∀ reserved ∈ Reserved.all,
        (tag.attributes.filter
          reserved.isMeantBy).length ≤ 1) :
    tag.SameReserved other := by
  intro reserved hMember
  have hLength := hUnique reserved hMember
  have hMeant :
      (tag.attributes.reverse.filter
          reserved.isMeantBy).Perm
        (other.attributes.reverse.filter
          reserved.isMeantBy) :=
    ((List.reverse_perm _).trans
      (hTags.attributes.trans
        (List.reverse_perm _).symm)).filter _
  unfold StartTag.last?
  rw [← List.head?_filter, ← List.head?_filter]
  have hShort :
      (tag.attributes.reverse.filter
        reserved.isMeantBy).length ≤ 1 := by
    rwa [((List.reverse_perm _).filter _).length_eq]
  cases hFound :
      tag.attributes.reverse.filter reserved.isMeantBy with
  | nil =>
      rw [hFound] at hMeant
      rw [hMeant.nil_eq]
  | cons a rest =>
      rw [hFound] at hMeant hShort
      have hNone : rest = [] := by
        simpa using hShort
      subst hNone
      rw [List.singleton_perm.mp hMeant]

------------------------------------------------------------
-- Steps
------------------------------------------------------------

namespace Machine

/- The same machine, and statements that are a reordering. -/
structure MakesAlike (result other : Result) : Prop where
  machine : result.1 = other.1
  statements :
    (statementsOf result.2).Perm (statementsOf other.2)

namespace MakesAlike

theorem refl (result : Result) : MakesAlike result result :=
  ⟨rfl, .rfl⟩

theorem after
    {result other : Result}
    (hAlike : MakesAlike result other)
    {signals others : List Signal}
    (hSignals :
      (statementsOf signals).Perm (statementsOf others)) :
    MakesAlike (Machine.after signals result)
      (Machine.after others other) := by
  refine ⟨hAlike.machine, ?_⟩
  rw [statementsOf_after, statementsOf_after]
  exact hSignals.append hAlike.statements

end MakesAlike

section Properties

variable
  {attributes : ElementAttributes}
  {properties : List PropertyAttribute}
  (hPerm : attributes.properties.Perm properties)

include hPerm

/- The statements of properties come in their order. -/
theorem propertySignals_reordered
    (scope : Scope)
    (subject : String)
    (front : List Signal) :
    (statementsOf
        (front ++
          propertySignals scope subject
            attributes.properties)).Perm
      (statementsOf
        (front ++
          propertySignals scope subject properties)) := by
  rw [statementsOf_append, statementsOf_append,
    statementsOf_properties, statementsOf_properties]
  exact (hPerm.map _).append_left _

theorem nodeElement_reordered
    {tag other : StartTag}
    (hName : tag.name = other.name)
    (m : Machine)
    (scope : Scope) :
    MakesAlike (m.nodeElement tag attributes scope)
      (m.nodeElement other { attributes with properties }
        scope) := by
  unfold nodeElement
  rw [hName]
  exact (MakesAlike.refl _).after
    (propertySignals_reordered hPerm _ _ _)

theorem hasObject_reordered :
    ElementAttributes.hasObject
        { attributes with properties } =
      attributes.hasObject := by
  have hEmpty :
      properties.isEmpty = attributes.properties.isEmpty :=
    hPerm.symm.isEmpty_eq
  unfold ElementAttributes.hasObject
  rw [hEmpty]

theorem objectProperty_reordered
    (m : Machine)
    (scope : Scope)
    (subject : String)
    (link : Link) :
    MakesAlike (m.objectProperty attributes scope subject link)
      (m.objectProperty { attributes with properties } scope
        subject link) :=
  (MakesAlike.refl _).after
    (propertySignals_reordered hPerm _ _ _)

theorem openProperty_reordered
    (m : Machine)
    (scope : Scope)
    (subject : String)
    (link : Link) :
    MakesAlike (m.openProperty attributes scope subject link)
      (m.openProperty { attributes with properties } scope
        subject link) := by
  unfold openProperty
  rw [hasObject_reordered hPerm]
  dsimp only
  cases attributes.parseType? with
  | some parseType => exact .refl _
  | none =>
      dsimp only
      split
      · exact objectProperty_reordered hPerm m scope subject
          link
      · exact .refl _

theorem propertyElement_reordered
    {tag other : StartTag}
    (hName : tag.name = other.name)
    (m : Machine)
    (scope : Scope) :
    MakesAlike (m.propertyElement tag attributes scope)
      (m.propertyElement other { attributes with properties }
        scope) := by
  unfold propertyElement
  rw [hName]
  split
  · dsimp only
    split
    · exact openProperty_reordered hPerm _ _ _ _
    · exact openProperty_reordered hPerm _ _ _ _
  · exact .refl _

end Properties

/- An element is opened alike by tags that mean the same. -/
theorem openElement_reordered
    {tag other : StartTag}
    (hTags : tag.Reordered other)
    (hReserved : tag.SameReserved other)
    (m : Machine)
    (role : Role) :
    MakesAlike (m.openElement tag role)
      (m.openElement other role) := by
  rcases ElementAttributes.ofList_reordered hTags
      hReserved with
    ⟨properties, hPerm, hAttributes⟩
  unfold openElement
  rw [hAttributes]
  dsimp only
  refine MakesAlike.after ?_ ?_
  · rw [← hTags.name]
    split
    · exact .refl _
    · split
      · exact nodeElement_reordered hPerm hTags.name m _
      · exact propertyElement_reordered hPerm hTags.name m _
  · rw [statementsOf_opening, statementsOf_opening]

/-
  Outside of XML literals the order may change as long as the
  tags mean the same, and in a literal nothing may.
-/
theorem startElement_reordered
    {tag other : StartTag}
    {m : Machine}
    (hTags : tag.Reordered other)
    (hReserved : tag.SameReserved other)
    (hContent :
      roleOfNext m.frames = .literalContent → tag = other) :
    MakesAlike (m.startElement tag)
      (m.startElement other) := by
  unfold startElement
  refine MakesAlike.after ?_ ?_
  · split
    · exact ⟨rfl, .rfl⟩
    · refine MakesAlike.after ?_ .rfl
      split
      · next hRole =>
          rw [hContent hRole]
          exact .refl _
      · exact openElement_reordered hTags hReserved m _
  · rw [statementsOf_declarations,
      statementsOf_declarations]

------------------------------------------------------------
-- Runs
------------------------------------------------------------

/- Start tags that are content of an XML literal are kept. -/
def keepsContent :
    Machine → List Event → List Event → Bool
| m, event :: events, other :: others =>
    (roleOfNext m.frames != .literalContent ||
        event == other) &&
      keepsContent (m.step event).1 events others
| _, _, _ => true

end Machine

namespace Event

/- The start tag of an event, if it is one. -/
def startTag? : Event → Option StartTag
| .startElement tag => some tag
| _ => none

/- Start tags mean the same. -/
def SameReserved (event other : Event) : Prop :=
  ∀ tag ∈ event.startTag?,
    ∀ otherTag ∈ other.startTag?, tag.SameReserved otherTag

instance (event other : Event) :
    Decidable (event.SameReserved other) :=
  inferInstanceAs (Decidable (∀ _ ∈ event.startTag?, _))

end Event

namespace Machine

theorem step_reordered
    {m : Machine}
    {event other : Event}
    (hEvents : event.Reordered other)
    (hReserved : event.SameReserved other)
    (hContent :
      roleOfNext m.frames = .literalContent →
        event = other) :
    MakesAlike (m.step event) (m.step other) := by
  cases hEvents with
  | startElement hTags =>
      exact startElement_reordered hTags
        (hReserved _ rfl _ rfl)
        (fun hRole => Event.startElement.inj (hContent hRole))
  | endElement name => exact .refl _
  | characters text => exact .refl _

/-
  A run over events in which only the order of attributes
  differs ends in the same machine.  It makes the same
  statements when the last attributes with a meaning stay
  what they are and the content of literals stays as it is.
-/
theorem run_reordered
    {m : Machine}
    {events others : List Event}
    (hEvents : List.Forall₂ Event.Reordered events others)
    (hReserved :
      List.Forall₂ Event.SameReserved events others)
    (hContent : m.keepsContent events others = true) :
    MakesAlike (m.run events) (m.run others) := by
  induction hEvents generalizing m with
  | nil => exact .refl _
  | @cons event other events others hEvent _ ih =>
      rcases List.forall₂_cons.mp hReserved with
        ⟨hHere, hLater⟩
      simp only [keepsContent, Bool.and_eq_true,
        Bool.or_eq_true, bne_iff_ne, beq_iff_eq] at hContent
      have hStep :=
        step_reordered hEvent hHere
          (fun hRole => hContent.1.resolve_left (absurd hRole))
      have hRest := ih hLater hContent.2
      simp only [run]
      rw [← hStep.machine]
      refine ⟨hRest.machine, ?_⟩
      rw [statementsOf_append, statementsOf_append]
      exact hStep.statements.append hRest.statements

end Machine

end RdfXml
