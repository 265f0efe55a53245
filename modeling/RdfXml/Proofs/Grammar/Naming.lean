import RdfXml.Proofs.Grammar.Sites
import RdfXml.Proofs.Grammar.Simulation
import RdfXml.Proofs.Grammar.Supply

/-
  The grammar with names for its blank nodes.

  Instead of drawing on a supply, every site of a document
  is given a name, and everything that is stated about the
  site uses this name.  When the names are those that the
  supply issues, one after the other, both make the same
  statements.

  Main declarations:
    * `BlankNodes.upcoming`
    * `Grammar.namedNodes`
    * `Grammar.namedProperties`
    * `Grammar.namedDocument`
    * `Grammar.Agrees`
    * `Grammar.content_named`
    * `Machine.runs_named`
-/

------------------------------------------------------------
-- Upcoming References
------------------------------------------------------------

namespace RdfXml

namespace BlankNodes

/- The supply after it issued this many more. -/
def after (supply : BlankNodes) (count : Nat) : BlankNodes :=
  { supply with issued := supply.issued + count }

/- The references that a supply issues next, in order. -/
def upcoming : BlankNodes → Nat → List String
| _, 0 => []
| supply, count + 1 =>
    supply.next :: upcoming supply.advance count

@[simp]
theorem after_zero (supply : BlankNodes) :
    supply.after 0 = supply :=
  rfl

theorem after_after
    (supply : BlankNodes)
    (first second : Nat) :
    (supply.after first).after second =
      supply.after (first + second) := by
  simp [after, Nat.add_assoc]

/- What is issued for two lists is issued one by one. -/
theorem after_append
    {α : Type}
    (supply : BlankNodes)
    (first second : List α) :
    supply.after (first ++ second).length =
      (supply.after first.length).after second.length := by
  rw [after_after, List.length_append]

@[simp]
theorem length_upcoming
    (supply : BlankNodes)
    (count : Nat) :
    (supply.upcoming count).length = count := by
  induction count generalizing supply with
  | zero => rfl
  | succ count ih => simp [upcoming, ih]

theorem upcoming_add
    (supply : BlankNodes)
    (first second : Nat) :
    supply.upcoming (first + second) =
      supply.upcoming first ++
        (supply.after first).upcoming second := by
  induction first generalizing supply with
  | zero => simp [upcoming]
  | succ first ih =>
      have hAfter :
          supply.advance.after first =
            supply.after (first + 1) := by
        unfold advance after
        dsimp only
        congr 1
        omega
      rw [Nat.succ_add, upcoming, upcoming, ih, hAfter]
      rfl

/- What is upcoming has a number that was not yet used. -/
theorem mem_upcoming
    {supply : BlankNodes}
    {count : Nat}
    {reference : String}
    (hMember : reference ∈ supply.upcoming count) :
    ∃ number ≥ supply.issued,
      reference = next ⟨supply.stem, number⟩ := by
  induction count generalizing supply with
  | zero => cases hMember
  | succ count ih =>
      rcases List.mem_cons.mp hMember with rfl | hLater
      · exact ⟨supply.issued, Nat.le_refl _, rfl⟩
      · rcases ih hLater with ⟨number, hNumber, hSame⟩
        exact ⟨number, Nat.le_of_succ_le hNumber, hSame⟩

theorem upcoming_nodup
    (supply : BlankNodes)
    (count : Nat) :
    (supply.upcoming count).Nodup := by
  induction count generalizing supply with
  | zero => exact List.nodup_nil
  | succ count ih =>
      refine List.nodup_cons.mpr ⟨?_, ih supply.advance⟩
      intro hAgain
      rcases mem_upcoming hAgain with
        ⟨number, hNumber, hSame⟩
      have hIssued := next_injective hSame
      dsimp only [advance] at hNumber
      omega

end BlankNodes

------------------------------------------------------------
-- Named Elements
------------------------------------------------------------

namespace ElementAttributes

/- The subject of a node, or what it is called without one. -/
def subject
    (attributes : ElementAttributes)
    (base called : String) : String :=
  match attributes.about?, attributes.id?,
      attributes.nodeId? with
  | some about, _, _ => about
  | none, some id, _ => Machine.idIri base id
  | none, none, some nodeId => blankNodeReference nodeId
  | none, none, none => called

/- The object of a property, or what it is called. -/
def object
    (attributes : ElementAttributes)
    (base called : String) : String :=
  match attributes.resource?, attributes.nodeId? with
  | some resource, _ => Iri.resolve base resource
  | none, some nodeId => blankNodeReference nodeId
  | none, none => called

end ElementAttributes

/- What a node stands in is a list. -/
def Parent.isList : Parent → Bool
| .collection _ _ => true
| _ => false

namespace Grammar

/-
  Link a node to what it stands in, where `cell` is what its
  list node is called and `tail?` the one before it.
-/
def attachNamed
    (parent : Parent)
    (tail? : Option String)
    (cell node : String) :
    List Statement × Option String :=
  match parent with
  | .document => ([], tail?)
  | .property link subject =>
      (link.statements subject (.ofResource node), tail?)
  | .collection link subject =>
      let links :=
        match tail? with
        | none => link.statements subject (.ofResource cell)
        | some tail =>
            [⟨tail, Rdf.restIri, .ofResource cell⟩]
      (links ++ [⟨cell, Rdf.firstIri, .ofResource node⟩],
        some cell)

mutual

/-
  The statements of the nodes in a content, and the last list
  node, where every site is called by its name.
-/
def namedNodes
    (name : Site → String)
    (path : List Nat)
    (index : Nat)
    (scope : Scope)
    (parent : Parent)
    (tail? : Option String) :
    Content → List Statement × Option String
| .nil => ([], tail?)
| .text _ rest =>
    namedNodes name path index scope parent tail? rest
| .element tag inner rest =>
    let attributes := ElementAttributes.ofList tag.attributes
    let inScope := scope.enter attributes
    let here := index :: path
    let subject :=
      attributes.subject inScope.base (name ⟨here, .subject⟩)
    let (links, tail?) :=
      attachNamed parent tail? (name ⟨here, .cell⟩) subject
    let inside :=
      namedProperties name here 0 inScope subject 0 inner
    let (others, tail?) :=
      namedNodes name path (index + 1) scope parent tail? rest
    (links ++
        (Machine.typeStatements tag.name subject ++
          (attributes.properties.map
            (attributeStatement inScope subject) ++
              (inside ++ others))),
      tail?)

/-
  The statements of the properties of a subject in a content,
  where every site is called by its name.
-/
def namedProperties
    (name : Site → String)
    (path : List Nat)
    (index : Nat)
    (scope : Scope)
    (subject : String)
    (members : Nat) : Content → List Statement
| .nil => []
| .text _ rest =>
    namedProperties name path index scope subject members
      rest
| .element tag inner rest =>
    let attributes := ElementAttributes.ofList tag.attributes
    let inScope := scope.enter attributes
    let here := index :: path
    let link := linkOf tag scope members
    let made :=
      match PropertyForm.ofAttributes attributes with
      | .resource =>
          let object := name ⟨here, .content⟩
          link.statements subject (.ofResource object) ++
            namedProperties name here 0 inScope object 0
              inner
      | .collection =>
          let (inside, tail?) :=
            namedNodes name here 0 inScope
              (.collection link subject) none inner
          inside ++ collectionEnd link subject tail?
      | .literal =>
          link.statements subject
            (.literal (Machine.trimText inner.markup)
              Rdf.xmlLiteralIri "")
      | .object =>
          let object :=
            attributes.object inScope.base
              (name ⟨here, .object⟩)
          link.statements subject (.ofResource object) ++
            (attributes.properties.map
              (attributeStatement inScope object) ++
                (namedNodes name here 0 inScope
                  (.property link subject) none inner).1)
      | .plain =>
          (namedNodes name here 0 inScope
              (.property link subject) none inner).1 ++
            (if inner.hasElement then []
            else
              link.statements subject
                (Machine.contentObject inScope
                  (attributes.datatype?.map
                    (Iri.resolve inScope.base))
                  inner.directText))
    made ++
      namedProperties name path (index + 1) scope subject
        (countMember tag.name members) rest

end

/-
  The statements of a document, where every site is called
  by its name.
-/
def namedDocument
    (name : Site → String)
    (options : Options)
    (root : Element) : List Statement :=
  let scope : Scope := ⟨"", options.baseIri⟩
  if root.tag.name.denotes Rdf.space "RDF" then
    (namedNodes name [0] 0
      (scope.enter
        (ElementAttributes.ofList root.tag.attributes))
      .document none root.content).1
  else
    (namedNodes name [] 0 scope .document none
      (.element root.tag root.content .nil)).1

------------------------------------------------------------
-- Names From The Supply
------------------------------------------------------------

/- Sites are called what the supply issues next. -/
def Agrees
    (name : Site → String)
    (supply : BlankNodes)
    (sites : List Site) : Prop :=
  sites.map name = supply.upcoming sites.length

section Agreement

variable
  {name : Site → String}
  {supply : BlankNodes}

theorem agrees_append (first second : List Site) :
    Agrees name supply (first ++ second) ↔
      Agrees name supply first ∧
        Agrees name (supply.after first.length) second := by
  unfold Agrees
  rw [List.map_append, List.length_append,
    BlankNodes.upcoming_add]
  constructor
  · intro hSame
    exact List.append_inj hSame (by simp)
  · rintro ⟨hFirst, hSecond⟩
    rw [hFirst, hSecond]

theorem agrees_one (site : Site) :
    Agrees name supply [site] ↔
      name site = supply.next := by
  simp [Agrees, BlankNodes.upcoming]

theorem sitesAt_nil (path : List Nat) :
    sitesAt path [] = [] :=
  rfl

theorem sitesAt_append
    (path : List Nat)
    (first second : List Use) :
    sitesAt path (first ++ second) =
      sitesAt path first ++ sitesAt path second :=
  List.map_append

/- A node without a name is called by its site. -/
theorem subjectOf_named
    {attributes : ElementAttributes}
    {path : List Nat}
    {own : List Site}
    (hOwn :
      own =
        sitesAt path
          (if attributes.isUnnamed then [.subject] else []))
    (hAgrees : Agrees name supply own)
    (base : String) :
    subjectOf attributes base supply =
      (attributes.subject base (name ⟨path, .subject⟩),
        supply.after own.length) := by
  subst hOwn
  unfold subjectOf ElementAttributes.subject
    ElementAttributes.isUnnamed at *
  cases hAbout : attributes.about? with
  | some about => simp [sitesAt]
  | none =>
      cases hId : attributes.id? with
      | some id => simp [sitesAt]
      | none =>
          cases hNodeId : attributes.nodeId? with
          | some nodeId => simp [sitesAt]
          | none =>
              rw [hAbout, hId, hNodeId] at hAgrees
              have hName := (agrees_one _).mp hAgrees
              dsimp only
              rw [hName]
              rfl

/- So is an object of which only properties are given. -/
theorem objectOf_named
    {attributes : ElementAttributes}
    {path : List Nat}
    {own : List Site}
    (hOwn :
      own =
        sitesAt path
          (if attributes.namesNoObject then [.object]
          else []))
    (hAgrees : Agrees name supply own)
    (base : String) :
    objectOf attributes base supply =
      (attributes.object base (name ⟨path, .object⟩),
        supply.after own.length) := by
  subst hOwn
  unfold objectOf ElementAttributes.object
    ElementAttributes.namesNoObject at *
  cases hResource : attributes.resource? with
  | some resource => simp [sitesAt]
  | none =>
      cases hNodeId : attributes.nodeId? with
      | some nodeId => simp [sitesAt]
      | none =>
          rw [hResource, hNodeId] at hAgrees
          have hName := (agrees_one _).mp hAgrees
          dsimp only
          rw [hName]
          rfl

/- A member of a collection takes a list node. -/
theorem attach_named
    {parent : Parent}
    {path : List Nat}
    {own : List Site}
    (hOwn :
      own =
        sitesAt path (if parent.isList then [.cell] else []))
    (hAgrees : Agrees name supply own)
    (tail? : Option String)
    (node : String) :
    attach parent tail? supply node =
      ((attachNamed parent tail? (name ⟨path, .cell⟩) node).1,
        (attachNamed parent tail? (name ⟨path, .cell⟩)
          node).2,
        supply.after own.length) := by
  subst hOwn
  cases parent with
  | document => rfl
  | property link subject => rfl
  | collection link subject =>
      have hName := (agrees_one _).mp hAgrees
      unfold attach attachNamed
      rw [hName]
      rfl

/-
  Both by one induction on the content: what an element and
  what is in it draw on the supply are the sites of both.
-/
theorem content_named
    (name : Site → String)
    (content : Content) :
    (∀ path index scope parent tail? supply,
      Agrees name supply
          (nodeSites parent.isList path index content) →
        nodes scope parent tail? supply content =
          ((namedNodes name path index scope parent tail?
              content).1,
            (namedNodes name path index scope parent tail?
              content).2,
            supply.after
              (nodeSites parent.isList path index
                content).length)) ∧
      ∀ path index scope subject members supply,
        Agrees name supply
            (propertySites path index content) →
          properties scope subject members supply content =
            (namedProperties name path index scope subject
                members content,
              supply.after
                (propertySites path index
                  content).length) := by
  induction content with
  | nil =>
      exact ⟨fun _ _ _ _ _ _ _ => rfl,
        fun _ _ _ _ _ _ _ => rfl⟩
  | text run rest ih => exact ih
  | element tag inner rest ihInner ihRest =>
      constructor
      · intro path index scope parent tail? supply hAgrees
        simp only [nodeSites, nodeUses, sitesAt_append,
          List.append_assoc] at hAgrees ⊢
        rcases (agrees_append _ _).mp hAgrees with
          ⟨hSubject, hAgrees⟩
        rcases (agrees_append _ _).mp hAgrees with
          ⟨hCell, hAgrees⟩
        rcases (agrees_append _ _).mp hAgrees with
          ⟨hInner, hOthers⟩
        simp only [nodes, namedNodes,
          subjectOf_named rfl hSubject,
          attach_named rfl hCell,
          ihInner.2 _ _ _ _ _ _ hInner,
          ihRest.1 _ _ _ _ _ _ hOthers,
          BlankNodes.after_append]
      · intro path index scope subject members supply hAgrees
        cases hForm :
            PropertyForm.ofAttributes
              (ElementAttributes.ofList tag.attributes) with
        | resource =>
            simp only [propertySites, propertyUses, hForm]
              at hAgrees ⊢
            rcases (agrees_append _ _).mp hAgrees with
              ⟨hContent, hAgrees⟩
            rcases (agrees_append _ _).mp hAgrees with
              ⟨hInner, hOthers⟩
            have hName := (agrees_one _).mp hContent
            have hAdvance :
                supply.after
                    (sitesAt (index :: path)
                      [.content]).length =
                  supply.advance :=
              rfl
            rw [hAdvance] at hInner hOthers
            simp only [properties, namedProperties, linkOf,
              hForm, hName, ihInner.2 _ _ _ _ _ _ hInner,
              ihRest.2 _ _ _ _ _ _ hOthers,
              BlankNodes.after_append, hAdvance]
        | collection =>
            simp only [propertySites, propertyUses, hForm,
              sitesAt_nil, List.nil_append] at hAgrees ⊢
            rcases (agrees_append _ _).mp hAgrees with
              ⟨hInner, hOthers⟩
            simp only [properties, namedProperties, linkOf,
              hForm,
              ihInner.1 _ _ _ (.collection _ _) _ _ hInner,
              Parent.isList, ihRest.2 _ _ _ _ _ _ hOthers,
              BlankNodes.after_append]
        | literal =>
            simp only [propertySites, propertyUses, hForm,
              sitesAt_nil, List.nil_append] at hAgrees ⊢
            simp only [properties, namedProperties, linkOf,
              hForm, ihRest.2 _ _ _ _ _ _ hAgrees]
        | object =>
            simp only [propertySites, propertyUses, hForm]
              at hAgrees ⊢
            rcases (agrees_append _ _).mp hAgrees with
              ⟨hObject, hAgrees⟩
            rcases (agrees_append _ _).mp hAgrees with
              ⟨hInner, hOthers⟩
            simp only [properties, namedProperties, linkOf,
              hForm, objectOf_named rfl hObject,
              ihInner.1 _ _ _ (.property _ _) _ _ hInner,
              Parent.isList, ihRest.2 _ _ _ _ _ _ hOthers,
              BlankNodes.after_append]
        | plain =>
            simp only [propertySites, propertyUses, hForm,
              sitesAt_nil, List.nil_append] at hAgrees ⊢
            rcases (agrees_append _ _).mp hAgrees with
              ⟨hInner, hOthers⟩
            simp only [properties, namedProperties, linkOf,
              hForm,
              ihInner.1 _ _ _ (.property _ _) _ _ hInner,
              Parent.isList, ihRest.2 _ _ _ _ _ _ hOthers,
              BlankNodes.after_append]

/- Different sites can be called what is issued. -/
theorem exists_agrees
    {sites : List Site}
    (hNodup : sites.Nodup)
    (supply : BlankNodes) :
    ∃ name, Agrees name supply sites := by
  induction sites generalizing supply with
  | nil => exact ⟨fun _ => "", rfl⟩
  | cons site sites ih =>
      rcases List.nodup_cons.mp hNodup with ⟨hOther, hRest⟩
      rcases ih hRest supply.advance with ⟨name, hName⟩
      refine
        ⟨Function.update name site supply.next, ?_⟩
      have hSame :
          sites.map (Function.update name site supply.next) =
            sites.map name := by
        apply List.map_congr_left
        rintro other hMember
        apply Function.update_of_ne
        rintro rfl
        exact hOther hMember
      unfold Agrees at hName ⊢
      rw [List.map_cons, List.length_cons, hSame, hName,
        Function.update_self]
      rfl

end Agreement

end Grammar

------------------------------------------------------------
-- Documents
------------------------------------------------------------

namespace Machine

open Grammar

/- The root is a node that stands in nothing. -/
theorem nodes_root
    (scope : Scope)
    (supply : BlankNodes)
    (root : Element) :
    let attributes :=
      ElementAttributes.ofList root.tag.attributes
    let inScope := scope.enter attributes
    let made := subjectOf attributes inScope.base supply
    let inside :=
      properties inScope made.1 0 made.2 root.content
    nodes scope .document none supply
        (.element root.tag root.content .nil) =
      (typeStatements root.tag.name made.1 ++
          attributes.properties.map
            (attributeStatement inScope made.1) ++ inside.1,
        none, inside.2) := by
  simp [nodes, attach]

/-
  Over a document the machine states what the grammar does
  with the names that it issues, one for each site.
-/
theorem runs_named
    {name : Site → String}
    {options : Options}
    {root : Element}
    (hAgrees :
      Agrees name (start options).blankNodes (sites root)) :
    (start options).Runs root.events
      (namedDocument name options root)
      { start options with
        blankNodes :=
          (start options).blankNodes.after
            (sites root).length
        rootClosed := true } := by
  unfold sites at hAgrees
  unfold namedDocument sites
  cases hContainer :
      root.tag.name.denotes Rdf.space "RDF" with
  | true =>
      rw [hContainer, if_pos rfl] at hAgrees
      have hInside :=
        (runs_content root.content).1
          ((start options).placed (start options).blankNodes
            [⟨(start options).currentScope.enter
                (ElementAttributes.ofList
                  root.tag.attributes),
              .root⟩])
          _ .document none none "" false [] rfl rfl trivial
      have hNamed :=
        (content_named name root.content).1 [0] 0
          ((start options).currentScope.enter
            (ElementAttributes.ofList root.tag.attributes))
          .document none (start options).blankNodes hAgrees
      dsimp only [placed] at hInside
      rw [hNamed] at hInside
      exact
        runs_root (startElement_container hContainer)
          hInside (by simp [Parent.kind]) rfl
  | false =>
      rw [hContainer, if_neg (by simp)] at hAgrees
      rcases hSubject :
          subjectOf
            (ElementAttributes.ofList root.tag.attributes)
            ((start options).currentScope.enter
              (ElementAttributes.ofList
                root.tag.attributes)).base
            (start options).blankNodes with
        ⟨subject, supply⟩
      rcases (runs_content root.content).2
          ((start options).placed supply
            [⟨(start options).currentScope.enter
                (ElementAttributes.ofList
                  root.tag.attributes),
              .node subject 0⟩])
          _ subject 0 [] rfl rfl with
        ⟨members, hInside⟩
      have hNamed :=
        (content_named name
            (.element root.tag root.content .nil)).1 [] 0
          (start options).currentScope .document none
          (start options).blankNodes hAgrees
      rw [nodes_root, hSubject] at hNamed
      rcases Prod.mk.inj hNamed with ⟨hMade, hSupplies⟩
      have hSupply := (Prod.mk.inj hSupplies).2
      have hRun :=
        runs_root (startElement_root hContainer hSubject)
          hInside (by simp) rfl
      dsimp only [placed] at hRun hMade hSupply
      rw [hMade, hSupply] at hRun
      exact hRun

end Machine

end RdfXml
