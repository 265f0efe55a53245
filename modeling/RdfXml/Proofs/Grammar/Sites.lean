import Mathlib.Data.List.Nodup
import RdfXml.Proofs.Grammar.Tree

/-
  Sites in a document that need a blank node.

  A site is an element together with what the element needs
  a blank node for.  The sites of a document are found in
  its tree alone, and no two of them are the same.

  Main declarations:
    * `Site`
    * `Grammar.nodeSites`
    * `Grammar.propertySites`
    * `Grammar.sites`
    * `Grammar.sites_nodup`
-/

------------------------------------------------------------
-- Sites
------------------------------------------------------------

namespace RdfXml

/-
  What a blank node is needed for: a node without a name, the
  list node of a member, the node that the content of a
  property describes, or an object of which only properties
  are given.
-/
inductive Use where
| subject
| cell
| content
| object
deriving DecidableEq, Repr

/-
  A use of an element.  The path numbers the element among
  the elements beside it, then the one around it, and so on
  up to the document element.
-/
structure Site where
  path : List Nat
  use : Use
deriving DecidableEq, Repr

namespace ElementAttributes

/- A node with these attributes has no name. -/
def isUnnamed (attributes : ElementAttributes) : Bool :=
  attributes.about?.isNone && attributes.id?.isNone &&
    attributes.nodeId?.isNone

/- A property with these attributes names no object. -/
def namesNoObject (attributes : ElementAttributes) : Bool :=
  attributes.resource?.isNone && attributes.nodeId?.isNone

end ElementAttributes

namespace Grammar

/- What a node needs, listed if it is in a collection. -/
def nodeUses
    (listed : Bool)
    (attributes : ElementAttributes) : List Use :=
  (if attributes.isUnnamed then [.subject] else []) ++
    (if listed then [.cell] else [])

/- What a property needs. -/
def propertyUses
    (attributes : ElementAttributes) : List Use :=
  match PropertyForm.ofAttributes attributes with
  | .resource => [.content]
  | .object =>
      if attributes.namesNoObject then [.object] else []
  | _ => []

/- The sites of an element with these uses. -/
def sitesAt
    (path : List Nat)
    (uses : List Use) : List Site :=
  uses.map (fun use => ⟨path, use⟩)

mutual

/-
  The sites of the nodes in a content, in document order.
  `index` is the number of the next element.
-/
def nodeSites
    (listed : Bool)
    (path : List Nat)
    (index : Nat) : Content → List Site
| .nil => []
| .text _ rest => nodeSites listed path index rest
| .element tag inner rest =>
    let attributes := ElementAttributes.ofList tag.attributes
    let here := index :: path
    sitesAt here (nodeUses listed attributes) ++
      (propertySites here 0 inner ++
        nodeSites listed path (index + 1) rest)

/- The sites of the properties in a content. -/
def propertySites
    (path : List Nat)
    (index : Nat) : Content → List Site
| .nil => []
| .text _ rest => propertySites path index rest
| .element tag inner rest =>
    let attributes := ElementAttributes.ofList tag.attributes
    let here := index :: path
    let inside :=
      match PropertyForm.ofAttributes attributes with
      | .resource => propertySites here 0 inner
      | .collection => nodeSites true here 0 inner
      | .literal => []
      | .object => nodeSites false here 0 inner
      | .plain => nodeSites false here 0 inner
    sitesAt here (propertyUses attributes) ++
      (inside ++ propertySites path (index + 1) rest)

end

/- The sites of a document. -/
def sites (root : Element) : List Site :=
  if root.tag.name.denotes Rdf.space "RDF" then
    nodeSites false [0] 0 root.content
  else
    nodeSites false [] 0
      (.element root.tag root.content .nil)

------------------------------------------------------------
-- Sites Are Apart
------------------------------------------------------------

/-
  Sites of elements on a path that are numbered from an
  index on, none of them twice.
-/
structure Spread
    (path : List Nat)
    (index : Nat)
    (sites : List Site) : Prop where
  below : ∀ site ∈ sites,
    ∃ number ≥ index, number :: path <:+ site.path
  nodup : sites.Nodup

namespace Spread

variable
  {path : List Nat}
  {index : Nat}
  {inside others : List Site}

theorem nil (path : List Nat) (index : Nat) :
    Spread path index [] where
  below := nofun
  nodup := List.nodup_nil

/- What is in elements of other numbers is apart. -/
theorem append
    (hInside :
      ∀ site ∈ inside, index :: path <:+ site.path)
    (hNodup : inside.Nodup)
    (hOthers : Spread path (index + 1) others) :
    Spread path index (inside ++ others) where
  below := by
    intro site hMember
    rcases List.mem_append.mp hMember with hHere | hOther
    · exact ⟨index, Nat.le_refl _, hInside site hHere⟩
    · rcases hOthers.below site hOther with
        ⟨number, hLater, hSuffix⟩
      exact ⟨number, Nat.le_of_succ_le hLater, hSuffix⟩
  nodup := by
    refine List.nodup_append.mpr
      ⟨hNodup, hOthers.nodup, ?_⟩
    rintro site hHere _ hOther rfl
    rcases hOthers.below site hOther with
      ⟨number, hLater, hSuffix⟩
    -- an element has one number at each depth
    have hSame : index :: path <:+ number :: path :=
      List.suffix_of_suffix_length_le
        (hInside site hHere) hSuffix (Nat.le_refl _)
    have hNumber :=
      (List.cons.inj (hSame.eq_of_length rfl)).1
    omega

/- An element, what is in it, and what is beside it. -/
theorem element
    {uses : List Use}
    (hUses : uses.Nodup)
    (hInside : Spread (index :: path) 0 inside)
    (hOthers : Spread path (index + 1) others) :
    Spread path index
      (sitesAt (index :: path) uses ++
        (inside ++ others)) := by
  rw [← List.append_assoc]
  apply append ?_ ?_ hOthers
  · intro site hMember
    rcases List.mem_append.mp hMember with hOwn | hInner
    · rcases List.mem_map.mp hOwn with ⟨use, _, rfl⟩
      exact List.suffix_rfl
    · rcases hInside.below site hInner with
        ⟨number, _, hSuffix⟩
      exact (List.suffix_cons _ _).trans hSuffix
  · refine List.nodup_append.mpr ⟨?_, hInside.nodup, ?_⟩
    · unfold sitesAt
      refine hUses.map ?_
      intro use other hSame
      cases hSame
      rfl
    · rintro site hOwn _ hInner rfl
      rcases List.mem_map.mp hOwn with ⟨use, _, rfl⟩
      rcases hInside.below _ hInner with
        ⟨number, _, hSuffix⟩
      -- what is in an element has a longer path
      have hLength := hSuffix.length_le
      simp only [List.length_cons] at hLength
      omega

end Spread

theorem nodeUses_nodup
    (listed : Bool)
    (attributes : ElementAttributes) :
    (nodeUses listed attributes).Nodup := by
  unfold nodeUses
  cases attributes.isUnnamed with
  | true =>
      cases listed with
      | true => decide
      | false => decide
  | false =>
      cases listed with
      | true => decide
      | false => decide

theorem propertyUses_nodup (attributes : ElementAttributes) :
    (propertyUses attributes).Nodup := by
  unfold propertyUses
  split
  · decide
  · split
    · decide
    · decide
  · decide

/- By one induction for nodes and properties. -/
theorem content_spread (content : Content) :
    (∀ listed path index,
      Spread path index
        (nodeSites listed path index content)) ∧
      ∀ path index,
        Spread path index
          (propertySites path index content) := by
  induction content with
  | nil =>
      exact
        ⟨fun _ path index => .nil path index, .nil⟩
  | text run rest ih => exact ih
  | element tag inner rest ihInner ihRest =>
      constructor
      · intro listed path index
        exact
          .element (nodeUses_nodup _ _) (ihInner.2 _ _)
            (ihRest.1 _ _ _)
      · intro path index
        refine
          .element (propertyUses_nodup _) ?_ (ihRest.2 _ _)
        split
        · exact ihInner.2 _ _
        · exact ihInner.1 _ _ _
        · exact .nil _ _
        · exact ihInner.1 _ _ _
        · exact ihInner.1 _ _ _

/- No site of a document is counted twice. -/
theorem sites_nodup (root : Element) :
    (sites root).Nodup := by
  unfold sites
  split
  · exact ((content_spread _).1 _ _ _).nodup
  · exact ((content_spread _).1 _ _ _).nodup

/- A member of a collection needs its list node as well. -/
example :
    let tag (label? : Option String) (localName : String)
        (space : String)
        (attributes : List Attribute) : StartTag :=
      ⟨⟨⟨label?, localName⟩, some space⟩, [], attributes⟩
    let list : Attribute :=
      ⟨⟨⟨some "r", "parseType"⟩, some Rdf.space⟩,
        "Collection"⟩
    let member :=
      Content.element (tag none "b" "u:" []) .nil .nil
    let content :=
      Content.element (tag none "p" "u:" [list]) member .nil
    sites ⟨tag none "a" "u:" [], content⟩ =
      [⟨[0], .subject⟩, ⟨[0, 0, 0], .subject⟩,
        ⟨[0, 0, 0], .cell⟩] := by
  decide +kernel

end Grammar

end RdfXml
