import RdfXml.Xml.Event

/-
  Element trees and their events.

  The content of an element is a sequence of texts and
  elements.  Two texts may follow one another, since one run
  of text may be delivered in several events.

  Main declarations:
    * `Content`
    * `Content.events`
    * `Element`
    * `Element.events`
    * `Progress`
    * `Progress.events_prefix`
-/

------------------------------------------------------------
-- Trees
------------------------------------------------------------

namespace RdfXml

/- What stands between two tags, in document order. -/
inductive Content where
| nil
| text (run : String) (rest : Content)
| element (tag : StartTag) (inner rest : Content)
deriving DecidableEq, Repr

namespace Content

/-
  The events of a content.  The end of an element carries the
  name of its start.
-/
def events : Content → List Event
| .nil => []
| .text run rest => .characters run :: rest.events
| .element tag inner rest =>
    .startElement tag ::
      (inner.events ++ .endElement tag.name :: rest.events)

/- One content behind another. -/
def append : Content → Content → Content
| .nil, more => more
| .text run rest, more => .text run (rest.append more)
| .element tag inner rest, more =>
    .element tag inner (rest.append more)

@[simp]
theorem events_append (first second : Content) :
    (first.append second).events =
      first.events ++ second.events := by
  induction first with
  | nil => rfl
  | text run rest ih => simp [append, events, ih]
  | element tag inner rest _ ih =>
      simp [append, events, ih]

end Content

/- An element with everything in it. -/
structure Element where
  tag : StartTag
  content : Content
deriving DecidableEq, Repr

namespace Element

/- The events of an element from its start to its end. -/
def events (e : Element) : List Event :=
  .startElement e.tag ::
    (e.content.events ++ [.endElement e.tag.name])

end Element

------------------------------------------------------------
-- Unfinished Documents
------------------------------------------------------------

/-
  How far a document has come.  Inside of the root element
  the other open elements are kept innermost first, each with
  what stands before it in its parent; `current` is the
  content so far of the innermost one.
-/
inductive Progress where
| before
| inside
    (root : StartTag)
    (path : List (StartTag × Content))
    (current : Content)
| after (root : Element)

namespace Progress

/- The events of open elements up to the innermost start. -/
def pathEvents :
    List (StartTag × Content) → List Event
| [] => []
| (tag, front) :: outer =>
    pathEvents outer ++ front.events ++ [.startElement tag]

/- The events so far. -/
def events : Progress → List Event
| .before => []
| .inside root path current =>
    .startElement root ::
      (pathEvents path ++ current.events)
| .after root => root.events

/- The tags of the open elements, innermost first. -/
def openTags : Progress → List StartTag
| .before => []
| .inside root path _ => path.map Prod.fst ++ [root]
| .after _ => []

/- The content of the root when all open elements end now. -/
def closeAll :
    List (StartTag × Content) → Content → Content
| [], current => current
| (tag, front) :: outer, current =>
    closeAll outer
      (front.append (.element tag current .nil))

/- Only ends are missing to all open elements. -/
theorem closeAll_completes
    (path : List (StartTag × Content))
    (current : Content) :
    ∃ names : List Name,
      pathEvents path ++ current.events ++
          names.map .endElement =
        (closeAll path current).events := by
  induction path generalizing current with
  | nil => exact ⟨[], List.append_nil _⟩
  | cons entry outer ih =>
      rcases entry with ⟨tag, front⟩
      rcases ih (front.append (.element tag current .nil))
        with ⟨names, hNames⟩
      refine ⟨tag.name :: names, ?_⟩
      simp only [closeAll, ← hNames]
      simp [pathEvents, Content.events]

theorem closeAll_events
    (path : List (StartTag × Content))
    (current : Content) :
    pathEvents path ++ current.events <+:
      (closeAll path current).events := by
  rcases closeAll_completes path current with
    ⟨names, hNames⟩
  exact ⟨_, hNames⟩

/- A document that has begun is completed by ends. -/
theorem completes (p : Progress) :
    p.events = [] ∨
      ∃ (root : Element) (names : List Name),
        p.events ++ names.map .endElement = root.events := by
  cases p with
  | before => exact .inl rfl
  | inside root path current =>
      rcases closeAll_completes path current with
        ⟨names, hNames⟩
      refine
        .inr
          ⟨⟨root, closeAll path current⟩,
            names ++ [root.name], ?_⟩
      unfold events Element.events
      rw [← hNames]
      simp
  | after root => exact .inr ⟨root, [], List.append_nil _⟩

/-
  The events so far are the first events of one element, and
  all of them when the root element has ended.
-/
theorem events_prefix (p : Progress) :
    ∃ root : Element, p.events <+: root.events := by
  cases p with
  | before =>
      refine ⟨⟨⟨⟨⟨none, ""⟩, none⟩, [], []⟩, .nil⟩, ?_⟩
      exact List.nil_prefix
  | inside root path current =>
      refine ⟨⟨root, closeAll path current⟩, ?_⟩
      unfold events Element.events
      refine List.cons_prefix_cons.mpr ⟨rfl, ?_⟩
      exact (closeAll_events path current).trans
        (List.prefix_append _ _)
  | after root => exact ⟨root, List.prefix_rfl⟩

end Progress

end RdfXml
