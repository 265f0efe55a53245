import RdfXml.Proofs.Grammar.Simulation
import RdfXml.Proofs.Xml.Nesting

/-
  The frames of a machine against the open elements.

  Each open element has a frame, except for the elements
  inside of an XML literal, which the frame of the literal
  counts.  What a frame is depends only on its start tag and
  on the frame below it, so that a property always stands on
  the node that it is a property of.

  Main declarations:
    * `FrameSort`
    * `FrameSort.ofChild?`
    * `Stacked`
    * `Machine.Framed`
    * `Machine.Framed.step`
    * `Machine.Framed.run`
    * `Machine.Layered`
    * `Machine.Heeds`
-/

------------------------------------------------------------
-- Sorts Of Frames
------------------------------------------------------------

namespace RdfXml

/- What a frame is, without its data. -/
inductive FrameSort where
| root
| node
| property
| literal
| collection
deriving DecidableEq, Repr

namespace FrameKind

/- The sort of a frame. -/
def sort : FrameKind → FrameSort
| .root => .root
| .node _ _ => .node
| .property _ _ _ _ => .property
| .literal _ _ _ => .literal
| .collection _ _ => .collection

/- The number of elements that are open without a frame. -/
def depth : FrameKind → Nat
| .literal _ _ depth => depth
| _ => 0

end FrameKind

/- The sort of a property of this form. -/
def PropertyForm.sort : PropertyForm → FrameSort
| .resource => .node
| .collection => .collection
| .literal => .literal
| .object => .property
| .plain => .property

namespace FrameSort

/- The frame belongs to a property element. -/
def isProperty : FrameSort → Bool
| .property => true
| .literal => true
| .collection => true
| .root => false
| .node => false

/- What the document element opens. -/
def ofRoot (tag : StartTag) : FrameSort :=
  if tag.name.denotes Rdf.space "RDF" then .root else .node

/-
  What an element opens directly inside of a frame.  The
  elements in an XML literal open nothing.
-/
def ofChild? (tag : StartTag) :
    FrameSort → Option FrameSort
| .root => some .node
| .property => some .node
| .collection => some .node
| .node =>
    some
      (PropertyForm.ofAttributes
        (ElementAttributes.ofList tag.attributes)).sort
| .literal => none

/- What an element opens on top of other frames. -/
def ofNext? (tag : StartTag) :
    List FrameSort → Option FrameSort
| [] => some (ofRoot tag)
| below :: _ => below.ofChild? tag

end FrameSort

/- The sorts of frames, innermost first. -/
def sorts (frames : List Frame) : List FrameSort :=
  frames.map (fun frame => frame.kind.sort)

/- Each start tag has opened the frame in its place. -/
def Stacked : List StartTag → List FrameSort → Prop
| [], [] => True
| tag :: tags, sort :: outer =>
    FrameSort.ofNext? tag outer = some sort ∧
      Stacked tags outer
| _, _ => False

theorem Stacked.length_eq
    {tags : List StartTag}
    {stack : List FrameSort}
    (hStacked : Stacked tags stack) :
    tags.length = stack.length := by
  induction tags generalizing stack with
  | nil =>
      cases stack with
      | nil => rfl
      | cons sort outer => cases hStacked
  | cons tag tags ih =>
      cases stack with
      | nil => cases hStacked
      | cons sort outer =>
          rw [List.length_cons, List.length_cons,
            ih hStacked.2]

/- The frames around some of the frames are stacked, too. -/
theorem Stacked.outer
    {tags : List StartTag}
    {inner stack : List FrameSort}
    (hStacked : Stacked tags (inner ++ stack)) :
    Stacked (tags.drop inner.length) stack := by
  induction inner generalizing tags with
  | nil => exact hStacked
  | cons sort inner ih =>
      cases tags with
      | nil => cases hStacked
      | cons tag tags => exact ih hStacked.2

/- Nothing stands directly on a literal. -/
theorem FrameSort.ofChild?_literal
    {tag : StartTag}
    {below sort : FrameSort}
    (hChild : below.ofChild? tag = some sort) :
    below ≠ .literal := by
  rintro rfl
  cases hChild

/- Only a document element opens a root. -/
theorem FrameSort.ofChild?_root
    {tag : StartTag}
    {below sort : FrameSort}
    (hChild : below.ofChild? tag = some sort) :
    sort ≠ .root := by
  rintro rfl
  cases below with
  | node =>
      simp only [ofChild?, Option.some.injEq] at hChild
      generalize
        PropertyForm.ofAttributes
          (ElementAttributes.ofList tag.attributes) = form
        at hChild
      cases form with
      | _ => cases hChild
  | _ => cases hChild

/- Only a property opens a frame of a property. -/
theorem FrameSort.ofNext?_property
    {tag : StartTag}
    {stack : List FrameSort}
    {sort : FrameSort}
    (hNext : ofNext? tag stack = some sort)
    (hSort : sort.isProperty = true) :
    ∃ outer, stack = .node :: outer := by
  cases stack with
  | nil =>
      simp only [ofNext?, ofRoot, Option.some.injEq] at hNext
      subst hNext
      split at hSort
      · cases hSort
      · cases hSort
  | cons below outer =>
      cases below with
      | node => exact ⟨outer, rfl⟩
      | root =>
          cases hNext
          cases hSort
      | property =>
          cases hNext
          cases hSort
      | collection =>
          cases hNext
          cases hSort
      | literal => cases hNext

namespace Machine

------------------------------------------------------------
-- What A Start Tag Opens
------------------------------------------------------------

/-
  One machine is another with one more frame of this sort.
  The other frames may have been changed, but not into
  something else.
-/
def Opens
    (m : Machine)
    (sort : FrameSort)
    (after : Machine) : Prop :=
  ∃ frame outer,
    after.frames = frame :: outer ∧
      frame.kind.sort = sort ∧
      frame.kind.depth = 0 ∧
      sorts outer = sorts m.frames ∧
      after.rootClosed = m.rootClosed

/- Two machines have frames of the same sorts. -/
def Resembles (after m : Machine) : Prop :=
  sorts after.frames = sorts m.frames ∧
    after.rootClosed = m.rootClosed

theorem push_opens
    {m after : Machine}
    (hResembles : after.Resembles m)
    (scope : Scope)
    {kind : FrameKind}
    (hDepth : kind.depth = 0) :
    m.Opens kind.sort (after.push scope kind).1 :=
  ⟨_, _, rfl, rfl, hDepth, hResembles.1, hResembles.2⟩

theorem setTop_resembles
    {m : Machine}
    {frame : Frame}
    {outer : List Frame}
    (hFrames : m.frames = frame :: outer)
    (kind : FrameKind)
    (hSort : kind.sort = frame.kind.sort) :
    (m.setTop kind).Resembles m := by
  constructor
  · simp [setTop, hFrames, sorts, hSort]
  · simp [setTop, hFrames]

theorem nodeSubject_resembles
    (m : Machine)
    (attributes : ElementAttributes)
    (scope : Scope) :
    (m.nodeSubject attributes scope).1.Resembles m := by
  unfold nodeSubject
  split
  · exact ⟨rfl, rfl⟩
  · exact ⟨rfl, rfl⟩
  · exact ⟨rfl, rfl⟩
  · exact ⟨rfl, rfl⟩

theorem linkToParent_resembles
    (m : Machine)
    (subject : String) :
    (m.linkToParent subject).1.Resembles m := by
  unfold linkToParent
  split
  · next hFrames _ => exact setTop_resembles hFrames _ rfl
  · next hFrames _ =>
      have hIssued : m.issue.frames = _ := hFrames
      exact setTop_resembles hIssued _ rfl
  · exact ⟨rfl, rfl⟩

theorem nodeElement_opens
    (m : Machine)
    (tag : StartTag)
    (attributes : ElementAttributes)
    (scope : Scope) :
    m.Opens .node
      (m.nodeElement tag attributes scope).1 := by
  have hSubject := nodeSubject_resembles m attributes scope
  have hLink :=
    linkToParent_resembles
      (m.nodeSubject attributes scope).1
      (m.nodeSubject attributes scope).2
  have hResembles :
      ((m.nodeSubject attributes scope).1.linkToParent
        (m.nodeSubject attributes scope).2).1.Resembles m :=
    ⟨hLink.1.trans hSubject.1, hLink.2.trans hSubject.2⟩
  exact push_opens hResembles scope rfl

/- A property opens the frame of its form. -/
theorem openProperty_opens
    {m after : Machine}
    (hResembles : after.Resembles m)
    (attributes : ElementAttributes)
    (scope : Scope)
    (subject : String)
    (link : Link) :
    m.Opens (PropertyForm.ofAttributes attributes).sort
      (after.openProperty attributes scope subject
        link).1 := by
  unfold openProperty PropertyForm.ofAttributes
  cases attributes.parseType? with
  | some parseType =>
      dsimp only
      split
      · exact push_opens hResembles scope rfl
      · split
        · exact push_opens hResembles scope rfl
        · exact push_opens hResembles scope rfl
  | none =>
      dsimp only
      split
      · unfold objectProperty
        cases attributes.resource? with
        | some resource =>
            exact push_opens hResembles scope rfl
        | none =>
            cases attributes.nodeId? with
            | some nodeId =>
                exact push_opens hResembles scope rfl
            | none => exact push_opens hResembles scope rfl
      · unfold contentProperty
        split
        · exact push_opens hResembles scope rfl
        · exact push_opens hResembles scope rfl

theorem propertyElement_opens
    {m : Machine}
    {nodeScope : Scope}
    {subject : String}
    {members : Nat}
    {outer : List Frame}
    (hFrames :
      m.frames =
        ⟨nodeScope, .node subject members⟩ :: outer)
    (tag : StartTag)
    (attributes : ElementAttributes)
    (scope : Scope) :
    m.Opens (PropertyForm.ofAttributes attributes).sort
      (m.propertyElement tag attributes scope).1 := by
  unfold propertyElement
  rw [hFrames]
  dsimp only
  split
  · have hCounted :=
      setTop_resembles hFrames (.node subject (members + 1))
        rfl
    exact openProperty_opens hCounted attributes scope
      subject _
  · exact openProperty_opens ⟨rfl, rfl⟩ attributes scope
      subject _

/- A start tag outside of literals opens one frame. -/
theorem startElement_opens
    {m : Machine}
    {tag : StartTag}
    {sort : FrameSort}
    (hOpen : m.rootClosed = false)
    (hNext :
      FrameSort.ofNext? tag (sorts m.frames) = some sort) :
    m.Opens sort (m.startElement tag).1 := by
  unfold startElement
  rw [hOpen]
  dsimp only [after]
  cases hFrames : m.frames with
  | nil =>
      rw [hFrames] at hNext
      simp only [sorts, List.map_nil, FrameSort.ofNext?,
        FrameSort.ofRoot, Option.some.injEq] at hNext
      subst hNext
      simp only [roleOfNext, openElement, hFrames,
        List.isEmpty_nil, Bool.true_and, after]
      split
      · exact push_opens ⟨rfl, rfl⟩ _ rfl
      · exact nodeElement_opens m tag _ _
  | cons frame outer =>
      rcases frame with ⟨scope, kind⟩
      rw [hFrames] at hNext
      cases kind with
      | literal link markup depth => cases hNext
      | node subject members =>
          cases hNext
          simp only [roleOfNext, FrameKind.roleOfChild,
            openElement, hFrames, List.isEmpty_cons,
            Bool.false_and, after]
          exact propertyElement_opens hFrames tag _ _
      | root =>
          cases hNext
          simp only [roleOfNext, FrameKind.roleOfChild,
            openElement, hFrames, List.isEmpty_cons,
            Bool.false_and, after]
          exact nodeElement_opens m tag _ _
      | property link datatype? text hasObject =>
          cases hNext
          simp only [roleOfNext, FrameKind.roleOfChild,
            openElement, hFrames, List.isEmpty_cons,
            Bool.false_and, after]
          exact nodeElement_opens m tag _ _
      | collection link tail? =>
          cases hNext
          simp only [roleOfNext, FrameKind.roleOfChild,
            openElement, hFrames, List.isEmpty_cons,
            Bool.false_and, after]
          exact nodeElement_opens m tag _ _

------------------------------------------------------------
-- Frames Along Events
------------------------------------------------------------

/-
  The number of elements that are open in the XML literal
  that is the innermost frame, if it is one.
-/
def literalDepth (m : Machine) : Nat :=
  match m.frames with
  | frame :: _ => frame.kind.depth
  | [] => 0

/-
  The frames are those of the open elements, and nothing is
  ignored before the document element has ended.
-/
structure Framed
    (n : Nesting)
    (m : Machine) : Prop where
  stacked :
    Stacked (n.openTags.drop m.literalDepth) (sorts m.frames)
  closed : m.rootClosed = (n.hasRoot && n.openTags.isEmpty)
  begun : n.openTags ≠ [] → n.hasRoot = true

theorem literalDepth_cons
    {m : Machine}
    {frame : Frame}
    {outer : List Frame}
    (hFrames : m.frames = frame :: outer) :
    m.literalDepth = frame.kind.depth := by
  rw [literalDepth, hFrames]

theorem start_framed (options : Options) :
    Framed .start (Machine.start options) where
  stacked := trivial
  closed := rfl
  begun := by
    intro hSome
    exact absurd rfl hSome

namespace Framed

variable
  {n next : Nesting}
  {m : Machine}

/- Every open element is a frame or counted by one. -/
theorem counted (hFramed : Framed n m) :
    m.frames.length + m.literalDepth =
      n.openTags.length := by
  have hLength := hFramed.stacked.length_eq
  rw [List.length_drop, sorts, List.length_map] at hLength
  cases hFrames : m.frames with
  | nil =>
      have hDepth : m.literalDepth = 0 := by
        rw [literalDepth, hFrames]
      rw [hFrames, hDepth] at hLength
      simp only [List.length_nil] at hLength ⊢
      omega
  | cons frame outer =>
      rw [hFrames] at hLength
      simp only [List.length_cons] at hLength ⊢
      omega

/-
  When the innermost frame keeps its sort, only the number of
  elements open in it matters.
-/
theorem setTop
    {frame : Frame}
    {outer : List Frame}
    {kind : FrameKind}
    (hFramed : Framed n m)
    (hFrames : m.frames = frame :: outer)
    (hSort : kind.sort = frame.kind.sort)
    (hTags :
      next.openTags.drop kind.depth =
        n.openTags.drop frame.kind.depth)
    (hOpen : m.rootClosed = false)
    (hSome : next.openTags ≠ [])
    (hBegun : next.hasRoot = true) :
    Framed next (m.setTop kind) := by
  have hStacked := hFramed.stacked
  have hResembles := setTop_resembles hFrames kind hSort
  rw [literalDepth_cons hFrames] at hStacked
  refine ⟨?_, ?_, fun _ => hBegun⟩
  · rw [hResembles.1]
    simpa [literalDepth, Machine.setTop, hFrames, hTags]
      using hStacked
  · rw [hResembles.2, hOpen]
    cases hNext : next.openTags with
    | nil => exact absurd hNext hSome
    | cons tag tags => simp

/- A machine with a frame has an open element. -/
theorem openTags_of_frames
    {frame : Frame}
    {outer : List Frame}
    (hFramed : Framed n m)
    (hFrames : m.frames = frame :: outer) :
    n.openTags ≠ [] ∧
      n.hasRoot = true ∧ m.rootClosed = false := by
  have hSome : n.openTags ≠ [] := by
    intro hNone
    have hCounted := hFramed.counted
    rw [hNone, hFrames] at hCounted
    simp at hCounted
  refine ⟨hSome, hFramed.begun hSome, ?_⟩
  rw [hFramed.closed]
  cases hTags : n.openTags with
  | nil => exact absurd hTags hSome
  | cons tag tags => simp

theorem characters
    (hFramed : Framed n m)
    (content : String) :
    Framed n (m.characters content) := by
  unfold Machine.characters
  split
  · next hFrames =>
      rcases hFramed.openTags_of_frames hFrames with
        ⟨hSome, hBegun, hOpen⟩
      exact hFramed.setTop hFrames rfl rfl hOpen hSome hBegun
  · next hFrames =>
      rcases hFramed.openTags_of_frames hFrames with
        ⟨hSome, hBegun, hOpen⟩
      exact hFramed.setTop hFrames rfl rfl hOpen hSome hBegun
  · exact hFramed

/- Where a start tag may stand the document goes on. -/
theorem open_of_start
    {tag : StartTag}
    (hFramed : Framed n m)
    (hStep : n.step? (.startElement tag) = some next) :
    m.rootClosed = false ∧
      next = ⟨tag :: n.openTags, true⟩ := by
  have hClosed := hFramed.closed
  have hBegun := hFramed.begun
  rcases n with ⟨tags, hasRoot⟩
  cases tags with
  | nil =>
      cases hasRoot with
      | true => cases hStep
      | false =>
          cases hStep
          exact ⟨hClosed, rfl⟩
  | cons outer tags =>
      cases hStep
      rw [List.isEmpty_cons, Bool.and_false] at hClosed
      exact ⟨hClosed, by rw [hBegun (by simp)]⟩

theorem startElement
    {tag : StartTag}
    (hFramed : Framed n m)
    (hStep : n.step? (.startElement tag) = some next) :
    Framed next (m.startElement tag).1 := by
  rcases hFramed.open_of_start hStep with ⟨hOpen, rfl⟩
  have hStacked := hFramed.stacked
  cases hNext : FrameSort.ofNext? tag (sorts m.frames) with
  | some sort =>
      rcases startElement_opens hOpen hNext with
        ⟨frame, outer, hFrames, hSort, hDepth, hSorts,
          hClosed⟩
      -- a frame that is not a literal's counts nothing
      have hNone : m.literalDepth = 0 := by
        cases hTop : m.frames with
        | nil => rw [literalDepth, hTop]
        | cons top rest =>
            rw [hTop] at hNext
            have hOther := FrameSort.ofChild?_literal hNext
            rw [literalDepth_cons hTop]
            rcases top with ⟨scope, kind⟩
            cases kind with
            | literal link markup depth =>
                exact absurd rfl hOther
            | _ => rfl
      rw [hNone] at hStacked
      refine ⟨?_, ?_, fun _ => rfl⟩
      · rw [literalDepth_cons hFrames, hDepth, hFrames]
        rw [← hSorts] at hStacked hNext
        rw [← hSort] at hNext
        exact ⟨hNext, hStacked⟩
      · rw [hClosed, hOpen]
        rfl
  | none =>
      -- only a literal opens nothing
      cases hFrames : m.frames with
      | nil =>
          rw [hFrames] at hNext
          cases hNext
      | cons top rest =>
          rw [hFrames] at hNext
          rcases top with ⟨scope, kind⟩
          cases kind with
          | literal link markup depth =>
              have hAfter :
                  (m.startElement tag).1 =
                    m.setTop
                      (.literal link
                        (markup ++ startTagText tag)
                        (depth + 1)) := by
                simp [Machine.startElement, hOpen, hFrames,
                  roleOfNext, FrameKind.roleOfChild,
                  captureStartTag, after]
              rw [hAfter]
              exact hFramed.setTop hFrames rfl rfl hOpen
                (by simp) rfl
          | _ => cases hNext

/- The end of an element that is no content of a literal. -/
theorem pop
    {tag : StartTag}
    {tags : List StartTag}
    {frame : Frame}
    {outer : List Frame}
    (hFramed : Framed ⟨tag :: tags, true⟩ m)
    (hFrames : m.frames = frame :: outer)
    (hDepth : frame.kind.depth = 0)
    (name : Name) :
    Framed ⟨tags, true⟩ (m.pop name).1 := by
  have hStacked := hFramed.stacked
  rcases hFramed.openTags_of_frames hFrames with
    ⟨_, _, hOpen⟩
  rw [literalDepth_cons hFrames, hDepth, hFrames] at hStacked
  rcases hStacked with ⟨hNext, hOuter⟩
  have hAfter :
      (m.pop name).1 =
        { m with
          frames := outer
          rootClosed := m.rootClosed || outer.isEmpty } := by
    simp [Machine.pop, hFrames]
  rw [hAfter]
  refine ⟨?_, ?_, fun _ => rfl⟩
  · cases outer with
    | nil => exact hOuter
    | cons below outer =>
        -- nothing stands on a literal, so nothing is counted
        have hOther := FrameSort.ofChild?_literal hNext
        have hNone : below.kind.depth = 0 := by
          rcases below with ⟨scope, kind⟩
          cases kind with
          | literal link markup depth =>
              exact absurd rfl hOther
          | _ => rfl
        simp only [literalDepth, hNone]
        exact hOuter
  · rw [hOpen]
    cases outer with
    | nil =>
        cases tags with
        | nil => rfl
        | cons tag tags => cases hOuter
    | cons below outer =>
        cases tags with
        | nil => cases hOuter
        | cons tag tags => rfl

theorem endElement
    {name : Name}
    (hFramed : Framed n m)
    (hStep : n.step? (.endElement name) = some next) :
    Framed next (m.endElement name).1 := by
  rcases Nesting.step?_endElement hStep with
    ⟨tag, tags, hTags, _, rfl⟩
  have hCounted := hFramed.counted
  have hBegun := hFramed.begun
  rcases n with ⟨_, hasRoot⟩
  dsimp only at hTags hCounted hBegun ⊢
  subst hTags
  have hRoot : hasRoot = true := hBegun (by simp)
  subst hRoot
  cases hFrames : m.frames with
  | nil =>
      rw [literalDepth, hFrames] at hCounted
      simp at hCounted
  | cons frame outer =>
      rw [literalDepth_cons hFrames, hFrames] at hCounted
      rcases frame with ⟨scope, kind⟩
      unfold Machine.endElement
      rw [hFrames]
      split
      · next link markup depth _ hTop =>
          cases hTop
          rcases hFramed.openTags_of_frames hFrames with
            ⟨_, _, hOpen⟩
          have hSome : tags ≠ [] := by
            rintro rfl
            simp only [FrameKind.depth, List.length_cons,
              List.length_nil] at hCounted
            omega
          have hInner :
              (FrameKind.literal link
                (markup ++ endTagText name) depth).sort =
                .literal := rfl
          exact hFramed.setTop hFrames hInner rfl hOpen hSome
            rfl
      · next hOther =>
          apply hFramed.pop hFrames
          cases kind with
          | literal link markup depth =>
              cases depth with
              | zero => rfl
              | succ depth =>
                  exact absurd rfl
                    (hOther scope link markup depth outer)
          | _ => rfl

/- Every event leaves the frames in step with the elements. -/
theorem step
    {event : Event}
    (hFramed : Framed n m)
    (hStep : n.step? event = some next) :
    Framed next (m.step event).1 := by
  cases event with
  | startElement tag => exact hFramed.startElement hStep
  | endElement name => exact hFramed.endElement hStep
  | characters content =>
      rw [(Nesting.step?_characters hStep).2]
      exact hFramed.characters content

/- So do events in order. -/
theorem run
    {events : List Event}
    (hFramed : Framed n m)
    (hRun : n.run? events = some next) :
    Framed next (m.run events).1 := by
  induction events generalizing n m with
  | nil =>
      cases hRun
      exact hFramed
  | cons event events ih =>
      rcases Option.bind_eq_some_iff.mp hRun with
        ⟨later, hStep, hRest⟩
      exact ih (hFramed.step hStep) hRest

end Framed

end Machine

------------------------------------------------------------
-- Frames On One Another
------------------------------------------------------------

/-
  How frames stand on one another, innermost first, when
  these are the start tags that opened them.
-/
structure Layered
    (tags : List StartTag)
    (frames : List Frame) : Prop where
  bottom : ∀ inner frame,
    frames = inner ++ [frame] →
      frame.kind.sort = .root ∨ frame.kind.sort = .node
  root : ∀ inner frame outer,
    frames = inner ++ frame :: outer →
      frame.kind.sort = .root → outer = []
  onParent : ∀ inner above below outer,
    frames = inner ++ above :: below :: outer →
      below.kind.sort = .root ∨
          below.kind.sort = .property ∨
          below.kind.sort = .collection →
        above.kind.sort = .node
  onNode : ∀ inner above below outer,
    frames = inner ++ above :: below :: outer →
      below.kind.sort = .node →
        above.kind.sort.isProperty = true ∨
          above.kind.sort = .node ∧
            ∃ tag,
              tags[inner.length]? = some tag ∧
                (ElementAttributes.ofList
                  tag.attributes).parseType? =
                    some "Resource"
  literal : ∀ inner frame outer,
    frames = inner ++ frame :: outer →
      frame.kind.sort = .literal → inner = []

/- A frame is what its start tag opens on the others. -/
theorem Stacked.at
    {tags : List StartTag}
    {frames : List Frame}
    (hStacked : Stacked tags (sorts frames))
    {inner outer : List Frame}
    {frame : Frame}
    (hFrames : frames = inner ++ frame :: outer) :
    ∃ tag,
      tags[inner.length]? = some tag ∧
        FrameSort.ofNext? tag (sorts outer) =
          some frame.kind.sort := by
  have hLength : (sorts inner).length = inner.length :=
    List.length_map _
  rw [hFrames, sorts, List.map_append] at hStacked
  have hOuter := hStacked.outer
  rw [← sorts, hLength] at hOuter
  cases hDrop : tags.drop inner.length with
  | nil =>
      rw [hDrop] at hOuter
      cases hOuter
  | cons tag rest =>
      rw [hDrop] at hOuter
      refine ⟨tag, ?_, hOuter.1⟩
      have hHead :
          (tags.drop inner.length).head? =
            tags[inner.length]? :=
        List.head?_drop
      rw [hDrop] at hHead
      exact hHead.symm

/- A node on a node is the content of a resource property. -/
theorem PropertyForm.sort_node
    {attributes : ElementAttributes}
    (hSort :
      (PropertyForm.ofAttributes attributes).sort = .node) :
    attributes.parseType? = some "Resource" := by
  unfold PropertyForm.ofAttributes at hSort
  cases hType : attributes.parseType? with
  | none =>
      rw [hType] at hSort
      dsimp only at hSort
      split at hSort
      · cases hSort
      · cases hSort
  | some parseType =>
      rw [hType] at hSort
      dsimp only at hSort
      split at hSort
      · next hResource => rw [hResource]
      · split at hSort
        · cases hSort
        · cases hSort

theorem PropertyForm.sort_cases (form : PropertyForm) :
    form.sort.isProperty = true ∨ form.sort = .node := by
  cases form with
  | resource => exact Or.inr rfl
  | _ => exact Or.inl rfl

/- Frames that start tags have opened are layered. -/
theorem Stacked.layered
    {tags : List StartTag}
    {frames : List Frame}
    (hStacked : Stacked tags (sorts frames)) :
    Layered tags frames where
  bottom := by
    intro inner frame hFrames
    rcases hStacked.at hFrames with ⟨tag, _, hNext⟩
    simp only [sorts, List.map_nil, FrameSort.ofNext?,
      FrameSort.ofRoot, Option.some.injEq] at hNext
    rw [← hNext]
    split
    · exact Or.inl rfl
    · exact Or.inr rfl
  root := by
    intro inner frame outer hFrames hRoot
    rcases hStacked.at hFrames with ⟨tag, _, hNext⟩
    cases outer with
    | nil => rfl
    | cons below outer =>
        exact absurd hRoot (FrameSort.ofChild?_root hNext)
  onParent := by
    intro inner above below outer hFrames hBelow
    rcases hStacked.at hFrames with ⟨tag, _, hNext⟩
    simp only [sorts, List.map_cons, FrameSort.ofNext?]
      at hNext
    rcases hBelow with hBelow | hBelow | hBelow
    · rw [hBelow] at hNext
      exact (Option.some.inj hNext).symm
    · rw [hBelow] at hNext
      exact (Option.some.inj hNext).symm
    · rw [hBelow] at hNext
      exact (Option.some.inj hNext).symm
  onNode := by
    intro inner above below outer hFrames hBelow
    rcases hStacked.at hFrames with ⟨tag, hTag, hNext⟩
    simp only [sorts, List.map_cons, FrameSort.ofNext?]
      at hNext
    rw [hBelow] at hNext
    have hSort := Option.some.inj hNext
    rw [← hSort]
    rcases PropertyForm.sort_cases
        (PropertyForm.ofAttributes
          (ElementAttributes.ofList tag.attributes))
      with hProperty | hNode
    · exact Or.inl hProperty
    · exact Or.inr
        ⟨hNode, tag, hTag, PropertyForm.sort_node hNode⟩
  literal := by
    intro inner frame outer hFrames hLiteral
    rcases inner.eq_nil_or_concat with hNil | ⟨front, above,
      rfl⟩
    · exact hNil
    · rw [List.concat_eq_append, List.append_assoc]
        at hFrames
      rcases hStacked.at hFrames with ⟨tag, _, hNext⟩
      exact absurd hLiteral (FrameSort.ofChild?_literal hNext)

------------------------------------------------------------
-- Properties Of Nodes
------------------------------------------------------------

/- The frame directly below is the node of a subject. -/
def StandsOn
    (subject : String)
    (outer : List Frame) : Prop :=
  ∃ scope members rest,
    outer = ⟨scope, .node subject members⟩ :: rest

/-
  What a node stands in directly inside of a frame that
  stands on a subject, and the last list node so far.
-/
def FrameKind.parentOf
    (subject : String) :
    FrameKind → Parent × Option String
| .property link _ _ _ => (.property link subject, none)
| .collection link tail? => (.collection link subject, tail?)
| _ => (.document, none)

/-
  The object that a property gets when it ends, if it has none
  until then.
-/
def Frame.lastObject? :
    Frame → Option (Link × Object)
| ⟨scope, .property link datatype? text false⟩ =>
    some (link, Machine.contentObject scope datatype? text)
| ⟨_, .literal link markup _⟩ =>
    some
      (link,
        .literal (Machine.trimText markup) Rdf.xmlLiteralIri
          "")
| ⟨_, .collection link none⟩ =>
    some (link, .ofResource Rdf.nilIri)
| _ => none

theorem StandsOn.encloses
    {subject : String}
    {outer : List Frame}
    (hStands : StandsOn subject outer) :
    enclosingSubject? outer = some subject := by
  rcases hStands with ⟨scope, members, rest, rfl⟩
  rfl

/- A property does not hide the node that it stands on. -/
theorem StandsOn.encloses_property
    {subject : String}
    {frame : Frame}
    {outer : List Frame}
    (hStands : StandsOn subject outer)
    (hSort : frame.kind.sort.isProperty = true) :
    enclosingSubject? (frame :: outer) = some subject := by
  rcases hStands with ⟨scope, members, rest, rfl⟩
  rcases frame with ⟨inner, kind⟩
  cases kind with
  | root => cases hSort
  | node subject members => cases hSort
  | _ => rfl

theorem StandsOn.links
    {m : Machine}
    {subject : String}
    {frame : Frame}
    {outer : List Frame}
    (hStands : StandsOn subject outer)
    (hFrames : m.frames = frame :: outer)
    (hSort : frame.kind.sort.isProperty = true)
    (node : String) :
    (m.linkToParent node).2 =
      statementSignals
        (Grammar.attach (frame.kind.parentOf subject).1
          (frame.kind.parentOf subject).2 m.blankNodes
          node).1 := by
  rcases frame with ⟨scope, kind⟩
  have hEncloses := hStands.encloses
  cases kind with
  | root => cases hSort
  | node subject members => cases hSort
  | literal link markup depth =>
      simp only [Machine.linkToParent, hFrames]
      rfl
  | property link datatype? text hasObject =>
      have hParent :
          (Parent.property link subject).Stands outer :=
        hEncloses
      have hFrame :
          m.frames =
            ⟨scope,
              (Parent.property link subject).kind none
                datatype? text hasObject⟩ :: outer :=
        hFrames
      rw [Machine.linkToParent_attach m hFrame hParent]
      rfl
  | collection link tail? =>
      have hParent :
          (Parent.collection link subject).Stands outer :=
        hEncloses
      have hFrame :
          m.frames =
            ⟨scope,
              (Parent.collection link subject).kind tail?
                none "" false⟩ :: outer :=
        hFrames
      rw [Machine.linkToParent_attach m hFrame hParent]
      rfl

theorem StandsOn.closes
    {subject : String}
    {frame : Frame}
    {outer : List Frame}
    {link : Link}
    {object : Object}
    (hStands : StandsOn subject outer)
    (hObject : frame.lastObject? = some (link, object)) :
    Machine.closeFrame outer frame =
      link.statements subject object := by
  have hEncloses := hStands.encloses
  unfold Frame.lastObject? at hObject
  split at hObject
  · cases hObject
    simp [Machine.closeFrame, hEncloses]
  · cases hObject
    simp [Machine.closeFrame, hEncloses]
  · cases hObject
    simp [Machine.closeFrame, hEncloses]
  · cases hObject

/- A property that gets an object at its end is a property. -/
theorem Frame.lastObject?_isProperty
    {frame : Frame}
    {link : Link}
    {object : Object}
    (hObject : frame.lastObject? = some (link, object)) :
    frame.kind.sort.isProperty = true := by
  unfold Frame.lastObject? at hObject
  split at hObject
  · rfl
  · rfl
  · rfl
  · cases hObject

namespace Machine

/-
  Every property stands on the node that it is a property of.
  The subject of that node is the enclosing one, from inside
  of the property and after it has ended; nodes are linked to
  it and objects are given to it.
-/
structure Grounded (m : Machine) : Prop where
  attached : ∀ inner frame outer,
    m.frames = inner ++ frame :: outer →
      frame.kind.sort.isProperty = true →
        ∃ subject,
          StandsOn subject outer ∧
            enclosingSubject? (frame :: outer) =
              some subject ∧
            enclosingSubject? outer = some subject
  links : ∀ frame outer supply node,
    m.frames = frame :: outer →
      frame.kind.sort.isProperty = true →
        ∃ subject,
          StandsOn subject outer ∧
            (linkToParent { m with blankNodes := supply }
                node).2 =
              statementSignals
                (Grammar.attach
                  (frame.kind.parentOf subject).1
                  (frame.kind.parentOf subject).2
                  supply node).1
  closes : ∀ frame outer link object,
    m.frames = frame :: outer →
      frame.lastObject? = some (link, object) →
        ∃ subject,
          StandsOn subject outer ∧
            closeFrame outer frame =
              link.statements subject object

/-
  The frames are what an event needs: a property element
  finds its node, markup its literal, and an end its frame.
-/
def Heeds (m : Machine) : Event → Prop
| .startElement _ =>
    m.rootClosed = false ∧
      (roleOfNext m.frames = .property →
        ∃ subject, StandsOn subject m.frames) ∧
      (roleOfNext m.frames = .literalContent →
        ∃ scope link markup depth outer,
          m.frames =
            ⟨scope, .literal link markup depth⟩ :: outer)
| .endElement _ => m.frames ≠ []
| .characters _ => m.frames ≠ []

namespace Framed

variable
  {n next : Nesting}
  {m : Machine}

/- A property frame stands on a node. -/
theorem standsOn
    (hFramed : Framed n m)
    (inner : List Frame)
    {frame : Frame}
    {outer : List Frame}
    (hFrames : m.frames = inner ++ frame :: outer)
    (hSort : frame.kind.sort.isProperty = true) :
    ∃ subject, StandsOn subject outer := by
  rcases hFramed.stacked.at hFrames with ⟨tag, _, hNext⟩
  rcases FrameSort.ofNext?_property hNext hSort with
    ⟨rest, hRest⟩
  cases outer with
  | nil => cases hRest
  | cons below outer =>
      rcases below with ⟨scope, kind⟩
      cases kind with
      | node subject members =>
          exact ⟨subject, scope, members, outer, rfl⟩
      | _ => cases hRest

theorem grounded (hFramed : Framed n m) :
    m.Grounded where
  attached := by
    intro inner frame outer hFrames hSort
    rcases hFramed.standsOn inner hFrames hSort with
      ⟨subject, hStands⟩
    exact ⟨subject, hStands,
      hStands.encloses_property hSort, hStands.encloses⟩
  links := by
    intro frame outer supply node hFrames hSort
    rcases hFramed.standsOn [] hFrames hSort with
      ⟨subject, hStands⟩
    refine ⟨subject, hStands, ?_⟩
    apply hStands.links _ hSort
    exact hFrames
  closes := by
    intro frame outer link object hFrames hObject
    have hSort := Frame.lastObject?_isProperty hObject
    rcases hFramed.standsOn [] hFrames hSort with
      ⟨subject, hStands⟩
    exact ⟨subject, hStands, hStands.closes hObject⟩

/- No event is ignored where it may stand. -/
theorem heeds
    {event : Event}
    (hFramed : Framed n m)
    (hStep : n.step? event = some next) :
    m.Heeds event := by
  have hCounted := hFramed.counted
  have hSome : n.openTags ≠ [] → m.frames ≠ [] := by
    intro hTags hNone
    rw [literalDepth, hNone] at hCounted
    exact hTags (List.length_eq_zero_iff.mp hCounted.symm)
  cases event with
  | characters content =>
      exact hSome (Nesting.step?_characters hStep).1
  | endElement name =>
      rcases Nesting.step?_endElement hStep with
        ⟨tag, outer, hTags, _⟩
      exact hSome (by simp [hTags])
  | startElement tag =>
      refine ⟨(hFramed.open_of_start hStep).1, ?_, ?_⟩
      · intro hRole
        cases hFrames : m.frames with
        | nil =>
            rw [hFrames] at hRole
            cases hRole
        | cons frame outer =>
            rw [hFrames] at hRole
            rcases frame with ⟨scope, kind⟩
            cases kind with
            | node subject members =>
                exact ⟨subject, scope, members, outer, rfl⟩
            | _ => cases hRole
      · intro hRole
        cases hFrames : m.frames with
        | nil =>
            rw [hFrames] at hRole
            cases hRole
        | cons frame outer =>
            rw [hFrames] at hRole
            rcases frame with ⟨scope, kind⟩
            cases kind with
            | literal link markup depth =>
                exact ⟨scope, link, markup, depth, outer,
                  rfl⟩
            | _ => cases hRole

end Framed

end Machine

end RdfXml
