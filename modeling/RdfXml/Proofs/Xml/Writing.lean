import RdfXml.Proofs.Xml.Chunks
import RdfXml.Proofs.Xml.Event
import RdfXml.Proofs.Xml.Nesting
import RdfXml.Proofs.Xml.Spelling

/-
  Events written as markup, and read back.

  Nested events whose start tags can be written, and whose
  names stand for what they stand for in the scope, are
  exactly what a tokenizer delivers for their markup.

  Main declarations:
    * `Event.markup`
    * `StartTag.ResolvedIn`
    * `Nesting.Admits`
    * `Event.Spaced`
    * `Tokenizer.At`
    * `Tokenizer.read_event`
    * `Tokenizer.read_markup`
    * `Tokenizer.feed_markup`
-/

------------------------------------------------------------
-- Markup
------------------------------------------------------------

namespace RdfXml

namespace Event

/- An event as it is written in a document. -/
def markup : Event → String
| .startElement tag => Machine.startTagText tag
| .endElement name => Machine.endTagText name
| .characters text => Reference.escape text

/- Events as they are written in a document. -/
def markupAll (events : List Event) : String :=
  String.join (events.map markup)

theorem markupAll_cons
    (event : Event)
    (events : List Event) :
    markupAll (event :: events) =
      event.markup ++ markupAll events := by
  rw [markupAll, List.map_cons, String.join_cons]
  rfl

theorem markupAll_append
    (first second : List Event) :
    markupAll (first ++ second) =
      markupAll first ++ markupAll second := by
  induction first with
  | nil =>
      apply String.toList_inj.mp
      simp [markupAll, String.join]
  | cons event first ih =>
      rw [List.cons_append, markupAll_cons, ih,
        markupAll_cons, String.append_assoc]

/-
  No text is empty, and no text directly follows another one.
-/
def Spaced : List Event → Prop
| [] => True
| .characters text :: rest =>
    text ≠ "" ∧
      (∀ more tail, rest ≠ .characters more :: tail) ∧
      Spaced rest
| .startElement _ :: rest => Spaced rest
| .endElement _ :: rest => Spaced rest

theorem Spaced.tail
    {event : Event}
    {events : List Event}
    (hSpaced : Spaced (event :: events)) :
    Spaced events := by
  cases event with
  | startElement tag => exact hSpaced
  | endElement name => exact hSpaced
  | characters text => exact hSpaced.2.2

end Event

------------------------------------------------------------
-- Scopes
------------------------------------------------------------

/-
  A start tag that can be written, with names that stand for
  what they stand for when these bindings are in scope around
  the element.
-/
structure StartTag.ResolvedIn
    (bindings : Bindings)
    (tag : StartTag) : Prop where
  spelled : tag.Spelled
  name :
    Bindings.resolveElement
        (tag.declarations.reverse ++ bindings)
        tag.name.toQName = .ok tag.name
  attributes : ∀ a ∈ tag.attributes,
    Bindings.resolveAttribute
        (tag.declarations.reverse ++ bindings)
        a.name.toQName = .ok a.name

/- What an event needs of the bindings in scope. -/
def Event.FitsIn
    (bindings : Bindings)
    (event : Event) : Prop :=
  match event with
  | .startElement tag => tag.ResolvedIn bindings
  | .endElement _ => True
  | .characters _ => True

namespace Nesting

/-
  Events lead from one nesting to another, and each of them
  fits in the bindings of the elements around it.
-/
def Admits : Nesting → List Event → Nesting → Prop
| n, [], last => n = last
| n, event :: rest, last =>
    ∃ next,
      n.step? event = some next ∧
        event.FitsIn (bindingsOf n.openTags) ∧
          next.Admits rest last

theorem Admits.run?
    {n last : Nesting}
    {events : List Event}
    (hAdmits : n.Admits events last) :
    n.run? events = some last := by
  induction events generalizing n with
  | nil =>
      cases hAdmits
      rfl
  | cons event events ih =>
      rcases hAdmits with ⟨next, hStep, _, hRest⟩
      rw [Nesting.run?, hStep]
      exact ih hRest

/- Every tag that is left open can be written. -/
theorem Admits.spelled
    {n last : Nesting}
    {events : List Event}
    (hAdmits : n.Admits events last)
    (hSpelled : ∀ tag ∈ n.openTags, tag.Spelled) :
    ∀ tag ∈ last.openTags, tag.Spelled := by
  induction events generalizing n with
  | nil =>
      cases hAdmits
      exact hSpelled
  | cons event events ih =>
      rcases hAdmits with ⟨next, hStep, hFits, hRest⟩
      apply ih hRest
      cases event with
      | characters text =>
          rw [(step?_characters hStep).2]
          exact hSpelled
      | endElement name =>
          rcases step?_endElement hStep with
            ⟨tag, outer, hTags, _, rfl⟩
          intro x hMember
          exact hSpelled x (by simp [hTags, hMember])
      | startElement tag =>
          rw [step?_startElement hStep]
          intro x hMember
          rcases List.mem_cons.mp hMember with rfl | hOuter
          · exact hFits.spelled
          · exact hSpelled x hOuter

theorem admits_append
    {n last : Nesting}
    {first second : List Event} :
    n.Admits (first ++ second) last ↔
      ∃ middle,
        n.Admits first middle ∧
          middle.Admits second last := by
  induction first generalizing n with
  | nil =>
      constructor
      · intro hAdmits
        exact ⟨n, rfl, hAdmits⟩
      · rintro ⟨middle, rfl, hAdmits⟩
        exact hAdmits
  | cons event first ih =>
      constructor
      · rintro ⟨next, hStep, hFits, hRest⟩
        rcases ih.mp hRest with ⟨middle, hFirst, hSecond⟩
        exact ⟨middle, ⟨next, hStep, hFits, hFirst⟩, hSecond⟩
      · rintro ⟨middle, ⟨next, hStep, hFits, hFirst⟩,
          hSecond⟩
        exact ⟨next, hStep, hFits,
          ih.mpr ⟨middle, hFirst, hSecond⟩⟩

end Nesting

------------------------------------------------------------
-- Single Events
------------------------------------------------------------

namespace Tokenizer

/- A tokenizer between two events of a nested document. -/
structure At
    (n : Nesting)
    (t : Tokenizer) : Prop where
  opened : t.openElements = openElementsOf n.openTags
  bound : t.bindings = bindingsOf n.openTags
  seen : t.seenRoot = n.hasRoot
  begun : n.openTags ≠ [] → n.hasRoot = true
  resolved : NamesInScope n.openTags
  named : ∀ tag ∈ n.openTags, Named tag.name.qualified

theorem start_at : Tokenizer.start.At .start where
  opened := rfl
  bound := rfl
  seen := rfl
  begun := fun hOpen => absurd rfl hOpen
  resolved := trivial
  named := by
    intro tag hMember
    cases hMember

theorem At.moved
    {n : Nesting}
    {t : Tokenizer}
    (hAt : t.At n)
    (pending : List UInt8)
    (offset : Nat)
    (awaiting : Bool) :
    (t.moved pending offset awaiting).At n where
  opened := hAt.opened
  bound := hAt.bound
  seen := hAt.seen
  begun := hAt.begun
  resolved := hAt.resolved
  named := hAt.named

/- A root element may begin where the nesting allows it. -/
theorem At.enterRoot
    {n next : Nesting}
    {t : Tokenizer}
    {tag : StartTag}
    (hAt : t.At n)
    (hStep : n.step? (.startElement tag) = some next) :
    t.enterRoot = .ok { t with seenRoot := true } ∧
      next = ⟨tag :: n.openTags, true⟩ := by
  have hOpened := hAt.opened
  have hSeen := hAt.seen
  rcases n with ⟨tags, hasRoot⟩
  cases tags with
  | nil =>
      cases hasRoot with
      | true => cases hStep
      | false =>
          cases hStep
          refine ⟨?_, rfl⟩
          simp [Tokenizer.enterRoot, hOpened, hSeen,
            openElementsOf]
  | cons outer tags =>
      have hRoot : hasRoot = true := hAt.begun (by simp)
      cases hStep
      subst hRoot
      refine ⟨?_, rfl⟩
      have hSame : { t with seenRoot := true } = t := by
        rcases t with ⟨_, _, _, _, _, seenRoot⟩
        dsimp only at hSeen
        rw [hSeen]
      rw [hSame]
      simp [Tokenizer.enterRoot, hOpened, openElementsOf]

end Tokenizer

/- The declarations are among the attributes of a tag. -/
theorem StartTag.parts_declarations (tag : StartTag) :
    tag.parts.filterMap TagAttribute.declaration? =
      tag.declarations := by
  simp [StartTag.parts, List.filterMap_append,
    List.filterMap_map, TagAttribute.declaration?,
    Function.comp_def]

namespace Tokenizer

/- The attributes of a tag stand for what they stood for. -/
theorem resolveStartTag_parts
    {t : Tokenizer}
    {bindings : Bindings}
    {tag : StartTag}
    (hResolved : tag.ResolvedIn bindings)
    (hBound :
      t.bindings = tag.declarations.reverse ++ bindings) :
    t.resolveStartTag tag.name.toQName tag.parts =
      .ok tag := by
  have hOthers :
      tag.parts.filterMap TagAttribute.other? =
        tag.attributes.map
          (fun a => (a.name.toQName, a.value)) := by
    simp [StartTag.parts, List.filterMap_append,
      List.filterMap_map, TagAttribute.other?,
      Function.comp_def]
  have hAttributes :
      (tag.attributes.map
          (fun a => (a.name.toQName, a.value))).mapM
        t.resolveAttribute = .ok tag.attributes := by
    apply mapM_map_ok
    intro a hMember
    simp [Tokenizer.resolveAttribute, attributeName,
      boundOrError, hBound, hResolved.attributes a hMember,
      Except.map]
  unfold resolveStartTag elementName
  rw [hBound, hResolved.name, tag.parts_declarations, hOthers,
    hAttributes]
  rfl

/- The content of a start tag is read as that tag. -/
theorem startTag_content
    {n next : Nesting}
    {t : Tokenizer}
    {tag : StartTag}
    (hAt : t.At n)
    (hStep : n.step? (.startElement tag) = some next)
    (hResolved : tag.ResolvedIn (bindingsOf n.openTags))
    (position : Nat) :
    ∃ after : Tokenizer,
      t.startTag tag.content position =
          after.deliver (.startElement tag) ∧
        after.At next := by
  rcases hAt.enterRoot hStep with ⟨hEnter, rfl⟩
  have hSpelled := hResolved.spelled
  have hWritten :
      QName.ofString tag.name.toQName.text =
        tag.name.toQName :=
    (validQName_eq hSpelled.name).symm
  have hBound :
      (openElement { t with seenRoot := true }
        tag.name.toQName tag.declarations).bindings =
          tag.declarations.reverse ++
            bindingsOf n.openTags := by
    simp [openElement, hAt.bound]
  refine
    ⟨openElement { t with seenRoot := true }
      tag.name.toQName tag.declarations, ?_, ?_⟩
  · unfold startTag
    rw [hEnter]
    dsimp only
    rw [decodeTagName_content hSpelled]
    dsimp only
    rw [decodeTagAttributes_content hSpelled]
    dsimp only
    rw [tag.parts_declarations,
      resolveStartTag_parts hResolved hBound]
  · refine ⟨?_, ?_, rfl, fun _ => rfl, ?_, ?_⟩
    · simp [openElement, openElementsOf, hAt.opened]
    · rw [hBound]
      simp [bindingsOf]
    · refine ⟨?_, hWritten, hAt.resolved⟩
      have hName := hResolved.name
      simpa [bindingsOf] using hName
    · intro x hMember
      rcases List.mem_cons.mp hMember with rfl | hOuter
      · exact hSpelled.named
      · exact hAt.named x hOuter

/- The name of the innermost element ends it. -/
theorem endTag_name
    {n next : Nesting}
    {t : Tokenizer}
    {name : Name}
    (hAt : t.At n)
    (hStep : n.step? (.endElement name) = some next) :
    Named name.qualified ∧
      ∃ after : Tokenizer,
        t.endTag (Utf8.encode name.qualified) =
            after.deliver (.endElement name) ∧
          after.At next := by
  rcases Nesting.step?_endElement hStep with
    ⟨tag, outer, hTags, rfl, rfl⟩
  have hOpened := hAt.opened
  have hBound := hAt.bound
  have hResolved := hAt.resolved
  have hNamed := hAt.named
  rw [hTags] at hOpened hBound hResolved hNamed
  rcases hResolved with ⟨hName, hWritten, hOuter⟩
  refine ⟨hNamed tag (by simp),
    { t with
      openElements := openElementsOf outer
      bindings := bindingsOf outer }, ?_, ?_⟩
  · have hText : tag.name.qualified = tag.name.toQName.text :=
      rfl
    have hDrop :
        (bindingsOf (tag :: outer)).drop
            tag.declarations.length = bindingsOf outer := by
      simp [bindingsOf]
    unfold endTag
    rw [decodeName_encode, hOpened, hText]
    simp only [openElementsOf, List.map_cons, if_true,
      hWritten, elementName, boundOrError, hBound, hName,
      hDrop]
  · have hRoot : n.hasRoot = true :=
      hAt.begun (by simp [hTags])
    exact ⟨rfl, rfl, hAt.seen, fun _ => hRoot, hOuter,
      fun x hMember =>
        hNamed x (List.mem_cons_of_mem tag hMember)⟩

------------------------------------------------------------
-- Events In A Row
------------------------------------------------------------

/- Markup begins with a bracket, unless it is text. -/
theorem markupAll_head
    {events : List Event}
    (hMarkup : ∀ text rest,
      events ≠ .characters text :: rest) :
    ∀ b ∈ (Utf8.encode (Event.markupAll events)).head?,
      b = byte '<' := by
  intro b hMember
  cases events with
  | nil => cases hMember
  | cons event events =>
      rw [Event.markupAll_cons, Utf8.encode_append]
        at hMember
      cases event with
      | characters text => exact absurd rfl (hMarkup text _)
      | startElement tag =>
          simp only [Event.markup, encode_startTagText]
            at hMember
          simpa using hMember.symm
      | endElement name =>
          simp only [Event.markup, encode_endTagText]
            at hMember
          simpa using hMember.symm

/-
  The markup of an event is read as that event, whatever
  comes behind it, and text up to the next bracket.
-/
theorem read_event
    {n next : Nesting}
    {t : Tokenizer}
    {event : Event}
    {rest : List UInt8}
    (hAt : t.At n)
    (hStep : n.step? event = some next)
    (hFits : event.FitsIn (bindingsOf n.openTags))
    (hText : ∀ text,
      event = .characters text →
        text ≠ "" ∧ ∀ b ∈ rest.head?, b = byte '<') :
    ∃ after : Tokenizer,
      t.read (Utf8.encode event.markup ++ rest) =
          ⟨(after.read rest).tokenizer,
            event :: (after.read rest).events,
            (after.read rest).result⟩ ∧
        after.At next := by
  have hRead : ∀ (piece : Piece) (after : Tokenizer),
      Piece.first (Utf8.encode event.markup ++ rest) =
          .piece piece (Utf8.encode event.markup).length →
        t.dispatch piece t.offset = after.deliver event →
          after.At next →
            ∃ after : Tokenizer,
              t.read (Utf8.encode event.markup ++ rest) =
                  ⟨(after.read rest).tokenizer,
                    event :: (after.read rest).events,
                    (after.read rest).result⟩ ∧
                after.At next := by
    intro piece after hFirst hDispatch hNext
    refine ⟨after.moved []
      (t.offset + (Utf8.encode event.markup).length) false,
      ?_, hNext.moved _ _ _⟩
    rw [read_piece hFirst, hDispatch, List.drop_left]
    rfl
  cases event with
  | startElement tag =>
      rcases startTag_content hAt hStep hFits
          t.offset with ⟨after, hDispatch, hNext⟩
      have hFirst :=
        Piece.first_startTag hFits.spelled.named
          hFits.spelled.keys rest
      exact hRead _ after hFirst hDispatch hNext
  | endElement name =>
      rcases endTag_name hAt hStep with
        ⟨hName, after, hDispatch, hNext⟩
      exact hRead _ after (Piece.first_endTag hName rest)
        hDispatch hNext
  | characters text =>
      rcases hText text rfl with ⟨hSome, hRest⟩
      rcases Nesting.step?_characters hStep with
        ⟨hOpen, rfl⟩
      have hInside : t.openElements.isEmpty = false := by
        rw [hAt.opened]
        cases hTags : next.openTags with
        | nil => exact absurd hTags hOpen
        | cons tag outer => rfl
      have hDispatch :
          t.dispatch
              (.text (Utf8.encode (Reference.escape text)))
              t.offset =
            t.deliver (.characters text) := by
        rw [dispatch_text_ok (decodeText_escape text)]
        simp [Tokenizer.text, hInside]
      exact hRead _ t (Piece.first_escaped hSome hRest)
        hDispatch hAt

/-
  The markup of nested events is read as those events.  Each
  event is read in front of the markup of the later ones.
-/
theorem read_markup
    {n last : Nesting}
    {t : Tokenizer}
    {events : List Event}
    (hAt : t.At n)
    (hAdmits : n.Admits events last)
    (hSpaced : Event.Spaced events) :
    ∃ after : Tokenizer,
      t.read (Utf8.encode (Event.markupAll events)) =
          ⟨after, events, .ok ()⟩ ∧
        after.At last := by
  induction events generalizing n t with
  | nil =>
      cases hAdmits
      exact ⟨t, read_nil t, hAt⟩
  | cons event events ih =>
      rcases hAdmits with ⟨next, hStep, hFits, hRest⟩
      have hText : ∀ text,
          event = .characters text →
            text ≠ "" ∧
              ∀ b ∈ (Utf8.encode
                  (Event.markupAll events)).head?,
                b = byte '<' := by
        rintro text rfl
        exact ⟨hSpaced.1, markupAll_head hSpaced.2.1⟩
      rcases read_event hAt hStep hFits hText with
        ⟨between, hRead, hBetween⟩
      rcases ih hBetween hRest hSpaced.tail with
        ⟨after, hLater, hAfter⟩
      refine ⟨after, ?_, hAfter⟩
      rw [Event.markupAll_cons, Utf8.encode_append, hRead,
        hLater]

------------------------------------------------------------
-- Documents
------------------------------------------------------------

/-
  A document in one final chunk delivers the events of
  reading it, when it can be read and is complete.
-/
theorem feed_of_read
    {t after : Tokenizer}
    {document : List UInt8}
    {events : List Event}
    (hPending : t.pending = [])
    (hMark : document.take 3 ≠ Utf8.byteOrderMark)
    (hRead :
      t.cleared.read document = ⟨after, events, .ok ()⟩)
    (hComplete : after.finish = .ok ()) :
    (t.feed document true).events = events ∧
      (t.feed document true).result = .ok () := by
  have hConsumed :=
    tokenize_consumed { t with pending := [] } document true
  have hFull :
      ¬ (t.awaitingMarkupEnd = true ∧ true = false ∧
        byte '>' ∉ document) := by
    simp
  have hFeed := feed_tokenize hFull
  rw [hPending, List.nil_append] at hFeed
  rw [skipByteOrderMark_none hMark] at hConsumed
  rw [hFeed]
  generalize
    tokenize { t with pending := [] } document true = outcome
      at hConsumed ⊢
  rcases outcome with ⟨last, found, result⟩
  cases result with
  | error e =>
      rcases (hConsumed [] (Or.inl rfl)).1 with ⟨e', hError⟩
      have hSame :
          (t.cleared.read (document ++ [])).result =
            .error e' :=
        hError
      rw [List.append_nil, hRead] at hSame
      cases hSame
  | ok count =>
      rcases hConsumed with
        ⟨taken, kept, hParts, _, hWhole, _, _, _, hNone, _⟩
      rw [hNone rfl, List.append_nil] at hParts
      have hSame :
          t.cleared.read document =
            ⟨last.moved [] (t.offset + count) false, found,
              .ok ()⟩ := by
        rw [hParts]
        exact hWhole
      rw [hRead] at hSame
      cases hSame
      rw [Outcome.andThen_ok]
      exact ⟨by simp [stop], hComplete⟩

/- The tokenizer after all elements of a document. -/
theorem At.finish
    {t : Tokenizer}
    (hAt : t.At ⟨[], true⟩) :
    t.finish = .ok () := by
  have hOpened := hAt.opened
  have hSeen := hAt.seen
  simp [Tokenizer.finish, hOpened, hSeen, openElementsOf]

/-
  The markup of the events of a document, in one final chunk,
  delivers exactly those events.
-/
theorem feed_markup
    {events : List Event}
    (hAdmits : Nesting.start.Admits events ⟨[], true⟩)
    (hSpaced : Event.Spaced events) :
    (Tokenizer.start.feed
        (Utf8.encode (Event.markupAll events)) true).events =
        events ∧
      (Tokenizer.start.feed
        (Utf8.encode (Event.markupAll events)) true).result =
        .ok () := by
  have hMarkup : ∀ text rest,
      events ≠ .characters text :: rest := by
    rintro text rest rfl
    rcases hAdmits with ⟨next, hStep, _⟩
    cases hStep
  have hHead := markupAll_head hMarkup
  rcases read_markup start_at hAdmits hSpaced with
    ⟨after, hRead, hAfter⟩
  have hCleared :
      Tokenizer.start.cleared.read
          (Utf8.encode (Event.markupAll events)) =
        ⟨after, events, .ok ()⟩ :=
    hRead
  apply feed_of_read rfl _ hCleared hAfter.finish
  intro hMark
  cases hBytes : Utf8.encode (Event.markupAll events) with
  | nil =>
      rw [hBytes] at hMark
      cases hMark
  | cons b rest =>
      have hFirst := hHead b (by simp [hBytes])
      rw [hBytes, hFirst] at hMark
      have hOther : byte '<' ≠ 0xEF := by decide
      exact hOther (List.cons.inj hMark).1

end Tokenizer

end RdfXml
