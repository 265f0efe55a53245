import RdfXml.Proofs.Xml.TextRuns

/-
  Content moved to another element.

  Names stand for the same under bindings that put the same
  namespaces into effect.  The content of an element can
  therefore be written as the content of any element that
  declares the bindings in scope, and one that does can
  always be written.

  Main declarations:
    * `Bindings.Alike`
    * `StartTag.ResolvedIn.alike`
    * `Content.FitsIn`
    * `Content.admits_iff`
    * `StartTag.Declares`
    * `Bindings.wrapper`
    * `Bindings.declares_wrapper`
    * `Tokenizer.feed_wrapped`
-/

------------------------------------------------------------
-- Bindings
------------------------------------------------------------

namespace RdfXml

namespace Bindings

/- The same namespaces are in effect. -/
def Alike (first second : Bindings) : Prop :=
  ∀ label?,
    first.inEffect? label? = second.inEffect? label?

theorem Alike.symm
    {first second : Bindings}
    (hAlike : first.Alike second) :
    second.Alike first :=
  fun label? => (hAlike label?).symm

theorem lookup?_append
    (inner outer : Bindings)
    (label? : Option String) :
    lookup? (inner ++ outer) label? =
      (inner.lookup? label?).or (outer.lookup? label?) := by
  unfold lookup?
  rw [List.find?_append, Option.map_or]

/- Declarations have the same effect in front of either. -/
theorem Alike.append
    {first second : Bindings}
    (hAlike : first.Alike second)
    (inner : Bindings) :
    Alike (inner ++ first) (inner ++ second) := by
  intro label?
  have hOuter := hAlike label?
  unfold inEffect? at hOuter ⊢
  rw [lookup?_append, lookup?_append]
  cases inner.lookup? label? with
  | none => exact hOuter
  | some uri => rfl

theorem Alike.resolvePrefix
    {first second : Bindings}
    (hAlike : first.Alike second)
    (label : String) :
    first.resolvePrefix label =
      second.resolvePrefix label := by
  unfold Bindings.resolvePrefix
  rw [hAlike (some label)]

theorem Alike.resolveElement
    {first second : Bindings}
    (hAlike : first.Alike second)
    (name : QName) :
    first.resolveElement name =
      second.resolveElement name := by
  unfold Bindings.resolveElement
  split
  · rw [hAlike.resolvePrefix]
  · rw [hAlike none]

theorem Alike.resolveAttribute
    {first second : Bindings}
    (hAlike : first.Alike second)
    (name : QName) :
    first.resolveAttribute name =
      second.resolveAttribute name := by
  unfold Bindings.resolveAttribute
  split
  · rw [hAlike.resolvePrefix]
  · rfl

end Bindings

/- A start tag depends on the namespaces in effect. -/
theorem StartTag.ResolvedIn.alike
    {first second : Bindings}
    {tag : StartTag}
    (hResolved : tag.ResolvedIn first)
    (hAlike : first.Alike second) :
    tag.ResolvedIn second where
  spelled := hResolved.spelled
  name := by
    rw [← (hAlike.append _).resolveElement]
    exact hResolved.name
  attributes := by
    intro a hMember
    rw [← (hAlike.append _).resolveAttribute]
    exact hResolved.attributes a hMember

------------------------------------------------------------
-- Contents
------------------------------------------------------------

namespace Content

/- Every start tag of a content fits where it stands. -/
def FitsIn (bindings : Bindings) : Content → Prop
| .nil => True
| .text _ rest => FitsIn bindings rest
| .element tag inner rest =>
    tag.ResolvedIn bindings ∧
      FitsIn (tag.declarations.reverse ++ bindings) inner ∧
        FitsIn bindings rest

/- Content depends on the namespaces in effect. -/
theorem FitsIn.alike
    {first second : Bindings}
    {content : Content}
    (hFits : content.FitsIn first)
    (hAlike : first.Alike second) :
    content.FitsIn second := by
  induction content generalizing first second with
  | nil => trivial
  | text run rest ih => exact ih hFits hAlike
  | element tag inner rest ihInner ihRest =>
      rcases hFits with ⟨hTag, hInner, hRest⟩
      exact ⟨hTag.alike hAlike,
        ihInner hInner (hAlike.append _),
        ihRest hRest hAlike⟩

/-
  The events of a content fit in an element exactly when the
  content does.
-/
theorem admits_iff
    (content : Content)
    (tag : StartTag)
    (outer : List StartTag)
    (hasRoot : Bool) :
    Nesting.Admits ⟨tag :: outer, hasRoot⟩ content.events
        ⟨tag :: outer, hasRoot⟩ ↔
      content.FitsIn (bindingsOf (tag :: outer)) := by
  induction content generalizing tag outer with
  | nil =>
      constructor
      · intro _
        trivial
      · intro _
        rfl
  | text run rest ih =>
      have hRest := ih tag outer
      constructor
      · intro hAdmits
        exact hRest.mp hAdmits.text_tail.2
      · intro hFits
        exact (hRest.mpr hFits).text_cons (by simp) run
  | element inside inner rest ihInner ihRest =>
      have hInner := ihInner inside (tag :: outer)
      have hRest := ihRest tag outer
      have hScope :
          bindingsOf (inside :: tag :: outer) =
            inside.declarations.reverse ++
              bindingsOf (tag :: outer) := by
        simp [bindingsOf]
      rw [hScope] at hInner
      constructor
      · rintro ⟨next, hStep, hTag, hAdmits⟩
        cases hStep
        rcases Nesting.admits_append.mp hAdmits with
          ⟨middle, hFirst, hSecond⟩
        have hRun := hFirst.run?
        rw [inner.run?_events] at hRun
        cases hRun
        rcases hSecond with ⟨after, hEnd, _, hLast⟩
        rcases Nesting.step?_endElement hEnd with
          ⟨_, _, hTags, _, rfl⟩
        cases hTags
        exact ⟨hTag, hInner.mp hFirst, hRest.mp hLast⟩
      · rintro ⟨hTag, hFirst, hLast⟩
        refine ⟨_, rfl, hTag, ?_⟩
        refine Nesting.admits_append.mpr
          ⟨_, hInner.mpr hFirst, _, ?_, trivial,
            hRest.mpr hLast⟩
        simp [Nesting.step?]

/- The markup of a content is that of its events. -/
theorem markupAll_events (content : Content) :
    Event.markupAll content.events = content.markup := by
  induction content with
  | nil => rfl
  | text run rest ih =>
      rw [events, Event.markupAll_cons, ih]
      rfl
  | element tag inner rest ihInner ihRest =>
      rw [events, Event.markupAll_cons,
        Event.markupAll_append, Event.markupAll_cons,
        ihInner, ihRest]
      rfl

end Content

------------------------------------------------------------
-- Elements That Declare Bindings
------------------------------------------------------------

/-
  The tag of a document element that can be written and has
  the same namespaces in effect.
-/
structure StartTag.Declares
    (bindings : Bindings)
    (tag : StartTag) : Prop where
  resolved : tag.ResolvedIn []
  alike :
    Bindings.Alike tag.declarations.reverse bindings

namespace Bindings

/- The first binding of each prefix. -/
def innermost : Bindings → Bindings
| [] => []
| d :: rest =>
    d :: (innermost rest).filter
      (fun x => x.label? != d.label?)

/- An element that declares all that is in effect. -/
def wrapper (bindings : Bindings) : StartTag where
  name := ⟨⟨none, "wrapper"⟩, bindings.inEffect? none⟩
  declarations := bindings.innermost.reverse
  attributes := []

theorem innermost_subset
    {bindings : Bindings}
    {d : Declaration}
    (hMember : d ∈ bindings.innermost) :
    d ∈ bindings := by
  induction bindings with
  | nil => exact hMember
  | cons first rest ih =>
      rcases List.mem_cons.mp hMember with rfl | hRest
      · exact List.mem_cons_self
      · exact List.mem_cons_of_mem first
          (ih (List.mem_of_mem_filter hRest))

theorem innermost_distinct (bindings : Bindings) :
    bindings.innermost.Pairwise
      (fun x y => x.label? ≠ y.label?) := by
  induction bindings with
  | nil => exact List.Pairwise.nil
  | cons d rest ih =>
      refine List.Pairwise.cons ?_ (ih.filter _)
      intro x hMember
      have hOther := (List.mem_filter.mp hMember).2
      simpa using Ne.symm (bne_iff_ne.mp hOther)

theorem innermost_lookup?
    (bindings : Bindings)
    (label? : Option String) :
    bindings.innermost.lookup? label? =
      bindings.lookup? label? := by
  induction bindings with
  | nil => rfl
  | cons d rest ih =>
      rw [innermost]
      unfold lookup? at ih ⊢
      rw [List.find?_cons, List.find?_cons]
      split
      · rfl
      · next hOther =>
          have hLabel : d.label? ≠ label? := by
            simpa using hOther
          have hKept :
              (fun x : Declaration =>
                decide ((x.label? != d.label?) = true ∧
                  (x.label? == label?) = true)) =
                (fun x => x.label? == label?) := by
            funext x
            cases hSame : x.label? == label? with
            | false => simp
            | true =>
                have hFound : x.label? = label? := by
                  simpa using hSame
                simp [hFound, Ne.symm hLabel]
          rw [List.find?_filter, hKept, ih]

theorem innermost_alike (bindings : Bindings) :
    bindings.innermost.Alike bindings := by
  intro label?
  unfold inEffect?
  rw [innermost_lookup?]

/- Different prefixes are declared by different attributes. -/
theorem key_injective
    {first second : Declaration}
    (hKey : first.key = second.key) :
    first.label? = second.label? := by
  have hChars := congrArg String.toList hKey
  rcases first with ⟨_ | label, uri⟩
  · rcases second with ⟨_ | other, uri'⟩
    · rfl
    · simp [Declaration.key] at hChars
  · rcases second with ⟨_ | other, uri'⟩
    · simp [Declaration.key] at hChars
    · simp [Declaration.key] at hChars
      rw [String.toList_inj.mp hChars]

/- What has been declared can be declared again. -/
theorem declares_wrapper
    {bindings : Bindings}
    (hParts : ∀ d ∈ bindings,
      TagAttribute.ofParts d.key d.uri =
        .ok (.declaration d)) :
    bindings.wrapper.Declares bindings := by
  have hName :
      validQName "wrapper" = .ok ⟨none, "wrapper"⟩ := by
    rfl
  have hDeclared :
      bindings.wrapper.declarations.reverse =
        bindings.innermost :=
    List.reverse_reverse _
  have hAlike :
      Bindings.Alike bindings.wrapper.declarations.reverse
        bindings := by
    rw [hDeclared]
    exact innermost_alike bindings
  refine ⟨⟨⟨hName, ?_, ?_⟩, ?_, by simp [wrapper]⟩, hAlike⟩
  · intro a hMember
    simp only [StartTag.parts, wrapper, List.map_nil,
      List.append_nil] at hMember
    rcases List.mem_map.mp hMember with ⟨d, hFound, rfl⟩
    exact hParts d
      (innermost_subset (List.mem_reverse.mp hFound))
  · have hKeys :
        bindings.wrapper.parts.map TagAttribute.key =
          (bindings.innermost.map Declaration.key).reverse := by
      simp [StartTag.parts, wrapper, TagAttribute.key,
        Function.comp_def]
    rw [hKeys, (List.reverse_perm _).nodup_iff, List.Nodup,
      List.pairwise_map]
    exact (innermost_distinct bindings).imp
      (fun hOther hSame => hOther (key_injective hSame))
  · rw [List.append_nil, hAlike.resolveElement]
    rfl

end Bindings

------------------------------------------------------------
-- Wrapped Content
------------------------------------------------------------

namespace Tokenizer

/-
  The markup of a content, without the blanks at its ends and
  in an element that declares the bindings in scope, delivers
  the events of the content without those blanks.
-/
theorem feed_wrapped
    {bindings : Bindings}
    {wrapper : StartTag}
    {content : Content}
    (hDeclares : wrapper.Declares bindings)
    (hFits : content.FitsIn bindings) :
    let document :=
      Machine.startTagText wrapper ++
        Machine.trimText content.markup ++
          Machine.endTagText wrapper.name
    let outcome :=
      Tokenizer.start.feed (Utf8.encode document) true
    outcome.events =
        .startElement wrapper ::
          (Event.trimmed (Event.merged content.events) ++
            [.endElement wrapper.name]) ∧
      outcome.result = .ok () := by
  have hScope :
      bindingsOf [wrapper] = wrapper.declarations.reverse := by
    simp [bindingsOf]
  have hInner :
      Nesting.Admits ⟨[wrapper], true⟩ content.events
        ⟨[wrapper], true⟩ := by
    rw [content.admits_iff, hScope]
    exact hFits.alike hDeclares.alike.symm
  have hAdmits :
      Nesting.start.Admits
        (.startElement wrapper ::
          (Event.trimmed (Event.merged content.events) ++
            [.endElement wrapper.name]))
        ⟨[], true⟩ := by
    refine ⟨⟨[wrapper], true⟩, rfl, hDeclares.resolved, ?_⟩
    refine Nesting.admits_append.mpr
      ⟨_, hInner.merged.trimmed, ⟨[], true⟩, ?_, trivial,
        rfl⟩
    simp [Nesting.step?]
  have hSpaced :=
    Event.spaced_merged content.events
  have hMarkup :
      Event.markupAll
          (.startElement wrapper ::
            (Event.trimmed (Event.merged content.events) ++
              [.endElement wrapper.name])) =
        Machine.startTagText wrapper ++
          Machine.trimText content.markup ++
            Machine.endTagText wrapper.name := by
    rw [Event.markupAll_cons, Event.markupAll_append,
      ← Event.trimText_markupAll hSpaced,
      Event.markupAll_merged, content.markupAll_events]
    simp [Event.markup, Event.markupAll,
      String.append_assoc]
  have hFeed :=
    feed_markup hAdmits (hSpaced.trimmed.concat wrapper.name)
  rw [hMarkup] at hFeed
  exact hFeed

end Tokenizer

end RdfXml
