import RdfXml.Proofs.Xml.Chunks
import RdfXml.Proofs.Xml.Tree

/-
  A tokenizer delivers the events of one element.

  The open elements of a tokenizer are those whose start has
  been delivered and whose end has not, and its bindings are
  exactly their declarations.  An end tag is therefore
  resolved to the name that its start tag was resolved to,
  whatever has been declared in between.

  Main declarations:
    * `QName.text_ofString`
    * `Tokenizer.Tracks`
    * `Tokenizer.Follows`
    * `Tokenizer.dispatch_follows`
    * `Tokenizer.feed_follows`
    * `Tokenizer.feedAll_wellNested`
-/

------------------------------------------------------------
-- Names As Written
------------------------------------------------------------

namespace RdfXml

namespace QName

theorem cutAtColon_some
    {text before after : List Char}
    (hCut : cutAtColon text = some (before, after)) :
    text = before ++ ':' :: after := by
  induction text generalizing before with
  | nil => cases hCut
  | cons c text ih =>
      unfold cutAtColon at hCut
      split at hCut
      · next hColon =>
          cases hCut
          rw [hColon]
          rfl
      · rcases Option.map_eq_some_iff.mp hCut with
          ⟨⟨front, back⟩, hRest, hPair⟩
        cases hPair
        rw [ih hRest]
        rfl

/- A name is written as the text that it was read from. -/
theorem text_ofString (text : String) :
    (ofString text).text = text := by
  unfold ofString QName.text
  cases hCut : cutAtColon text.toList with
  | none => rfl
  | some parts =>
      rcases parts with ⟨before, after⟩
      have hText := cutAtColon_some hCut
      apply String.toList_inj.mp
      rw [hText]
      simp

end QName

theorem validQName_eq
    {text : String}
    {name : QName}
    (hValid : validQName text = .ok name) :
    name = QName.ofString text := by
  unfold validQName at hValid
  dsimp only at hValid
  split at hValid
  · cases hValid
  · split at hValid
    · cases hValid
      rfl
    · cases hValid

theorem decodeTagName_written
    {content : List UInt8}
    {name : QName}
    (hName : decodeTagName content = .ok name) :
    QName.ofString name.text = name := by
  unfold decodeTagName at hName
  cases hDecode : decodeName (tagNameBytes content) with
  | error e =>
      rw [hDecode] at hName
      cases hName
  | ok text =>
      rw [hDecode] at hName
      have hSame := validQName_eq hName
      rw [hSame, QName.text_ofString]

------------------------------------------------------------
-- Open Elements
------------------------------------------------------------

/- The declarations of open elements, innermost first. -/
def bindingsOf (tags : List StartTag) : Bindings :=
  tags.flatMap (fun tag => tag.declarations.reverse)

/- What a tokenizer remembers of open elements. -/
def openElementsOf (tags : List StartTag) : List OpenElement :=
  tags.map (fun tag =>
    ⟨tag.name.toQName.text, tag.declarations.length⟩)

/-
  The name of each open element is what its text stands for
  with the declarations of that element and those around it.
-/
def NamesInScope : List StartTag → Prop
| [] => True
| tag :: outer =>
    (bindingsOf (tag :: outer)).resolveElement
          tag.name.toQName = .ok tag.name ∧
      QName.ofString tag.name.toQName.text =
          tag.name.toQName ∧
        NamesInScope outer

namespace Progress

/- The document element has begun. -/
def hasRoot : Progress → Bool
| .before => false
| .inside _ _ _ => true
| .after _ => true

end Progress

namespace Tokenizer

/- The state of a tokenizer at some point of a document. -/
structure Tracks
    (t : Tokenizer)
    (p : Progress) : Prop where
  opened : t.openElements = openElementsOf p.openTags
  bound : t.bindings = bindingsOf p.openTags
  seen : t.seenRoot = p.hasRoot
  named : NamesInScope p.openTags

/-
  A step from some point of a document goes on from there,
  and when it succeeds the tokenizer is where the events are.
-/
def Follows
    {α : Type}
    (p : Progress)
    (outcome : Outcome α) : Prop :=
  ∃ later : Progress,
    later.events = p.events ++ outcome.events ∧
      ∀ value,
        outcome.result = .ok value →
          outcome.tokenizer.Tracks later

theorem start_tracks :
    Tokenizer.start.Tracks .before where
  opened := rfl
  bound := rfl
  seen := rfl
  named := trivial

theorem follows_stop
    {α : Type}
    {t : Tokenizer}
    {p : Progress}
    (hTracks : t.Tracks p)
    (result : Except XmlError α) :
    Follows p (t.stop result) :=
  ⟨p, (List.append_nil _).symm, fun _ _ => hTracks⟩

theorem follows_error
    {α : Type}
    (t : Tokenizer)
    (p : Progress)
    (e : XmlError) :
    Follows p (t.stop (.error e : Except XmlError α)) :=
  ⟨p, (List.append_nil _).symm, fun _ hOk => by cases hOk⟩

theorem follows_andThen
    {α β : Type}
    {p : Progress}
    {outcome : Outcome α}
    {next : Tokenizer → α → Outcome β}
    (hOutcome : Follows p outcome)
    (hNext : ∀ t later value,
      Tracks t later → Follows later (next t value)) :
    Follows p (outcome.andThen next) := by
  rcases hOutcome with ⟨later, hEvents, hTracks⟩
  rcases outcome with ⟨t, events, result⟩
  cases result with
  | error e =>
      exact ⟨later, hEvents, fun _ hOk => by cases hOk⟩
  | ok value =>
      rw [Outcome.andThen_ok]
      rcases hNext t later value (hTracks value rfl) with
        ⟨last, hMore, hLast⟩
      refine ⟨last, ?_, hLast⟩
      rw [hMore, hEvents, List.append_assoc]

/- What is read next does not matter to the open elements. -/
theorem Tracks.moved
    {t : Tokenizer}
    {p : Progress}
    (hTracks : t.Tracks p)
    (pending : List UInt8)
    (offset : Nat)
    (awaiting : Bool) :
    (t.moved pending offset awaiting).Tracks p where
  opened := hTracks.opened
  bound := hTracks.bound
  seen := hTracks.seen
  named := hTracks.named

------------------------------------------------------------
-- Steps
------------------------------------------------------------

theorem resolveElement_toQName
    {bindings : Bindings}
    {name : QName}
    {resolved : Name}
    (hResolve :
      bindings.resolveElement name = .ok resolved) :
    resolved.toQName = name := by
  unfold Bindings.resolveElement at hResolve
  split at hResolve
  · next label _ =>
      cases hSpace : bindings.resolvePrefix label with
      | error e =>
          rw [hSpace] at hResolve
          cases hResolve
      | ok uri =>
          rw [hSpace] at hResolve
          cases hResolve
          rfl
  · cases hResolve
    rfl

/- The name and the declarations of a start that is given. -/
theorem resolveStartTag_ok
    {t : Tokenizer}
    {name : QName}
    {attributes : List TagAttribute}
    {tag : StartTag}
    (hTag : t.resolveStartTag name attributes = .ok tag) :
    t.bindings.resolveElement name = .ok tag.name ∧
      tag.declarations =
        attributes.filterMap TagAttribute.declaration? := by
  unfold resolveStartTag elementName boundOrError at hTag
  cases hName : t.bindings.resolveElement name with
  | error label =>
      rw [hName] at hTag
      cases hTag
  | ok resolved =>
      rw [hName] at hTag
      simp only [bind, Except.bind] at hTag
      split at hTag
      · cases hTag
      · cases hTag
        exact ⟨rfl, rfl⟩

/- The root element has begun where a start tag may stand. -/
theorem enterRoot_tracks
    {t entered : Tokenizer}
    {p : Progress}
    (hTracks : t.Tracks p)
    (hEnter : t.enterRoot = .ok entered) :
    entered.openElements = t.openElements ∧
      entered.bindings = t.bindings ∧
      entered.seenRoot = true ∧
      (p = .before ∨
        ∃ root path current,
          p = .inside root path current) := by
  have hOpened := hTracks.opened
  have hSeen := hTracks.seen
  unfold enterRoot at hEnter
  cases p with
  | before =>
      rw [hOpened, hSeen] at hEnter
      simp only [Progress.openTags, openElementsOf,
        List.map_nil, List.isEmpty_nil, Progress.hasRoot,
        Bool.not_true, Bool.false_eq_true, if_false]
        at hEnter
      cases hEnter
      exact ⟨hOpened.symm, rfl, rfl, Or.inl rfl⟩
  | inside root path current =>
      have hSome : t.openElements.isEmpty = false := by
        rw [hOpened]
        simp [Progress.openTags, openElementsOf]
      rw [hSome] at hEnter
      cases hEnter
      exact ⟨rfl, rfl, hSeen,
        Or.inr ⟨root, path, current, rfl⟩⟩
  | after root =>
      rw [hOpened, hSeen] at hEnter
      simp [Progress.openTags, openElementsOf,
        Progress.hasRoot] at hEnter

/- A document goes on with the start of an element. -/
theorem openElement_tracks
    {t : Tokenizer}
    {p : Progress}
    {tag : StartTag}
    (hOpened : t.openElements = openElementsOf p.openTags)
    (hBound : t.bindings = bindingsOf p.openTags)
    (hSeen : t.seenRoot = true)
    (hNamed : NamesInScope p.openTags)
    (hPlace :
      p = .before ∨
        ∃ root path current, p = .inside root path current)
    (hName :
      (bindingsOf (tag :: p.openTags)).resolveElement
        tag.name.toQName = .ok tag.name)
    (hWritten :
      QName.ofString tag.name.toQName.text =
        tag.name.toQName) :
    Follows p
      (deliver
        (t.openElement tag.name.toQName tag.declarations)
        (.startElement tag)) := by
  have hScope : NamesInScope (tag :: p.openTags) :=
    ⟨hName, hWritten, hNamed⟩
  have hOpened' :
      (t.openElement tag.name.toQName
          tag.declarations).openElements =
        openElementsOf (tag :: p.openTags) := by
    simp [openElement, openElementsOf, hOpened]
  have hBound' :
      (t.openElement tag.name.toQName
          tag.declarations).bindings =
        bindingsOf (tag :: p.openTags) := by
    simp [openElement, bindingsOf, hBound]
  rcases hPlace with rfl | ⟨root, path, current, rfl⟩
  · refine ⟨.inside tag [] .nil, rfl, ?_⟩
    intro _ _
    exact ⟨hOpened', hBound', hSeen, hScope⟩
  · refine ⟨.inside root ((tag, current) :: path) .nil,
      ?_, ?_⟩
    · simp [Progress.events, Progress.pathEvents,
        Content.events, deliver]
    · intro _ _
      exact ⟨hOpened', hBound', hSeen, hScope⟩

theorem startTag_follows
    {t : Tokenizer}
    {p : Progress}
    (hTracks : t.Tracks p)
    (content : List UInt8)
    (position : Nat) :
    Follows p (t.startTag content position) := by
  unfold startTag
  cases hEnter : t.enterRoot with
  | error e => exact follows_error t p e
  | ok entered =>
      rcases enterRoot_tracks hTracks hEnter with
        ⟨hOpened, hBound, hSeen, hPlace⟩
      rw [hTracks.opened] at hOpened
      rw [hTracks.bound] at hBound
      dsimp only
      cases hName : decodeTagName content with
      | error e => exact follows_error entered p e
      | ok name =>
          dsimp only
          cases decodeTagAttributes position content with
          | error e => exact follows_error entered p e
          | ok attributes =>
              dsimp only
              split
              · exact follows_error _ p _
              · next tag hTag =>
                  rcases resolveStartTag_ok hTag with
                    ⟨hResolve, hDeclared⟩
                  have hSame :=
                    resolveElement_toQName hResolve
                  have hWritten :=
                    decodeTagName_written hName
                  rw [← hSame] at hWritten
                  rw [← hDeclared, ← hSame]
                  apply openElement_tracks hOpened hBound
                    hSeen hTracks.named hPlace _ hWritten
                  rw [hSame]
                  simpa [openElement, bindingsOf, hBound,
                    hDeclared] using hResolve

/-
  An end tag closes the innermost element with the name of
  its start, or it is an error.
-/
theorem endTag_closes
    {t : Tokenizer}
    {p : Progress}
    (later : Progress)
    {tag : StartTag}
    {outer : List StartTag}
    (hTracks : t.Tracks p)
    (hTags : p.openTags = tag :: outer)
    (hEvents :
      later.events = p.events ++ [.endElement tag.name])
    (hLater : later.openTags = outer)
    (hRoot : later.hasRoot = p.hasRoot)
    (raw : List UInt8) :
    Follows p (t.endTag raw) := by
  have hOpened := hTracks.opened
  have hBound := hTracks.bound
  have hNamed := hTracks.named
  rw [hTags] at hOpened hBound hNamed
  rcases hNamed with ⟨hName, hWritten, hOuter⟩
  unfold endTag
  cases decodeName raw with
  | error e => exact follows_error t p e
  | ok found =>
      dsimp only
      rw [hOpened]
      simp only [openElementsOf, List.map_cons]
      split
      · next hFound =>
          have hResolve :
              ({ t with
                  openElements :=
                    outer.map (fun tag =>
                      (⟨tag.name.toQName.text,
                        tag.declarations.length⟩ :
                          OpenElement))
                  } : Tokenizer).elementName
                (QName.ofString found) = .ok tag.name := by
            rw [← hFound, hWritten]
            simp [elementName, boundOrError, hBound, hName]
          rw [hResolve]
          refine ⟨later, hEvents, ?_⟩
          intro _ _
          refine ⟨?_, ?_, ?_, ?_⟩
          · rw [hLater]
            rfl
          · rw [hLater]
            simp [deliver, hBound, bindingsOf]
          · rw [hRoot]
            exact hTracks.seen
          · rw [hLater]
            exact hOuter
      · exact follows_error _ p _

theorem endTag_follows
    {t : Tokenizer}
    {p : Progress}
    (hTracks : t.Tracks p)
    (raw : List UInt8) :
    Follows p (t.endTag raw) := by
  have hNone :
      t.openElements = [] → Follows p (t.endTag raw) := by
    intro hOpened
    unfold endTag
    rw [hOpened]
    split
    · exact follows_error t p _
    · exact follows_error t p _
  cases p with
  | before => exact hNone hTracks.opened
  | after root => exact hNone hTracks.opened
  | inside root path current =>
      cases path with
      | nil =>
          apply endTag_closes (.after ⟨root, current⟩)
            hTracks rfl _ rfl rfl
          simp [Progress.events, Progress.pathEvents,
            Element.events]
      | cons entry outer =>
          rcases entry with ⟨tag, front⟩
          apply endTag_closes
            (.inside root outer
              (front.append (.element tag current .nil)))
            hTracks rfl _ rfl rfl
          simp [Progress.events, Progress.pathEvents,
            Content.events]

theorem text_follows
    {t : Tokenizer}
    {p : Progress}
    (hTracks : t.Tracks p)
    (content : String) :
    Follows p (t.text content) := by
  rcases text_cases t content with
    ⟨hOpen, hText⟩ | ⟨_, _, hText⟩ | ⟨_, _, hText⟩
  · rw [hText]
    rw [hTracks.opened] at hOpen
    cases p with
    | before =>
        simp [Progress.openTags, openElementsOf] at hOpen
    | after root =>
        simp [Progress.openTags, openElementsOf] at hOpen
    | inside root path current =>
        refine ⟨.inside root path
          (current.append (.text content .nil)), ?_, ?_⟩
        · simp [Progress.events, Content.events, deliver]
        · intro _ _
          exact ⟨hTracks.opened, hTracks.bound, hTracks.seen,
            hTracks.named⟩
  · rw [hText]
    exact follows_stop hTracks _
  · rw [hText]
    exact follows_stop hTracks _

/- Every piece goes on from where the tokenizer is. -/
theorem dispatch_follows
    {t : Tokenizer}
    {p : Progress}
    (hTracks : t.Tracks p)
    (piece : Piece)
    (position : Nat) :
    Follows p (t.dispatch piece position) := by
  unfold dispatch
  cases piece with
  | text raw =>
      dsimp only
      split
      · exact follows_error t p _
      · exact text_follows hTracks _
  | startTag content =>
      exact startTag_follows hTracks content position
  | emptyTag content =>
      refine follows_andThen
        (startTag_follows hTracks content position) ?_
      intro t later _ hLater
      exact endTag_follows hLater _
  | endTag name => exact endTag_follows hTracks name
  | cdata raw =>
      dsimp only
      split
      · exact follows_error t p _
      · exact text_follows hTracks _
  | declaration content => exact follows_stop hTracks _
  | instruction => exact follows_stop hTracks _
  | comment => exact follows_stop hTracks _
  | doctype => exact follows_stop hTracks _

------------------------------------------------------------
-- Chunks
------------------------------------------------------------

theorem partialText_follows
    {t : Tokenizer}
    {p : Progress}
    (hTracks : t.Tracks p)
    (raw : List UInt8)
    (position : Nat) :
    Follows p (t.partialText raw position) := by
  unfold partialText
  dsimp only
  split
  · exact follows_stop hTracks _
  · split
    · exact follows_error t p _
    · refine follows_andThen
        (dispatch_follows hTracks _ _) ?_
      intro t later _ hLater
      exact follows_stop hLater _

theorem consumeEnd_follows
    {t : Tokenizer}
    {p : Progress}
    (hTracks : t.Tracks p)
    (work : Work)
    (consumed : Nat) :
    Follows p (t.consumeEnd work consumed) := by
  unfold consumeEnd
  split
  · exact follows_stop hTracks _
  · split
    · exact follows_stop
        (hTracks.moved t.pending t.offset true) _
    · exact follows_error t p _

theorem consume_follows
    {t : Tokenizer}
    {p : Progress}
    (hTracks : t.Tracks p)
    (work : Work)
    (consumed : Nat)
    (pieces : List (Piece × Nat)) :
    Follows p (consume work t consumed pieces) := by
  induction pieces generalizing t p consumed with
  | nil => exact consumeEnd_follows hTracks work consumed
  | cons entry pieces ih =>
      rcases entry with ⟨piece, length⟩
      by_cases hWhole :
          piece.isText = false ∨ work.isFinal = true ∨
            consumed + length ≠ work.input.length
      · rw [consume_piece hWhole]
        refine follows_andThen
          (dispatch_follows hTracks _ _) ?_
        intro t later _ hLater
        exact ih hLater _
      · cases piece with
        | text raw =>
            simp only [Piece.isText, Bool.true_eq_false,
              false_or, not_or, Bool.not_eq_true,
              Decidable.not_not] at hWhole
            rw [consume_held hWhole.1 hWhole.2]
            refine follows_andThen
              (partialText_follows hTracks _ _) ?_
            intro t later _ hLater
            exact follows_stop hLater _
        | _ => exact absurd (Or.inl rfl) hWhole

/- A chunk goes on from where the tokenizer is. -/
theorem feed_follows
    {t : Tokenizer}
    {p : Progress}
    (hTracks : t.Tracks p)
    (chunk : List UInt8)
    (isFinal : Bool) :
    Follows p (t.feed chunk isFinal) := by
  unfold feed
  dsimp only
  split
  · exact follows_stop
      (hTracks.moved (t.pending ++ chunk) t.offset
        t.awaitingMarkupEnd) _
  · refine follows_andThen
      (consume_follows
        (hTracks.moved [] t.offset false) _ _ _) ?_
    intro t later _ hLater
    exact follows_stop (hLater.moved _ _ _) _

theorem feedAll_follows
    {t : Tokenizer}
    {p : Progress}
    (hTracks : t.Tracks p)
    (chunks : List (List UInt8 × Bool)) :
    Follows p (t.feedAll chunks) := by
  induction chunks generalizing t p with
  | nil => exact follows_stop hTracks _
  | cons chunk chunks ih =>
      rcases chunk with ⟨piece, isFinal⟩
      refine follows_andThen
        (feed_follows hTracks piece isFinal) ?_
      intro t later _ hLater
      split
      · exact follows_stop hLater _
      · exact ih hLater

/- A document that has ended is complete. -/
theorem feed_finish
    {t : Tokenizer}
    {chunk : List UInt8}
    (hOk : (t.feed chunk true).result = .ok ()) :
    (t.feed chunk true).tokenizer.finish = .ok () := by
  rw [feed_tokenize (by simp)] at hOk ⊢
  rcases Outcome.andThen_result_ok hOk with
    ⟨count, hCount, hFinish⟩
  generalize
    tokenize { t with pending := [] } (t.pending ++ chunk)
      true = outcome at hCount hFinish ⊢
  rcases outcome with ⟨after, events, result⟩
  cases hCount
  exact hFinish

theorem feedAll_finish
    {t : Tokenizer}
    {chunks : List (List UInt8 × Bool)}
    (hOk : (t.feedAll chunks).result = .ok true) :
    (t.feedAll chunks).tokenizer.finish = .ok () := by
  induction chunks generalizing t with
  | nil => cases hOk
  | cons chunk chunks ih =>
      rcases chunk with ⟨piece, isFinal⟩
      unfold feedAll at hOk ⊢
      rcases Outcome.andThen_result_ok hOk with
        ⟨value, hFeed, hRest⟩
      cases isFinal with
      | true =>
          have hFinish := feed_finish hFeed
          generalize t.feed piece true = outcome
            at hFeed hFinish ⊢
          rcases outcome with ⟨after, events, result⟩
          cases hFeed
          exact hFinish
      | false =>
          have hLater := ih hRest
          generalize t.feed piece false = outcome
            at hFeed hLater ⊢
          rcases outcome with ⟨after, events, result⟩
          cases hFeed
          exact hLater

/- A complete document is one element. -/
theorem Tracks.complete
    {t : Tokenizer}
    {p : Progress}
    (hTracks : t.Tracks p)
    (hFinish : t.finish = .ok ()) :
    ∃ root, p = .after root := by
  rcases finish_ok hFinish with ⟨hNone, hRoot⟩
  have hOpened := hTracks.opened
  have hSeen := hTracks.seen
  cases p with
  | before =>
      rw [hSeen] at hRoot
      cases hRoot
  | inside root path current =>
      rw [hNone] at hOpened
      simp [Progress.openTags, openElementsOf] at hOpened
  | after root => exact ⟨root, rfl⟩

/-
  However a document is fed, the events delivered up to the
  first error are the first events of one element, in which
  each end carries the name of its start.  They are all of
  its events, and nothing is left open, when the document has
  ended.
-/
theorem feedAll_wellNested
    (chunks : List (List UInt8 × Bool)) :
    ∃ root : Element,
      (Tokenizer.start.feedAll chunks).events <+:
          root.events ∧
        ((Tokenizer.start.feedAll chunks).result =
            .ok true →
          (Tokenizer.start.feedAll chunks).events =
              root.events ∧
            (Tokenizer.start.feedAll
              chunks).tokenizer.openElements = []) := by
  rcases feedAll_follows start_tracks chunks with
    ⟨later, hEvents, hTracks⟩
  have hSame :
      (Tokenizer.start.feedAll chunks).events =
        later.events := by
    rw [hEvents]
    rfl
  rw [hSame]
  cases hResult :
      (Tokenizer.start.feedAll chunks).result with
  | error e =>
      rcases later.events_prefix with ⟨root, hPrefix⟩
      exact ⟨root, hPrefix, fun hOk => by cases hOk⟩
  | ok ended =>
      cases ended with
      | false =>
          rcases later.events_prefix with ⟨root, hPrefix⟩
          exact ⟨root, hPrefix, fun hOk => by cases hOk⟩
      | true =>
          have hLast := hTracks true hResult
          rcases hLast.complete (feedAll_finish hResult) with
            ⟨root, rfl⟩
          exact ⟨root, List.prefix_rfl,
            fun _ => ⟨rfl, hLast.opened⟩⟩

end Tokenizer

end RdfXml
