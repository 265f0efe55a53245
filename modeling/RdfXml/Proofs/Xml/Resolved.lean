import RdfXml.Proofs.Xml.Deliveries
import RdfXml.Proofs.Xml.Writing

/-
  What a tokenizer delivers can be written.

  The attributes of a start tag are what their names say, no
  name is given to two of them, and names are resolved in the
  scope of the elements around.  The events of a document
  therefore fit where they stand.

  Main declarations:
    * `TagAttribute.ofParts_written`
    * `RawAttribute.readFrom_keys`
    * `decodeTagAttributes_written`
    * `Tokenizer.resolveStartTag_resolved`
    * `Tokenizer.feedAll_admits`
-/

------------------------------------------------------------
-- Attributes As Read
------------------------------------------------------------

namespace RdfXml

/- An attribute is written as what it was read from. -/
theorem TagAttribute.ofParts_written
    {key value : String}
    {a : TagAttribute}
    (hParts : ofParts key value = .ok a) :
    a.key = key ∧ a.value = value := by
  have hText := QName.text_ofString key
  unfold ofParts at hParts
  dsimp only at hParts
  split at hParts
  · next hDefault =>
      cases hParts
      exact ⟨hDefault.symm, rfl⟩
  · split at hParts
    · next hLabel =>
        split at hParts
        · cases hParts
          unfold QName.text at hText
          rw [hLabel] at hText
          refine ⟨Eq.trans ?_ hText, rfl⟩
          apply String.toList_inj.mp
          simp [TagAttribute.key, Declaration.key]
        · cases hParts
    · cases hValid : validQName key with
      | error e =>
          rw [hValid] at hParts
          cases hParts
      | ok name =>
          rw [hValid] at hParts
          cases hParts
          rw [← validQName_eq hValid] at hText
          exact ⟨hText, rfl⟩

namespace RawAttribute

/- The key of an attribute whose value is still to come. -/
def Place.owed : Place → List (List UInt8)
| .between => []
| .inKey _ _ => []
| .afterKey _ _ => []
| .beforeValue key => [key]
| .inValue key _ _ => [key]

/- Keys that differ from one another and from those seen. -/
def Fresh
    (seen : List (List UInt8 × Nat))
    (keys : List (List UInt8)) : Prop :=
  keys.Nodup ∧ ∀ entry ∈ seen, entry.1 ∉ keys

theorem fresh_nil (seen : List (List UInt8 × Nat)) :
    Fresh seen [] :=
  ⟨List.nodup_nil, fun _ _ hMember => by cases hMember⟩

/- A key that was not seen is fresh with those after it. -/
theorem Fresh.cons
    {seen : List (List UInt8 × Nat)}
    {key : List UInt8}
    {start : Nat}
    {keys : List (List UInt8)}
    (hFresh : Fresh ((key, start) :: seen) keys)
    (hNew : earlier? seen key = none) :
    Fresh seen (key :: keys) := by
  rcases hFresh with ⟨hDistinct, hOther⟩
  unfold earlier? at hNew
  rw [Option.map_eq_none_iff, List.find?_eq_none] at hNew
  constructor
  · rw [List.nodup_cons]
    exact ⟨hOther (key, start) (by simp), hDistinct⟩
  · intro entry hEntry hMember
    rcases List.mem_cons.mp hMember with hSame | hLater
    · exact hNew entry hEntry (by simpa using hSame)
    · exact hOther entry (by simp [hEntry]) hLater

/-
  An equals sign settles the key.  What is read behind it
  keeps the keys fresh when it does so for every place.
-/
theorem readFrom_equals
    {seen : List (List UInt8 × Nat)}
    {position : Nat}
    {rest : List UInt8}
    (hRest : ∀ place seen position, ∃ later,
      (readFrom place (some seen) position rest).1.map
          RawAttribute.key <+: place.owed ++ later ∧
        Fresh seen later)
    (start : Nat)
    (key : List UInt8) :
    ∃ later,
      (match (some seen).bind (earlier? · key) with
        | some first =>
            (([], some (.duplicated start first)) :
              List RawAttribute × Option AttributeFault)
        | none =>
            readFrom (.beforeValue key)
              ((some seen).map ((key, start) :: ·))
              (position + 1) rest).1.map
          RawAttribute.key <+: [] ++ later ∧
        Fresh seen later := by
  split
  · exact ⟨[], List.nil_prefix, fresh_nil seen⟩
  · next hNew =>
      rcases hRest (.beforeValue key) ((key, start) :: seen)
          (position + 1) with
        ⟨later, hKeys, hFresh⟩
      exact ⟨key :: later, hKeys, hFresh.cons hNew⟩

/-
  The keys of an attribute list are fresh, except for the one
  whose value is still to come.  The induction is on the
  bytes, with the place as the state of the reader.
-/
theorem readFrom_keys
    (place : Place)
    (seen : List (List UInt8 × Nat))
    (position : Nat)
    (input : List UInt8) :
    ∃ later,
      (readFrom place (some seen) position input).1.map
          RawAttribute.key <+: place.owed ++ later ∧
        Fresh seen later := by
  have hNone : ∀ (seen : List (List UInt8 × Nat)) owed,
      ∃ later : List (List UInt8),
        [] <+: owed ++ later ∧ Fresh seen later :=
    fun seen _ => ⟨[], List.nil_prefix, fresh_nil seen⟩
  induction input generalizing place seen position with
  | nil =>
      cases place with
      | _ => exact hNone seen _
  | cons b rest ih =>
      cases place with
      | between =>
          rw [readFrom]
          split
          · exact ih .between seen (position + 1)
          · exact ih (.inKey position [b]) seen (position + 1)
      | inKey start key =>
          rw [readFrom]
          split
          · exact readFrom_equals ih start key
          · split
            · exact ih (.afterKey start key) seen
                (position + 1)
            · exact ih (.inKey start (key ++ [b])) seen
                (position + 1)
      | afterKey start key =>
          rw [readFrom]
          split
          · exact readFrom_equals ih start key
          · split
            · exact ih (.afterKey start key) seen
                (position + 1)
            · exact hNone seen _
      | beforeValue key =>
          rw [readFrom]
          split
          · exact ih (.beforeValue key) seen (position + 1)
          · split
            · exact ih (.inValue key b []) seen (position + 1)
            · exact hNone seen _
      | inValue key quote value =>
          rw [readFrom]
          split
          · rcases ih .between seen (position + 1) with
              ⟨later, hKeys, hFresh⟩
            refine ⟨later, ?_, hFresh⟩
            exact List.cons_prefix_cons.mpr ⟨rfl, hKeys⟩
          · exact ih (.inValue key quote (value ++ [b])) seen
              (position + 1)

/- No key of an attribute list occurs twice. -/
theorem read_keys
    (nameLength : Nat)
    (input : List UInt8) :
    ((read nameLength input).1.map
      RawAttribute.key).Nodup := by
  rcases readFrom_keys .between [] nameLength input with
    ⟨later, hKeys, hDistinct, _⟩
  exact hDistinct.sublist hKeys.sublist

end RawAttribute

------------------------------------------------------------
-- Attributes As Decoded
------------------------------------------------------------

/- What is decoded one after the other is decoded alone. -/
theorem mapM_cons_ok
    {α β ε : Type}
    {f : α → Except ε β}
    {x : α}
    {xs : List α}
    {values : List β}
    (hOk : (x :: xs).mapM f = .ok values) :
    ∃ value rest,
      f x = .ok value ∧
        xs.mapM f = .ok rest ∧ values = value :: rest := by
  rw [List.mapM_cons] at hOk
  cases hHead : f x with
  | error e =>
      rw [hHead] at hOk
      cases hOk
  | ok value =>
      cases hTail : xs.mapM f with
      | error e =>
          rw [hHead, hTail] at hOk
          cases hOk
      | ok rest =>
          rw [hHead, hTail] at hOk
          cases hOk
          exact ⟨value, rest, rfl, rfl, rfl⟩

theorem faultAt_ok_iff
    {α : Type}
    {position : Nat}
    {result : Except XmlFault α}
    {value : α} :
    faultAt position result = .ok value ↔
      result = .ok value := by
  cases result with
  | error cause => simp [faultAt]
  | ok found => simp [faultAt]

/- An attribute is decoded from its key and its value. -/
theorem TagAttribute.ofRaw_ok_iff
    {position : Nat}
    {raw : RawAttribute}
    {a : TagAttribute} :
    ofRaw position raw = .ok a ↔
      ∃ key value,
        decodeName raw.key = .ok key ∧
          decodeText raw.value = .ok value ∧
            ofParts key value = .ok a := by
  constructor
  · intro hRaw
    unfold ofRaw at hRaw
    cases hKey : decodeName raw.key with
    | error e =>
        rw [hKey] at hRaw
        cases hRaw
    | ok key =>
        cases hValue :
            faultAt position (decodeText raw.value) with
        | error e =>
            rw [hKey, hValue] at hRaw
            cases hRaw
        | ok value =>
            rw [hKey, hValue] at hRaw
            exact ⟨key, value, rfl,
              faultAt_ok_iff.mp hValue, hRaw⟩
  · rintro ⟨key, value, hKey, hValue, hParts⟩
    unfold ofRaw
    rw [hKey, hValue]
    exact hParts

/- A decoded attribute keeps what it was read from. -/
theorem TagAttribute.ofRaw_written
    {position : Nat}
    {raw : RawAttribute}
    {a : TagAttribute}
    (hRaw : ofRaw position raw = .ok a) :
    decodeName raw.key = .ok a.key ∧
      ofParts a.key a.value = .ok a := by
  rcases ofRaw_ok_iff.mp hRaw with
    ⟨key, value, hKey, _, hParts⟩
  rcases ofParts_written hParts with ⟨rfl, rfl⟩
  exact ⟨hKey, hParts⟩

/- Different bytes are different names. -/
theorem decodeName_injective
    {first second : List UInt8}
    {text : String}
    (hFirst : decodeName first = .ok text)
    (hSecond : decodeName second = .ok text) :
    first = second := by
  have hDecode : ∀ raw,
      decodeName raw = .ok text →
        Utf8.decodeString raw = .ok text := by
    intro raw hName
    unfold decodeName at hName
    split at hName
    · next hText =>
        cases hName
        exact hText
    · cases hName
  exact Utf8.decodeString_injective (hDecode first hFirst)
    (hDecode second hSecond)

/-
  Decoded attributes are what their names say, and their
  names differ when the bytes of their keys do.
-/
theorem mapM_ofRaw_written
    {position : Nat}
    {raws : List RawAttribute}
    {attributes : List TagAttribute}
    (hOk :
      raws.mapM (TagAttribute.ofRaw position) =
        .ok attributes)
    (hDistinct : (raws.map RawAttribute.key).Nodup) :
    (∀ a ∈ attributes,
        TagAttribute.ofParts a.key a.value = .ok a ∧
          ∃ raw ∈ raws, decodeName raw.key = .ok a.key) ∧
      (attributes.map TagAttribute.key).Nodup := by
  induction raws generalizing attributes with
  | nil =>
      cases hOk
      exact ⟨by simp, List.nodup_nil⟩
  | cons raw raws ih =>
      rcases mapM_cons_ok hOk with
        ⟨a, others, hRaw, hRaws, rfl⟩
      rw [List.map_cons, List.nodup_cons] at hDistinct
      rcases TagAttribute.ofRaw_written hRaw with
        ⟨hKey, hParts⟩
      rcases ih hRaws hDistinct.2 with ⟨hOthers, hNames⟩
      constructor
      · intro x hMember
        rcases List.mem_cons.mp hMember with rfl | hLater
        · exact ⟨hParts, raw, by simp, hKey⟩
        · rcases hOthers x hLater with
            ⟨hOther, found, hFound, hName⟩
          exact ⟨hOther, found, by simp [hFound], hName⟩
      · rw [List.map_cons, List.nodup_cons]
        refine ⟨?_, hNames⟩
        intro hTwice
        rcases List.mem_map.mp hTwice with ⟨x, hLater, hSame⟩
        rcases hOthers x hLater with
          ⟨_, found, hFound, hName⟩
        rw [hSame] at hName
        apply hDistinct.1
        rw [decodeName_injective hKey hName]
        exact List.mem_map_of_mem hFound

/- The attributes of a start tag can be written. -/
theorem decodeTagAttributes_written
    {position : Nat}
    {content : List UInt8}
    {attributes : List TagAttribute}
    (hOk :
      decodeTagAttributes position content =
        .ok attributes) :
    (∀ a ∈ attributes,
        TagAttribute.ofParts a.key a.value = .ok a) ∧
      (attributes.map TagAttribute.key).Nodup := by
  have hKeys :=
    RawAttribute.read_keys (tagNameBytes content).length
      (content.drop (tagNameBytes content).length)
  unfold decodeTagAttributes decodeAttributes at hOk
  dsimp only at hOk
  generalize
    RawAttribute.read (tagNameBytes content).length
      (content.drop (tagNameBytes content).length) = list
      at hOk hKeys
  rcases list with ⟨raws, fault?⟩
  cases hRaws :
      raws.mapM (TagAttribute.ofRaw position) with
  | error e =>
      rw [hRaws] at hOk
      cases hOk
  | ok found =>
      rw [hRaws] at hOk
      cases fault? with
      | some fault => cases hOk
      | none =>
          cases hOk
          rcases mapM_ofRaw_written hRaws hKeys with
            ⟨hWritten, hNames⟩
          exact ⟨fun a hMember => (hWritten a hMember).1,
            hNames⟩

------------------------------------------------------------
-- Start Tags
------------------------------------------------------------

/- An attribute in a start tag that is no declaration. -/
def TagAttribute.ofOther
    (part : QName × String) : TagAttribute :=
  .other part.1 part.2

/- The declarations of a tag are moved to its front. -/
theorem TagAttribute.parts_perm
    (attributes : List TagAttribute) :
    ((attributes.filterMap declaration?).map
          TagAttribute.declaration ++
        (attributes.filterMap other?).map ofOther).Perm
      attributes := by
  induction attributes with
  | nil => exact List.Perm.refl []
  | cons a attributes ih =>
      cases a with
      | declaration d => exact ih.cons (.declaration d)
      | other name value =>
          exact List.perm_middle.trans
            (ih.cons (.other name value))

namespace Tokenizer

theorem resolveAttribute_toQName
    {bindings : Bindings}
    {name : QName}
    {resolved : Name}
    (hResolve :
      bindings.resolveAttribute name = .ok resolved) :
    resolved.toQName = name := by
  unfold Bindings.resolveAttribute at hResolve
  split at hResolve
  · next label _ =>
      cases hSpace : bindings.resolvePrefix label with
      | error e =>
          rw [hSpace] at hResolve
          cases hResolve
      | ok uri =>
          rw [hSpace] at hResolve
          cases hResolve
          rfl
  · cases hResolve
    rfl

/- An attribute keeps its name as written and its value. -/
theorem resolveAttribute_ok
    {t : Tokenizer}
    {part : QName × String}
    {a : Attribute}
    (hOk : t.resolveAttribute part = .ok a) :
    part = (a.name.toQName, a.value) ∧
      t.bindings.resolveAttribute a.name.toQName =
        .ok a.name := by
  rcases part with ⟨name, value⟩
  unfold resolveAttribute attributeName boundOrError at hOk
  cases hName : t.bindings.resolveAttribute name with
  | error label =>
      rw [hName] at hOk
      cases hOk
  | ok resolved =>
      rw [hName] at hOk
      cases hOk
      rw [resolveAttribute_toQName hName]
      exact ⟨rfl, hName⟩

theorem mapM_resolveAttribute_ok
    {t : Tokenizer}
    {parts : List (QName × String)}
    {attributes : List Attribute}
    (hOk : parts.mapM t.resolveAttribute = .ok attributes) :
    parts =
        attributes.map
          (fun a => (a.name.toQName, a.value)) ∧
      ∀ a ∈ attributes,
        t.bindings.resolveAttribute a.name.toQName =
          .ok a.name := by
  induction parts generalizing attributes with
  | nil =>
      cases hOk
      exact ⟨rfl, by simp⟩
  | cons part parts ih =>
      rcases mapM_cons_ok hOk with
        ⟨a, others, hPart, hParts, rfl⟩
      rcases resolveAttribute_ok hPart with ⟨hSame, hName⟩
      rcases ih hParts with ⟨hOthers, hNames⟩
      constructor
      · rw [List.map_cons, hSame, ← hOthers]
      · intro x hMember
        rcases List.mem_cons.mp hMember with rfl | hLater
        · exact hName
        · exact hNames x hLater

/- The attributes of a start that is given. -/
theorem resolveStartTag_attributes
    {t : Tokenizer}
    {name : QName}
    {attributes : List TagAttribute}
    {tag : StartTag}
    (hTag : t.resolveStartTag name attributes = .ok tag) :
    (attributes.filterMap TagAttribute.other?).mapM
      t.resolveAttribute = .ok tag.attributes := by
  unfold resolveStartTag at hTag
  cases hName : t.elementName name with
  | error e =>
      rw [hName] at hTag
      cases hTag
  | ok resolved =>
      cases hOthers :
          (attributes.filterMap TagAttribute.other?).mapM
            t.resolveAttribute with
      | error e =>
          rw [hName, hOthers] at hTag
          cases hTag
      | ok others =>
          rw [hName, hOthers] at hTag
          cases hTag
          rfl

/- A start tag is given with all of its attributes. -/
theorem resolveStartTag_perm
    {t : Tokenizer}
    {name : QName}
    {attributes : List TagAttribute}
    {tag : StartTag}
    (hTag : t.resolveStartTag name attributes = .ok tag) :
    tag.parts.Perm attributes := by
  have hDeclared := (resolveStartTag_ok hTag).2
  have hOthers :=
    (mapM_resolveAttribute_ok
      (resolveStartTag_attributes hTag)).1
  have hParts :
      tag.parts =
        (attributes.filterMap
            TagAttribute.declaration?).map .declaration ++
          (attributes.filterMap TagAttribute.other?).map
            TagAttribute.ofOther := by
    rw [hOthers, ← hDeclared, List.map_map]
    rfl
  rw [hParts]
  exact TagAttribute.parts_perm attributes

/- A start tag that is given can be written. -/
theorem resolveStartTag_resolved
    {t : Tokenizer}
    {bindings : Bindings}
    {content : List UInt8}
    {position : Nat}
    {name : QName}
    {attributes : List TagAttribute}
    {tag : StartTag}
    (hName : decodeTagName content = .ok name)
    (hAttributes :
      decodeTagAttributes position content = .ok attributes)
    (hBound :
      t.bindings =
        (attributes.filterMap
          TagAttribute.declaration?).reverse ++ bindings)
    (hTag : t.resolveStartTag name attributes = .ok tag) :
    tag.ResolvedIn bindings := by
  have hPerm := resolveStartTag_perm hTag
  rcases resolveStartTag_ok hTag with
    ⟨hResolve, hDeclared⟩
  rcases mapM_resolveAttribute_ok
      (resolveStartTag_attributes hTag) with
    ⟨_, hOthers⟩
  rcases decodeTagAttributes_written hAttributes with
    ⟨hWritten, hDistinct⟩
  have hSame := resolveElement_toQName hResolve
  rw [← hDeclared] at hBound
  rw [hBound] at hResolve hOthers
  refine ⟨⟨?_, ?_, ?_⟩, ?_, hOthers⟩
  · -- the name is valid as it was written
    unfold decodeTagName at hName
    cases hText : decodeName (tagNameBytes content) with
    | error e =>
        rw [hText] at hName
        cases hName
    | ok text =>
        rw [hText] at hName
        have hValid : validQName text = .ok name := hName
        have hQualified : tag.name.qualified = text := by
          unfold Name.qualified
          rw [hSame, validQName_eq hValid,
            QName.text_ofString]
        rw [hQualified, hSame]
        exact hValid
  · intro a hMember
    exact hWritten a (hPerm.mem_iff.mp hMember)
  · exact ((hPerm.map TagAttribute.key).nodup_iff).mpr
      hDistinct
  · rw [hSame]
    exact hResolve

theorem enterRoot_bindings
    {t entered : Tokenizer}
    (hEnter : t.enterRoot = .ok entered) :
    entered.bindings = t.bindings := by
  unfold enterRoot at hEnter
  split at hEnter
  · cases hEnter
    rfl
  · split at hEnter
    · cases hEnter
    · cases hEnter
      rfl

/- A start that is delivered fits in the scope around it. -/
theorem startTag_fits
    {t : Tokenizer}
    {content : List UInt8}
    {position : Nat}
    {event : Event}
    (hEvents :
      (t.startTag content position).events = [event]) :
    event.FitsIn t.bindings := by
  rcases startTag_cases t content position with
    ⟨after, e, hSame⟩ |
      ⟨entered, opened, name, attributes, tag, hEnter, hName,
        hAttributes, hOpened, hTag, hSame⟩
  · rw [hSame] at hEvents
    cases hEvents
  · rw [hSame] at hEvents
    cases hEvents
    apply resolveStartTag_resolved hName hAttributes _ hTag
    rw [hOpened, ← enterRoot_bindings hEnter]
    rfl

theorem endTag_fits
    {t : Tokenizer}
    {raw : List UInt8}
    {event : Event}
    (hEvents : (t.endTag raw).events = [event])
    (bindings : Bindings) :
    event.FitsIn bindings := by
  rcases endTag_cases t raw with
    ⟨after, e, hSame⟩ | ⟨after, name, hSame⟩
  · rw [hSame] at hEvents
    cases hEvents
  · rw [hSame] at hEvents
    cases hEvents
    trivial

theorem text_fits
    {t : Tokenizer}
    {content : String}
    {event : Event}
    (hEvents : (t.text content).events = [event])
    (bindings : Bindings) :
    event.FitsIn bindings := by
  rcases text_cases t content with
    ⟨_, hText⟩ | ⟨_, _, hText⟩ | ⟨_, _, hText⟩
  · rw [hText] at hEvents
    cases hEvents
    trivial
  · rw [hText] at hEvents
    cases hEvents
  · rw [hText] at hEvents
    cases hEvents

------------------------------------------------------------
-- Documents
------------------------------------------------------------

/- The events so far fit where they stand. -/
def Fitting (events : List Event) : Prop :=
  ∃ n, Nesting.start.Admits events n

/- A nested event that fits goes on with the events. -/
theorem Fitting.concat
    {events : List Event}
    {event : Event}
    {p later : Progress}
    (hFitting : Fitting events)
    (hPast : p.events = events)
    (hLater : later.events = events ++ [event])
    (hFits : event.FitsIn (bindingsOf p.openTags)) :
    Fitting (events ++ [event]) := by
  rcases hFitting with ⟨n, hAdmits⟩
  have hRun := p.run?_events
  have hNext := later.run?_events
  rw [hPast, hAdmits.run?] at hRun
  cases hRun
  rw [hLater] at hNext
  rcases Nesting.run?_concat hNext with
    ⟨before, hBefore, hStep⟩
  rw [hAdmits.run?] at hBefore
  cases hBefore
  exact ⟨_, Nesting.admits_append.mpr
    ⟨_, hAdmits, _, hStep, hFits, rfl⟩⟩

/- The tokenizer is where the events are, and they fit. -/
def TrackedFitting
    (past : List Event)
    (t : Tokenizer) : Prop :=
  Tracked past t ∧ Fitting past

/- A step delivers nothing or one event that fits. -/
theorem TrackedFitting.advances
    {past : List Event}
    {t : Tokenizer}
    {outcome : Outcome Unit}
    (hBoth : TrackedFitting past t)
    (hTracked : Advances Tracked past outcome)
    (hSimple : Simple outcome)
    (hFits : ∀ event,
      outcome.events = [event] → event.FitsIn t.bindings) :
    Advances TrackedFitting past outcome := by
  intro value hOk
  have hAfter := hTracked value hOk
  refine ⟨hAfter, ?_⟩
  rcases hBoth with ⟨⟨p, hPast, hTracks⟩, hFitting⟩
  rcases hAfter with ⟨later, hLater, _⟩
  rcases hSimple with hNone | ⟨event, _, hOne, _⟩
  · rw [hNone, List.append_nil]
    exact hFitting
  · have hFit := hFits event hOne
    rw [hTracks.bound] at hFit
    rw [hOne] at hLater ⊢
    exact hFitting.concat hPast hLater hFit

theorem trackedFitting_invariant :
    Invariant TrackedFitting where
  moved := by
    rintro past t pending offset awaiting
      ⟨hTracked, hFitting⟩
    exact
      ⟨tracked_invariant.moved past t pending offset awaiting
        hTracked, hFitting⟩
  startTag := by
    intro past t content position hBoth
    exact hBoth.advances
      (tracked_invariant.startTag past t content position
        hBoth.1)
      (startTag_simple t content position)
      (fun _ hOne => startTag_fits hOne)
  endTag := by
    intro past t raw hBoth
    exact hBoth.advances
      (tracked_invariant.endTag past t raw hBoth.1)
      (endTag_simple t raw)
      (fun _ hOne => endTag_fits hOne t.bindings)
  text := by
    intro past t content hBoth
    exact hBoth.advances
      (tracked_invariant.text past t content hBoth.1)
      (text_simple t content)
      (fun _ hOne => text_fits hOne t.bindings)

/-
  The events of every document fit where they stand, however
  it is cut and whether or not it is accepted.
-/
theorem feedAll_admits
    (chunks : List (List UInt8 × Bool)) :
    ∃ n,
      Nesting.start.Admits
        (Tokenizer.start.feedAll chunks).events n := by
  have hStart : TrackedFitting [] Tokenizer.start :=
    ⟨⟨.before, rfl, start_tracks⟩, .start, rfl⟩
  have hKeeps :=
    traceAll_keeps trackedFitting_invariant hStart chunks
  rw [← traceAll_events]
  rcases (Tokenizer.start.traceAll
      chunks).deliveries.eq_nil_or_concat with
    hNone | ⟨front, last, hParts⟩
  · rw [hNone]
    exact hStart.2
  · rw [List.concat_eq_append] at hParts
    have hLast := hKeeps.delivered front last [] hParts
    rw [hParts, List.map_append]
    exact hLast.2

end Tokenizer

end RdfXml
