import Mathlib.Data.List.Perm.Basic
import RdfXml.Proofs.Xml.LexicalScope
import RdfXml.Proofs.Xml.Remarks
import RdfXml.Proofs.Xml.Scopes

/-
  Documents with attributes in another order.

  The attributes of a start tag have different keys.  So its
  declarations put the same namespaces into effect in any
  order, and the tag is delivered with the same attributes,
  only in the other order.

  Main declarations:
    * `SameAttributes`
    * `Piece.Reordered`
    * `Reordered`
    * `StartTag.Reordered`
    * `Event.Reordered`
    * `Bindings.Alike.of_perm`
    * `Tokenizer.Parallel`
    * `Tokenizer.dispatch_reordered`
    * `Tokenizer.read_reordered`
-/

------------------------------------------------------------
-- Reordered Documents
------------------------------------------------------------

namespace RdfXml

/- The attributes of a tag's content as written. -/
def rawAttributes (content : List UInt8) : List RawAttribute :=
  (RawAttribute.read (tagNameBytes content).length
    (content.drop (tagNameBytes content).length)).1

/- Tags with the same name and attributes, in any order. -/
def SameAttributes (content other : List UInt8) : Prop :=
  tagNameBytes content = tagNameBytes other ∧
    (rawAttributes content).Perm (rawAttributes other)

instance (content other : List UInt8) :
    Decidable (SameAttributes content other) :=
  inferInstanceAs (Decidable (_ ∧ _))

/- Pieces that are the same but for the order in a tag. -/
inductive Piece.Reordered : Piece → Piece → Prop where
| same (piece : Piece) : Reordered piece piece
| startTag
    {content other : List UInt8}
    (hSame : SameAttributes content other) :
    Reordered (.startTag content) (.startTag other)
| emptyTag
    {content other : List UInt8}
    (hSame : SameAttributes content other) :
    Reordered (.emptyTag content) (.emptyTag other)

/- The pieces of a byte list up to its first fault. -/
def piecesOf (input : List UInt8) : List Piece :=
  (Scan.ofBytes input).pieces.map Prod.fst

/-
  Documents that differ only in the order of the attributes
  in start tags, declarations included.
-/
def Reordered (document other : List UInt8) : Prop :=
  List.Forall₂ Piece.Reordered (piecesOf document)
    (piecesOf other)

/- Start tags with the same parts in any order. -/
structure StartTag.Reordered
    (tag other : StartTag) : Prop where
  name : tag.name = other.name
  declarations : tag.declarations.Perm other.declarations
  attributes : tag.attributes.Perm other.attributes

/- Events that are the same but for the order in a tag. -/
inductive Event.Reordered : Event → Event → Prop where
| startElement
    {tag other : StartTag}
    (hTags : tag.Reordered other) :
    Reordered (.startElement tag) (.startElement other)
| endElement (name : Name) :
    Reordered (.endElement name) (.endElement name)
| characters (text : String) :
    Reordered (.characters text) (.characters text)

theorem Event.Reordered.refl (event : Event) :
    event.Reordered event := by
  cases event with
  | startElement tag => exact .startElement ⟨rfl, .rfl, .rfl⟩
  | endElement name => exact .endElement name
  | characters text => exact .characters text

------------------------------------------------------------
-- Lists In Another Order
------------------------------------------------------------

theorem mapM_ok_forall₂
    {α β ε : Type}
    {f : α → Except ε β}
    {xs : List α}
    {values : List β}
    (hOk : xs.mapM f = .ok values) :
    List.Forall₂ (fun x value => f x = .ok value) xs
      values := by
  induction xs generalizing values with
  | nil =>
      cases hOk
      exact .nil
  | cons x xs ih =>
      rcases mapM_cons_ok hOk with
        ⟨value, rest, hHead, hTail, rfl⟩
      exact .cons hHead (ih hTail)

/- The values come in the order of what they are found for. -/
theorem mapM_ok_perm
    {α β ε : Type}
    {f : α → Except ε β}
    {xs ys : List α}
    {values others : List β}
    (hPerm : xs.Perm ys)
    (hXs : xs.mapM f = .ok values)
    (hYs : ys.mapM f = .ok others) :
    values.Perm others := by
  refine List.rel_perm_imp ?_ (mapM_ok_forall₂ hXs)
    (mapM_ok_forall₂ hYs) hPerm
  intro x value other hValue hOther
  exact Except.ok.inj (hValue.symm.trans hOther)

namespace Bindings

/- A prefix that is declared once is bound to what it says. -/
theorem lookup?_eq_some_iff
    {bindings : Bindings}
    (hOnce : (bindings.map Declaration.label?).Nodup)
    {label? : Option String}
    {uri : String} :
    bindings.lookup? label? = some uri ↔
      ⟨label?, uri⟩ ∈ bindings := by
  unfold lookup?
  rw [Option.map_eq_some_iff]
  constructor
  · rintro ⟨d, hFound, rfl⟩
    have hLabel : d.label? = label? := by
      simpa using List.find?_some hFound
    rw [← hLabel]
    exact List.mem_of_find?_eq_some hFound
  · intro hMember
    cases hFound :
        bindings.find? (fun d => d.label? == label?) with
    | none =>
        have hOther :=
          List.find?_eq_none.mp hFound _ hMember
        exact absurd (beq_self_eq_true label?) hOther
    | some d =>
        have hLabel : d.label? = label? := by
          simpa using List.find?_some hFound
        have hSame :=
          List.inj_on_of_nodup_map hOnce
            (List.mem_of_find?_eq_some hFound) hMember hLabel
        exact ⟨d, rfl, by rw [hSame]⟩

/- In any order, declarations bind the same prefixes. -/
theorem lookup?_perm
    {bindings others : Bindings}
    (hPerm : bindings.Perm others)
    (hOnce : (bindings.map Declaration.label?).Nodup)
    (label? : Option String) :
    bindings.lookup? label? = others.lookup? label? := by
  have hOthers : (others.map Declaration.label?).Nodup :=
    (hPerm.map _).nodup_iff.mp hOnce
  ext uri
  rw [lookup?_eq_some_iff hOnce,
    lookup?_eq_some_iff hOthers, hPerm.mem_iff]

/- The namespaces in effect do not hang on the order. -/
theorem Alike.of_perm
    {bindings others outer outer' : Bindings}
    (hPerm : bindings.Perm others)
    (hOnce : (bindings.map Declaration.label?).Nodup)
    (hOuter : outer.Alike outer') :
    Alike (bindings ++ outer) (others ++ outer') := by
  intro label?
  have hAround := hOuter label?
  unfold inEffect? at hAround ⊢
  rw [lookup?_append, lookup?_append,
    lookup?_perm hPerm hOnce]
  cases others.lookup? label? with
  | none => exact hAround
  | some uri => rfl

/-
  The same namespaces are in effect in each of the elements
  that are open, innermost first.
-/
def AlikeThrough :
    List OpenElement → Bindings → Bindings → Prop
| [], first, second => first.Alike second
| element :: outer, first, second =>
    first.Alike second ∧
      AlikeThrough outer (first.drop element.declared)
        (second.drop element.declared)

theorem AlikeThrough.alike
    {elements : List OpenElement}
    {first second : Bindings}
    (hThrough : AlikeThrough elements first second) :
    first.Alike second := by
  cases elements with
  | nil => exact hThrough
  | cons element outer => exact hThrough.1

/- Declarations in any order open another element. -/
theorem AlikeThrough.cons
    {elements : List OpenElement}
    {first second : Bindings}
    {declarations others : List Declaration}
    (hThrough : AlikeThrough elements first second)
    (hPerm : declarations.Perm others)
    (hOnce : (declarations.map Declaration.label?).Nodup)
    (name : String) :
    AlikeThrough (⟨name, declarations.length⟩ :: elements)
      (declarations.reverse ++ first)
      (others.reverse ++ second) := by
  have hReversed :
      declarations.reverse.Perm others.reverse :=
    (List.reverse_perm _).trans
      (hPerm.trans (List.reverse_perm _).symm)
  have hReversedOnce :
      (declarations.reverse.map
        Declaration.label?).Nodup := by
    rw [List.map_reverse, List.nodup_reverse]
    exact hOnce
  refine ⟨.of_perm hReversed hReversedOnce hThrough.alike, ?_⟩
  rw [List.drop_left' (List.length_reverse ..),
    List.drop_left'
      ((List.length_reverse ..).trans hPerm.length_eq.symm)]
  exact hThrough

end Bindings

------------------------------------------------------------
-- Tags
------------------------------------------------------------

/- Decoded attributes are those written, one after another. -/
theorem decodeTagAttributes_mapM
    {position : Nat}
    {content : List UInt8}
    {attributes : List TagAttribute}
    (hOk :
      decodeTagAttributes position content =
        .ok attributes) :
    (rawAttributes content).mapM
      (TagAttribute.ofRaw position) = .ok attributes := by
  unfold decodeTagAttributes decodeAttributes at hOk
  unfold rawAttributes
  dsimp only at hOk
  generalize
    RawAttribute.read (tagNameBytes content).length
      (content.drop (tagNameBytes content).length) = list
      at hOk ⊢
  cases hAll :
      list.1.mapM (TagAttribute.ofRaw position) with
  | error e =>
      rw [hAll] at hOk
      cases hOk
  | ok found =>
      rw [hAll] at hOk
      cases hFault : list.2 with
      | some fault =>
          simp only [hFault, bind, Except.bind] at hOk
          cases hOk
      | none =>
          simp only [hFault, bind, Except.bind] at hOk
          exact hOk

/- The same attributes are decoded, wherever the tags are. -/
theorem decodeTagAttributes_perm
    {content other : List UInt8}
    {position position' : Nat}
    {attributes others : List TagAttribute}
    (hSame : SameAttributes content other)
    (hOk :
      decodeTagAttributes position content =
        .ok attributes)
    (hOther :
      decodeTagAttributes position' other = .ok others) :
    attributes.Perm others := by
  have hMoved :
      (rawAttributes other).mapM
        (TagAttribute.ofRaw position) = .ok others :=
    mapM_ok_of_ok
      (fun raw a hRaw =>
        TagAttribute.ofRaw_ok_iff.mpr
          (TagAttribute.ofRaw_ok_iff.mp hRaw))
      (decodeTagAttributes_mapM hOther)
  exact mapM_ok_perm hSame.2
    (decodeTagAttributes_mapM hOk) hMoved

namespace Tokenizer

/-
  Two tokenizers in which the same elements are open, with
  the same namespaces in effect in each of them.
-/
structure Parallel (t other : Tokenizer) : Prop where
  openElements : t.openElements = other.openElements
  seenRoot : t.seenRoot = other.seenRoot
  scopes :
    Bindings.AlikeThrough t.openElements t.bindings
      other.bindings

/- Events that correspond, with tokenizers in parallel. -/
structure DeliversAlike
    {α : Type}
    (outcome other : Outcome α) : Prop where
  events :
    List.Forall₂ Event.Reordered outcome.events other.events
  parallel : outcome.tokenizer.Parallel other.tokenizer

theorem Parallel.moved
    {t other : Tokenizer}
    (hParallel : t.Parallel other)
    (pending pending' : List UInt8)
    (offset offset' : Nat)
    (awaiting awaiting' : Bool) :
    (t.moved pending offset awaiting).Parallel
      (other.moved pending' offset' awaiting') :=
  ⟨hParallel.openElements, hParallel.seenRoot,
    hParallel.scopes⟩

variable
  {t other : Tokenizer}

theorem Parallel.enterRoot
    {entered entered' : Tokenizer}
    (hParallel : t.Parallel other)
    (hEnter : t.enterRoot = .ok entered)
    (hOther : other.enterRoot = .ok entered') :
    entered.Parallel entered' := by
  unfold Tokenizer.enterRoot at hEnter hOther
  rw [← hParallel.openElements, ← hParallel.seenRoot]
    at hOther
  split at hEnter
  · next hOpen =>
      rw [if_pos hOpen] at hOther
      cases hEnter
      cases hOther
      exact hParallel
  · next hOpen =>
      rw [if_neg hOpen] at hOther
      split at hEnter
      · cases hEnter
      · next hSeen =>
          rw [if_neg hSeen] at hOther
          cases hEnter
          cases hOther
          exact ⟨rfl, rfl, hParallel.scopes⟩

theorem Parallel.elementName
    (hParallel : t.Parallel other)
    (name : QName) :
    t.elementName name = other.elementName name := by
  unfold Tokenizer.elementName
  rw [hParallel.scopes.alike.resolveElement]

theorem Parallel.resolveAttribute
    (hParallel : t.Parallel other) :
    t.resolveAttribute = other.resolveAttribute := by
  funext part
  unfold Tokenizer.resolveAttribute attributeName
  rw [hParallel.scopes.alike.resolveAttribute]

/- Tags are resolved alike with the same in effect. -/
theorem Parallel.resolveStartTag
    {name : QName}
    {attributes others : List TagAttribute}
    {tag otherTag : StartTag}
    (hParallel : t.Parallel other)
    (hPerm : attributes.Perm others)
    (hTag : t.resolveStartTag name attributes = .ok tag)
    (hOther :
      other.resolveStartTag name others = .ok otherTag) :
    tag.Reordered otherTag := by
  rcases resolveStartTag_ok hTag with
    ⟨hName, hDeclared⟩
  rcases resolveStartTag_ok hOther with
    ⟨hOtherName, hOtherDeclared⟩
  refine ⟨?_, ?_, ?_⟩
  · rw [hParallel.scopes.alike.resolveElement, hOtherName]
      at hName
    exact (Except.ok.inj hName).symm
  · rw [hDeclared, hOtherDeclared]
    exact hPerm.filterMap _
  · have hFound := resolveStartTag_attributes hTag
    rw [hParallel.resolveAttribute] at hFound
    exact mapM_ok_perm (hPerm.filterMap _) hFound
      (resolveStartTag_attributes hOther)

/- A start tag in another order opens the same element. -/
theorem startTag_reordered
    {content other' : List UInt8}
    {position position' : Nat}
    (hParallel : t.Parallel other)
    (hSame : SameAttributes content other')
    (hOk : (t.startTag content position).result = .ok ())
    (hOther :
      (other.startTag other' position').result = .ok ()) :
    DeliversAlike (t.startTag content position)
      (other.startTag other' position') := by
  rcases startTag_cases t content position with
    ⟨after, e, hRefused⟩ |
      ⟨entered, opened, name, attributes, tag, hEnter, hName,
        hAttributes, hOpened, hTag, hStart⟩
  · rw [hRefused] at hOk
    cases hOk
  · rcases startTag_cases other other' position' with
      ⟨after, e, hRefused⟩ |
        ⟨entered', opened', name', others, otherTag, hEnter',
          hName', hOthers, hOpened', hOtherTag, hStart'⟩
    · rw [hRefused] at hOther
      cases hOther
    · have hNames : name = name' := by
        unfold decodeTagName at hName hName'
        rw [hSame.1, hName'] at hName
        exact (Except.ok.inj hName).symm
      have hPerm :=
        decodeTagAttributes_perm hSame hAttributes hOthers
      have hEntered := hParallel.enterRoot hEnter hEnter'
      have hDeclared :
          (attributes.filterMap
              TagAttribute.declaration?).Perm
            (others.filterMap TagAttribute.declaration?) :=
        hPerm.filterMap _
      have hOnce :=
        declaredOnce_of_keys
          (decodeTagAttributes_written hAttributes).2
      have hOpen : opened.Parallel opened' := by
        subst hNames hOpened hOpened'
        refine ⟨?_, hEntered.seenRoot, ?_⟩
        · simp only [openElement, hDeclared.length_eq,
            hEntered.openElements]
        · exact hEntered.scopes.cons hDeclared hOnce name.text
      rw [hStart, hStart']
      subst hNames
      exact
        ⟨.cons
            (.startElement
              (hOpen.resolveStartTag hPerm hTag hOtherTag))
            .nil,
          hOpen⟩

/- An end tag that is accepted ends the innermost element. -/
theorem endTag_ok
    {raw : List UInt8}
    (hOk : (t.endTag raw).result = .ok ()) :
    ∃ found element outer name,
      decodeName raw = .ok found ∧
        t.openElements = element :: outer ∧
        t.elementName (QName.ofString found) = .ok name ∧
        t.endTag raw =
          deliver
            { t with
              openElements := outer
              bindings := t.bindings.drop element.declared }
            (.endElement name) := by
  unfold endTag at hOk ⊢
  cases hFound : decodeName raw with
  | error e =>
      rw [hFound] at hOk
      cases hOk
  | ok found =>
      rw [hFound] at hOk
      cases hOpen : t.openElements with
      | nil =>
          rw [hOpen] at hOk
          cases hOk
      | cons element outer =>
          rw [hOpen] at hOk
          dsimp only at hOk ⊢
          split at hOk
          · next hSame =>
              rw [if_pos hSame]
              split at hOk
              · cases hOk
              · next name hName =>
                  exact ⟨found, element, outer, name, rfl,
                    rfl, hName, rfl⟩
          · cases hOk

/- In parallel tokenizers it ends the same element. -/
theorem endTag_parallel
    {raw : List UInt8}
    (hParallel : t.Parallel other)
    (hOk : (t.endTag raw).result = .ok ())
    (hOther : (other.endTag raw).result = .ok ()) :
    DeliversAlike (t.endTag raw) (other.endTag raw) := by
  rcases endTag_ok hOk with
    ⟨found, element, outer, name, hFound, hOpen, hName,
      hEnd⟩
  rcases endTag_ok hOther with
    ⟨found', element', outer', name', hFound', hOpen',
      hName', hEnd'⟩
  have hSame : found = found' :=
    Except.ok.inj (hFound.symm.trans hFound')
  have hElements :
      element :: outer = element' :: outer' := by
    rw [← hOpen, ← hOpen', hParallel.openElements]
  have hNames : name = name' := by
    rw [hParallel.elementName, hSame, hName'] at hName
    exact (Except.ok.inj hName).symm
  have hScopes := hParallel.scopes
  rw [hOpen] at hScopes
  cases hElements
  cases hNames
  rw [hEnd, hEnd']
  exact
    ⟨.cons (.endElement name) .nil,
      rfl, hParallel.seenRoot, hScopes.2⟩

/- Text is delivered or skipped wherever nothing differs. -/
theorem text_parallel
    (hParallel : t.Parallel other)
    (content : String) :
    DeliversAlike (t.text content) (other.text content) := by
  unfold text
  rw [← hParallel.openElements]
  split
  · exact ⟨.cons (.characters content) .nil, hParallel⟩
  · split
    · exact ⟨.nil, hParallel⟩
    · exact ⟨.nil, hParallel⟩

------------------------------------------------------------
-- Pieces
------------------------------------------------------------

/- One step after another delivers alike when both do. -/
theorem DeliversAlike.andThen
    {α β : Type}
    {first first' : Outcome α}
    {next next' : Tokenizer → α → Outcome β}
    {value value' : α}
    (hFirst : DeliversAlike first first')
    (hValue : first.result = .ok value)
    (hValue' : first'.result = .ok value')
    (hNext :
      DeliversAlike (next first.tokenizer value)
        (next' first'.tokenizer value')) :
    DeliversAlike (first.andThen next)
      (first'.andThen next') := by
  unfold Outcome.andThen
  rw [hValue, hValue']
  exact
    ⟨List.rel_append hFirst.events hNext.events,
      hNext.parallel⟩

theorem emptyTag_reordered
    {content content' : List UInt8}
    {position position' : Nat}
    (hParallel : t.Parallel other)
    (hSame : SameAttributes content content')
    (hOk :
      (t.dispatch (.emptyTag content) position).result =
        .ok ())
    (hOther :
      (other.dispatch (.emptyTag content') position').result =
        .ok ()) :
    DeliversAlike (t.dispatch (.emptyTag content) position)
      (other.dispatch (.emptyTag content') position') := by
  unfold dispatch at hOk hOther ⊢
  dsimp only at hOk hOther ⊢
  rcases Outcome.andThen_result_ok hOk with
    ⟨_, hStart, hEnd⟩
  rcases Outcome.andThen_result_ok hOther with
    ⟨_, hStart', hEnd'⟩
  have hOpened :=
    startTag_reordered hParallel hSame hStart hStart'
  refine hOpened.andThen hStart hStart' ?_
  rw [← hSame.1] at hEnd' ⊢
  exact endTag_parallel hOpened.parallel hEnd hEnd'

/- A piece in another order delivers the same. -/
theorem dispatch_reordered
    {piece otherPiece : Piece}
    {position position' : Nat}
    (hParallel : t.Parallel other)
    (hPieces : piece.Reordered otherPiece)
    (hOk : (t.dispatch piece position).result = .ok ())
    (hOther :
      (other.dispatch otherPiece position').result =
        .ok ()) :
    DeliversAlike (t.dispatch piece position)
      (other.dispatch otherPiece position') := by
  cases hPieces with
  | startTag hSame =>
      exact startTag_reordered hParallel hSame hOk hOther
  | emptyTag hSame =>
      exact emptyTag_reordered hParallel hSame hOk hOther
  | same =>
      cases piece with
      | startTag content =>
          exact startTag_reordered hParallel ⟨rfl, .rfl⟩ hOk
            hOther
      | emptyTag content =>
          exact emptyTag_reordered hParallel ⟨rfl, .rfl⟩ hOk
            hOther
      | endTag name =>
          exact endTag_parallel hParallel hOk hOther
      | text raw =>
          rcases dispatch_text_decode hOk with
            ⟨content, hText⟩
          rw [dispatch_text_ok hText, dispatch_text_ok hText]
          exact text_parallel hParallel content
      | cdata raw =>
          unfold dispatch at hOk ⊢
          dsimp only at hOk ⊢
          cases hText : decodeName raw with
          | error e =>
              rw [hText] at hOk
              cases hOk
          | ok content => exact text_parallel hParallel content
      | declaration content => exact ⟨.nil, hParallel⟩
      | instruction => exact ⟨.nil, hParallel⟩
      | comment => exact ⟨.nil, hParallel⟩
      | doctype => exact ⟨.nil, hParallel⟩

------------------------------------------------------------
-- Documents
------------------------------------------------------------

/- Reading goes on behind the first piece. -/
theorem read_piece_ok
    {input : List UInt8}
    {piece : Piece}
    {length : Nat}
    (hFirst : Piece.first input = .piece piece length)
    (hOk : (t.read input).result = .ok ()) :
    (t.dispatch piece t.offset).result = .ok () ∧
      (((t.dispatch piece t.offset).tokenizer.moved []
          (t.offset + length) false).read
        (input.drop length)).result = .ok () := by
  rw [read_piece hFirst] at hOk
  rcases Outcome.andThen_result_ok hOk with
    ⟨_, hPiece, hRest⟩
  exact ⟨hPiece, hRest⟩

/-
  The induction is on the pieces that a scan finds from some
  place on.
-/
theorem read_reorderedFrom
    {limit limit' start start' : Nat}
    {document reordered : List UInt8}
    (hLimit : document.length < limit)
    (hLimit' : reordered.length < limit')
    (hPieces :
      List.Forall₂ Piece.Reordered
        ((Scan.ofBytesFrom limit start document).pieces.map
          Prod.fst)
        ((Scan.ofBytesFrom limit' start'
          reordered).pieces.map Prod.fst))
    (hParallel : t.Parallel other)
    (hOk : (t.read document).result = .ok ())
    (hOther : (other.read reordered).result = .ok ()) :
    DeliversAlike (t.read document)
      (other.read reordered) := by
  induction limit generalizing t other limit' start start'
      document reordered with
  | zero => omega
  | succ limit ih =>
      cases limit' with
      | zero => omega
      | succ limit' =>
          cases hFirst : Piece.first document with
          | fault cause index =>
              rw [read_fault hFirst] at hOk
              cases hOk
          | endOfInput =>
              cases hFirst' : Piece.first reordered with
              | fault cause index =>
                  rw [read_fault hFirst'] at hOther
                  cases hOther
              | piece piece length =>
                  simp [Scan.ofBytesFrom, hFirst, hFirst']
                    at hPieces
              | endOfInput =>
                  rw [Piece.first_endOfInput hFirst,
                    Piece.first_endOfInput hFirst', read_nil,
                    read_nil]
                  exact ⟨.nil, hParallel⟩
          | piece piece length =>
              cases hFirst' : Piece.first reordered with
              | fault cause index =>
                  rw [read_fault hFirst'] at hOther
                  cases hOther
              | endOfInput =>
                  simp [Scan.ofBytesFrom, hFirst, hFirst']
                    at hPieces
              | piece piece' length' =>
                  simp only [Scan.ofBytesFrom, hFirst,
                    hFirst', List.map_cons,
                    List.forall₂_cons] at hPieces
                  have hShort := Piece.first_length hFirst
                  have hShort' := Piece.first_length hFirst'
                  rcases read_piece_ok hFirst hOk with
                    ⟨hPiece, hRest⟩
                  rcases read_piece_ok hFirst' hOther with
                    ⟨hPiece', hRest'⟩
                  have hHere :=
                    dispatch_reordered hParallel hPieces.1
                      hPiece hPiece'
                  rw [read_piece hFirst, read_piece hFirst']
                  refine hHere.andThen hPiece hPiece'
                    (ih ?_ ?_ hPieces.2
                      (hHere.parallel.moved _ _ _ _ _ _) hRest
                      hRest')
                  · rw [List.length_drop]
                    omega
                  · rw [List.length_drop]
                    omega

/-
  Documents with attributes in another order deliver the same
  events, but for that order.
-/
theorem read_reordered
    {document reordered : List UInt8}
    (hOrder : Reordered document reordered)
    (hOk :
      (Tokenizer.start.read document).result = .ok ())
    (hOther :
      (Tokenizer.start.read reordered).result = .ok ()) :
    List.Forall₂ Event.Reordered
      (Tokenizer.start.read document).events
      (Tokenizer.start.read reordered).events := by
  have hStart :
      Tokenizer.start.Parallel Tokenizer.start :=
    ⟨rfl, rfl, fun _ => rfl⟩
  exact
    (read_reorderedFrom (Nat.lt_succ_self _)
      (Nat.lt_succ_self _) hOrder hStart hOk hOther).events

end Tokenizer

end RdfXml
