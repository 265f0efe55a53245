import RdfXml.Grammar.Machine
import RdfXml.Proofs.Text.Encoding
import RdfXml.Proofs.Xml.CharacterData
import RdfXml.Proofs.Xml.WellNested

/-
  The bytes of tags and text, and what they are read as.

  A start tag is written as its name and its attributes, the
  namespace declarations first.  Names have no character of
  markup and escaped values no quote, so that the bytes of a
  tag are read as one piece, and that piece as its name and
  attributes.

  Main declarations:
    * `decodeText_escape`
    * `Named`
    * `TagAttribute.key`
    * `StartTag.parts`
    * `StartTag.content`
    * `Piece.first_startTag`
    * `Piece.first_endTag`
    * `Piece.first_escaped`
    * `StartTag.Spelled`
    * `decodeTagAttributes_content`
-/

------------------------------------------------------------
-- Escaped Text
------------------------------------------------------------

namespace RdfXml

namespace Reference

/- The characters that are escaped, and what as. -/
def entities : List (Char × List Char) :=
  [('<', "&lt;".toList), ('>', "&gt;".toList),
   ('&', "&amp;".toList), ('\'', "&apos;".toList),
   ('"', "&quot;".toList)]

/- A character is left as it is or has its entity. -/
theorem escapeChar_cases (c : Char) :
    (escapeChar c = [c] ∧ ∀ e ∈ entities, e.1 ≠ c) ∨
      (c, escapeChar c) ∈ entities := by
  unfold escapeChar
  split
  · next hSame =>
      rw [hSame]
      exact Or.inr (by decide)
  · split
    · next hSame =>
        rw [hSame]
        exact Or.inr (by decide)
    · split
      · next hSame =>
          rw [hSame]
          exact Or.inr (by decide)
      · split
        · next hSame =>
            rw [hSame]
            exact Or.inr (by decide)
        · split
          · next hSame =>
              rw [hSame]
              exact Or.inr (by decide)
          · next hLt hGt hAmp hApos hQuot =>
              refine Or.inl ⟨rfl, ?_⟩
              simp [entities, Ne.symm hLt, Ne.symm hGt,
                Ne.symm hAmp, Ne.symm hApos, Ne.symm hQuot]

/- A character is what its escaped form stands for. -/
theorem follow_escapeChar (c : Char) :
    follow none (escapeChar c) = some (none, [c]) := by
  have hAll :
      entities.all (fun e =>
        follow none e.2 == some (none, [e.1])) = true := by
    decide
  rcases escapeChar_cases c with
    ⟨hPlain, hOther⟩ | hEntity
  · have hAmp : c ≠ '&' :=
      Ne.symm (hOther ('&', "&amp;".toList) (by decide))
    rw [hPlain]
    apply follow_plain
    simpa using Ne.symm hAmp
  · simpa using List.all_eq_true.mp hAll _ hEntity

theorem follow_escape (text : String) :
    follow none (escape text).toList =
      some (none, text.toList) := by
  unfold escape
  rw [String.toList_ofList]
  induction text.toList with
  | nil => rfl
  | cons c chars ih =>
      rw [List.flatMap_cons, follow_append,
        follow_escapeChar]
      simp [ih]

theorem escapeChar_plain
    {c : Char}
    (hMarkup : c ∈ ['<', '>', '\'', '"'])
    (found : Char) :
    c ∉ escapeChar found := by
  have hAll :
      entities.all (fun e =>
        ['<', '>', '\'', '"'].all
          (fun x => !e.2.contains x)) = true := by
    decide
  have hEscaped :
      ['<', '>', '\'', '"'].all (fun x =>
        (entities.map Prod.fst).contains x) = true := by
    decide
  rcases escapeChar_cases found with
    ⟨hPlain, hOther⟩ | hEntity
  · have hKnown := List.all_eq_true.mp hEscaped c hMarkup
    rw [List.contains_iff_mem] at hKnown
    rcases List.mem_map.mp hKnown with ⟨e, hEntry, rfl⟩
    rw [hPlain, List.mem_singleton]
    exact hOther e hEntry
  · have hNone :=
      List.all_eq_true.mp
        (List.all_eq_true.mp hAll _ hEntity) c hMarkup
    simpa using hNone

/- Neither brackets nor quotes are left in escaped text. -/
theorem escape_plain
    {c : Char}
    (hMarkup : c ∈ ['<', '>', '\'', '"'])
    (text : String) :
    c ∉ (escape text).toList := by
  unfold escape
  rw [String.toList_ofList]
  intro hMember
  rcases List.mem_flatMap.mp hMember with
    ⟨found, _, hFound⟩
  exact escapeChar_plain hMarkup found hFound

end Reference

/- Escaped text is read back. -/
theorem decodeText_escape (text : String) :
    decodeText (Utf8.encode (Reference.escape text)) =
      .ok text :=
  decodeText_ok_iff.mpr
    ⟨_, Utf8.decode_encode _, Reference.follow_escape text⟩

theorem not_mem_encode_escape
    {c : Char}
    (hMarkup : c ∈ ['<', '>', '\'', '"'])
    (text : String) :
    byte c ∉ Utf8.encode (Reference.escape text) := by
  intro hMember
  have hAll :
      ['<', '>', '\'', '"'].all (·.toNat < 0x80) = true := by
    decide
  have hAscii : c.toNat < 0x80 := by
    simpa using List.all_eq_true.mp hAll c hMarkup
  exact Reference.escape_plain hMarkup text
    (Utf8.ascii_mem_of_encode hAscii hMember)

------------------------------------------------------------
-- Names
------------------------------------------------------------

/- Characters that are no part of a name. -/
def markupChars : List Char :=
  ['<', '>', '"', '\'', '=', '/', '!', '?', ' ', '\t', '\r',
   '\n']

/- Some characters of names, and colons between them. -/
def Named (text : String) : Prop :=
  text.toList ≠ [] ∧
    ∀ c ∈ text.toList, NCName.isPart c = true ∨ c = ':'

theorem named_of_isName
    {text : String}
    (hName : NCName.isName text = true) :
    Named text := by
  unfold NCName.isName at hName
  unfold Named
  cases hChars : text.toList with
  | nil =>
      rw [hChars] at hName
      cases hName
  | cons c rest =>
      rw [hChars] at hName
      simp only [NCName.isNameChars, Bool.and_eq_true,
        List.all_eq_true] at hName
      refine ⟨by simp, ?_⟩
      intro x hMember
      rcases List.mem_cons.mp hMember with rfl | hRest
      · exact Or.inl (by simp [NCName.isPart, hName.1])
      · exact Or.inl (hName.2 x hRest)

theorem Named.append
    {first second : String}
    (hFirst : Named first)
    (hSecond : Named second) :
    Named (first ++ second) := by
  unfold Named
  rw [String.toList_append]
  refine ⟨by simp [hFirst.1], ?_⟩
  intro c hMember
  rcases List.mem_append.mp hMember with hLeft | hRight
  · exact hFirst.2 c hLeft
  · exact hSecond.2 c hRight

theorem named_colon : Named ":" := by
  refine ⟨by decide, ?_⟩
  intro c hMember
  exact Or.inr (by simpa using hMember)

/- A qualified name is made of names. -/
theorem named_of_validQName
    {text : String}
    {name : QName}
    (hValid : validQName text = .ok name) :
    Named text := by
  have hName := validQName_eq hValid
  have hText := QName.text_ofString text
  rw [← hName] at hText
  unfold validQName at hValid
  rw [← hName] at hValid
  dsimp only at hValid
  split at hValid
  · cases hValid
  · next hLabel =>
      split at hValid
      · next hLocal =>
          have hLocalNamed := named_of_isName hLocal
          rw [← hText]
          unfold QName.text
          cases hCase : name.label? with
          | none => exact hLocalNamed
          | some label =>
              rw [hCase] at hLabel
              simp only [Option.filter_eq_none_iff,
                Option.some.injEq] at hLabel
              have hLabelName : NCName.isName label = true := by
                simpa using hLabel label rfl
              exact ((named_of_isName hLabelName).append
                named_colon).append hLocalNamed
      · cases hValid

theorem Named.not_mem
    {text : String}
    {c : Char}
    (hNamed : Named text)
    (hMarkup : c ∈ markupChars) :
    byte c ∉ Utf8.encode text := by
  have hAll :
      markupChars.all (fun x =>
        !NCName.isPart x && x != ':' &&
          x.toNat < 0x80) = true := by
    decide
  have hOther := List.all_eq_true.mp hAll c hMarkup
  simp only [Bool.and_eq_true, Bool.not_eq_true', bne_iff_ne,
    decide_eq_true_eq] at hOther
  rcases hOther with ⟨⟨hPart, hColon⟩, hAscii⟩
  intro hMember
  rcases hNamed.2 c
      (Utf8.ascii_mem_of_encode hAscii hMember) with
    hSame | hSame
  · rw [hPart] at hSame
    cases hSame
  · exact hColon hSame

theorem Named.encode_ne_nil
    {text : String}
    (hNamed : Named text) :
    Utf8.encode text ≠ [] := by
  intro hNil
  unfold Utf8.encode at hNil
  cases hChars : text.toList with
  | nil => exact hNamed.1 hChars
  | cons c rest =>
      rw [hChars, List.flatMap_cons] at hNil
      have hSpells := Utf8.spells_encodeChar c
      rw [(List.append_eq_nil_iff.mp hNil).1] at hSpells
      exact hSpells

/- Names have no blanks. -/
theorem Named.not_blank
    {text : String}
    (hNamed : Named text)
    {b : UInt8}
    (hMember : b ∈ Utf8.encode text) :
    isBlankByte b = false := by
  cases hBlank : isBlankByte b with
  | false => rfl
  | true =>
      simp only [isBlankByte, Bool.or_eq_true, beq_iff_eq]
        at hBlank
      rcases hBlank with ((rfl | rfl) | rfl) | rfl
      · exact absurd hMember (hNamed.not_mem (by decide))
      · exact absurd hMember (hNamed.not_mem (by decide))
      · exact absurd hMember (hNamed.not_mem (by decide))
      · exact absurd hMember (hNamed.not_mem (by decide))

------------------------------------------------------------
-- Tags As Written
------------------------------------------------------------

/- The name of the attribute that a declaration is. -/
def Declaration.key (d : Declaration) : String :=
  match d.label? with
  | some label => "xmlns:" ++ label
  | none => "xmlns"

namespace TagAttribute

/- The name of an attribute as written. -/
def key : TagAttribute → String
| .declaration d => d.key
| .other name _ => name.text

/- The value of an attribute. -/
def value : TagAttribute → String
| .declaration d => d.uri
| .other _ value => value

/- An attribute in a start tag. -/
def text (a : TagAttribute) : String :=
  " " ++ a.key ++ "=\"" ++ Reference.escape a.value ++ "\""

/- The bytes of an attribute in a start tag. -/
def spelling (a : TagAttribute) : List UInt8 :=
  byte ' ' ::
    (Utf8.encode a.key ++
      byte '=' :: byte '"' ::
        (Utf8.encode (Reference.escape a.value) ++
          [byte '"']))

theorem encode_text (a : TagAttribute) :
    Utf8.encode a.text = a.spelling := by
  have hBlank : Utf8.encode " " = [byte ' '] := by decide
  have hEquals :
      Utf8.encode "=\"" = [byte '=', byte '"'] := by decide
  have hQuote : Utf8.encode "\"" = [byte '"'] := by decide
  unfold text spelling
  simp only [Utf8.encode_append, hBlank, hEquals, hQuote]
  simp

end TagAttribute

namespace StartTag

/- All attributes of a tag, the declarations first. -/
def parts (tag : StartTag) : List TagAttribute :=
  tag.declarations.map .declaration ++
    tag.attributes.map
      (fun a => .other a.name.toQName a.value)

/- The bytes of a tag between its angle brackets. -/
def content (tag : StartTag) : List UInt8 :=
  Utf8.encode tag.name.qualified ++
    tag.parts.flatMap TagAttribute.spelling

end StartTag

theorem encode_join (texts : List String) :
    Utf8.encode (String.join texts) =
      texts.flatMap Utf8.encode := by
  induction texts with
  | nil => rfl
  | cons text texts ih =>
      rw [String.join_cons, Utf8.encode_append, ih,
        List.flatMap_cons]

theorem declarationText_eq (d : Declaration) :
    Machine.declarationText d =
      (TagAttribute.declaration d).text := by
  rcases d with ⟨label?, uri⟩
  cases label? with
  | none => rfl
  | some label =>
      apply String.toList_inj.mp
      simp [Machine.declarationText, TagAttribute.text,
        TagAttribute.key, TagAttribute.value, Declaration.key]

theorem encode_startTagText (tag : StartTag) :
    Utf8.encode (Machine.startTagText tag) =
      byte '<' :: (tag.content ++ [byte '>']) := by
  have hOpen : Utf8.encode "<" = [byte '<'] := by decide
  have hClose : Utf8.encode ">" = [byte '>'] := by decide
  have hDeclared :
      tag.declarations.map Machine.declarationText =
        (tag.declarations.map
          TagAttribute.declaration).map
            TagAttribute.text := by
    rw [List.map_map]
    exact List.map_congr_left
      (fun d _ => declarationText_eq d)
  have hOthers :
      tag.attributes.map Machine.attributeText =
        (tag.attributes.map
          (fun a =>
            TagAttribute.other a.name.toQName a.value)).map
              TagAttribute.text := by
    rw [List.map_map]
    rfl
  have hSpelling :
      (fun a : TagAttribute => Utf8.encode a.text) =
        TagAttribute.spelling :=
    funext TagAttribute.encode_text
  unfold Machine.startTagText StartTag.content StartTag.parts
  rw [hDeclared, hOthers]
  simp only [Utf8.encode_append, encode_join,
    List.flatMap_map, hOpen, hClose, hSpelling,
    List.flatMap_append]
  simp

theorem encode_endTagText (name : Name) :
    Utf8.encode (Machine.endTagText name) =
      byte '<' :: byte '/' ::
        (Utf8.encode name.qualified ++ [byte '>']) := by
  have hOpen :
      Utf8.encode "</" = [byte '<', byte '/'] := by decide
  have hClose : Utf8.encode ">" = [byte '>'] := by decide
  unfold Machine.endTagText
  simp only [Utf8.encode_append, hOpen, hClose]
  simp

------------------------------------------------------------
-- Pieces
------------------------------------------------------------

namespace Piece

/- No tag ends in these bytes. -/
def Inside (part : List UInt8) : Prop :=
  ∀ rest,
    tagEnd? none (part ++ rest) =
      (tagEnd? none rest).map (· + part.length)

theorem inside_nil : Inside [] := by
  intro rest
  rw [List.nil_append]
  cases tagEnd? none rest with
  | none => rfl
  | some stop => rfl

theorem Inside.append
    {first second : List UInt8}
    (hFirst : Inside first)
    (hSecond : Inside second) :
    Inside (first ++ second) := by
  intro rest
  rw [List.append_assoc, hFirst, hSecond]
  cases tagEnd? none rest with
  | none => rfl
  | some stop =>
      simp only [Option.map_some, List.length_append,
        Option.some.injEq]
      omega

theorem inside_byte
    {b : UInt8}
    (hBracket : b ≠ byte '>')
    (hQuote : b ≠ byte '"')
    (hApostrophe : b ≠ byte '\'') :
    Inside [b] := by
  intro rest
  simp [tagEnd?, hBracket, hQuote, hApostrophe]

/- A tag does not end in a name. -/
theorem inside_named
    {text : String}
    (hNamed : Named text) :
    Inside (Utf8.encode text) := by
  have hPlain : ∀ part : List UInt8,
      (∀ b ∈ part, b ∈ Utf8.encode text) →
        Inside part := by
    intro part hPart
    induction part with
    | nil => exact inside_nil
    | cons b part ih =>
        have hHead := hPart b (by simp)
        have hByte : Inside [b] := by
          apply inside_byte
          · rintro rfl
            exact hNamed.not_mem (by decide) hHead
          · rintro rfl
            exact hNamed.not_mem (by decide) hHead
          · rintro rfl
            exact hNamed.not_mem (by decide) hHead
        exact hByte.append
          (ih (fun x hMember =>
            hPart x (List.mem_cons_of_mem b hMember)))
  exact hPlain _ (fun _ hMember => hMember)

/- A tag does not end inside of quotes. -/
theorem inside_quoted
    {value : List UInt8}
    (hValue : byte '"' ∉ value) :
    Inside (byte '"' :: (value ++ [byte '"'])) := by
  intro rest
  have hClose :
      tagEnd? (some (byte '"'))
          (value ++ byte '"' :: rest) =
        (tagEnd? none rest).map (· + (value.length + 1)) := by
    induction value with
    | nil => simp [tagEnd?]
    | cons b value ih =>
        have hHead : b ≠ byte '"' := by
          intro hSame
          exact hValue (by simp [hSame])
        have hTail := ih (fun hMember =>
          hValue (List.mem_cons_of_mem b hMember))
        simp only [List.cons_append, tagEnd?, hHead,
          if_false, hTail]
        cases tagEnd? none rest with
        | none => rfl
        | some stop => rfl
  have hBracket : byte '"' ≠ byte '>' := by decide
  simp only [List.cons_append, List.append_assoc,
    List.nil_append, tagEnd?, hBracket, if_false,
    decide_true, Bool.true_or, if_true, hClose]
  cases tagEnd? none rest with
  | none => rfl
  | some stop =>
      simp only [Option.map_some, List.length_cons,
        List.length_append, List.length_nil,
        Option.some.injEq]
      omega

theorem inside_spelling
    {a : TagAttribute}
    (hKey : Named a.key) :
    Inside a.spelling := by
  have hBlank : Inside [byte ' '] :=
    inside_byte (by decide) (by decide) (by decide)
  have hEquals : Inside [byte '='] :=
    inside_byte (by decide) (by decide) (by decide)
  have hQuote : '"' ∈ ['<', '>', '\'', '"'] := by decide
  have hValue :=
    inside_quoted (not_mem_encode_escape hQuote a.value)
  have hParts :=
    hBlank.append
      ((inside_named hKey).append (hEquals.append hValue))
  have hSame :
      a.spelling =
        [byte ' '] ++
          (Utf8.encode a.key ++
            ([byte '='] ++
              byte '"' ::
                (Utf8.encode (Reference.escape a.value) ++
                  [byte '"']))) := by
    simp [TagAttribute.spelling]
  rw [hSame]
  exact hParts

theorem inside_spellings
    {parts : List TagAttribute}
    (hKeys : ∀ a ∈ parts, Named a.key) :
    Inside (parts.flatMap TagAttribute.spelling) := by
  induction parts with
  | nil => exact inside_nil
  | cons a parts ih =>
      rw [List.flatMap_cons]
      exact (inside_spelling (hKeys a (by simp))).append
        (ih (fun x hMember =>
          hKeys x (List.mem_cons_of_mem a hMember)))

/- A tag is what stands before its closing bracket. -/
theorem readTag_inside
    {b : UInt8}
    {inner : List UInt8}
    (hInside : Inside (b :: inner))
    (rest : List UInt8) :
    readTag (b :: inner ++ byte '>' :: rest) =
      if b = byte '/' then
        closed (.endTag (trimBlankEnd inner))
          (inner.length + 1)
      else
        closed (ofTagContent (b :: inner))
          (inner.length + 1) := by
  have hEnd :
      tagEnd? none (b :: inner ++ byte '>' :: rest) =
        some (inner.length + 1) := by
    rw [hInside]
    simp [tagEnd?]
  have hTake :
      (b :: inner ++ byte '>' :: rest).take
          (inner.length + 1) = b :: inner := by
    simp
  unfold readTag
  rw [hEnd]
  simp only [hTake]

/- What a name begins with is no mark of markup. -/
theorem named_head
    {text : String}
    (hNamed : Named text) :
    ∃ b rest,
      Utf8.encode text = b :: rest ∧
        b ≠ byte '!' ∧ b ≠ byte '?' ∧ b ≠ byte '/' := by
  cases hBytes : Utf8.encode text with
  | nil => exact absurd hBytes hNamed.encode_ne_nil
  | cons b rest =>
      have hOther : ∀ c ∈ markupChars, b ≠ byte c := by
        rintro c hMarkup rfl
        exact hNamed.not_mem hMarkup (by simp [hBytes])
      exact ⟨b, rest, rfl, hOther '!' (by decide),
        hOther '?' (by decide), hOther '/' (by decide)⟩

/- The content of a start tag does not end in a slash. -/
theorem content_getLast?
    {tag : StartTag}
    (hName : Named tag.name.qualified) :
    tag.content.getLast? ≠ some (byte '/') := by
  intro hLast
  unfold StartTag.content at hLast
  rcases tag.parts.eq_nil_or_concat with
    hNone | ⟨front, a, hParts⟩
  · rw [hNone, List.flatMap_nil, List.append_nil] at hLast
    have hSlash : '/' ∈ markupChars := by decide
    exact hName.not_mem hSlash
      (List.mem_of_getLast? hLast)
  · have hEnd : ∃ most, a.spelling = most ++ [byte '"'] := by
      refine ⟨byte ' ' :: (Utf8.encode a.key ++ byte '=' ::
        byte '"' ::
          Utf8.encode (Reference.escape a.value)), ?_⟩
      simp [TagAttribute.spelling]
    rcases hEnd with ⟨most, hEnd⟩
    have hQuote : byte '"' ≠ byte '/' := by decide
    rw [hParts, List.concat_eq_append,
      List.flatMap_append, List.flatMap_singleton, hEnd,
      ← List.append_assoc, ← List.append_assoc,
      List.getLast?_concat] at hLast
    exact hQuote (Option.some.inj hLast)

/- The bytes of a start tag are one piece. -/
theorem first_startTag
    {tag : StartTag}
    (hName : Named tag.name.qualified)
    (hKeys : ∀ a ∈ tag.parts, Named a.key)
    (rest : List UInt8) :
    first
        (Utf8.encode (Machine.startTagText tag) ++ rest) =
      .piece (.startTag tag.content)
        (Utf8.encode (Machine.startTagText tag)).length := by
  have hInside : Inside tag.content :=
    (inside_named hName).append (inside_spellings hKeys)
  have hLast := content_getLast? hName
  have hLength :
      (Utf8.encode (Machine.startTagText tag)).length =
        tag.content.length + 2 := by
    simp [encode_startTagText]
  rcases named_head hName with
    ⟨b, more, hBytes, hBang, hQuery, hSlash⟩
  have hContent :
      tag.content =
        b :: (more ++
          tag.parts.flatMap TagAttribute.spelling) := by
    unfold StartTag.content
    rw [hBytes]
    rfl
  rw [hLength, encode_startTagText, List.cons_append,
    List.append_assoc, List.singleton_append,
    first_of_markup]
  rw [hContent] at hInside hLast ⊢
  have hTag := readTag_inside hInside rest
  rw [if_neg hSlash, ofTagContent, if_neg hLast] at hTag
  rw [List.cons_append] at hTag ⊢
  simp only [readMarkup, hBang, hQuery, if_false, hTag,
    closed, List.length_cons]

/- A name has no blanks to be dropped. -/
theorem trimBlankEnd_named
    {text : String}
    (hNamed : Named text) :
    trimBlankEnd (Utf8.encode text) = Utf8.encode text := by
  have hNone : ∀ b ∈ (Utf8.encode text).reverse,
      isBlankByte b = false :=
    fun b hMember =>
      hNamed.not_blank (List.mem_reverse.mp hMember)
  have hKept :
      (Utf8.encode text).reverse.dropWhile isBlankByte =
        (Utf8.encode text).reverse := by
    cases hBytes : (Utf8.encode text).reverse with
    | nil => rfl
    | cons b rest =>
        have hHead := hNone b (by simp [hBytes])
        simp [hHead]
  unfold trimBlankEnd
  split
  · rfl
  · rw [hKept, List.reverse_reverse]

/- The bytes of an end tag are one piece. -/
theorem first_endTag
    {name : Name}
    (hName : Named name.qualified)
    (rest : List UInt8) :
    first (Utf8.encode (Machine.endTagText name) ++ rest) =
      .piece (.endTag (Utf8.encode name.qualified))
        (Utf8.encode (Machine.endTagText name)).length := by
  have hSlash : Inside [byte '/'] :=
    inside_byte (by decide) (by decide) (by decide)
  have hInside :
      Inside (byte '/' :: Utf8.encode name.qualified) :=
    hSlash.append (inside_named hName)
  have hTag := readTag_inside hInside rest
  have hLength :
      (Utf8.encode (Machine.endTagText name)).length =
        (Utf8.encode name.qualified).length + 3 := by
    simp [encode_endTagText]
  have hBang : byte '/' ≠ byte '!' := by decide
  have hQuery : byte '/' ≠ byte '?' := by decide
  rw [if_pos rfl, trimBlankEnd_named hName] at hTag
  rw [hLength, encode_endTagText, List.cons_append,
    List.cons_append, List.append_assoc,
    List.singleton_append, first_of_markup]
  rw [List.cons_append] at hTag
  simp only [readMarkup, hBang, hQuery, if_false, hTag,
    closed]

/- Escaped text is one piece up to the next markup. -/
theorem first_escaped
    {text : String}
    (hSome : text ≠ "")
    {rest : List UInt8}
    (hRest : ∀ b ∈ rest.head?, b = byte '<') :
    first
        (Utf8.encode (Reference.escape text) ++ rest) =
      .piece (.text (Utf8.encode (Reference.escape text)))
        (Utf8.encode (Reference.escape text)).length := by
  apply first_text_append
  · intro b hMember
    have hOther : b ≠ byte '<' := by
      rintro rfl
      exact not_mem_encode_escape (by decide) text hMember
    simpa [isTextByte] using hOther
  · intro hNil
    have hDecode := decodeText_escape text
    rw [hNil, decodeText_nil] at hDecode
    cases hDecode
    exact hSome rfl
  · intro b hMember
    rw [hRest b hMember]
    decide

end Piece

------------------------------------------------------------
-- Attribute Lists
------------------------------------------------------------

/- An attribute as it is found in a tag. -/
def TagAttribute.raw (a : TagAttribute) : RawAttribute where
  key := Utf8.encode a.key
  value := Utf8.encode (Reference.escape a.value)

namespace RawAttribute

variable {seen : Option (List (List UInt8 × Nat))}

/- A key goes on while no blank and no equals sign comes. -/
theorem readFrom_key
    {more : List UInt8}
    (hMore : ∀ b ∈ more,
      b ≠ byte '=' ∧ isBlankByte b = false)
    (start : Nat)
    (key : List UInt8)
    (position : Nat)
    (rest : List UInt8) :
    readFrom (.inKey start key) seen position
        (more ++ rest) =
      readFrom (.inKey start (key ++ more)) seen
        (position + more.length) rest := by
  induction more generalizing key position with
  | nil => simp
  | cons b more ih =>
      rcases hMore b (by simp) with ⟨hEquals, hBlank⟩
      have hTail := ih (fun x hMember =>
        hMore x (List.mem_cons_of_mem b hMember))
      rw [List.cons_append, readFrom, if_neg hEquals, hBlank,
        if_neg (by simp), hTail, List.append_assoc,
        List.singleton_append, List.length_cons,
        Nat.add_assoc, Nat.add_comm 1]

/- A value goes on up to its quote. -/
theorem readFrom_value
    {more : List UInt8}
    {quote : UInt8}
    (hMore : quote ∉ more)
    (key value : List UInt8)
    (position : Nat)
    (rest : List UInt8) :
    readFrom (.inValue key quote value) seen position
        (more ++ quote :: rest) =
      (⟨key, value ++ more⟩ ::
          (readFrom .between seen
            (position + more.length + 1) rest).1,
        (readFrom .between seen
          (position + more.length + 1) rest).2) := by
  induction more generalizing value position with
  | nil => simp [readFrom]
  | cons b more ih =>
      have hHead : b ≠ quote := by
        intro hSame
        exact hMore (by simp [hSame])
      have hTail := ih (fun hMember =>
        hMore (List.mem_cons_of_mem b hMember))
      rw [List.cons_append, readFrom, if_neg hHead, hTail,
        List.append_assoc, List.singleton_append,
        List.length_cons, Nat.add_assoc position,
        Nat.add_comm 1]

/- A key is not found among others. -/
theorem earlier?_none
    {entries : List (List UInt8 × Nat)}
    {key : List UInt8}
    (hNew : ∀ entry ∈ entries, entry.1 ≠ key) :
    earlier? entries key = none := by
  unfold earlier?
  rw [Option.map_eq_none_iff, List.find?_eq_none]
  intro entry hMember
  simpa using hNew entry hMember

/- The bytes of an attribute are read as that attribute. -/
theorem readFrom_spelling
    {a : TagAttribute}
    {entries : List (List UInt8 × Nat)}
    (hKey : Named a.key)
    (hNew : ∀ entry ∈ entries, entry.1 ≠ a.raw.key)
    (position : Nat)
    (rest : List UInt8) :
    ∃ start later,
      readFrom .between (some entries) position
          (a.spelling ++ rest) =
        (a.raw ::
            (readFrom .between
              (some ((a.raw.key, start) :: entries)) later
              rest).1,
          (readFrom .between
            (some ((a.raw.key, start) :: entries)) later
            rest).2) := by
  have hPlain : ∀ b ∈ Utf8.encode a.key,
      b ≠ byte '=' ∧ isBlankByte b = false := by
    intro b hMember
    refine ⟨?_, hKey.not_blank hMember⟩
    rintro rfl
    have hEquals : '=' ∈ markupChars := by decide
    exact hKey.not_mem hEquals hMember
  have hQuote : '"' ∈ ['<', '>', '\'', '"'] := by decide
  have hValue := not_mem_encode_escape hQuote a.value
  have hFound := earlier?_none hNew
  have hSpace : isBlankByte (byte ' ') = true := by decide
  have hQuoteBlank : isBlankByte (byte '"') = false := by
    decide
  unfold TagAttribute.raw at hFound ⊢
  dsimp only at hFound ⊢
  cases hBytes : Utf8.encode a.key with
  | nil => exact absurd hBytes hKey.encode_ne_nil
  | cons b key =>
      have hHead := hPlain b (by simp [hBytes])
      have hRest : ∀ x ∈ key,
          x ≠ byte '=' ∧ isBlankByte x = false :=
        fun x hMember => hPlain x (by simp [hBytes, hMember])
      rw [hBytes] at hFound
      have hParts :
          a.spelling ++ rest =
            byte ' ' :: b :: (key ++ byte '=' :: byte '"' ::
              (Utf8.encode (Reference.escape a.value) ++
                byte '"' :: rest)) := by
        simp [TagAttribute.spelling, hBytes]
      refine ⟨position + 1,
        position + 1 + 1 + key.length + 1 + 1 +
          (Utf8.encode (Reference.escape a.value)).length +
            1, ?_⟩
      rw [hParts, readFrom, if_pos hSpace, readFrom,
        hHead.2, if_neg (by simp), readFrom_key hRest,
        readFrom, if_pos rfl]
      simp only [List.singleton_append, Option.bind_some,
        hFound, Option.map_some]
      rw [readFrom, hQuoteBlank, if_neg (by simp)]
      simp only [decide_true, Bool.true_or, if_true]
      rw [readFrom_value hValue, List.nil_append]

/- The bytes of attributes with different keys. -/
theorem readFrom_spellings
    {parts : List TagAttribute}
    {entries : List (List UInt8 × Nat)}
    (hKeys : ∀ a ∈ parts, Named a.key)
    (hDistinct : (parts.map TagAttribute.key).Nodup)
    (hNew : ∀ a ∈ parts, ∀ entry ∈ entries,
      entry.1 ≠ a.raw.key)
    (position : Nat) :
    readFrom .between (some entries) position
        (parts.flatMap TagAttribute.spelling) =
      (parts.map TagAttribute.raw, none) := by
  induction parts generalizing entries position with
  | nil => rfl
  | cons a parts ih =>
      rw [List.map_cons, List.nodup_cons] at hDistinct
      rcases readFrom_spelling (hKeys a (by simp))
          (hNew a (by simp)) position
          (parts.flatMap TagAttribute.spelling) with
        ⟨start, later, hRead⟩
      have hLater : ∀ x ∈ parts,
          ∀ entry ∈ (a.raw.key, start) :: entries,
            entry.1 ≠ x.raw.key := by
        intro x hMember entry hEntry
        rcases List.mem_cons.mp hEntry with rfl | hOld
        · intro hSame
          have hFirst := Utf8.decodeString_encode a.key
          have hText :
              Utf8.encode a.key = Utf8.encode x.key :=
            hSame
          rw [hText, Utf8.decodeString_encode] at hFirst
          apply hDistinct.1
          rw [← Except.ok.inj hFirst]
          exact List.mem_map_of_mem hMember
        · exact hNew x (by simp [hMember]) entry hOld
      have hTail :=
        ih (fun x hMember =>
            hKeys x (List.mem_cons_of_mem a hMember))
          hDistinct.2 hLater later
      rw [List.flatMap_cons, hRead, hTail]
      rfl

end RawAttribute

------------------------------------------------------------
-- Start Tags
------------------------------------------------------------

/-
  A start tag that can be written: its names are valid, its
  attributes are what their names say, and no name is given
  to two of them.
-/
structure StartTag.Spelled (tag : StartTag) : Prop where
  name :
    validQName tag.name.qualified = .ok tag.name.toQName
  parts : ∀ a ∈ tag.parts,
    TagAttribute.ofParts a.key a.value = .ok a
  distinct : (tag.parts.map TagAttribute.key).Nodup

namespace StartTag.Spelled

variable {tag : StartTag}

theorem named (hSpelled : tag.Spelled) :
    Named tag.name.qualified :=
  named_of_validQName hSpelled.name

/- The name of an attribute that can be written. -/
theorem named_of_ofParts
    {a : TagAttribute}
    (hParts : TagAttribute.ofParts a.key a.value = .ok a) :
    Named a.key := by
  have hXmlns : NCName.isName "xmlns" = true := by decide
  unfold TagAttribute.ofParts at hParts
  dsimp only at hParts
  split at hParts
  · next hKey =>
      rw [hKey]
      exact named_of_isName hXmlns
  · split at hParts
    · split at hParts
      · next hLocal =>
          have hSame := Except.ok.inj hParts
          rw [← hSame]
          exact ((named_of_isName hXmlns).append
            named_colon).append (named_of_isName hLocal)
      · cases hParts
    · cases hValid : validQName a.key with
      | error e =>
          rw [hValid] at hParts
          cases hParts
      | ok name => exact named_of_validQName hValid

theorem keys
    (hSpelled : tag.Spelled) :
    ∀ a ∈ tag.parts, Named a.key :=
  fun a hMember =>
    named_of_ofParts (hSpelled.parts a hMember)

end StartTag.Spelled

/- The name of a tag is read back. -/
theorem tagNameBytes_content
    {tag : StartTag}
    (hName : Named tag.name.qualified) :
    tagNameBytes tag.content =
      Utf8.encode tag.name.qualified := by
  have hBlank : isBlankByte (byte ' ') = true := by decide
  have hFront : ∀ b ∈ Utf8.encode tag.name.qualified,
      (!isBlankByte b) = true := by
    intro b hMember
    rw [hName.not_blank hMember]
    rfl
  unfold tagNameBytes StartTag.content
  rw [List.takeWhile_append_of_pos hFront]
  cases tag.parts with
  | nil => simp
  | cons a parts =>
      simp [TagAttribute.spelling, hBlank]

theorem decodeName_encode (text : String) :
    decodeName (Utf8.encode text) = .ok text := by
  simp [decodeName, Utf8.decodeString_encode]

theorem decodeTagName_content
    {tag : StartTag}
    (hSpelled : tag.Spelled) :
    decodeTagName tag.content = .ok tag.name.toQName := by
  unfold decodeTagName
  rw [tagNameBytes_content hSpelled.named,
    decodeName_encode]
  exact hSpelled.name

theorem ofRaw_raw
    {a : TagAttribute}
    (hParts : TagAttribute.ofParts a.key a.value = .ok a)
    (position : Nat) :
    TagAttribute.ofRaw position a.raw = .ok a := by
  unfold TagAttribute.ofRaw TagAttribute.raw
  dsimp only
  rw [decodeName_encode, decodeText_escape]
  exact hParts

/- What is read back alone is read back in a list. -/
theorem mapM_map_ok
    {α β ε : Type}
    {f : α → Except ε β}
    {g : β → α}
    {values : List β}
    (hEach : ∀ x ∈ values, f (g x) = .ok x) :
    (values.map g).mapM f = .ok values := by
  induction values with
  | nil => rfl
  | cons x values ih =>
      have hTail := ih (fun y hMember =>
        hEach y (List.mem_cons_of_mem x hMember))
      rw [List.map_cons, List.mapM_cons,
        hEach x List.mem_cons_self, hTail]
      rfl

/- The attributes of a tag are read back. -/
theorem decodeTagAttributes_content
    {tag : StartTag}
    (hSpelled : tag.Spelled)
    (position : Nat) :
    decodeTagAttributes position tag.content =
      .ok tag.parts := by
  have hNew : ∀ a ∈ tag.parts,
      ∀ entry ∈ ([] : List (List UInt8 × Nat)),
        entry.1 ≠ a.raw.key := by
    simp
  have hRead :=
    RawAttribute.readFrom_spellings hSpelled.keys
      hSpelled.distinct hNew
      (Utf8.encode tag.name.qualified).length
  have hRaws :
      (tag.parts.map TagAttribute.raw).mapM
        (TagAttribute.ofRaw position) = .ok tag.parts :=
    mapM_map_ok (fun a hMember =>
      ofRaw_raw (hSpelled.parts a hMember) position)
  unfold decodeTagAttributes
  rw [tagNameBytes_content hSpelled.named]
  unfold StartTag.content RawAttribute.read
  dsimp only
  rw [List.drop_left, hRead]
  unfold decodeAttributes
  rw [hRaws]
  rfl

end RdfXml
