import RdfXml.Text.Utf8
import RdfXml.Text.Whitespace
import RdfXml.Xml.Bindings
import RdfXml.Xml.Error

/-
  Events of a document that arrives in chunks.

  A tokenizer keeps the bytes that do not yet form complete
  pieces, the namespace bindings, and the open elements.
  `Tokenizer.feed` takes the next chunk and gives the events
  that it completes.  Apart from the places where text is cut
  into several events, the events do not depend on how the
  document is cut into chunks.

  Key definitions include:
    * `OpenElement`
    * `Tokenizer`
    * `Tokenizer.startTag`
    * `Tokenizer.endTag`
    * `Tokenizer.dispatch`
    * `completeTextLength`
    * `Tokenizer.consume`
    * `Tokenizer.feed`
-/

------------------------------------------------------------
-- State
------------------------------------------------------------

namespace RdfXml

/-
  An open element: its name as written and the number of
  namespaces that it declares.
-/
structure OpenElement where
  name : String
  declared : Nat
deriving DecidableEq, Repr

/-
  A tokenizer between two chunks.  `offset` is the position
  of the first pending byte in the document.
  `awaitingMarkupEnd` holds when the pending bytes begin with
  markup whose closing angle bracket has not arrived.  Open
  elements and bindings are kept innermost first.
-/
structure Tokenizer where
  pending : List UInt8 := []
  offset : Nat := 0
  awaitingMarkupEnd : Bool := false
  bindings : Bindings := []
  openElements : List OpenElement := []
  seenRoot : Bool := false
deriving DecidableEq, Repr

/- A tokenizer at the start of a document. -/
def Tokenizer.start : Tokenizer := {}

/-
  What a step did: the tokenizer after it, the events in
  order, and the error that stopped it or its result.
-/
structure Outcome (α : Type) where
  tokenizer : Tokenizer
  events : List Event
  result : Except XmlError α

/- Continue after a step unless it failed. -/
def Outcome.andThen
    {α β : Type}
    (outcome : Outcome α)
    (next : Tokenizer → α → Outcome β) : Outcome β :=
  match outcome.result with
  | .error e =>
      ⟨outcome.tokenizer, outcome.events, .error e⟩
  | .ok value =>
      let after := next outcome.tokenizer value
      ⟨after.tokenizer, outcome.events ++ after.events,
        after.result⟩

------------------------------------------------------------
-- Decoding Tags
------------------------------------------------------------

/- The text of bytes that must be UTF-8. -/
def decodeName
    (raw : List UInt8) : Except XmlError String :=
  match Utf8.decodeString raw with
  | .ok text => .ok text
  | .error cause => .error (.utf8 cause)

/-
  The text of a text run or an attribute value: UTF-8 with
  references resolved.
-/
def decodeText
    (raw : List UInt8) : Except XmlFault String :=
  match Utf8.decode raw with
  | .error cause => .error (.encoding cause)
  | .ok chars =>
      match Reference.resolve chars with
      | .error cause => .error (.reference cause)
      | .ok text => .ok (String.ofList text)

/- A fault at a byte position as an error. -/
def faultAt
    {α : Type}
    (position : Nat) :
    Except XmlFault α → Except XmlError α
| .ok value => .ok value
| .error cause => .error (.syntaxAt position cause)

/-
  A qualified name that is valid in both of its parts.  An
  invalid prefix is reported alone, an invalid local name with
  the prefix in front of it.
-/
def validQName
    (text : String) : Except XmlError QName :=
  let name := QName.ofString text
  match name.label?.filter (fun l => !NCName.isName l) with
  | some label => .error (.invalidName label)
  | none =>
      if NCName.isName name.localName then .ok name
      else .error (.invalidName text)

/-
  An attribute of a start tag before its prefix is resolved:
  a namespace declaration or something else.
-/
inductive TagAttribute where
| declaration (declaration : Declaration)
| other (name : QName) (value : String)
deriving DecidableEq, Repr

namespace TagAttribute

/- What an attribute with this key and value is. -/
def ofParts
    (key value : String) : Except XmlError TagAttribute :=
  let name := QName.ofString key
  if key = "xmlns" then
    .ok (.declaration ⟨none, value⟩)
  else if name.label? = some "xmlns" then
    if NCName.isName name.localName then
      .ok (.declaration ⟨some name.localName, value⟩)
    else
      .error (.invalidName name.localName)
  else
    (validQName key).map (fun name => .other name value)

/- Decode one attribute of the start tag at `position`. -/
def ofRaw
    (position : Nat)
    (raw : RawAttribute) : Except XmlError TagAttribute := do
  let key ← decodeName raw.key
  let value ← faultAt position (decodeText raw.value)
  ofParts key value

/- The namespace declaration that an attribute is, if any. -/
def declaration? : TagAttribute → Option Declaration
| .declaration d => some d
| .other _ _ => none

/- The name and value of any other attribute. -/
def other? : TagAttribute → Option (QName × String)
| .declaration _ => none
| .other name value => some (name, value)

end TagAttribute

/-
  Decode an attribute list in order, then report the fault
  that ended it, if there is one.
-/
def decodeAttributes
    (position : Nat)
    (list : List RawAttribute × Option AttributeFault) :
    Except XmlError (List TagAttribute) := do
  let attributes ←
    list.1.mapM (TagAttribute.ofRaw position)
  match list.2 with
  | some fault => .error (.attribute fault)
  | none => .ok attributes

/- The bytes of a tag's name: all up to the first blank. -/
def tagNameBytes (content : List UInt8) : List UInt8 :=
  content.takeWhile (fun b => !isBlankByte b)

/- A tag's name as written, valid as a qualified name. -/
def decodeTagName
    (content : List UInt8) :
    Except XmlError QName := do
  let name ← decodeName (tagNameBytes content)
  validQName name

/- The decoded attributes of a tag's content. -/
def decodeTagAttributes
    (position : Nat)
    (content : List UInt8) :
    Except XmlError (List TagAttribute) :=
  let name := tagNameBytes content
  decodeAttributes position
    (RawAttribute.read name.length
      (content.drop name.length))

------------------------------------------------------------
-- Resolving Names
------------------------------------------------------------

/- A prefix that stands for nothing is an error. -/
def boundOrError
    (result : Except String Name) : Except XmlError Name :=
  match result with
  | .ok name => .ok name
  | .error label => .error (.unboundPrefix label)

namespace Tokenizer

/- The name of an element with the bindings in scope. -/
def elementName
    (t : Tokenizer)
    (name : QName) : Except XmlError Name :=
  boundOrError (t.bindings.resolveElement name)

/- The name of an attribute with the bindings in scope. -/
def attributeName
    (t : Tokenizer)
    (name : QName) : Except XmlError Name :=
  boundOrError (t.bindings.resolveAttribute name)

/- An attribute with the bindings in scope. -/
def resolveAttribute
    (t : Tokenizer)
    (part : QName × String) :
    Except XmlError Attribute :=
  (t.attributeName part.1).map
    (fun name => ⟨name, part.2⟩)

------------------------------------------------------------
-- Tags
------------------------------------------------------------

/- A step that delivers nothing. -/
def stop
    {α : Type}
    (t : Tokenizer)
    (result : Except XmlError α) : Outcome α :=
  ⟨t, [], result⟩

/- A step that delivers one event. -/
def deliver
    (t : Tokenizer)
    (event : Event) : Outcome Unit :=
  ⟨t, [event], .ok ()⟩

/- Open an element and bring its declarations into scope. -/
def openElement
    (t : Tokenizer)
    (name : QName)
    (declarations : List Declaration) : Tokenizer :=
  { t with
    bindings := declarations.reverse ++ t.bindings
    openElements :=
      ⟨name.text, declarations.length⟩ :: t.openElements }

/-
  The start of an element whose declarations are in scope.
-/
def resolveStartTag
    (t : Tokenizer)
    (name : QName)
    (attributes : List TagAttribute) :
    Except XmlError StartTag := do
  let resolved ← t.elementName name
  let others ←
    (attributes.filterMap TagAttribute.other?).mapM
      t.resolveAttribute
  return {
    name := resolved
    declarations :=
      attributes.filterMap TagAttribute.declaration?
    attributes := others }

/- Only one element may stand outside of all others. -/
def enterRoot (t : Tokenizer) :
    Except XmlError Tokenizer :=
  if !t.openElements.isEmpty then .ok t
  else if t.seenRoot then .error .multipleRoots
  else .ok { t with seenRoot := true }

/-
  Process a start tag.  The element counts as open as soon as
  its attributes are decoded, even when a prefix turns out to
  be unbound.
-/
def startTag
    (t : Tokenizer)
    (content : List UInt8)
    (position : Nat) : Outcome Unit :=
  match t.enterRoot with
  | .error e => t.stop (.error e)
  | .ok t =>
      match decodeTagName content with
      | .error e => t.stop (.error e)
      | .ok name =>
          match decodeTagAttributes position content with
          | .error e => t.stop (.error e)
          | .ok attributes =>
              let t := t.openElement name
                (attributes.filterMap
                  TagAttribute.declaration?)
              match t.resolveStartTag name attributes with
              | .error e => t.stop (.error e)
              | .ok tag => t.deliver (.startElement tag)

/-
  Process an end tag.  Its name is resolved before the
  declarations of the element go out of scope.
-/
def endTag
    (t : Tokenizer)
    (raw : List UInt8) : Outcome Unit :=
  match decodeName raw with
  | .error e => t.stop (.error e)
  | .ok found =>
      match t.openElements with
      | [] => t.stop (.error (.unexpectedEndTag found))
      | element :: outer =>
          let t := { t with openElements := outer }
          if element.name = found then
            match t.elementName (QName.ofString found) with
            | .error e => t.stop (.error e)
            | .ok name =>
                deliver
                  { t with
                    bindings :=
                      t.bindings.drop element.declared }
                  (.endElement name)
          else
            t.stop
              (.error (.mismatchedEndTag element.name found))

/- Text inside of the root element, or blanks outside. -/
def text
    (t : Tokenizer)
    (content : String) : Outcome Unit :=
  if !t.openElements.isEmpty then
    t.deliver (.characters content)
  else if isWhitespaceOnly content then
    t.stop (.ok ())
  else
    t.stop (.error .textOutsideRoot)

------------------------------------------------------------
-- Encoding Declarations
------------------------------------------------------------

/- The names of UTF-8, in small letters. -/
def utf8Names : List (List UInt8) :=
  ["utf-8", "utf8", "unicode-1-1-utf-8",
   "unicode11utf8", "unicode20utf8"].map bytes

/- The encoding that a declaration states is UTF-8. -/
def checkEncoding
    (content : List UInt8)
    (position : Nat) : Except XmlError Unit :=
  let list := RawAttribute.readRepeated 3 (content.drop 3)
  match list.1.find? (fun a => a.key == bytes "encoding") with
  | some encoding =>
      if utf8Names.contains
          (encoding.value.map lowerByte) then
        .ok ()
      else
        .error
          (.unsupportedEncoding
            (Utf8.decodeLossy encoding.value))
  | none =>
      match list.2 with
      | some fault =>
          .error (.syntaxAt position (.declaration fault))
      | none => .ok ()

------------------------------------------------------------
-- Pieces
------------------------------------------------------------

/- Process the piece that begins at `position`. -/
def dispatch
    (t : Tokenizer)
    (piece : Piece)
    (position : Nat) : Outcome Unit :=
  match piece with
  | .text raw =>
      match faultAt position (decodeText raw) with
      | .error e => t.stop (.error e)
      | .ok content => t.text content
  | .startTag content => t.startTag content position
  | .emptyTag content =>
      (t.startTag content position).andThen
        (fun t _ => t.endTag (tagNameBytes content))
  | .endTag name => t.endTag name
  | .cdata raw =>
      match decodeName raw with
      | .error e => t.stop (.error e)
      | .ok content => t.text content
  | .declaration content =>
      t.stop (checkEncoding content position)
  | .instruction => t.stop (.ok ())
  | .comment => t.stop (.ok ())
  | .doctype => t.stop (.ok ())

------------------------------------------------------------
-- Text At The End Of A Chunk
------------------------------------------------------------

end Tokenizer

/-
  The bytes of a text before its last ampersand, when no
  semicolon follows that ampersand, and otherwise all of them.
-/
def withoutOpenReference
    (raw : List UInt8) : List UInt8 :=
  let tail :=
    raw.reverse.takeWhile (fun b => b != byte '&')
  if tail.length < raw.length && !tail.contains (byte ';') then
    raw.take (raw.length - tail.length - 1)
  else
    raw

/-
  The number of bytes before an unfinished character at the
  end, if the bytes before it are UTF-8, and otherwise the
  number of all bytes.
-/
def withoutOpenCharacter (raw : List UInt8) : Nat :=
  match Utf8.decode raw with
  | .error ⟨index, none⟩ => index
  | _ => raw.length

/-
  How many bytes of a text run can be decoded before the next
  chunk is known.  A reference without its semicolon and an
  unfinished character have to wait.
-/
def completeTextLength (raw : List UInt8) : Nat :=
  withoutOpenCharacter (withoutOpenReference raw)

namespace Tokenizer

/-
  Process the part of a text run that is complete, and give
  its length.
-/
def partialText
    (t : Tokenizer)
    (raw : List UInt8)
    (position : Nat) : Outcome Nat :=
  let length := completeTextLength raw
  if length = 0 then
    t.stop (.ok 0)
  else
    match decodeName (raw.take length) with
    | .error e => t.stop (.error e)
    | .ok _ =>
        (t.dispatch (.text (raw.take length)) position).andThen
          (fun t _ => t.stop (.ok length))

------------------------------------------------------------
-- Chunks
------------------------------------------------------------

/- Pieces that still have to be processed and what ends them. -/
structure Work where
  input : List UInt8
  isFinal : Bool
  fault? : Option (MarkupFault × Nat)

/-
  What follows the last piece: nothing, markup that has not
  fully arrived, or an error.
-/
def consumeEnd
    (t : Tokenizer)
    (work : Work)
    (consumed : Nat) : Outcome Nat :=
  match work.fault? with
  | none => t.stop (.ok consumed)
  | some (cause, index) =>
      if !work.isFinal &&
          cause.isCutOff (work.input.drop index) then
        stop { t with awaitingMarkupEnd := true }
          (.ok consumed)
      else
        t.stop
          (.error
            (.syntaxAt (t.offset + index) (.markup cause)))

/-
  Process pieces in order and give the number of bytes that
  became events.  Text that reaches the end of the input may
  go on in the next chunk, unless there is none.
-/
def consume
    (work : Work) :
    Tokenizer → Nat → List (Piece × Nat) → Outcome Nat
| t, consumed, [] => t.consumeEnd work consumed
| t, consumed, (piece, length) :: rest =>
    let position := t.offset + consumed
    let next := consumed + length
    match piece with
    | .text raw =>
        if !work.isFinal && next = work.input.length then
          (t.partialText raw position).andThen
            (fun t complete => t.stop (.ok (consumed + complete)))
        else
          (t.dispatch (.text raw) position).andThen
            (fun t _ => consume work t next rest)
    | piece =>
        (t.dispatch piece position).andThen
          (fun t _ => consume work t next rest)

/-
  The input without a byte order mark at its start.  The mark
  is not counted in any position.
-/
def skipByteOrderMark (input : List UInt8) : List UInt8 :=
  if input.take 3 = Utf8.byteOrderMark then
    input.drop 3
  else
    input

/- Process the pieces of an input from its start. -/
def tokenize
    (t : Tokenizer)
    (input : List UInt8)
    (isFinal : Bool) : Outcome Nat :=
  let scan := Scan.ofBytes (skipByteOrderMark input)
  consume ⟨input, isFinal, scan.fault?⟩
    { t with awaitingMarkupEnd := false } 0 scan.pieces

/- A document has ended: it must be complete. -/
def finish (t : Tokenizer) : Except XmlError Unit :=
  if !t.openElements.isEmpty then
    .error
      (.unclosedElements
        (t.openElements.reverse.map OpenElement.name))
  else if !t.seenRoot then
    .error .noRootElement
  else
    .ok ()

/- Keep what was not consumed for the next chunk. -/
def keep
    (t : Tokenizer)
    (input : List UInt8)
    (consumed : Nat) : Tokenizer :=
  { t with
    pending := input.drop consumed
    offset := t.offset + consumed }

/-
  Process the next chunk of a document; `isFinal` marks the
  last one.  All markup ends in a closing angle bracket, so
  unfinished markup stays unfinished when none arrives.
-/
def feed
    (t : Tokenizer)
    (chunk : List UInt8)
    (isFinal : Bool) : Outcome Unit :=
  let input := t.pending ++ chunk
  if t.awaitingMarkupEnd && !isFinal &&
      !chunk.contains (byte '>') then
    stop { t with pending := input } (.ok ())
  else
    (tokenize { t with pending := [] } input isFinal).andThen
      (fun t consumed =>
        let t := t.keep input consumed
        t.stop (if isFinal then t.finish else .ok ()))

end Tokenizer

end RdfXml
