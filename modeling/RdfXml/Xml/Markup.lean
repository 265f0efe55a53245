import RdfXml.Text.Ascii

/-
  Pieces of an XML document: text runs and markup.

  `Piece.first` reads the piece at the start of a byte list
  and says how many bytes it takes.  Markup that is malformed,
  or whose end is missing, gives a `MarkupFault` instead;
  `MarkupFault.isCutOff` tells the two apart.

  Key definitions include:
    * `Piece`
    * `MarkupFault`
    * `MarkupFault.isCutOff`
    * `Reading`
    * `Piece.first`
    * `Scan`
    * `Scan.ofBytes`
-/

------------------------------------------------------------
-- Pieces
------------------------------------------------------------

namespace RdfXml

/-
  A text run or one piece of markup.  Tags hold what stands
  between their angle brackets, without the slash of an end
  tag or an empty-element tag.
-/
inductive Piece where
| text (raw : List UInt8)
| startTag (content : List UInt8)
| emptyTag (content : List UInt8)
| endTag (name : List UInt8)
| cdata (raw : List UInt8)
| declaration (content : List UInt8)
| instruction
| comment
| doctype
deriving DecidableEq, Repr

/- Why the markup at an angle bracket cannot be read. -/
inductive MarkupFault where
| invalidBang
| unclosedInstruction
| unclosedComment
| unclosedDoctype
| unclosedCdata
| unclosedTag
| missingDoctypeName
deriving DecidableEq, Repr

namespace MarkupFault

/- The text of a markup fault. -/
def message : MarkupFault → String
| .invalidBang =>
    "syntax error: unknown or missed symbol in markup"
| .unclosedInstruction =>
    "syntax error: processing instruction or xml " ++
      "declaration not closed: `?>` not found before end " ++
      "of input"
| .unclosedComment =>
    "syntax error: comment not closed: `-->` not found " ++
      "before end of input"
| .unclosedDoctype =>
    "syntax error: DOCTYPE not closed: `>` not found " ++
      "before end of input"
| .unclosedCdata =>
    "syntax error: CDATA not closed: `]]>` not found " ++
      "before end of input"
| .unclosedTag =>
    "syntax error: tag not closed: `>` not found before " ++
      "end of input"
| .missingDoctypeName =>
    "ill-formed document: `<!DOCTYPE>` declaration does " ++
      "not contain a name of a document type"

/- A byte list contains the two bytes that end a PI. -/
def hasInstructionEnd : List UInt8 → Bool
| [] => false
| b :: rest =>
    (b == byte '?' && rest.head? == some (byte '>')) ||
      hasInstructionEnd rest

/-
  The fault only means that the markup beginning at `rest`
  has not fully arrived.
-/
def isCutOff
    (fault : MarkupFault)
    (rest : List UInt8) : Bool :=
  match fault with
  | .invalidBang => rest == bytes "<!"
  | .unclosedInstruction => !hasInstructionEnd rest
  | .missingDoctypeName => false
  | _ => true

end MarkupFault

------------------------------------------------------------
-- Ends Of Markup
------------------------------------------------------------

/-
  The result of reading at the start of a byte list.  A fault
  carries the index of the byte that it is reported at.
-/
inductive Reading where
| endOfInput
| piece (piece : Piece) (length : Nat)
| fault (cause : MarkupFault) (index : Nat)
deriving DecidableEq, Repr

namespace Piece

/-
  The index of the first closing angle bracket outside of
  quotes, where `quote?` is the quote that is open.
-/
def tagEnd? :
    Option UInt8 → List UInt8 → Option Nat
| _, [] => none
| none, b :: rest =>
    if b = byte '>' then
      some 0
    else if b = byte '"' || b = byte '\'' then
      (tagEnd? (some b) rest).map (· + 1)
    else
      (tagEnd? none rest).map (· + 1)
| some quote, b :: rest =>
    if b = quote then
      (tagEnd? none rest).map (· + 1)
    else
      (tagEnd? (some quote) rest).map (· + 1)

/-
  The index of the first closing angle bracket, at `least` or
  later, that follows two bytes `mark`.  `before` holds the
  two bytes that precede the list, the nearest one last.
-/
def pairEnd?
    (mark : UInt8) :
    Nat → Option UInt8 × Option UInt8 → List UInt8 →
      Option Nat
| _, _, [] => none
| least, before, b :: rest =>
    if b = byte '>' && least = 0 &&
        before.1 = some mark && before.2 = some mark then
      some 0
    else
      (pairEnd? mark (least - 1) (before.2, some b) rest).map
        (· + 1)

/-
  The index of the closing angle bracket that balances the
  opening one in front of the list, `depth` more being open.
-/
def balancedEnd? :
    Nat → List UInt8 → Option Nat
| _, [] => none
| depth, b :: rest =>
    if b = byte '<' then
      (balancedEnd? (depth + 1) rest).map (· + 1)
    else if b = byte '>' then
      match depth with
      | 0 => some 0
      | outer + 1 => (balancedEnd? outer rest).map (· + 1)
    else
      (balancedEnd? depth rest).map (· + 1)

/-
  The index of the first closing angle bracket that follows a
  question mark.  `before?` is the byte before the list.
-/
def instructionEnd? :
    Option UInt8 → List UInt8 → Option Nat
| _, [] => none
| before?, b :: rest =>
    if b = byte '>' && before? = some (byte '?') then
      some 0
    else
      (instructionEnd? (some b) rest).map (· + 1)

------------------------------------------------------------
-- Single Pieces
------------------------------------------------------------

/- A byte list begins with these bytes, letter case ignored. -/
def beginsIgnoringCase
    (start : String)
    (input : List UInt8) : Bool :=
  (input.take start.length).map lowerByte ==
    (bytes start).map lowerByte

/- A byte list begins with these bytes. -/
def begins
    (start : String)
    (input : List UInt8) : Bool :=
  input.take start.length == bytes start

/- Drop the blanks at the end, unless there is nothing else. -/
def trimBlankEnd (name : List UInt8) : List UInt8 :=
  if name.all isBlankByte then
    name
  else
    (name.reverse.dropWhile isBlankByte).reverse

/-
  The markup whose content, after the opening angle bracket,
  ends at index `stop`.
-/
def closed
    (piece : Piece)
    (stop : Nat) : Reading :=
  .piece piece (stop + 2)

/- A start tag or an empty-element tag with some content. -/
def ofTagContent (content : List UInt8) : Piece :=
  if content.getLast? = some (byte '/') then
    .emptyTag content.dropLast
  else
    .startTag content

/- Read a comment, from its exclamation mark on. -/
def readComment (content : List UInt8) : Reading :=
  match pairEnd? (byte '-') 5 (none, none) content with
  | none => .fault .unclosedComment 0
  | some stop =>
      if begins "!--" content then
        closed .comment stop
      else
        .fault .unclosedComment 0

/- Read a CDATA section, from its exclamation mark on. -/
def readCdata (content : List UInt8) : Reading :=
  match pairEnd? (byte ']') 0 (none, none) content with
  | none => .fault .unclosedCdata 0
  | some stop =>
      if begins "![CDATA[" content then
        closed
          (.cdata ((content.take (stop - 2)).drop 8)) stop
      else
        .fault .unclosedCdata 0

/- Read a document type, from its exclamation mark on. -/
def readDoctype (content : List UInt8) : Reading :=
  match balancedEnd? 0 content with
  | none => .fault .unclosedDoctype 0
  | some stop =>
      if beginsIgnoringCase "!DOCTYPE" content then
        if ((content.take stop).drop 8).all isBlankByte then
          .fault .missingDoctypeName (stop + 1)
        else
          closed .doctype stop
      else
        .fault .unclosedDoctype 0

/- Read markup that begins with an exclamation mark. -/
def readBang (content : List UInt8) : Reading :=
  match content[1]? with
  | none => .fault .invalidBang 0
  | some b =>
      if b = byte '[' then readCdata content
      else if b = byte '-' then readComment content
      else if b = byte 'D' || b = byte 'd' then
        readDoctype content
      else .fault .invalidBang 0

/- The content of an instruction makes it a declaration. -/
def isDeclaration (content : List UInt8) : Bool :=
  begins "xml" content && content[3]?.all isBlankByte

/- Read a processing instruction or an XML declaration. -/
def readInstruction (content : List UInt8) : Reading :=
  match instructionEnd? none content with
  | none => .fault .unclosedInstruction 0
  | some stop =>
      if stop < 2 then
        .fault .unclosedInstruction 0
      else
        let inner := (content.take (stop - 1)).drop 1
        if isDeclaration inner then
          closed (.declaration inner) stop
        else
          closed .instruction stop

/- Read a start tag, an empty-element tag, or an end tag. -/
def readTag (content : List UInt8) : Reading :=
  match tagEnd? none content with
  | none => .fault .unclosedTag 0
  | some stop =>
      match content.take stop with
      | [] => closed (.startTag []) stop
      | b :: rest =>
          if b = byte '/' then
            closed (.endTag (trimBlankEnd rest)) stop
          else
            closed (ofTagContent (b :: rest)) stop

/- Read markup, given what follows its opening bracket. -/
def readMarkup (content : List UInt8) : Reading :=
  match content with
  | [] => .fault .unclosedTag 0
  | b :: _ =>
      if b = byte '!' then readBang content
      else if b = byte '?' then readInstruction content
      else readTag content

/- Bytes of a text run: all up to an opening bracket. -/
def isTextByte (b : UInt8) : Bool :=
  b != byte '<'

/- Read the piece at the start of a byte list. -/
def first (input : List UInt8) : Reading :=
  match input with
  | [] => .endOfInput
  | b :: rest =>
      if b = byte '<' then
        readMarkup rest
      else
        let raw := input.takeWhile isTextByte
        .piece (.text raw) raw.length

end Piece

------------------------------------------------------------
-- All Pieces Of A Byte List
------------------------------------------------------------

/-
  The pieces of a byte list with their lengths, up to the end
  or up to the first fault, whose index is counted from the
  start of the list.
-/
structure Scan where
  pieces : List (Piece × Nat)
  fault? : Option (MarkupFault × Nat)
deriving DecidableEq, Repr

namespace Scan

/-
  Read at most `limit` pieces of a byte list that begins at
  index `start`.
-/
def ofBytesFrom :
    Nat → Nat → List UInt8 → Scan
| 0, _, _ => ⟨[], none⟩
| limit + 1, start, input =>
    match Piece.first input with
    | .endOfInput => ⟨[], none⟩
    | .fault cause index =>
        ⟨[], some (cause, start + index)⟩
    | .piece piece length =>
        let rest :=
          ofBytesFrom limit (start + length)
            (input.drop length)
        ⟨(piece, length) :: rest.pieces, rest.fault?⟩

/-
  Read all pieces.  Every piece takes a byte or more, so
  there are no more pieces than bytes.
-/
def ofBytes (input : List UInt8) : Scan :=
  ofBytesFrom (input.length + 1) 0 input

end Scan

end RdfXml
