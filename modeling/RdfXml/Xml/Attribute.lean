import RdfXml.Text.Ascii

/-
  Attribute lists of start tags and of XML declarations.

  `RawAttribute.read` walks over the bytes after a tag's name
  and gives the attributes before the first fault, with that
  fault if there is one.

  Key definitions include:
    * `RawAttribute`
    * `AttributeFault`
    * `AttributeFault.message`
    * `RawAttribute.Place`
    * `RawAttribute.read`
-/

------------------------------------------------------------
-- Raw Attributes
------------------------------------------------------------

namespace RdfXml

/- An attribute as written, its value without the quotes. -/
structure RawAttribute where
  key : List UInt8
  value : List UInt8
deriving DecidableEq, Repr

/-
  Why an attribute list is malformed.  Positions are counted
  in bytes from the first byte of the tag's name.
-/
inductive AttributeFault where
| expectedEquals (position : Nat)
| expectedValue (position : Nat)
| unquotedValue (position : Nat)
| expectedQuote (position : Nat) (quote : UInt8)
| duplicated (position first : Nat)
deriving DecidableEq, Repr

/- The text of a fault in an attribute list. -/
def AttributeFault.message : AttributeFault → String
| .expectedEquals position =>
    "position " ++ toString position ++
      ": attribute key must be directly followed by " ++
      "`=` or space"
| .expectedValue position =>
    "position " ++ toString position ++
      ": `=` must be followed by an attribute value"
| .unquotedValue position =>
    "position " ++ toString position ++
      ": attribute value must be enclosed in `\"` or `'`"
| .expectedQuote position quote =>
    "position " ++ toString position ++
      ": missing closing quote `" ++
      String.singleton (Char.ofNat quote.toNat) ++
      "` in attribute value"
| .duplicated position first =>
    "position " ++ toString position ++
      ": duplicated attribute, previous declaration at " ++
      "position " ++ toString first

------------------------------------------------------------
-- Reading An Attribute List
------------------------------------------------------------

namespace RawAttribute

/- Where in an attribute a reader stands. -/
inductive Place where
| between
| inKey (start : Nat) (key : List UInt8)
| afterKey (start : Nat) (key : List UInt8)
| beforeValue (key : List UInt8)
| inValue (key : List UInt8) (quote : UInt8)
    (value : List UInt8)
deriving DecidableEq, Repr

/- The position of an earlier key with the same bytes. -/
def earlier?
    (seen : List (List UInt8 × Nat))
    (key : List UInt8) : Option Nat :=
  (seen.find? (fun entry => entry.1 == key)).map
    (fun entry => entry.2)

/-
  Read from a place on.  `seen` holds the keys that a later
  one must not repeat, or nothing when repetition is allowed.
-/
def readFrom :
    Place → Option (List (List UInt8 × Nat)) → Nat →
      List UInt8 →
      List RawAttribute × Option AttributeFault
| .between, _, _, [] => ([], none)
| .inKey _ _, _, position, [] =>
    ([], some (.expectedEquals position))
| .afterKey _ _, _, position, [] =>
    ([], some (.expectedEquals position))
| .beforeValue _, _, position, [] =>
    ([], some (.expectedValue position))
| .inValue _ quote _, _, position, [] =>
    ([], some (.expectedQuote position quote))
| .between, seen, position, b :: rest =>
    if isBlankByte b then
      readFrom .between seen (position + 1) rest
    else
      readFrom (.inKey position [b]) seen (position + 1) rest
| .inKey start key, seen, position, b :: rest =>
    if b = byte '=' then
      match seen.bind (earlier? · key) with
      | some first => ([], some (.duplicated start first))
      | none =>
          readFrom (.beforeValue key)
            (seen.map ((key, start) :: ·)) (position + 1) rest
    else if isBlankByte b then
      readFrom (.afterKey start key) seen (position + 1) rest
    else
      readFrom (.inKey start (key ++ [b])) seen
        (position + 1) rest
| .afterKey start key, seen, position, b :: rest =>
    if b = byte '=' then
      match seen.bind (earlier? · key) with
      | some first => ([], some (.duplicated start first))
      | none =>
          readFrom (.beforeValue key)
            (seen.map ((key, start) :: ·)) (position + 1) rest
    else if isBlankByte b then
      readFrom (.afterKey start key) seen (position + 1) rest
    else
      ([], some (.expectedEquals position))
| .beforeValue key, seen, position, b :: rest =>
    if isBlankByte b then
      readFrom (.beforeValue key) seen (position + 1) rest
    else if b = byte '"' || b = byte '\'' then
      readFrom (.inValue key b []) seen (position + 1) rest
    else
      ([], some (.unquotedValue position))
| .inValue key quote value, seen, position, b :: rest =>
    if b = quote then
      let tail :=
        readFrom .between seen (position + 1) rest
      (⟨key, value⟩ :: tail.1, tail.2)
    else
      readFrom (.inValue key quote (value ++ [b])) seen
        (position + 1) rest

/-
  Read the attributes after a name of `nameLength` bytes, in
  which no key may occur twice.
-/
def read
    (nameLength : Nat)
    (input : List UInt8) :
    List RawAttribute × Option AttributeFault :=
  readFrom .between (some []) nameLength input

/- Read the attributes after a name, repetitions allowed. -/
def readRepeated
    (nameLength : Nat)
    (input : List UInt8) :
    List RawAttribute × Option AttributeFault :=
  readFrom .between none nameLength input

end RawAttribute

end RdfXml
