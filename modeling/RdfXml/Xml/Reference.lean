import RdfXml.Text.Ascii
import RdfXml.Text.Utf8

/-
  Character and entity references in text and in attribute
  values.

  Key definitions include:
    * `Reference.CharacterFault`
    * `Reference.Fault`
    * `Reference.character`
    * `Reference.resolve`
    * `Reference.escape`
-/

------------------------------------------------------------
-- Faults
------------------------------------------------------------

namespace RdfXml

namespace Reference

/- Why a numeric reference names no character. -/
inductive CharacterFault where
| unexpectedSign
| noDigits
| invalidDigit
| tooLarge
| notCodePoint (code : Nat)
| nul
deriving DecidableEq, Repr

/-
  Why a reference cannot be resolved, with its byte range in
  the text.
-/
inductive Fault where
| unterminated (start stop : Nat)
| unrecognized (start stop : Nat) (name : String)
| character (cause : CharacterFault)
deriving DecidableEq, Repr

/- The text of a fault in a numeric reference. -/
def CharacterFault.message : CharacterFault → String
| .unexpectedSign => "unexpected number sign"
| .noDigits => "cannot parse integer from empty string"
| .invalidDigit => "invalid digit found in string"
| .tooLarge => "number too large to fit in target type"
| .notCodePoint code =>
    "`" ++ toString code ++ "` is not a valid codepoint"
| .nul => "0x0 character is not permitted in XML"

/- A half-open byte range. -/
def rangeText (start stop : Nat) : String :=
  toString start ++ ".." ++ toString stop

/- The text of a fault in a reference. -/
def Fault.message : Fault → String
| .unterminated start stop =>
    "Error while escaping character at range " ++
      rangeText start stop ++ ": Cannot find ';' after '&'"
| .unrecognized start stop name =>
    "at " ++ rangeText start stop ++
      ": unrecognized entity `" ++ name ++ "`"
| .character cause =>
    "invalid character reference: " ++ cause.message

------------------------------------------------------------
-- Numeric References
------------------------------------------------------------

/- The digit's value when it is below the radix. -/
def digit?
    (radix : Nat)
    (c : Char) : Option Nat :=
  match hexDigit? c with
  | some value => if value < radix then some value else none
  | none => none

/- Code numbers have 32 bits. -/
def codeLimit : Nat := 4294967296

/-
  Read digits after a value read so far.  Code numbers must
  stay below `codeLimit`; faults come in the order of the digits.
-/
def readDigits
    (radix : Nat) :
    Nat → List Char → Except CharacterFault Nat
| value, [] => .ok value
| value, c :: rest =>
    match digit? radix c with
    | none => .error .invalidDigit
    | some digit =>
        if codeLimit ≤ value * radix + digit then
          .error .tooLarge
        else
          readDigits radix (value * radix + digit) rest

/- Read an unsigned number. -/
def readNumber
    (radix : Nat) :
    List Char → Except CharacterFault Nat
| [] => .error .noDigits
| c :: rest =>
    if c = '+' || c = '-' then
      .error .unexpectedSign
    else
      readDigits radix 0 (c :: rest)

/- The code number after the number sign of a reference. -/
def codeNumber :
    List Char → Except CharacterFault Nat
| 'x' :: digits => readNumber 16 digits
| digits => readNumber 10 digits

/- The character with a code number, which is not zero. -/
def characterOf
    (code : Nat) :
    Except CharacterFault Char :=
  if code = 0 then
    .error .nul
  else if code.isValidChar then
    .ok (Char.ofNat code)
  else
    .error (.notCodePoint code)

------------------------------------------------------------
-- Resolution
------------------------------------------------------------

/- The character of a predefined entity. -/
def entity? (name : String) : Option Char :=
  if name = "lt" then some '<'
  else if name = "gt" then some '>'
  else if name = "amp" then some '&'
  else if name = "apos" then some '\''
  else if name = "quot" then some '"'
  else none

/-
  The character that a reference stands for, given what is
  between its ampersand and its semicolon.
-/
def character
    (start stop : Nat)
    (body : List Char) :
    Except Fault Char :=
  match body with
  | '#' :: number =>
      match codeNumber number >>= characterOf with
      | .ok c => .ok c
      | .error cause => .error (.character cause)
  | name =>
      match entity? (String.ofList name) with
      | some c => .ok c
      | none =>
          .error
            (.unrecognized start stop (String.ofList name))

/-
  Resolve the references of a text of `total` bytes from a
  byte position on.  `open?` holds the start and the body of
  a reference that has not ended yet.
-/
def resolveFrom
    (total : Nat) :
    Option (Nat × List Char) → Nat → List Char →
      Except Fault (List Char)
| none, _, [] => .ok []
| some (start, _), _, [] =>
    .error (.unterminated start total)
| none, position, c :: rest =>
    if c = '&' then
      resolveFrom total (some (position, []))
        (position + 1) rest
    else
      (resolveFrom total none (position + c.utf8Size) rest).map
        (c :: ·)
| some (start, body), position, c :: rest =>
    if c = '&' then
      .error (.unterminated start total)
    else if c = ';' then
      match character (start + 1) position body with
      | .error fault => .error fault
      | .ok c =>
          (resolveFrom total none (position + 1) rest).map
            (c :: ·)
    else
      resolveFrom total (some (start, body ++ [c]))
        (position + c.utf8Size) rest

/- Replace every reference by its character. -/
def resolve
    (text : List Char) :
    Except Fault (List Char) :=
  resolveFrom (Utf8.byteLength text) none 0 text

------------------------------------------------------------
-- Escaping
------------------------------------------------------------

/- A character with markup meaning as an entity reference. -/
def escapeChar (c : Char) : List Char :=
  if c = '<' then "&lt;".toList
  else if c = '>' then "&gt;".toList
  else if c = '&' then "&amp;".toList
  else if c = '\'' then "&apos;".toList
  else if c = '"' then "&quot;".toList
  else [c]

/- A text with the five markup characters as references. -/
def escape (text : String) : String :=
  String.ofList (text.toList.flatMap escapeChar)

end Reference

end RdfXml
