import RdfXml.Text.Ascii

/-
  UTF-8 decoding of byte lists.

  `Utf8.sequences` cuts any byte list into well-formed
  sequences and maximal ill-formed parts.  Strict decoding
  stops at the first part that is not a character; lossy
  decoding puts a replacement character in its place.

  Key definitions include:
    * `Utf8.Sequence`
    * `Utf8.sequences`
    * `Utf8.Fault`
    * `Utf8.decode`
    * `Utf8.decodeLossy`
    * `Utf8.byteLength`
-/

------------------------------------------------------------
-- Sequences
------------------------------------------------------------

namespace RdfXml

namespace Utf8

/-
  One part of a byte list: an encoded character, bytes that
  begin no character, or the start of a character at the end
  of the input.
-/
inductive Sequence where
| scalar (c : Char) (length : Nat)
| invalid (length : Nat)
| cut
deriving DecidableEq, Repr

/-
  What a first byte asks for: nothing more, or a number of
  continuation bytes with bounds on the first of them.
-/
inductive Lead where
| alone
| invalid
| leads (count : Nat) (low high : UInt8)
deriving DecidableEq, Repr

/-
  Classify a first byte.  The bounds on the second byte rule
  out overlong forms, surrogates, and values above U+10FFFF.
-/
def lead (b : UInt8) : Lead :=
  if b < 0x80 then .alone
  else if b < 0xC2 then .invalid
  else if b < 0xE0 then .leads 1 0x80 0xBF
  else if b = 0xE0 then .leads 2 0xA0 0xBF
  else if b = 0xED then .leads 2 0x80 0x9F
  else if b < 0xF0 then .leads 2 0x80 0xBF
  else if b = 0xF0 then .leads 3 0x90 0xBF
  else if b < 0xF4 then .leads 3 0x80 0xBF
  else if b = 0xF4 then .leads 3 0x80 0x8F
  else .invalid

/- A byte lies between two bounds. -/
def within (low high b : UInt8) : Bool :=
  low ≤ b && b ≤ high

/- The six payload bits of a continuation byte. -/
def payload (b : UInt8) : Nat :=
  b.toNat % 64

/- The character of a two-byte sequence. -/
def scalar2 (b0 b1 : UInt8) : Char :=
  Char.ofNat ((b0.toNat % 32) * 64 + payload b1)

/- The character of a three-byte sequence. -/
def scalar3 (b0 b1 b2 : UInt8) : Char :=
  Char.ofNat
    (((b0.toNat % 16) * 64 + payload b1) * 64 + payload b2)

/- The character of a four-byte sequence. -/
def scalar4 (b0 b1 b2 b3 : UInt8) : Char :=
  Char.ofNat
    ((((b0.toNat % 8) * 64 + payload b1) * 64 +
      payload b2) * 64 + payload b3)

/-
  Cut a byte list into sequences.  An ill-formed part is the
  longest start of a sequence that its bytes could begin, or
  one byte when they begin none.
-/
def sequences : List UInt8 → List Sequence
| [] => []
| b0 :: t0 =>
    match lead b0 with
    | .alone => .scalar (Char.ofNat b0.toNat) 1 :: sequences t0
    | .invalid => .invalid 1 :: sequences t0
    | .leads count low high =>
        match t0 with
        | [] => [.cut]
        | b1 :: t1 =>
            if !within low high b1 then
              .invalid 1 :: sequences (b1 :: t1)
            else if count = 1 then
              .scalar (scalar2 b0 b1) 2 :: sequences t1
            else
              match t1 with
              | [] => [.cut]
              | b2 :: t2 =>
                  if !within 0x80 0xBF b2 then
                    .invalid 2 :: sequences (b2 :: t2)
                  else if count = 2 then
                    .scalar (scalar3 b0 b1 b2) 3 ::
                      sequences t2
                  else
                    match t2 with
                    | [] => [.cut]
                    | b3 :: t3 =>
                        if !within 0x80 0xBF b3 then
                          .invalid 3 :: sequences (b3 :: t3)
                        else
                          .scalar (scalar4 b0 b1 b2 b3) 4 ::
                            sequences t3

------------------------------------------------------------
-- Strict Decoding
------------------------------------------------------------

/-
  Where decoding stops: the index of the first byte that
  begins no character, and how many bytes are known to be
  wrong, or nothing when the input ends too early.
-/
structure Fault where
  index : Nat
  length? : Option Nat
deriving DecidableEq, Repr

/- The text of a decoding fault. -/
def Fault.message (fault : Fault) : String :=
  match fault.length? with
  | some length =>
      "invalid utf-8 sequence of " ++ toString length ++
        " bytes from index " ++ toString fault.index
  | none =>
      "incomplete utf-8 byte sequence from index " ++
        toString fault.index

/- The characters of a list of sequences from an index on. -/
def collect
    (index : Nat) :
    List Sequence → Except Fault (List Char)
| [] => .ok []
| .scalar c length :: rest =>
    (collect (index + length) rest).map (c :: ·)
| .invalid length :: _ => .error ⟨index, some length⟩
| .cut :: _ => .error ⟨index, none⟩

/- The characters of a byte list, or the first fault. -/
def decode (input : List UInt8) :
    Except Fault (List Char) :=
  collect 0 (sequences input)

/- The text of a byte list, or the first fault. -/
def decodeString (input : List UInt8) :
    Except Fault String :=
  (decode input).map String.ofList

------------------------------------------------------------
-- Lossy Decoding
------------------------------------------------------------

/- The character that stands for one sequence. -/
def Sequence.orReplacement : Sequence → Char
| .scalar c _ => c
| .invalid _ => Char.ofNat 0xFFFD
| .cut => Char.ofNat 0xFFFD

/- Decode with U+FFFD for each ill-formed part. -/
def decodeLossy (input : List UInt8) : String :=
  String.ofList
    ((sequences input).map Sequence.orReplacement)

------------------------------------------------------------
-- Encoding
------------------------------------------------------------

/- The bytes of a text. -/
def encode (text : String) : List UInt8 :=
  text.toList.flatMap String.utf8EncodeChar

/- The byte order mark at the start of a file. -/
def byteOrderMark : List UInt8 :=
  [0xEF, 0xBB, 0xBF]

------------------------------------------------------------
-- Lengths
------------------------------------------------------------

/- The number of bytes that a text takes. -/
def byteLength : List Char → Nat
| [] => 0
| c :: rest => c.utf8Size + byteLength rest

end Utf8

end RdfXml
