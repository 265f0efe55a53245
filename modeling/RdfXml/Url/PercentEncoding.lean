import RdfXml.Text.Ascii
import RdfXml.Text.Utf8

/-
  Percent-encoding of the parts of a URL.

  Key definitions include:
    * `Url.encodeWith`
    * `Url.percentDecode`
    * `Url.inPathSet`
    * `Url.inQuerySet`
    * `Url.inFragmentSet`
    * `Url.inUserSet`
-/

------------------------------------------------------------
-- Encode Sets
------------------------------------------------------------

namespace RdfXml

namespace Url

/- Control characters and everything beyond ASCII. -/
def inControlSet (c : Char) : Bool :=
  c.toNat ≤ 0x1F || 0x7E < c.toNat

/- Characters that a fragment encodes. -/
def inFragmentSet (c : Char) : Bool :=
  inControlSet c || " \"<>`".toList.contains c

/- Characters that a query encodes. -/
def inQuerySet
    (isSpecial : Bool)
    (c : Char) : Bool :=
  inControlSet c || " \"#<>".toList.contains c ||
    (isSpecial && c == '\'')

/- Characters that a path encodes. -/
def inPathSet (c : Char) : Bool :=
  inFragmentSet c || "#?\x7b\x7d".toList.contains c

/- Characters that user information encodes. -/
def inUserSet (c : Char) : Bool :=
  inPathSet c || "/:;=@[\\]^|".toList.contains c

------------------------------------------------------------
-- Encoding And Decoding
------------------------------------------------------------

/- A hexadecimal digit, in capitals. -/
def hexDigitChar (digit : Nat) : Char :=
  if digit < 10 then Char.ofNat (digit + '0'.toNat)
  else Char.ofNat (digit - 10 + 'A'.toNat)

/- A byte as a percent sign and two digits. -/
def encodeByte (b : UInt8) : List Char :=
  ['%', hexDigitChar (b.toNat / 16),
    hexDigitChar (b.toNat % 16)]

/- Encode the characters of a set. -/
def encodeWith
    (encoded : Char → Bool)
    (text : List Char) : List Char :=
  text.flatMap
    (fun c =>
      if encoded c then
        (String.utf8EncodeChar c).flatMap encodeByte
      else
        [c])

/- The bytes of a text with percent-encoded bytes decoded. -/
def percentDecode : List Char → List UInt8
| [] => []
| '%' :: high :: low :: rest =>
    match hexDigit? high, hexDigit? low with
    | some h, some l =>
        (h * 16 + l).toUInt8 :: percentDecode rest
    | _, _ => byte '%' :: percentDecode (high :: low :: rest)
| c :: rest => String.utf8EncodeChar c ++ percentDecode rest

end Url

end RdfXml
