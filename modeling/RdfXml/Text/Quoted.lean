import RdfXml.Text.Unprintable

/-
  Texts shown between double quotes with escapes.

  Key definitions include:
    * `Quoted.hexText`
    * `Quoted.renderChar`
    * `Quoted.render`
-/

------------------------------------------------------------
-- Quoted Display
------------------------------------------------------------

namespace RdfXml

namespace Quoted

/- The small hexadecimal digits of a number. -/
def hexText (n : Nat) : String :=
  String.ofList (Nat.toDigits 16 n)

/- One character inside double quotes. -/
def renderChar (c : Char) : String :=
  if c = '"' then "\\\""
  else if c = '\\' then "\\\\"
  else if c = '\n' then "\\n"
  else if c = '\r' then "\\r"
  else if c = '\t' then "\\t"
  else if c.toNat = 0 then "\\0"
  else if isUnprintable c then
    "\\u\x7b" ++ hexText c.toNat ++ "\x7d"
  else String.singleton c

/- A text between double quotes. -/
def render (text : String) : String :=
  "\"" ++ String.join (text.toList.map renderChar) ++ "\""

end Quoted

end RdfXml
