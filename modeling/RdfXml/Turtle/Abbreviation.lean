import RdfXml.Rdf.Triple

/-
  Literals that Turtle writes without quotes.

  Key definitions include:
    * `Turtle.isBoolean`
    * `Turtle.isInteger`
    * `Turtle.isDecimal`
    * `Turtle.isDouble`
    * `Turtle.isAbbreviated`
-/

------------------------------------------------------------
-- Number Syntax
------------------------------------------------------------

namespace RdfXml

namespace Turtle

/- The truth values. -/
def isBoolean (value : List Char) : Bool :=
  value == "true".toList || value == "false".toList

/- Drop a sign. -/
def dropSign : List Char → List Char
| c :: rest =>
    if c = '+' || c = '-' then rest else c :: rest
| [] => []

/- Nonempty digits. -/
def isDigits (value : List Char) : Bool :=
  !value.isEmpty && value.all isAsciiDigit

/- Digits with an optional sign. -/
def isInteger (value : List Char) : Bool :=
  isDigits (dropSign value)

/- A point and digits after an optional sign and digits. -/
def isDecimal (value : List Char) : Bool :=
  match (dropSign value).dropWhile isAsciiDigit with
  | '.' :: fraction => isDigits fraction
  | _ => false

/- An exponent after the letter e. -/
def isExponent : List Char → Bool
| c :: rest =>
    (c == 'e' || c == 'E') && isDigits (dropSign rest)
| [] => false

/-
  Digits before or after an optional point, and an exponent.
-/
def isDouble (value : List Char) : Bool :=
  let number := dropSign value
  let whole := number.takeWhile isAsciiDigit
  match number.dropWhile isAsciiDigit with
  | '.' :: rest =>
      let fraction := rest.takeWhile isAsciiDigit
      (!whole.isEmpty || !fraction.isEmpty) &&
        isExponent (rest.dropWhile isAsciiDigit)
  | rest => !whole.isEmpty && isExponent rest

/- The value of a datatype can stand without quotes. -/
def isAbbreviated (value datatype : String) : Bool :=
  if datatype = Xsd.booleanIri then isBoolean value.toList
  else if datatype = Xsd.integerIri then
    isInteger value.toList
  else if datatype = Xsd.decimalIri then
    isDecimal value.toList
  else if datatype = Xsd.doubleIri then isDouble value.toList
  else false

end Turtle

end RdfXml
