import RdfXml.Text.Alphanumeric
import RdfXml.Text.CodeTable
import RdfXml.Text.Whitespace

/-
  Patterns that occur in texts.

  A pattern leads from a place in a text to the places behind
  what it stands for.

  Key definitions include:
    * `CharClass`
    * `CharClass.contains`
    * `Place`
    * `Assertion`
    * `Pattern`
    * `Pattern.places`
    * `Pattern.occursIn`
-/

------------------------------------------------------------
-- Classes Of Characters
------------------------------------------------------------

namespace RdfXml

/- Decimal digits of all scripts. -/
def decimalDigits : CharRanges :=
  .ofLines
    ["30-39 660-669 6F0-6F9 7C0-7C9 966-96F 9E6-9EF A66-A6F",
     "AE6-AEF B66-B6F BE6-BEF C66-C6F CE6-CEF D66-D6F",
     "DE6-DEF E50-E59 ED0-ED9 F20-F29 1040-1049 1090-1099",
     "17E0-17E9 1810-1819 1946-194F 19D0-19D9 1A80-1A89",
     "1A90-1A99 1B50-1B59 1BB0-1BB9 1C40-1C49 1C50-1C59",
     "A620-A629 A8D0-A8D9 A900-A909 A9D0-A9D9 A9F0-A9F9",
     "AA50-AA59 ABF0-ABF9 FF10-FF19 104A0-104A9 10D30-10D39",
     "10D40-10D49 11066-1106F 110F0-110F9 11136-1113F",
     "111D0-111D9 112F0-112F9 11450-11459 114D0-114D9",
     "11650-11659 116C0-116C9 116D0-116E3 11730-11739",
     "118E0-118E9 11950-11959 11BF0-11BF9 11C50-11C59",
     "11D50-11D59 11DA0-11DA9 11DE0-11DE9 11F50-11F59",
     "16130-16139 16A60-16A69 16AC0-16AC9 16B50-16B59",
     "16D70-16D79 1CCF0-1CCF9 1D7CE-1D7FF 1E140-1E149",
     "1E2F0-1E2F9 1E4F0-1E4F9 1E5F1-1E5FA 1E950-1E959",
     "1FBF0-1FBF9"]

/- A set of characters. -/
inductive CharClass where
| range (low high : Char)
| digit
| space
| word
| none
| complement (inner : CharClass)
| union (left right : CharClass)
| overlap (left right : CharClass)
| anyCase (inner : CharClass)
deriving DecidableEq, Repr

namespace CharClass

/- The character with an ASCII small letter made a capital. -/
def upperChar (c : Char) : Char :=
  if 'a' ≤ c && c ≤ 'z' then Char.ofNat (c.toNat - 32)
  else c

/- A character belongs to a class. -/
def contains : CharClass → Char → Bool
| .range low high, c => low ≤ c && c ≤ high
| .digit, c => decimalDigits.contains c
| .space, c => isWhitespace c
| .word, c => isAlphanumeric c || c == '_'
| .none, _ => false
| .complement inner, c => !inner.contains c
| .union left right, c => left.contains c || right.contains c
| .overlap left right, c =>
    left.contains c && right.contains c
| .anyCase inner, c =>
    inner.contains (lowerChar c) ||
      inner.contains (upperChar c) || inner.contains c

/- The class of one character. -/
def single (c : Char) : CharClass :=
  .range c c

/- All characters. -/
def any : CharClass :=
  .complement .none

end CharClass

------------------------------------------------------------
-- Places In A Text
------------------------------------------------------------

/- A place: the character before it and the text behind it. -/
structure Place where
  before? : Option Char
  behind : List Char
deriving DecidableEq, Repr

namespace Place

/- The place behind the next character, if that is right. -/
def next?
    (place : Place)
    (allowed : Char → Bool) : Option Place :=
  match place.behind with
  | c :: rest => if allowed c then some ⟨some c, rest⟩ else none
  | [] => none

/- A character of a word stands before a place. -/
def followsWord (place : Place) : Bool :=
  place.before?.any CharClass.word.contains

/- A character of a word stands behind a place. -/
def precedesWord (place : Place) : Bool :=
  place.behind.head?.any CharClass.word.contains

/- Different places in the order of a list. -/
def distinct : List Place → List Place
| [] => []
| place :: rest =>
    place ::
      (distinct rest).filter
        (fun p => p.behind.length != place.behind.length)

/-
  The places that a number of steps lead to.  A step that
  leads to the same places again ends the search.
-/
def afterSteps
    (step : Place → List Place) :
    Nat → List Place → List Place
| 0, places => places
| count + 1, places =>
    let next := distinct (places.flatMap step)
    if next = places then places
    else afterSteps step count next

/-
  The places that at most a number of steps lead to.  The
  search ends when a step leads nowhere new.
-/
def withinSteps
    (step : Place → List Place) :
    Nat → List Place → List Place
| 0, places => places
| count + 1, places =>
    let more := distinct (places ++ places.flatMap step)
    if more.length = places.length then places
    else withinSteps step count more

end Place

/- What can be said about a place. -/
inductive Assertion where
| textStart
| textEnd
| lineStart
| lineEnd
| wordBoundary
| noBoundary
| wordStart
| wordEnd
deriving DecidableEq, Repr

/- An assertion is true of a place. -/
def Assertion.holds
    (place : Place) : Assertion → Bool
| .textStart => place.before?.isNone
| .textEnd => place.behind.isEmpty
| .lineStart =>
    place.before?.isNone || place.before? == some '\n'
| .lineEnd =>
    place.behind.isEmpty || place.behind.head? == some '\n'
| .wordBoundary => place.followsWord != place.precedesWord
| .noBoundary => place.followsWord == place.precedesWord
| .wordStart => !place.followsWord && place.precedesWord
| .wordEnd => place.followsWord && !place.precedesWord

------------------------------------------------------------
-- Patterns
------------------------------------------------------------

/- A pattern.  A repetition may have no upper bound. -/
inductive Pattern where
| empty
| one (chars : CharClass)
| asserted (assertion : Assertion)
| sequence (first second : Pattern)
| choice (left right : Pattern)
| repeated
    (inner : Pattern)
    (least : Nat)
    (most? : Option Nat)
deriving DecidableEq, Repr

namespace Pattern

/- The places that a pattern leads to from a place. -/
def places : Pattern → Place → List Place
| .empty, place => [place]
| .one chars, place => (place.next? chars.contains).toList
| .asserted assertion, place =>
    if assertion.holds place then [place] else []
| .sequence first second, place =>
    Place.distinct
      ((first.places place).flatMap
        (fun next => second.places next))
| .choice left right, place =>
    Place.distinct (left.places place ++ right.places place)
| .repeated inner least most?, place =>
    let step := fun next => inner.places next
    let more :=
      match most? with
      | some most => most - least
      | none => place.behind.length
    Place.withinSteps step more
      (Place.afterSteps step least [place])

/- A pattern leads on from a place or a later one. -/
def occursFrom
    (pattern : Pattern)
    (before? : Option Char) : List Char → Bool
| [] => !(pattern.places ⟨before?, []⟩).isEmpty
| c :: rest =>
    !(pattern.places ⟨before?, c :: rest⟩).isEmpty ||
      occursFrom pattern (some c) rest

/- A pattern stands for a part of a text. -/
def occursIn
    (pattern : Pattern)
    (text : List Char) : Bool :=
  occursFrom pattern none text

/- Patterns one behind the other, given last first. -/
def ofReversed (patterns : List Pattern) : Pattern :=
  patterns.foldl (fun rest pattern => .sequence pattern rest)
    .empty

/- A choice of patterns, given last first. -/
def ofChoices : List Pattern → Pattern
| [] => .empty
| last :: rest =>
    rest.foldl (fun choices pattern => .choice pattern choices)
      last

end Pattern

end RdfXml
