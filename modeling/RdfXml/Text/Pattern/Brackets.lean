import RdfXml.Text.Pattern.Escape

/-
  Classes of characters in the brackets of regular expressions.

  Key definitions include:
    * `PatternReader.Combination`
    * `PatternReader.OpenClass`
    * `PatternReader.readClass`
-/

------------------------------------------------------------
-- Classes In Brackets
------------------------------------------------------------

namespace RdfXml

namespace PatternReader

/- How two classes in brackets are combined. -/
inductive Combination where
| overlap
| difference
| symmetricDifference
deriving DecidableEq, Repr

namespace Combination

/- The combination of two classes. -/
def apply
    (left right : CharClass) : Combination → CharClass
| .overlap => .overlap left right
| .difference => .overlap left (.complement right)
| .symmetricDifference =>
    .overlap (.union left right)
      (.complement (.overlap left right))

/- The combination that a doubled character stands for. -/
def ofChar? (c : Char) : Option Combination :=
  match c with
  | '&' => some .overlap
  | '-' => some .difference
  | '~' => some .symmetricDifference
  | _ => none

end Combination

/- ASCII classes that have a name. -/
def asciiClass? (name : List Char) : Option CharClass :=
  let lower := CharClass.range 'a' 'z'
  let upper := CharClass.range 'A' 'Z'
  let figure := CharClass.range '0' '9'
  let letter := CharClass.union lower upper
  let graph := CharClass.range '!' '~'
  match String.ofList name with
  | "alnum" => some (.union letter figure)
  | "alpha" => some letter
  | "ascii" => some (.range (Char.ofNat 0) (Char.ofNat 127))
  | "blank" => some (.union (.single ' ') (.single '\t'))
  | "cntrl" =>
      some
        (.union (.range (Char.ofNat 0) (Char.ofNat 31))
          (.single (Char.ofNat 127)))
  | "digit" => some figure
  | "graph" => some graph
  | "lower" => some lower
  | "print" => some (.range ' ' '~')
  | "punct" =>
      some
        (.overlap graph (.complement (.union letter figure)))
  | "space" =>
      some
        (.union (.single ' ')
          (.range '\t' (Char.ofNat 13)))
  | "upper" => some upper
  | "word" =>
      some (.union (.union letter figure) (.single '_'))
  | "xdigit" =>
      some
        (.union figure
          (.union (.range 'a' 'f') (.range 'A' 'F')))
  | _ => none

/- An ASCII class by its name, after its bracket and colon. -/
def namedAscii?
    (input : List Char) : Option (CharClass × List Char) :=
  let (negated, inner) :=
    match input with
    | '^' :: rest => (true, rest)
    | rest => (false, rest)
  let name := inner.takeWhile (· != ':')
  match inner.drop name.length with
  | ':' :: ']' :: rest =>
      (asciiClass? name).map
        (fun chars =>
          (if negated then .complement chars else chars, rest))
  | _ => none

/- One character or escape in brackets. -/
def readItem
    (scope : Scope) :
    List Char → Outcome Primitive
| '\\' :: rest => readEscape scope ('\\' :: rest) rest
| c :: rest => .ok (.literal c, rest)
| [] => .error (scope.fault "unclosed character class" [] [])

/- The class of a character or an escape in brackets. -/
def itemClass
    (scope : Scope)
    (start rest : List Char) :
    Primitive → Except PatternFault CharClass
| .literal c => .ok (.single c)
| .chars chars => .ok chars
| .assertion _ =>
    .error
      (scope.fault
        "invalid escape sequence found in character class"
        start rest)

/- A range between two characters. -/
def rangeClass
    (scope : Scope)
    (start rest : List Char) :
    Primitive → Primitive → Except PatternFault CharClass
| .literal low, .literal high =>
    if low ≤ high then
      .ok (.range low high)
    else
      .error
        (scope.fault
          ("invalid character class range, " ++
            "the start must be <= the end") start rest)
| _, _ =>
    .error
      (scope.fault
        "invalid range boundary, must be a literal" start rest)

/- A character or an escape that is no end of a range. -/
def readSingle
    (scope : Scope)
    (start rest : List Char)
    (item : Primitive) : Outcome CharClass :=
  (itemClass scope start rest item).map
    (fun chars => (chars, rest))

/- One member of a class: a range, a character, or an escape. -/
def readMember
    (scope : Scope)
    (input : List Char) : Outcome CharClass :=
  match readItem scope input with
  | .error fault => .error fault
  | .ok (low, '-' :: next :: more) =>
      if next = ']' || next = '-' then
        readSingle scope input ('-' :: next :: more) low
      else
        match readItem scope (next :: more) with
        | .error fault => .error fault
        | .ok (high, behind) =>
            (rangeClass scope input behind low high).map
              (fun chars => (chars, behind))
  | .ok (low, rest) => readSingle scope input rest low

/-
  A class that is being read: what it began with, whether it
  is negated, a combination that waits for its right side, and
  the members since.
-/
structure OpenClass where
  fault : PatternFault
  negated : Bool
  left? : Option (CharClass × Combination)
  members : CharClass
deriving DecidableEq, Repr

namespace OpenClass

/- Add a member. -/
def add
    (state : OpenClass)
    (chars : CharClass) : OpenClass :=
  { state with members := .union state.members chars }

/- The combination of the sides so far. -/
def combined (state : OpenClass) : CharClass :=
  match state.left? with
  | some (left, combination) =>
      combination.apply left state.members
  | none => state.members

/- Begin the right side of a combination. -/
def combine
    (state : OpenClass)
    (combination : Combination) : OpenClass :=
  { state with
    left? := some (state.combined, combination)
    members := .none }

/- The class as a whole. -/
def close
    (state : OpenClass)
    (scope : Scope) : CharClass :=
  let chars := scope.cased state.combined
  if state.negated then .complement chars else chars

end OpenClass

/- The hyphens and the bracket that may begin a class. -/
def readLeading
    (members : CharClass) :
    List Char → CharClass × List Char
| '-' :: rest => readLeading (.union members (.single '-')) rest
| ']' :: rest =>
    if members = .none then (.single ']', rest)
    else (members, ']' :: rest)
| rest => (members, rest)

/- Begin a class, after its bracket at `start`. -/
def openClass
    (scope : Scope)
    (start rest : List Char) : OpenClass × List Char :=
  let (negated, inner) :=
    match rest with
    | '^' :: inner => (true, inner)
    | inner => (false, inner)
  let (members, behind) := readLeading .none inner
  (⟨scope.fault "unclosed character class" start behind,
    negated, none, members⟩, behind)

/- The class around a class that has been closed. -/
def closeInto
    (outer : List OpenClass)
    (chars : CharClass) : Option (List OpenClass) :=
  match outer with
  | next :: more => some (next.add chars :: more)
  | [] => none

/-
  Read classes inside each other, the innermost first.  Every
  step reads something, so the length of the text bounds them.
-/
def readClasses
    (scope : Scope) :
    Nat → List OpenClass → List Char → Outcome CharClass
| 0, _, rest => .ok (.none, rest)
| _, [], rest => .ok (.none, rest)
| _, inner :: _, [] => .error inner.fault
| limit + 1, inner :: outer, ']' :: rest =>
    match closeInto outer (inner.close scope) with
    | some classes => readClasses scope limit classes rest
    | none => .ok (inner.close scope, rest)
| limit + 1, inner :: outer, '[' :: rest =>
    match rest with
    | ':' :: named =>
        match namedAscii? named with
        | some (chars, behind) =>
            readClasses scope limit
              (inner.add chars :: outer) behind
        | none =>
            let (next, behind) :=
              openClass scope ('[' :: rest) rest
            readClasses scope limit (next :: inner :: outer)
              behind
    | rest =>
        let (next, behind) :=
          openClass scope ('[' :: rest) rest
        readClasses scope limit (next :: inner :: outer) behind
| limit + 1, inner :: outer, c :: rest =>
    match Combination.ofChar? c, rest.head? == some c with
    | some combination, true =>
        readClasses scope limit
          (inner.combine combination :: outer) (rest.drop 1)
    | _, _ =>
        match readMember scope (c :: rest) with
        | .error fault => .error fault
        | .ok (chars, behind) =>
            readClasses scope limit
              (inner.add chars :: outer) behind

/- A class, after its bracket at `start`. -/
def readClass
    (scope : Scope)
    (start rest : List Char) : Outcome CharClass :=
  let (state, behind) := openClass scope start rest
  readClasses scope (rest.length + 1) [state] behind

end PatternReader

end RdfXml
