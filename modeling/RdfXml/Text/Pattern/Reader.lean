import RdfXml.Text.Pattern.Brackets

/-
  Patterns written as regular expressions.

  Groups are kept on a stack while they are read.

  Key definitions include:
    * `PatternReader.Bounds`
    * `PatternReader.OpenGroup`
    * `PatternReader.readParts`
    * `Pattern.ofString`
-/

------------------------------------------------------------
-- Repetitions
------------------------------------------------------------

namespace RdfXml

namespace PatternReader

/- How often a part is repeated. -/
structure Bounds where
  least : Nat
  most? : Option Nat
deriving DecidableEq, Repr

/- The rest without the mark of a repetition that is lazy. -/
def dropLazy : List Char → List Char
| '?' :: rest => rest
| rest => rest

/- A number of repetitions. -/
def readCount
    (scope : Scope)
    (input : List Char) : Outcome Nat :=
  let start := input.dropWhile isWhitespace
  let digits := start.takeWhile isAsciiDigit
  let rest := start.drop digits.length
  match (String.ofList digits).toNat? with
  | none =>
      .error
        (scope.fault
          "repetition quantifier expects a valid decimal"
          start rest)
  | some count =>
      if count < 0x100000000 then
        .ok (count, rest.dropWhile isWhitespace)
      else
        .error
          (scope.fault "decimal literal invalid" start rest)

/- The fault of braces that are not closed. -/
def unclosedBounds
    (scope : Scope)
    (start rest : List Char) : PatternFault :=
  scope.fault "unclosed counted repetition" start rest

/- Bounds, if they are in order and a brace closes them. -/
def closeBounds
    (scope : Scope)
    (start : List Char)
    (bounds : Bounds) :
    List Char → Outcome Bounds
| '\x7d' :: rest =>
    if bounds.most?.any (· < bounds.least) then
      .error
        (scope.fault
          ("invalid repetition count range, " ++
            "the start must be <= the end")
          start (dropLazy rest))
    else
      .ok (bounds, dropLazy rest)
| rest => .error (unclosedBounds scope start rest)

/- The bounds behind the smaller one. -/
def readUpperBound
    (scope : Scope)
    (start : List Char)
    (least : Nat) :
    List Char → Outcome Bounds
| ',' :: rest =>
    if rest.isEmpty || rest.head? = some '\x7d' then
      closeBounds scope start ⟨least, none⟩ rest
    else
      match readCount scope rest with
      | .error fault => .error fault
      | .ok (most, behind) =>
          closeBounds scope start ⟨least, some most⟩ behind
| rest => closeBounds scope start ⟨least, some least⟩ rest

/- The bounds in braces, after the brace at `start`. -/
def readBounds
    (scope : Scope)
    (start rest : List Char) : Outcome Bounds :=
  if rest.isEmpty then
    .error (unclosedBounds scope start [])
  else
    match readCount scope rest with
    | .error fault => .error fault
    | .ok (least, behind) =>
        readUpperBound scope start least behind

------------------------------------------------------------
-- Groups
------------------------------------------------------------

/-
  A group that is being read: its bracket, what holds outside
  of it, the choices so far, and the parts of the last choice.
  Both are last first, and a part that cannot be repeated is
  absent.
-/
structure OpenGroup where
  start : List Char
  outside : Scope
  choices : List Pattern
  parts : List (Option Pattern)
deriving DecidableEq, Repr

namespace OpenGroup

/- The parts of the last choice. -/
def lastChoice (group : OpenGroup) : Pattern :=
  Pattern.ofReversed (group.parts.filterMap id)

/- The pattern of a group. -/
def pattern (group : OpenGroup) : Pattern :=
  Pattern.ofChoices (group.lastChoice :: group.choices)

/- Add a part. -/
def add
    (group : OpenGroup)
    (part : Pattern) : OpenGroup :=
  { group with parts := some part :: group.parts }

/- Begin another choice. -/
def divide (group : OpenGroup) : OpenGroup :=
  { group with
    choices := group.lastChoice :: group.choices
    parts := [] }

/- Repeat the last part, if there is one. -/
def repeated?
    (group : OpenGroup)
    (bounds : Bounds) : Option OpenGroup :=
  match group.parts with
  | some part :: rest =>
      some
        { group with
          parts :=
            some (.repeated part bounds.least bounds.most?)
              :: rest }
  | _ => none

end OpenGroup

/- A scope in which a flag is set or cleared. -/
def setFlag
    (scope : Scope)
    (value : Bool)
    (flag : Char) : Option Scope :=
  match flag with
  | 'i' => some { scope with ignoresCase := value }
  | 'm' => some { scope with hasLines := value }
  | 's' => some { scope with dotIsAny := value }
  | 'U' => some scope
  | 'u' => some scope
  | 'R' => some scope
  | 'x' => some scope
  | _ => none

/- The flags in front of a colon or a closing bracket. -/
def readFlags
    (value : Bool)
    (scope : Scope) :
    List Char → Outcome Scope
| [] =>
    .error
      (scope.fault "expected flag but got end of regex" [] [])
| '-' :: rest =>
    if value then
      readFlags false scope rest
    else
      .error
        (scope.fault "flag negation operator repeated"
          ('-' :: rest) rest)
| c :: rest =>
    if c = ':' || c = ')' then
      .ok (scope, c :: rest)
    else
      match setFlag scope value c with
      | some scope => readFlags value scope rest
      | none =>
          .error
            (scope.fault "unrecognized flag" (c :: rest) rest)

/- The name of a group, after its bracket. -/
def readGroupName
    (scope : Scope)
    (rest : List Char) : Outcome Unit :=
  let name := rest.takeWhile (· != '>')
  match rest.drop name.length with
  | [] =>
      .error (scope.fault "unclosed capture group name" [] [])
  | _ :: behind =>
      if name.isEmpty then
        .error
          (scope.fault "empty capture group name" rest rest)
      else
        .ok ((), behind)

/- What is not supported behind the bracket of a group. -/
def isLookAround : List Char → Bool
| '=' :: _ => true
| '!' :: _ => true
| '<' :: '=' :: _ => true
| '<' :: '!' :: _ => true
| _ => false

/-
  What begins at a bracket: a group with the scope inside of
  it, or flags for the rest of the group around.
-/
def readGroup
    (scope : Scope)
    (start rest : List Char) :
    Outcome (Option OpenGroup × Scope) :=
  let group : OpenGroup := ⟨start, scope, [], []⟩
  match rest with
  | '?' :: inner =>
      if isLookAround inner then
        let width := if inner.head? = some '<' then 2 else 1
        .error
          (scope.fault
            ("look-around, including look-ahead and " ++
              "look-behind, is not supported")
            start (inner.drop width))
      else
        match inner with
        | 'P' :: '<' :: name =>
            (readGroupName scope name).map
              (fun (_, behind) => ((some group, scope), behind))
        | '<' :: name =>
            (readGroupName scope name).map
              (fun (_, behind) => ((some group, scope), behind))
        | ')' :: _ =>
            .error
              (scope.fault
                "repetition operator missing expression"
                rest inner)
        | [] => .error (scope.fault "unclosed group" start rest)
        | flags =>
            match readFlags true scope flags with
            | .error fault => .error fault
            | .ok (inside, ':' :: behind) =>
                .ok ((some group, inside), behind)
            | .ok (inside, behind) =>
                .ok ((none, inside), behind.drop 1)
  | rest => .ok ((some group, scope), rest)

------------------------------------------------------------
-- Whole Patterns
------------------------------------------------------------

/- The pattern of a character or an escape. -/
def primitivePattern
    (scope : Scope) : Primitive → Pattern
| .literal c => .one (scope.cased (.single c))
| .chars chars => .one chars
| .assertion assertion => .asserted assertion

/- A part that one character stands for. -/
def charPattern
    (scope : Scope)
    (c : Char) : Pattern :=
  if c = '.' then
    .one
      (if scope.dotIsAny then .any
        else .complement (.single '\n'))
  else if c = '^' then
    .asserted (if scope.hasLines then .lineStart else .textStart)
  else if c = '$' then
    .asserted (if scope.hasLines then .lineEnd else .textEnd)
  else
    primitivePattern scope (.literal c)

/- The bounds of a repetition that one character stands for. -/
def bounds? (c : Char) : Option Bounds :=
  match c with
  | '*' => some ⟨0, none⟩
  | '+' => some ⟨1, none⟩
  | '?' => some ⟨0, some 1⟩
  | _ => none

/- Repeat the last part by bounds that have been read. -/
def applyBounds
    (scope : Scope)
    (group : OpenGroup)
    (start rest : List Char)
    (bounds : Bounds) : Outcome OpenGroup :=
  match group.repeated? bounds with
  | some group => .ok (group, rest)
  | none =>
      .error
        (scope.fault "repetition operator missing expression"
          start start)

/- A repetition of the last part. -/
def readRepetition
    (scope : Scope)
    (group : OpenGroup)
    (start : List Char) : Outcome OpenGroup :=
  match start with
  | '\x7b' :: rest =>
      match readBounds scope start rest with
      | .error fault =>
          (applyBounds scope group start rest ⟨0, none⟩).bind
            (fun _ => .error fault)
      | .ok (bounds, behind) =>
          applyBounds scope group start behind bounds
  | c :: rest =>
      applyBounds scope group start (dropLazy rest)
        ((bounds? c).getD ⟨1, some 1⟩)
  | [] => .ok (group, [])

/- One part that is no group: a class, an escape, a character. -/
def readPart
    (scope : Scope)
    (start : List Char) : Outcome Pattern :=
  match start with
  | '[' :: rest =>
      (readClass scope start rest).map
        (fun (chars, behind) =>
          (.one chars, behind))
  | '\\' :: rest =>
      (readEscape scope start rest).map
        (fun (primitive, behind) =>
          (primitivePattern scope primitive, behind))
  | c :: rest => .ok (charPattern scope c, rest)
  | [] => .ok (.empty, [])

/- The group around a group that has been closed. -/
def closeGroup
    (group : OpenGroup) :
    List OpenGroup → Option (OpenGroup × List OpenGroup)
| outer :: more => some (outer.add group.pattern, more)
| [] => none

/-
  Read groups inside each other, the innermost first.  Every
  step reads something, so the length of the text bounds them.
-/
def readParts :
    Nat → Scope → OpenGroup → List OpenGroup → List Char →
      Except PatternFault Pattern
| 0, _, group, _, _ => .ok group.pattern
| _, _, group, [], [] => .ok group.pattern
| _, scope, group, _ :: _, [] =>
    .error
      (scope.fault "unclosed group" group.start
        (group.start.drop 1))
| limit + 1, scope, group, outer, c :: rest =>
    if c = '(' then
      match readGroup scope (c :: rest) rest with
      | .error fault => .error fault
      | .ok ((some inner, inside), behind) =>
          readParts limit inside inner (group :: outer) behind
      | .ok ((none, inside), behind) =>
          readParts limit inside
            { group with parts := none :: group.parts } outer
            behind
    else if c = ')' then
      match closeGroup group outer with
      | some (next, more) =>
          readParts limit group.outside next more rest
      | none =>
          .error
            (scope.fault "unopened group" (c :: rest) rest)
    else if c = '|' then
      readParts limit scope group.divide outer rest
    else if c = '\x7b' || (bounds? c).isSome then
      match readRepetition scope group (c :: rest) with
      | .error fault => .error fault
      | .ok (group, behind) =>
          readParts limit scope group outer behind
    else
      match readPart scope (c :: rest) with
      | .error fault => .error fault
      | .ok (part, behind) =>
          readParts limit scope (group.add part) outer behind

end PatternReader

/- The pattern that a regular expression stands for. -/
def Pattern.ofString
    (text : String) : Except PatternFault Pattern :=
  let chars := text.toList
  let scope : PatternReader.Scope :=
    ⟨chars.length, false, false, false⟩
  PatternReader.readParts (chars.length + 1) scope
    ⟨chars, scope, [], []⟩ [] chars

end RdfXml
