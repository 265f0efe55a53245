import RdfXml.Text.Pattern

/-
  Escapes in regular expressions.

  Key definitions include:
    * `PatternFault`
    * `PatternFault.text`
    * `PatternReader.Scope`
    * `PatternReader.Primitive`
    * `PatternReader.readEscape`
-/

------------------------------------------------------------
-- Faults
------------------------------------------------------------

namespace RdfXml

/- Why a text is no pattern, and which characters show it. -/
structure PatternFault where
  reason : String
  first : Nat
  behind : Nat
deriving DecidableEq, Repr

namespace PatternFault

/- A fault with the pattern above it and a mark below. -/
def text
    (fault : PatternFault)
    (pattern : String) : String :=
  let width := max 1 (fault.behind - fault.first)
  "regex parse error:\n    " ++ pattern ++ "\n    " ++
    String.ofList
      (List.replicate fault.first ' ' ++
        List.replicate width '^') ++
      "\nerror: " ++ fault.reason

end PatternFault

namespace PatternReader

/- What reading gives: a value and the rest, or a fault. -/
abbrev Outcome (α : Type) :=
  Except PatternFault (α × List Char)

/-
  The whole pattern's length, by which the rest of it tells
  the position.
-/
structure Scope where
  length : Nat
  ignoresCase : Bool := false
  hasLines : Bool := false
  dotIsAny : Bool := false
deriving DecidableEq, Repr

namespace Scope

/- The position of what is left. -/
def position
    (scope : Scope)
    (rest : List Char) : Nat :=
  scope.length - rest.length

/- A fault from one rest up to another. -/
def fault
    (scope : Scope)
    (reason : String)
    (start behind : List Char) : PatternFault :=
  ⟨reason, scope.position start, scope.position behind⟩

/- A class, of any case if case is ignored. -/
def cased
    (scope : Scope)
    (chars : CharClass) : CharClass :=
  if scope.ignoresCase then .anyCase chars else chars

end Scope

------------------------------------------------------------
-- Escapes
------------------------------------------------------------

/- What an escape or a character alone stands for. -/
inductive Primitive where
| literal (c : Char)
| chars (chars : CharClass)
| assertion (assertion : Assertion)
deriving DecidableEq, Repr

/- Classes that one letter names. -/
def namedClass? (c : Char) : Option CharClass :=
  match c with
  | 'd' => some .digit
  | 'D' => some (.complement .digit)
  | 's' => some .space
  | 'S' => some (.complement .space)
  | 'w' => some .word
  | 'W' => some (.complement .word)
  | _ => none

/- Assertions that one character names. -/
def namedAssertion? (c : Char) : Option Assertion :=
  match c with
  | 'A' => some .textStart
  | 'z' => some .textEnd
  | 'b' => some .wordBoundary
  | 'B' => some .noBoundary
  | '<' => some .wordStart
  | '>' => some .wordEnd
  | _ => none

/- Control characters that one letter names. -/
def namedControl? (c : Char) : Option Char :=
  match c with
  | 'a' => some (Char.ofNat 7)
  | 'f' => some (Char.ofNat 12)
  | 't' => some '\t'
  | 'n' => some '\n'
  | 'r' => some '\r'
  | 'v' => some (Char.ofNat 11)
  | _ => none

/- The number of digits behind a letter, without braces. -/
def hexLength? (c : Char) : Option Nat :=
  match c with
  | 'x' => some 2
  | 'u' => some 4
  | 'U' => some 8
  | _ => none

/- The character of some hexadecimal digits. -/
def readCode
    (scope : Scope)
    (start digits rest : List Char) : Outcome Primitive :=
  let code := hexNumber digits
  if digits.isEmpty then
    .error (scope.fault "hexadecimal literal empty" start rest)
  else if code.isValidChar then
    .ok (.literal (Char.ofNat code), rest)
  else
    .error
      (scope.fault
        "hexadecimal literal is not a Unicode scalar value"
        start rest)

/- A character by its code, in braces or of a fixed length. -/
def readHex
    (scope : Scope)
    (length : Nat)
    (rest : List Char) : Outcome Primitive :=
  let invalid := "invalid hexadecimal digit"
  let cut :=
    "incomplete escape sequence, reached end of pattern " ++
      "prematurely"
  match rest with
  | '\x7b' :: inner =>
      let digits := inner.takeWhile isHexDigit
      match inner.drop digits.length with
      | '\x7d' :: behind => readCode scope rest digits behind
      | [] => .error (scope.fault cut rest [])
      | c :: behind =>
          .error (scope.fault invalid (c :: behind) behind)
  | rest =>
      let digits := (rest.take length).takeWhile isHexDigit
      match rest.drop digits.length with
      | behind =>
          if digits.length = length then
            readCode scope rest digits behind
          else
            match behind with
            | [] => .error (scope.fault cut [] [])
            | c :: more =>
                .error (scope.fault invalid (c :: more) more)

/- ASCII punctuation, which a backslash makes literal. -/
def isPunctuation (c : Char) : Bool :=
  c.toNat < 128 && !isAsciiAlphanumeric c && c != '<' &&
    c != '>'

/- What an escape stands for, after its backslash at `start`. -/
def readEscape
    (scope : Scope)
    (start : List Char) :
    List Char → Outcome Primitive
| [] =>
    .error
      (scope.fault
        ("incomplete escape sequence, reached end of " ++
          "pattern prematurely") start [])
| c :: rest =>
    match namedClass? c, namedAssertion? c, namedControl? c,
      hexLength? c with
    | some chars, _, _, _ => .ok (.chars chars, rest)
    | _, some assertion, _, _ =>
        .ok (.assertion assertion, rest)
    | _, _, some control, _ => .ok (.literal control, rest)
    | _, _, _, some length => readHex scope length rest
    | _, _, _, _ =>
        if isPunctuation c then
          .ok (.literal c, rest)
        else if isAsciiDigit c then
          .error
            (scope.fault "backreferences are not supported"
              start rest)
        else
          .error
            (scope.fault "unrecognized escape sequence"
              start rest)

end PatternReader

end RdfXml
