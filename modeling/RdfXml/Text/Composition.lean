import RdfXml.Text.CombiningClass
import RdfXml.Text.Composites

/-
  The composed normal form of a text.

  Composites are taken apart, the marks behind a character are
  put in the order of their classes, and what can be composed
  is composed again.

  Key definitions include:
    * `decompose`
    * `orderMarks`
    * `Composing`
    * `compose`
    * `composedForm`
-/

------------------------------------------------------------
-- Decomposition
------------------------------------------------------------

namespace RdfXml

/- How often the first part of a composite is composite. -/
def compositeDepth : Nat :=
  4

/- The parts of a character that is composite up to a depth. -/
def decomposeCode :
    Nat → Nat → List Nat
| 0, code => [code]
| depth + 1, code =>
    match parts? code with
    | some (a, b) => decomposeCode depth a ++ [b]
    | none => [code]

/- A text without composites. -/
def decompose (codes : List Nat) : List Nat :=
  codes.flatMap (decomposeCode compositeDepth)

------------------------------------------------------------
-- Order Of Marks
------------------------------------------------------------

/-
  Put a code behind others, which are given last first.  A
  mark goes in front of the marks of higher classes.
-/
def placeMark
    (code : Nat) : List Nat → List Nat
| [] => [code]
| last :: rest =>
    if combiningClass code != 0 &&
        combiningClass code < combiningClass last then
      last :: placeMark code rest
    else
      code :: last :: rest

/- A text with its marks in the order of their classes. -/
def orderMarks (codes : List Nat) : List Nat :=
  (codes.foldl (fun done code => placeMark code done)
    []).reverse

------------------------------------------------------------
-- Composition
------------------------------------------------------------

/-
  What composition has come to: the finished codes, a code
  that may still be composed, and the marks behind it that it
  has not taken up.  Lists are last first.
-/
structure Composing where
  finished : List Nat
  starter? : Option Nat
  marks : List Nat

namespace Composing

/- Nothing has been composed. -/
def start : Composing :=
  ⟨[], none, []⟩

/- A mark of the same or a higher class stands before a code. -/
def isBlocked
    (state : Composing)
    (code : Nat) : Bool :=
  match state.marks with
  | mark :: _ => combiningClass code ≤ combiningClass mark
  | [] => false

/- The codes so far, last first. -/
def codes (state : Composing) : List Nat :=
  match state.starter? with
  | some starter =>
      state.marks ++ starter :: state.finished
  | none => state.marks ++ state.finished

/- The composite of the starter and a code next to it. -/
def composite?
    (state : Composing)
    (code : Nat) : Option Nat :=
  if state.isBlocked code then none
  else
    state.starter?.bind
      (fun starter => RdfXml.composite? starter code)

/- Go on with one more code. -/
def step
    (state : Composing)
    (code : Nat) : Composing :=
  match state.composite? code with
  | some composite => { state with starter? := some composite }
  | none =>
      if combiningClass code = 0 then
        ⟨state.codes, some code, []⟩
      else
        { state with marks := code :: state.marks }

end Composing

/- A text with its characters composed. -/
def compose (codes : List Nat) : List Nat :=
  (codes.foldl Composing.step Composing.start).codes.reverse

/- The composed normal form of a text. -/
def composedForm (codes : List Nat) : List Nat :=
  compose (orderMarks (decompose codes))

end RdfXml
