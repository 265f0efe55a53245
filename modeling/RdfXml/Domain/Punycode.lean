import RdfXml.Text.Ascii

/-
  Labels of any characters written in ASCII.

  The ASCII characters of a label come first.  Behind the last
  hyphen follow the insertions of all others, in the order of
  their codes, each as a number in base 36 whose digits have
  thresholds that adapt to the numbers before.

  Key definitions include:
    * `Punycode.encode`
    * `Punycode.decode?`
-/

------------------------------------------------------------
-- Digits
------------------------------------------------------------

namespace RdfXml

namespace Punycode

/- A digit of base 36: letters first, then figures. -/
def digitChar (digit : Nat) : Char :=
  if digit < 26 then Char.ofNat (digit + 'a'.toNat)
  else Char.ofNat (digit - 26 + '0'.toNat)

/- The value of a digit of either case. -/
def digit? (c : Char) : Option Nat :=
  if isAsciiDigit c then
    some (c.toNat - '0'.toNat + 26)
  else if isAsciiLetter c then
    some ((lowerChar c).toNat - 'a'.toNat)
  else
    none

/- The threshold of a digit. -/
def threshold (bias k : Nat) : Nat :=
  if k ≤ bias then 1
  else if bias + 26 ≤ k then 26
  else k - bias

------------------------------------------------------------
-- Bias
------------------------------------------------------------

/- The bias at first. -/
def initialBias : Nat :=
  72

/- The code before all that are inserted. -/
def initialCode : Nat :=
  128

/- Reduce a difference, counting the reductions. -/
def reduce :
    Nat → Nat → Nat → Nat
| 0, k, delta => k + 36 * delta / (delta + 38)
| limit + 1, k, delta =>
    if 455 < delta then
      reduce limit (k + 36) (delta / 35)
    else
      k + 36 * delta / (delta + 38)

/- The bias after a difference. -/
def adapt
    (delta count : Nat)
    (isFirst : Bool) : Nat :=
  let damped := if isFirst then delta / 700 else delta / 2
  let spread := damped + damped / count
  reduce spread 0 spread

------------------------------------------------------------
-- Encoding
------------------------------------------------------------

/- A number as digits of varying thresholds. -/
def digits
    (bias : Nat) :
    Nat → Nat → Nat → List Char
| 0, _, _ => []
| limit + 1, k, q =>
    let t := threshold bias k
    if q < t then
      [digitChar q]
    else
      digitChar (t + (q - t) % (36 - t)) ::
        digits bias limit (k + 36) ((q - t) / (36 - t))

/- What encoding has come to. -/
structure Encoding where
  delta : Nat
  bias : Nat
  handled : Nat
  output : List Char

/- Pass over one code of the label in the round of `code`. -/
def visit
    (basic code : Nat)
    (s : Encoding)
    (c : Nat) : Encoding :=
  if c < code then
    { s with delta := s.delta + 1 }
  else if c = code then
    { delta := 0
      bias := adapt s.delta (s.handled + 1)
        (s.handled == basic)
      handled := s.handled + 1
      output :=
        s.output ++ digits s.bias (s.delta + 1) 36 s.delta }
  else
    s

/- The round of one code, after that of `previous`. -/
def round
    (basic : Nat)
    (codes : List Nat)
    (state : Nat × Encoding)
    (code : Nat) : Nat × Encoding :=
  let s := state.2
  let start :=
    { s with
      delta := s.delta +
        (code - state.1) * (s.handled + 1) }
  let done := codes.foldl (visit basic code) start
  (code + 1, { done with delta := done.delta + 1 })

/- The Punycode form of a label. -/
def encode (codes : List Nat) : List Char :=
  let basic := codes.filter (· < initialCode)
  let others :=
    ((codes.filter (initialCode ≤ ·)).mergeSort
      (fun a b => a ≤ b)).eraseDups
  let front :=
    if basic.isEmpty then []
    else basic.map Char.ofNat ++ ['-']
  let start : Encoding :=
    ⟨0, initialBias, basic.length, front⟩
  (others.foldl (round basic.length codes)
    (initialCode, start)).2.output

------------------------------------------------------------
-- Decoding
------------------------------------------------------------

/-
  What decoding has come to.  A number that has begun at
  `start` is at `index`, and its next digit has the weight
  `weight`; between two numbers the weight is one.
-/
structure Decoding where
  codes : List Nat
  code : Nat
  bias : Nat
  start : Nat
  index : Nat
  weight : Nat
  k : Nat

namespace Decoding

/- Only the ASCII characters have been read. -/
def ofBasic (codes : List Nat) : Decoding :=
  ⟨codes, initialCode, initialBias, 0, 0, 1, 36⟩

/- The largest number that a weight or an index may be. -/
def limit : Nat :=
  0xFFFFFFFF

/- Insert a code at the end of a number. -/
def insert? (s : Decoding) : Option Decoding :=
  let count := s.codes.length + 1
  let code := s.code + s.index / count
  let place := s.index % count
  if code.isValidChar then
    some
      { codes := s.codes.insertIdx place code
        code
        bias := adapt (s.index - s.start) count (s.start == 0)
        start := place + 1
        index := place + 1
        weight := 1
        k := 36 }
  else
    none

/- Go on with one more digit. -/
def step?
    (s : Decoding)
    (c : Char) : Option Decoding :=
  (digit? c).bind
    (fun digit =>
      let t := threshold s.bias s.k
      let index := s.index + digit * s.weight
      let weight := s.weight * (36 - t)
      if limit < index then none
      else if digit < t then
        insert? { s with index }
      else if limit < weight then none
      else some { s with index, weight, k := s.k + 36 })

/- All digits belong to finished numbers. -/
def isComplete (s : Decoding) : Bool :=
  s.k == 36

end Decoding

/-
  The ASCII characters before the last hyphen, and the digits
  behind it.  A hyphen in front of everything is no digit.
-/
def splitLastHyphen
    (text : List Char) : List Char × List Char :=
  let digits := (text.reverse.takeWhile (· != '-')).reverse
  let basic := text.take (text.length - digits.length - 1)
  if basic.isEmpty then ([], text) else (basic, digits)

/- The label that has a Punycode form. -/
def decode? (text : List Char) : Option (List Nat) :=
  let (basic, digits) := splitLastHyphen text
  match
    digits.foldlM Decoding.step?
      (Decoding.ofBasic (basic.map Char.toNat))
  with
  | some s => if s.isComplete then some s.codes else none
  | none => none

end Punycode

end RdfXml
