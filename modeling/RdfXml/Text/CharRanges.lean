/-
  Character classes given by ranges of code points.

  Key definitions include:
    * `CharRanges`
    * `CharRanges.contains`
-/

------------------------------------------------------------
-- Ranges Of Code Points
------------------------------------------------------------

namespace RdfXml

/- A character class as a list of closed code point ranges. -/
structure CharRanges where
  ranges : List (Nat × Nat)
deriving DecidableEq, Repr

namespace CharRanges

/- A code point lies in one of the ranges. -/
def containsCode
    (chars : CharRanges)
    (code : Nat) : Bool :=
  chars.ranges.any
    (fun range => range.1 ≤ code && code ≤ range.2)

/- A character lies in one of the ranges. -/
def contains
    (chars : CharRanges)
    (c : Char) : Bool :=
  chars.containsCode c.toNat

end CharRanges

end RdfXml
