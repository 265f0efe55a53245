import RdfXml.Text.Ascii
import RdfXml.Text.CharRanges
import RdfXml.Text.Separated

/-
  Tables of code points, written as words.

  A word such as `AD` stands for one code point, and `300-314`
  for a run of them, in hexadecimal digits.  In a table of
  replacements an equals sign follows.  Behind it stands
  either one code, from which the replacements of the run
  count up, or the replacement of each code in turn, with dots
  inside of it and commas between them.

  Key definitions include:
    * `hexNumber`
    * `CharRanges.ofLines`
    * `CodeRun`
    * `CodeTable`
    * `CodeTable.find?`
    * `CodeTable.code?`
    * `CodeTable.ofLines`
-/

------------------------------------------------------------
-- Words
------------------------------------------------------------

namespace RdfXml

/- The number that hexadecimal digits write. -/
def hexNumber (digits : List Char) : Nat :=
  digits.foldl
    (fun value c => value * 16 + (hexDigit? c).getD 0) 0

/- The words of some lines. -/
def wordsOf (lines : List String) : List (List Char) :=
  lines.flatMap (fun line => splitOn ' ' line.toList)

/- The first and the last code point of a run. -/
def runEnds (word : List Char) : Nat × Nat :=
  match splitOn '-' word with
  | [first, last] => (hexNumber first, hexNumber last)
  | _ => (hexNumber word, hexNumber word)

/- The ranges that some lines list. -/
def CharRanges.ofLines (lines : List String) : CharRanges :=
  ⟨(wordsOf lines).map runEnds⟩

------------------------------------------------------------
-- Replacements
------------------------------------------------------------

/- The replacements of a run of code points. -/
structure CodeRun where
  first : Nat
  last : Nat
  replacements : List (List Nat)
deriving DecidableEq, Repr

namespace CodeRun

/- The replacement of one code point of a run. -/
def replacement?
    (run : CodeRun)
    (code : Nat) : Option (List Nat) :=
  match run.replacements with
  | [[target]] => some [target + (code - run.first)]
  | listed => listed[code - run.first]?

/- The run that a word stands for. -/
def ofWord (word : List Char) : CodeRun :=
  match splitOn '=' word with
  | [run, replacements] =>
      let ends := runEnds run
      let listed :=
        (splitOn ',' replacements).map
          (fun item => (splitOn '.' item).map hexNumber)
      ⟨ends.1, max ends.2 (ends.1 + (listed.length - 1)),
        listed⟩
  | _ => ⟨hexNumber word, hexNumber word, []⟩

end CodeRun

/- A table of replacements. -/
structure CodeTable where
  runs : List CodeRun
deriving DecidableEq, Repr

namespace CodeTable

/- The replacement of a code point. -/
def find?
    (table : CodeTable)
    (code : Nat) : Option (List Nat) :=
  (table.runs.find?
    (fun run => run.first ≤ code && code ≤ run.last)).bind
      (fun run => run.replacement? code)

/- The first code point with a listed replacement. -/
def code?
    (table : CodeTable)
    (replacement : List Nat) : Option Nat :=
  table.runs.findSome?
    (fun run =>
      (run.replacements.findIdx? (· == replacement)).map
        (fun index => run.first + index))

/- The table that some lines list. -/
def ofLines (lines : List String) : CodeTable :=
  ⟨(wordsOf lines).map CodeRun.ofWord⟩

end CodeTable

end RdfXml
