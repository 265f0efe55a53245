import RdfXml.Text.Mark

/-
  Writing directions in a domain.

  In a domain with letters that are written from right to left
  each label must have one direction.

  Key definitions include:
    * `Domain.Direction`
    * `Domain.direction`
    * `Domain.hasOneDirection`
    * `Domain.areReadable`
-/

------------------------------------------------------------
-- Directions Of Characters
------------------------------------------------------------

namespace RdfXml

namespace Domain

/- How a character behaves in a line of both directions. -/
inductive Direction where
| leftToRight
| rightToLeft
| europeanNumber
| arabicNumber
| nonspacing
| neutral
| separator
deriving DecidableEq, Repr

/- Letters that are written from right to left. -/
def rightToLeftLetters : CharRanges :=
  .ofLines
    ["5BE 5C0 5C3 5C6 5D0-5F4 608 60B 60D 61B-64A 66D-66F",
     "671-6D5 6E5-6E6 6EE-6EF 6FA-710 712-72F 74D-7A5",
     "7B1-7EA 7F4-7F5 7FA 7FE-815 81A 824 828 830-858",
     "85E-88F 8A0-8C9 FBB2-FBC2 FE73 10800-1091B 10920-10A00",
     "10A10-10A35 10A40-10AE4 10AEB-10B35 10B40-10D23",
     "10D4A-10D4F 10D6E-10D8F 10E80-10EA9 10EAD-10ED8",
     "10F00-10F45 10F51-10F81 10F86-10FF6 1E800-1E8CF",
     "1E922-1E943 1E94B-1ED3D"]

/- Digits and signs of Arabic numbers. -/
def arabicNumbers : CharRanges :=
  .ofLines
    ["660-669 66B-66C 10D30-10D49 10E60-10E7E"]

/- Digits of European numbers. -/
def europeanNumbers : CharRanges :=
  .ofLines
    ["30-39 6F0-6F9 102E1-102FB"]

/- Characters without a direction. -/
def neutrals : CharRanges :=
  .ofLines
    ["0-8 E-1B 21-2F 3A-60 7B-D7 F7 2B9-2BA 2C2-2CF 2D2-2ED",
     "2EF-2FF 375 3F6 58A-58F 606-607 609-60A 60C 60E-60F",
     "66A 6DE 6E9 7F6-7F9 9F2-9F3 9FB AF1 BF3-BFA C78-C7E",
     "E3F F3A-F3D 1390-1399 1400 169B-169C 17DB 17F0-180A",
     "1940-1945 19DE-19FF 200C-20C1 2104-214D 218A-2335",
     "237B-2394 2396-26AB 26AD-27FF 2900-2BFF 2CE5-2CEA",
     "2CF9-2CFF 2E00-3004 3008-3020 3030 3037 303D-303F 30A0",
     "30FB 31C0-31E5 4DC0-4DFF A490-A4C6 A60D-A60F A673",
     "A67E-A67F A700-A721 A788 A828-A82B A838-A839 A874-A877",
     "AB6A-AB6B FBC3-FDFF FE45-FE46 10101 10140-1018C",
     "10190-101A0 1091F 10B39-10B3F 11052-11065 11660-1166C",
     "11FD5-11FF1 16FE2 1CC00-1CEF0 1D1E9-1D241 1D245",
     "1D300-1D356 1E2FF 1EEF0-1F12F 1F16D-1F16F 1F1AD",
     "1F260-1FBFA"]

/- Nonspacing marks that behave like letters. -/
def letterMarks : CharRanges :=
  .ofLines
    ["CBF CC6 11A07 11A08 11C3F"]

/- Paragraph and segment separators and white space. -/
def separators : CharRanges :=
  .ofLines
    ["9-D 1C-20"]

/- The direction of a code point. -/
def direction (code : Nat) : Direction :=
  if separators.containsCode code then .separator
  else if rightToLeftLetters.containsCode code then
    .rightToLeft
  else if arabicNumbers.containsCode code then .arabicNumber
  else if europeanNumbers.containsCode code then
    .europeanNumber
  else if neutrals.containsCode code then .neutral
  else if nonspacingMarks.containsCode code &&
      !letterMarks.containsCode code then
    .nonspacing
  else
    .leftToRight

------------------------------------------------------------
-- Directions Of Labels
------------------------------------------------------------

/- Characters inside of a label from left to right. -/
def fitsLeftToRight : Direction → Bool
| .rightToLeft => false
| .arabicNumber => false
| .separator => false
| _ => true

/- Characters inside of a label from right to left. -/
def fitsRightToLeft : Direction → Bool
| .leftToRight => false
| .separator => false
| _ => true

/- Characters at the end of a label from left to right. -/
def endsLeftToRight : Direction → Bool
| .leftToRight => true
| .europeanNumber => true
| _ => false

/- Characters at the end of a label from right to left. -/
def endsRightToLeft : Direction → Bool
| .rightToLeft => true
| .europeanNumber => true
| .arabicNumber => true
| _ => false

/- The last of some directions, if any, is of a class. -/
def endsWith
    (allowed : Direction → Bool)
    (directions : List Direction) : Bool :=
  match directions.getLast? with
  | some last => allowed last
  | none => true

/- Directions without the nonspacing marks at the end. -/
def dropFinalMarks
    (directions : List Direction) : List Direction :=
  (directions.reverse.dropWhile
    (· == .nonspacing)).reverse

/- Numbers of both kinds. -/
def mixesNumbers (directions : List Direction) : Bool :=
  directions.contains .europeanNumber &&
    directions.contains .arabicNumber

/- The characters of a label have one direction. -/
def hasOneDirection (label : List Nat) : Bool :=
  match label.map direction with
  | [] => true
  | .leftToRight :: rest =>
      let rest := dropFinalMarks rest
      rest.all fitsLeftToRight &&
        endsWith endsLeftToRight rest
  | .rightToLeft :: rest =>
      let rest := dropFinalMarks rest
      rest.all fitsRightToLeft &&
        endsWith endsRightToLeft rest && !mixesNumbers rest
  | _ => false

------------------------------------------------------------
-- Directions Of Domains
------------------------------------------------------------

/- A character that is written from right to left. -/
def isRightToLeft (code : Nat) : Bool :=
  direction code == .rightToLeft ||
    direction code == .arabicNumber

/- The labels of a domain can be read in their order. -/
def areReadable (labels : List (List Nat)) : Bool :=
  !labels.any (fun label => label.any isRightToLeft) ||
    labels.all hasOneDirection

end Domain

end RdfXml
