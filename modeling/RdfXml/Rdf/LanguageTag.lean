import RdfXml.Text.Ascii
import RdfXml.Text.Separated
import RdfXml.Text.Utf8

/-
  Language tags that are well-formed by BCP 47.

  Key definitions include:
    * `LanguageTag.Fault`
    * `LanguageTag.Place`
    * `LanguageTag.step`
    * `LanguageTag.check`
-/

------------------------------------------------------------
-- Faults
------------------------------------------------------------

namespace RdfXml

namespace LanguageTag

/- Why a text is not a language tag. -/
inductive Fault where
| emptyExtension
| emptyPrivateUse
| invalidSubtag
| invalidLanguage
| subtagTooLong
| emptySubtag
| tooManyExtlangs
deriving DecidableEq, Repr

/- The text of a fault. -/
def Fault.message : Fault → String
| .emptyExtension =>
    "If an extension subtag is present, it must not be empty"
| .emptyPrivateUse =>
    "If the `x` subtag is present, it must not be empty"
| .invalidSubtag =>
    "A subtag fails to parse, it does not match any other " ++
      "subtags"
| .invalidLanguage =>
    "The given language subtag is invalid"
| .subtagTooLong =>
    "A subtag may be eight characters in length at maximum"
| .emptySubtag =>
    "A subtag should not be empty"
| .tooManyExtlangs =>
    "At maximum three extlangs are allowed"

------------------------------------------------------------
-- Subtags
------------------------------------------------------------

/-
  Tags registered before subtags had a grammar, in small
  letters.
-/
def grandfathered : List String :=
  ["art-lojban", "cel-gaulish", "en-gb-oed", "i-ami",
   "i-bnn", "i-default", "i-enochian", "i-hak",
   "i-klingon", "i-lux", "i-mingo", "i-navajo", "i-pwn",
   "i-tao", "i-tay", "i-tsu", "no-bok", "no-nyn",
   "sgn-be-fr", "sgn-be-nl", "sgn-ch-de", "zh-guoyu",
   "zh-hakka", "zh-min", "zh-min-nan", "zh-xiang"]

/-
  What the subtags so far allow next.  An extension or a
  private use part must have a subtag after its singleton.
-/
inductive Place where
| start
| afterLanguage (extlangs : Nat)
| afterExtlang
| afterScript
| afterRegion
| inExtension (expected : Bool)
| inPrivateUse (expected : Bool)
deriving DecidableEq, Repr

/- Letters alone. -/
def isLetters (subtag : List Char) : Bool :=
  subtag.all isAsciiLetter

/- Digits alone. -/
def isDigits (subtag : List Char) : Bool :=
  subtag.all isAsciiDigit

/- Letters and digits alone. -/
def isAlphanumerics (subtag : List Char) : Bool :=
  subtag.all isAsciiAlphanumeric

/- Two letters or three digits. -/
def isRegion (subtag : List Char) : Bool :=
  (subtag.length == 2 && isLetters subtag) ||
    (subtag.length == 3 && isDigits subtag)

/- Five characters or more, or four beginning with a digit. -/
def isVariant (subtag : List Char) : Bool :=
  isAlphanumerics subtag &&
    ((5 ≤ subtag.length && isLetters (subtag.take 1)) ||
      (4 ≤ subtag.length && isDigits (subtag.take 1)))

/- Four letters. -/
def isScript (subtag : List Char) : Bool :=
  subtag.length == 4 && isLetters subtag

/- Three letters. -/
def isExtlang (subtag : List Char) : Bool :=
  subtag.length == 3 && isLetters subtag

/- A place where the extension has no subtag yet. -/
def Place.awaitsExtension : Place → Bool
| .inExtension expected => expected
| _ => false

/- A script may follow. -/
def Place.allowsScript : Place → Bool
| .afterLanguage _ => true
| .afterExtlang => true
| _ => false

/- A region may follow. -/
def Place.allowsRegion : Place → Bool
| .afterScript => true
| place => place.allowsScript

/- A variant may follow. -/
def Place.allowsVariant : Place → Bool
| .afterRegion => true
| place => place.allowsRegion

/- The place after a subtag of the main part of a tag. -/
def mainStep
    (place : Place)
    (subtag : List Char) : Except Fault Place :=
  match place with
  | .afterLanguage extlangs =>
      if isExtlang subtag then
        if extlangs < 3 then .ok (.afterLanguage (extlangs + 1))
        else .error .tooManyExtlangs
      else if isScript subtag then .ok .afterScript
      else if isRegion subtag then .ok .afterRegion
      else if isVariant subtag then .ok .afterRegion
      else .error .invalidSubtag
  | place =>
      if place.allowsScript && isScript subtag then
        .ok .afterScript
      else if place.allowsRegion && isRegion subtag then
        .ok .afterRegion
      else if place.allowsVariant && isVariant subtag then
        .ok .afterRegion
      else
        .error .invalidSubtag

/- The place after the primary language. -/
def languageStep
    (subtag : List Char) : Except Fault Place :=
  if Utf8.byteLength subtag < 2 || !isLetters subtag then
    .error .invalidLanguage
  else if subtag.length < 4 then
    .ok (.afterLanguage 0)
  else
    .ok .afterExtlang

/- The place after a singleton. -/
def singletonStep
    (place next : Place) : Except Fault Place :=
  if place.awaitsExtension then .error .emptyExtension
  else .ok next

/- The place after a subtag that is neither empty nor long. -/
def subtagStep
    (place : Place)
    (subtag : List Char) : Except Fault Place :=
  match place with
  | .start => languageStep subtag
  | .inPrivateUse _ =>
      if isAlphanumerics subtag then
        .ok (.inPrivateUse false)
      else
        .error .invalidSubtag
  | place =>
      if subtag = ['x'] || subtag = ['X'] then
        singletonStep place (.inPrivateUse true)
      else if subtag.length = 1 && isAlphanumerics subtag then
        singletonStep place (.inExtension true)
      else
        match place with
        | .inExtension _ =>
            if isAlphanumerics subtag then
              .ok (.inExtension false)
            else
              .error .invalidSubtag
        | place => mainStep place subtag

/- The place after one more subtag. -/
def step
    (place : Place)
    (subtag : List Char) : Except Fault Place :=
  if subtag.isEmpty then .error .emptySubtag
  else if 8 < Utf8.byteLength subtag then .error .subtagTooLong
  else subtagStep place subtag

------------------------------------------------------------
-- Tags
------------------------------------------------------------

/- A tag may end at this place. -/
def checkEnd : Place → Except Fault Unit
| .inExtension true => .error .emptyExtension
| .inPrivateUse true => .error .emptyPrivateUse
| _ => .ok ()

/- The faults of a tag from a place on. -/
def checkFrom
    (place : Place)
    (subtags : List Char) : Except Fault Unit :=
  match (splitOn '-' subtags).foldlM step place with
  | .error fault => .error fault
  | .ok place => checkEnd place

/- The subtags of a tag that is for private use alone. -/
def checkPrivate (subtags : List Char) : Except Fault Unit :=
  if subtags.isEmpty then .error .emptyPrivateUse
  else checkFrom (.inPrivateUse true) subtags

/- A text is a well-formed language tag. -/
def check (tag : String) : Except Fault Unit :=
  if grandfathered.contains (lowerString tag) then
    .ok ()
  else
    match tag.toList with
    | 'x' :: '-' :: subtags => checkPrivate subtags
    | 'X' :: '-' :: subtags => checkPrivate subtags
    | chars => checkFrom .start chars

end LanguageTag

end RdfXml
