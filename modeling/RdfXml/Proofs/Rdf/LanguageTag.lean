import RdfXml.Proofs.Text.Separated
import RdfXml.Rdf.LanguageTag

/-
  The characters of language tags.

  Every step of a check takes a subtag of letters and digits,
  so that a tag which passes consists of those and of hyphens.

  Main declarations:
    * `LanguageTag.isTagChar`
    * `LanguageTag.step_alphanumeric`
    * `LanguageTag.isTagChar_of_check`
-/

------------------------------------------------------------
-- Subtags
------------------------------------------------------------

namespace RdfXml

namespace LanguageTag

/- Characters of a language tag. -/
def isTagChar (c : Char) : Bool :=
  isAsciiAlphanumeric c || c == '-'

theorem isAlphanumerics_of_all
    {good : Char → Bool}
    {subtag : List Char}
    (hGood :
      ∀ c, good c = true → isAsciiAlphanumeric c = true)
    (hAll : subtag.all good = true) :
    isAlphanumerics subtag = true :=
  List.all_eq_true.mpr fun c hMember =>
    hGood c (List.all_eq_true.mp hAll c hMember)

theorem isAlphanumerics_of_isLetters
    {subtag : List Char}
    (hLetters : isLetters subtag = true) :
    isAlphanumerics subtag = true :=
  isAlphanumerics_of_all
    (fun c hLetter => by simp [isAsciiAlphanumeric, hLetter])
    hLetters

theorem isAlphanumerics_of_isDigits
    {subtag : List Char}
    (hDigits : isDigits subtag = true) :
    isAlphanumerics subtag = true :=
  isAlphanumerics_of_all
    (fun c hDigit => by simp [isAsciiAlphanumeric, hDigit])
    hDigits

theorem isAlphanumerics_of_isExtlang
    {subtag : List Char}
    (hExtlang : isExtlang subtag = true) :
    isAlphanumerics subtag = true :=
  isAlphanumerics_of_isLetters
    ((Bool.and_eq_true _ _).mp hExtlang).2

theorem isAlphanumerics_of_isScript
    {subtag : List Char}
    (hScript : isScript subtag = true) :
    isAlphanumerics subtag = true :=
  isAlphanumerics_of_isLetters
    ((Bool.and_eq_true _ _).mp hScript).2

theorem isAlphanumerics_of_isRegion
    {subtag : List Char}
    (hRegion : isRegion subtag = true) :
    isAlphanumerics subtag = true := by
  simp only [isRegion, Bool.or_eq_true, Bool.and_eq_true]
    at hRegion
  rcases hRegion with ⟨_, hLetters⟩ | ⟨_, hDigits⟩
  · exact isAlphanumerics_of_isLetters hLetters
  · exact isAlphanumerics_of_isDigits hDigits

theorem isAlphanumerics_of_isVariant
    {subtag : List Char}
    (hVariant : isVariant subtag = true) :
    isAlphanumerics subtag = true :=
  ((Bool.and_eq_true _ _).mp hVariant).1

------------------------------------------------------------
-- Steps
------------------------------------------------------------

theorem mainStep_alphanumeric
    {place next : Place}
    {subtag : List Char}
    (hStep : mainStep place subtag = .ok next) :
    isAlphanumerics subtag = true := by
  unfold mainStep at hStep
  split at hStep
  · split at hStep
    · next hExtlang =>
        exact isAlphanumerics_of_isExtlang hExtlang
    · split at hStep
      · next hScript =>
          exact isAlphanumerics_of_isScript hScript
      · split at hStep
        · next hRegion =>
            exact isAlphanumerics_of_isRegion hRegion
        · split at hStep
          · next hVariant =>
              exact isAlphanumerics_of_isVariant hVariant
          · cases hStep
  · simp only [Bool.and_eq_true] at hStep
    split at hStep
    · next hScript =>
        exact isAlphanumerics_of_isScript hScript.2
    · split at hStep
      · next hRegion =>
          exact isAlphanumerics_of_isRegion hRegion.2
      · split at hStep
        · next hVariant =>
            exact isAlphanumerics_of_isVariant hVariant.2
        · cases hStep

theorem languageStep_alphanumeric
    {next : Place}
    {subtag : List Char}
    (hStep : languageStep subtag = .ok next) :
    isAlphanumerics subtag = true := by
  unfold languageStep at hStep
  split at hStep
  · cases hStep
  · next hLanguage =>
      simp only [Bool.or_eq_true, not_or, Bool.not_eq_true',
        Bool.not_eq_false] at hLanguage
      exact isAlphanumerics_of_isLetters hLanguage.2

theorem subtagStep_alphanumeric
    {place next : Place}
    {subtag : List Char}
    (hStep : subtagStep place subtag = .ok next) :
    isAlphanumerics subtag = true := by
  unfold subtagStep at hStep
  split at hStep
  · exact languageStep_alphanumeric hStep
  · split at hStep
    · next hHere => exact hHere
    · cases hStep
  · split at hStep
    · next hSingleton =>
        simp only [Bool.or_eq_true, decide_eq_true_eq]
          at hSingleton
        rcases hSingleton with rfl | rfl
        · decide
        · decide
    · split at hStep
      · next hSingleton =>
          exact ((Bool.and_eq_true _ _).mp hSingleton).2
      · split at hStep
        · split at hStep
          · next hHere => exact hHere
          · cases hStep
        · exact mainStep_alphanumeric hStep

/- A subtag that is taken has letters and digits alone. -/
theorem step_alphanumeric
    {place next : Place}
    {subtag : List Char}
    (hStep : step place subtag = .ok next) :
    isAlphanumerics subtag = true := by
  unfold step at hStep
  split at hStep
  · cases hStep
  · split at hStep
    · cases hStep
    · exact subtagStep_alphanumeric hStep

/- So do all subtags that are taken one after another. -/
theorem foldlM_step_alphanumeric
    {place last : Place}
    {subtags : List (List Char)}
    (hSteps : subtags.foldlM step place = .ok last) :
    ∀ subtag ∈ subtags, isAlphanumerics subtag = true := by
  induction subtags generalizing place with
  | nil => simp
  | cons subtag rest ih =>
      rw [List.foldlM_cons] at hSteps
      cases hStep : step place subtag with
      | error fault =>
          rw [hStep] at hSteps
          cases hSteps
      | ok next =>
          rw [hStep] at hSteps
          rw [List.forall_mem_cons]
          exact ⟨step_alphanumeric hStep, ih hSteps⟩

------------------------------------------------------------
-- Tags
------------------------------------------------------------

theorem isTagChar_of_checkFrom
    {place : Place}
    {subtags : List Char}
    (hCheck : checkFrom place subtags = .ok ()) :
    ∀ c ∈ subtags, isTagChar c = true := by
  unfold checkFrom at hCheck
  split at hCheck
  · cases hCheck
  · next hSteps =>
      intro c hMember
      rcases mem_splitOn '-' hMember with
        rfl | ⟨subtag, hSubtag, hInside⟩
      · decide
      · have hLetters :=
          foldlM_step_alphanumeric hSteps subtag hSubtag
        simp [isTagChar,
          List.all_eq_true.mp hLetters c hInside]

theorem isTagChar_of_checkPrivate
    {subtags : List Char}
    (hCheck : checkPrivate subtags = .ok ()) :
    ∀ c ∈ subtags, isTagChar c = true := by
  unfold checkPrivate at hCheck
  split at hCheck
  · cases hCheck
  · exact isTagChar_of_checkFrom hCheck

/- A letter is a letter in small and in capital. -/
theorem isTagChar_of_lowerChar
    {c : Char}
    (hLower : isTagChar (lowerChar c) = true) :
    isTagChar c = true := by
  unfold lowerChar at hLower
  split at hLower
  · next hCapital =>
      simp only [Bool.and_eq_true, decide_eq_true_eq]
        at hCapital
      simp [isTagChar, isAsciiAlphanumeric, isAsciiLetter,
        hCapital]
  · exact hLower

theorem isTagChar_of_lowerString
    {text : String}
    (hLower :
      ∀ c ∈ (lowerString text).toList,
        isTagChar c = true) :
    ∀ c ∈ text.toList, isTagChar c = true := by
  intro c hMember
  apply isTagChar_of_lowerChar
  apply hLower
  simpa [lowerString] using ⟨c, hMember, rfl⟩

/- A tag that passes has no characters but those of tags. -/
theorem isTagChar_of_check
    {tag : String}
    (hCheck : check tag = .ok ()) :
    ∀ c ∈ tag.toList, isTagChar c = true := by
  unfold check at hCheck
  split at hCheck
  · next hKnown =>
      have hAll :
          grandfathered.all (·.toList.all isTagChar) =
            true := by
        decide +kernel
      exact isTagChar_of_lowerString
        (List.all_eq_true.mp
          (List.all_eq_true.mp hAll _
            (List.contains_iff_mem.mp hKnown)))
  · split at hCheck
    · next hChars =>
        rw [hChars]
        simp only [List.forall_mem_cons]
        exact
          ⟨by decide, by decide,
            isTagChar_of_checkPrivate hCheck⟩
    · next hChars =>
        rw [hChars]
        simp only [List.forall_mem_cons]
        exact
          ⟨by decide, by decide,
            isTagChar_of_checkPrivate hCheck⟩
    · exact isTagChar_of_checkFrom hCheck

end LanguageTag

end RdfXml
