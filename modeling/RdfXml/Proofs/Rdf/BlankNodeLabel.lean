import RdfXml.Grammar.Machine
import RdfXml.Proofs.Rdf.Statement
import RdfXml.Rdf.Triple

/-
  Labels that begin with a prefix of the options.

  A prefix may hold any letter and any number of Unicode.
  Labels may hold nearly all of them.  With a prefix that
  keeps to those, every blank node that is issued is valid,
  and with any other prefix none of them is.

  Main declarations:
    * `BlankNodeLabel.foreignRanges`
    * `BlankNodeLabel.isPart_of_isPrefixChar`
    * `BlankNodeLabel.isStart_of_isPrefixChar`
    * `Options.isUsableLabel`
    * `Options.isUsableLabel_iff`
    * `Options.withBlankNodePrefix_issued`
-/

------------------------------------------------------------
-- Ranges
------------------------------------------------------------

namespace RdfXml

namespace CharRanges

theorem contains_iff
    {chars : CharRanges}
    {c : Char} :
    chars.contains c = true ↔
      ∃ range ∈ chars.ranges,
        range.1 ≤ c.toNat ∧ c.toNat ≤ range.2 := by
  simp [contains, containsCode]

/- Every range of a class lies in one range of another. -/
def Within (inner outer : CharRanges) : Prop :=
  ∀ range ∈ inner.ranges,
    ∃ other ∈ outer.ranges,
      other.1 ≤ range.1 ∧ range.2 ≤ other.2

/- No range of a class meets one of another. -/
def Apart (first second : CharRanges) : Prop :=
  ∀ range ∈ first.ranges,
    ∀ other ∈ second.ranges,
      range.2 < other.1 ∨ other.2 < range.1

instance (inner outer : CharRanges) :
    Decidable (inner.Within outer) :=
  inferInstanceAs (Decidable (∀ _ ∈ inner.ranges, _))

instance (first second : CharRanges) :
    Decidable (first.Apart second) :=
  inferInstanceAs (Decidable (∀ _ ∈ first.ranges, _))

theorem Within.contains
    {inner outer : CharRanges}
    (hWithin : inner.Within outer)
    {c : Char}
    (hInner : inner.contains c = true) :
    outer.contains c = true := by
  rcases contains_iff.mp hInner with
    ⟨range, hRange, hLow, hHigh⟩
  rcases hWithin range hRange with
    ⟨other, hOther, hStart, hEnd⟩
  exact contains_iff.mpr
    ⟨other, hOther, Nat.le_trans hStart hLow,
      Nat.le_trans hHigh hEnd⟩

theorem Apart.not_contains
    {first second : CharRanges}
    (hApart : first.Apart second)
    {c : Char}
    (hFirst : first.contains c = true) :
    second.contains c = false := by
  rw [Bool.eq_false_iff]
  intro hSecond
  rcases contains_iff.mp hFirst with
    ⟨range, hRange, hLow, hHigh⟩
  rcases contains_iff.mp hSecond with
    ⟨other, hOther, hStart, hEnd⟩
  have hBounds := hApart range hRange other hOther
  omega

theorem contains_append
    (first second : List (Nat × Nat))
    (c : Char) :
    contains ⟨first ++ second⟩ c =
      (contains ⟨first⟩ c || contains ⟨second⟩ c) :=
  List.any_append

end CharRanges

------------------------------------------------------------
-- Letters And Numbers Of Labels
------------------------------------------------------------

namespace BlankNodeLabel

/-
  Letters and numbers that no label may hold: ordinal signs,
  the micro sign, superscripts, and fractions of Latin-1, and
  enclosed letters and numbers.
-/
def foreignRanges : CharRanges where
  ranges :=
    [(0xAA, 0xAA), (0xB2, 0xB3), (0xB5, 0xB5), (0xB9, 0xBA),
     (0xBC, 0xBE), (0x2460, 0x249B), (0x24B6, 0x24FF),
     (0x2776, 0x2793)]

/- A letter or number that no label may hold. -/
def isForeign (c : Char) : Bool :=
  foreignRanges.contains c

/- The only letter that may stand in a label, but not first. -/
def iotaBelow : Char := '\u0345'

theorem isForeign_of_isPart
    {c : Char}
    (hPart : isPart c = true) :
    isForeign c = false := by
  have hStart : startRanges.Apart foreignRanges := by
    decide
  have hLater : continueRanges.Apart foreignRanges := by
    decide
  rcases (Bool.or_eq_true _ _).mp hPart with
    hFirst | hSecond
  · exact hStart.not_contains hFirst
  · exact hLater.not_contains hSecond

/- A letter or number may begin a label, with exceptions. -/
theorem start_of_isAlphanumeric
    {c : Char}
    (hLetter : isAlphanumeric c = true) :
    isStart c = true ∨ isForeign c = true ∨
      c = iotaBelow := by
  have hWithin :
      alphanumericRanges.Within
        ⟨startRanges.ranges ++
          (foreignRanges.ranges ++ [(0x345, 0x345)])⟩ := by
    decide +kernel
  have hIn := hWithin.contains hLetter
  rw [CharRanges.contains_append,
    CharRanges.contains_append, Bool.or_eq_true,
    Bool.or_eq_true] at hIn
  refine hIn.imp_right (Or.imp_right ?_)
  intro hIota
  rcases CharRanges.contains_iff.mp hIota with
    ⟨range, hRange, hLow, hHigh⟩
  rw [List.mem_singleton.mp hRange] at hLow hHigh
  apply Char.toNat_inj.mp
  exact Nat.le_antisymm hHigh hLow

theorem isPart_iotaBelow : isPart iotaBelow = true := by
  decide

/- What a prefix may hold is foreign to labels or in them. -/
theorem isPart_of_isPrefixChar
    {c : Char}
    (hChar : Options.isPrefixChar c = true) :
    isPart c = !isForeign c := by
  have hIn : isPart c = true ∨ isForeign c = true := by
    simp only [Options.isPrefixChar, Bool.or_eq_true,
      beq_iff_eq] at hChar
    rcases hChar with ((hLetter | rfl) | rfl) | rfl
    · rcases start_of_isAlphanumeric hLetter with
        hStart | hForeign | rfl
      · exact .inl (by simp [isPart, hStart])
      · exact .inr hForeign
      · exact .inl isPart_iotaBelow
    · exact .inl (by decide)
    · exact .inl (by decide)
    · exact .inl (by decide)
  rcases hIn with hPart | hForeign
  · rw [hPart, isForeign_of_isPart hPart]
    rfl
  · rw [hForeign, Bool.not_true, Bool.eq_false_iff]
    intro hPart
    rw [isForeign_of_isPart hPart] at hForeign
    cases hForeign

/- Where a prefix may begin, a label may, with exceptions. -/
theorem isStart_of_isPrefixChar
    {c : Char}
    (hChar : Options.isPrefixChar c = true)
    (hHyphen : c ≠ '-')
    (hDot : c ≠ '.') :
    isStart c = (!isForeign c && c != iotaBelow) := by
  cases hStart : isStart c with
  | true =>
      have hPart : isPart c = true := by
        simp [isPart, hStart]
      have hOther : c ≠ iotaBelow := by
        rintro rfl
        revert hStart
        decide
      simp [isForeign_of_isPart hPart, hOther]
  | false =>
      simp only [Options.isPrefixChar, Bool.or_eq_true,
        beq_iff_eq, hHyphen, hDot, or_false] at hChar
      rcases hChar with hLetter | rfl
      · rcases start_of_isAlphanumeric hLetter with
          hFirst | hForeign | rfl
        · rw [hStart] at hFirst
          cases hFirst
        · rw [hForeign]
          rfl
        · simp
      · revert hStart
        decide

end BlankNodeLabel

------------------------------------------------------------
-- Labels With A Number
------------------------------------------------------------

namespace BlankNodeLabel

theorem isStart_of_isDigit
    {c : Char}
    (hDigit : c.isDigit = true) :
    isStart c = true := by
  apply CharRanges.contains_iff.mpr
  refine ⟨(0x30, 0x3A), by decide, ?_⟩
  have hBounds : 48 ≤ c.toNat ∧ c.toNat ≤ 57 := by
    simpa [Char.isDigit, UInt32.le_iff_toNat_le] using hDigit
  omega

/- Only digits stand behind what a number is put behind. -/
theorem isValidChars_append_digits
    {digits : List Char}
    (hSome : digits ≠ [])
    (hDigits : ∀ c ∈ digits, c.isDigit = true)
    (front : List Char) :
    isValidChars (front ++ digits) =
      (front.head?.all isStart && front.all isPart) := by
  have hParts : digits.all isPart = true := by
    rw [List.all_eq_true]
    intro c hMember
    simp [isPart, isStart_of_isDigit (hDigits c hMember)]
  have hLast :
      (front ++ digits).getLast? ≠ some '.' := by
    rw [List.getLast?_append,
      List.getLast?_eq_some_getLast hSome, Option.some_or]
    intro hDot
    have hDigit := hDigits _ (List.getLast_mem hSome)
    rw [Option.some.inj hDot] at hDigit
    exact absurd hDigit (by decide)
  cases front with
  | nil =>
      cases digits with
      | nil => exact absurd rfl hSome
      | cons c rest =>
          have hStart :=
            isStart_of_isDigit (hDigits c List.mem_cons_self)
          rw [List.all_cons, Bool.and_eq_true] at hParts
          simpa [isValidChars, hStart, hParts.2] using hLast
  | cons c rest =>
      rw [List.cons_append] at hLast ⊢
      have hPart :
          (isStart c && rest.all isPart) =
            (isStart c && (isPart c && rest.all isPart)) := by
        unfold isPart
        cases isStart c with
        | true => rfl
        | false => rfl
      simp [isValidChars, hParts, hLast, hPart]

end BlankNodeLabel

namespace Options

/-
  The label part of a prefix that keeps to the letters and
  numbers of labels.
-/
def isUsableLabel (label : List Char) : Bool :=
  !label.any BlankNodeLabel.isForeign &&
    label.head? != some BlankNodeLabel.iotaBelow

/-
  A number behind the label part of a prefix makes a label
  exactly when that part keeps to the characters of labels.
-/
theorem isUsableLabel_iff
    {front digits : List Char}
    (hFront : isLabelStart front = true)
    (hSome : digits ≠ [])
    (hDigits : ∀ c ∈ digits, c.isDigit = true) :
    BlankNodeLabel.isValidChars (front ++ digits) =
      isUsableLabel front := by
  rw [BlankNodeLabel.isValidChars_append_digits hSome
    hDigits]
  simp only [isLabelStart, Bool.and_eq_true,
    List.all_eq_true, bne_iff_ne] at hFront
  rcases hFront with ⟨⟨hChars, hHyphen⟩, hDot⟩
  have hParts :
      front.all BlankNodeLabel.isPart =
        !front.any BlankNodeLabel.isForeign := by
    rw [List.not_any_eq_all_not, Bool.eq_iff_iff,
      List.all_eq_true, List.all_eq_true]
    refine forall₂_congr fun c hMember => ?_
    rw [BlankNodeLabel.isPart_of_isPrefixChar
      (hChars c hMember)]
  unfold isUsableLabel
  rw [hParts]
  cases front with
  | nil => rfl
  | cons c rest =>
      have hStart :=
        BlankNodeLabel.isStart_of_isPrefixChar
          (hChars c List.mem_cons_self)
          (by simpa using hHyphen) (by simpa using hDot)
      simp only [List.head?_cons, Option.all_some, hStart,
        List.any_cons]
      cases BlankNodeLabel.isForeign c with
      | true => rfl
      | false =>
          rw [Bool.and_comm]
          rfl

theorem isValid_numbered
    {label : String}
    (hStart : isLabelStart label.toList = true)
    (number : Nat) :
    BlankNodeLabel.isValid (label ++ toString number) =
      isUsableLabel label.toList := by
  have hDigits : Nat.toDigits 10 number ≠ [] :=
    Nat.toDigits_ne_nil
  rw [← isUsableLabel_iff hStart hDigits
    (fun c => Nat.isDigit_of_mem_toDigits (by decide)
      (by decide))]
  simp [BlankNodeLabel.isValid]

end Options

------------------------------------------------------------
-- Issued Blank Nodes
------------------------------------------------------------

theorem blankNodeLabel?_reference (label : String) :
    blankNodeLabel? (blankNodeReference label) =
      some label := by
  simp [blankNodeLabel?, blankNodeReference]

/- A resource is checked alike in all positions. -/
theorem Object.toTerm_ofResource (reference : String) :
    (ofResource reference).toTerm =
      (validResource reference).map .resource := by
  unfold ofResource validResource
  cases hLabel : blankNodeLabel? reference with
  | some label => simp [toTerm, hLabel]
  | none =>
      simp only [Option.isSome_none, Bool.false_eq_true,
        if_false, toTerm]
      cases validIri reference with
      | error e => rfl
      | ok iri => rfl

/- A statement with a refused resource is no triple. -/
theorem Statement.toTriple_refused
    (statement : Statement)
    {reference : String}
    {fault : TermError}
    (hRefused : validResource reference = .error fault)
    (hPlace :
      statement.subject = reference ∨
        statement.object = .ofResource reference) :
    ∃ e, statement.toTriple = .error e := by
  unfold toTriple
  rcases hPlace with hSubject | hObject
  · rw [hSubject, hRefused]
    cases statement.object.toTerm with
    | error e => exact ⟨e, rfl⟩
    | ok term => exact ⟨_, rfl⟩
  · rw [hObject, Object.toTerm_ofResource, hRefused]
    exact ⟨_, rfl⟩

namespace Options

/- A prefix is a reference whose label part may be checked. -/
theorem withBlankNodePrefix_ok
    {options later : Options}
    {text : String}
    (hSet :
      options.withBlankNodePrefix text = .ok later) :
    later.blankNodePrefix = text ∧
      ∃ label,
        text = blankNodeReference label ∧
          isLabelStart label.toList = true := by
  unfold withBlankNodePrefix at hSet
  split at hSet
  · next hPrefix =>
      cases hSet
      unfold isBlankNodePrefix at hPrefix
      split at hPrefix
      · next label hLabel =>
          exact ⟨rfl, label, eq_of_blankNodeLabel? hLabel,
            hPrefix⟩
      · cases hPrefix
  · cases hSet

end Options

end RdfXml
