import RdfXml.Proofs.Text.Encoding
import RdfXml.Proofs.Xml.CharacterData

/-
  Text that is held back at the end of a chunk.

  A tokenizer takes the longest first part of a text that can
  be decoded on its own.  What it holds back begins with a
  character or with a reference that has not ended, so that no
  part of it could have been taken.  Nothing is lost by the
  cut: both parts can be decoded exactly when the whole text
  can, and to the same characters.

  Main declarations:
    * `Reference.IsOpen`
    * `HeldText`
    * `heldText_drop`
    * `HeldText.not_decodeText`
    * `decodeText_cut`
-/

------------------------------------------------------------
-- References Without An End
------------------------------------------------------------

namespace RdfXml

namespace Reference

/- Nothing, or a reference up to where its end is missing. -/
def IsOpen (raw : List UInt8) : Prop :=
  raw = [] ∨
    ∃ body,
      raw = byte '&' :: body ∧ byte '&' ∉ body ∧
        byte ';' ∉ body

/- A reference stays open where no semicolon follows. -/
theorem follow_open
    {body text out : List Char}
    {last? : Option (List Char)}
    (hOpen : ';' ∉ text)
    (hFollow : follow (some body) text = some (last?, out)) :
    last? ≠ none := by
  induction text generalizing body with
  | nil =>
      cases hFollow
      simp
  | cons c text ih =>
      have hHead : c ≠ ';' := by
        rintro rfl
        exact hOpen List.mem_cons_self
      have hTail : ';' ∉ text := by
        intro hMember
        exact hOpen (List.mem_cons_of_mem c hMember)
      by_cases hAmp : c = '&'
      · simp [follow, hAmp] at hFollow
      · simp only [follow, hAmp, hHead, if_false] at hFollow
        exact ih hTail hFollow

/- A last ampersand without a semicolon cannot be resolved. -/
theorem follow_ampersand_ne
    {open? : Option (List Char)}
    {before body : List Char}
    (hOpen : ';' ∉ body)
    (out : List Char) :
    follow open? (before ++ '&' :: body) ≠
      some (none, out) := by
  intro hFollow
  rcases follow_append_some hFollow with
    ⟨middle?, _, after, _, hRest, _⟩
  have hMiddle := follow_before_ampersand hRest
  subst hMiddle
  simp only [follow, if_true] at hRest
  exact follow_open hOpen hRest rfl

end Reference

------------------------------------------------------------
-- The Part That Is Held Back
------------------------------------------------------------

/-
  An unfinished character or nothing, and behind it an open
  reference or nothing.
-/
def HeldText (raw : List UInt8) : Prop :=
  ∃ character reference,
    raw = character ++ reference ∧
      Utf8.IsUnfinished character ∧
        Reference.IsOpen reference

/- The reference that a text is cut in front of. -/
theorem withoutOpenReference_split (raw : List UInt8) :
    ∃ reference,
      raw = withoutOpenReference raw ++ reference ∧
        Reference.IsOpen reference := by
  rcases withoutOpenReference_cases raw with
    ⟨body, hRaw, hSemi, hAmp⟩ | ⟨hSame, _⟩
  · exact ⟨_, hRaw, Or.inr ⟨body, rfl, hAmp, hSemi⟩⟩
  · exact ⟨[], by rw [hSame, List.append_nil], Or.inl rfl⟩

/- The character that a text is cut in front of. -/
theorem isUnfinished_drop (raw : List UInt8) :
    Utf8.IsUnfinished
      (raw.drop (withoutOpenCharacter raw)) := by
  unfold withoutOpenCharacter
  split
  · next index hDecode =>
      exact Utf8.isUnfinished_of_incomplete hDecode
  · rw [List.drop_length]
    exact ⟨'a', bytes "a", by decide, rfl⟩

/-
  Bytes that are cut in front of an unfinished character can
  be decoded, or none are cut off and they are no text.
-/
theorem decode_take_cases (raw : List UInt8) :
    (∃ chars,
      Utf8.decode (raw.take (withoutOpenCharacter raw)) =
        .ok chars) ∨
      withoutOpenCharacter raw = raw.length ∧
        ∃ index length,
          Utf8.decode raw = .error ⟨index, some length⟩ := by
  unfold withoutOpenCharacter
  split
  · next index hDecode =>
      exact Or.inl
        (Utf8.decode_take_of_incomplete hDecode).2
  · next hOther =>
      cases hDecode : Utf8.decode raw with
      | ok chars =>
          rw [List.take_length]
          exact Or.inl ⟨chars, hDecode⟩
      | error fault =>
          rcases fault with ⟨index, length?⟩
          cases length? with
          | none => exact absurd hDecode (hOther index)
          | some length =>
              exact Or.inr ⟨rfl, index, length, rfl⟩

/- What is held back of any text. -/
theorem heldText_drop (raw : List UInt8) :
    HeldText (raw.drop (completeTextLength raw)) := by
  rcases withoutOpenReference_split raw with
    ⟨reference, hRaw, hOpen⟩
  refine ⟨(withoutOpenReference raw).drop
    (completeTextLength raw), reference, ?_,
    isUnfinished_drop _, hOpen⟩
  have hDrop :
      (withoutOpenReference raw ++ reference).drop
          (completeTextLength raw) =
        (withoutOpenReference raw).drop
          (completeTextLength raw) ++ reference :=
    List.drop_append_of_le_length
      (withoutOpenCharacter_le (withoutOpenReference raw))
  rw [← hRaw] at hDrop
  exact hDrop

namespace HeldText

section Parts

variable
  {part rest : List UInt8}
  (hHeld : HeldText (part ++ rest))
  (hSome : part ≠ [])

include hHeld hSome

/-
  The only text at the start of what is held back is an
  ampersand with no semicolon behind it.
-/
theorem decode_part
    {chars : List Char}
    (hDecode : Utf8.decode part = .ok chars) :
    ∃ body, chars = '&' :: body ∧ ';' ∉ body := by
  rcases hHeld with
    ⟨character, reference, hParts, hCharacter, hReference⟩
  rcases List.append_eq_append_iff.mp hParts with
    ⟨more, rfl, _⟩ | ⟨more, rfl, hRest⟩
  · exact absurd (hCharacter.front.eq_nil_of_decode hDecode)
      hSome
  · cases more with
    | nil =>
        rw [List.append_nil] at hDecode hSome
        exact absurd (hCharacter.eq_nil_of_decode hDecode)
          hSome
    | cons b more =>
        rcases hReference with
          rfl | ⟨body, rfl, _, hSemi⟩
        · cases hRest
        · cases hRest
          rcases Utf8.decode_ascii_split (by decide) hDecode
            with ⟨before, after, hBefore, hAfter, rfl⟩
          have hNone :=
            hCharacter.eq_nil_of_decode hBefore
          rw [hNone, Utf8.decode_nil] at hBefore
          cases hBefore
          refine ⟨after, rfl, ?_⟩
          intro hMember
          exact hSemi
            (List.mem_append_left rest
              (Utf8.ascii_mem_of_decode hAfter hMember
                (by decide)))

/-
  No bytes could have been taken of what is held back, in
  front of which there is text.
-/
theorem not_decodeText
    {front : List UInt8}
    {chars : List Char}
    (hFront : Utf8.decode front = .ok chars)
    (text : String) :
    decodeText (front ++ part) ≠ .ok text := by
  intro hText
  rcases decodeText_ok_iff.mp hText with
    ⟨all, hAll, hFollow⟩
  rcases Utf8.decode_append_ok hFront hAll with
    ⟨more, hMore, rfl⟩
  rcases hHeld.decode_part hSome hMore with
    ⟨body, rfl, hOpen⟩
  exact Reference.follow_ampersand_ne hOpen _ hFollow

end Parts

end HeldText

------------------------------------------------------------
-- The Cut
------------------------------------------------------------

/- What is taken lies in front of the reference. -/
theorem take_completeTextLength (raw : List UInt8) :
    raw.take (completeTextLength raw) =
      (withoutOpenReference raw).take
        (completeTextLength raw) := by
  rcases withoutOpenReference_split raw with
    ⟨reference, hRaw, _⟩
  have hTake :
      (withoutOpenReference raw ++ reference).take
          (completeTextLength raw) =
        (withoutOpenReference raw).take
          (completeTextLength raw) :=
    List.take_append_of_le_length
      (withoutOpenCharacter_le (withoutOpenReference raw))
  rw [← hRaw] at hTake
  exact hTake

/- No longer first part of a text can be decoded. -/
theorem decodeText_take_longer
    {raw : List UInt8}
    {count : Nat}
    (hLonger : completeTextLength raw < count)
    (hInside : count ≤ raw.length)
    (text : String) :
    decodeText (raw.take count) ≠ .ok text := by
  have hFront := take_completeTextLength raw
  have hSplit :
      raw.take count =
        raw.take (completeTextLength raw) ++
          (raw.drop (completeTextLength raw)).take
            (count - completeTextLength raw) := by
    rw [← List.take_add]
    congr 1
    omega
  have hSome :
      (raw.drop (completeTextLength raw)).take
        (count - completeTextLength raw) ≠ [] := by
    rw [← List.length_pos_iff, List.length_take,
      List.length_drop]
    omega
  rw [hSplit]
  rcases decode_take_cases (withoutOpenReference raw) with
    ⟨chars, hChars⟩ | ⟨hAll, index, length, hInvalid⟩
  · have hHeld := heldText_drop raw
    rw [← List.take_append_drop
      (count - completeTextLength raw)
      (raw.drop (completeTextLength raw))] at hHeld
    apply hHeld.not_decodeText hSome
    rw [hFront]
    exact hChars
  · -- bytes that are no text do not become text
    intro hText
    rcases decodeText_ok_iff.mp hText with
      ⟨chars, hChars, _⟩
    rw [hFront, completeTextLength,
      List.take_of_length_le (Nat.le_of_eq hAll.symm),
      Utf8.decode_append_of_invalid hInvalid] at hChars
    cases hChars

/-
  However a text goes on, it can be decoded exactly when what
  is taken of it and what is held back, with all that follows,
  can both be decoded; its characters are those of the two
  parts.  No longer first part of it could have been taken.
-/
theorem decodeText_cut (raw more : List UInt8) :
    (∀ text,
      decodeText (raw ++ more) = .ok text ↔
        ∃ before after,
          decodeText (raw.take (completeTextLength raw)) =
              .ok before ∧
            decodeText
                (raw.drop (completeTextLength raw) ++ more) =
              .ok after ∧
            text = before ++ after) ∧
      ∀ count,
        completeTextLength raw < count →
        count ≤ raw.length →
          ∀ text, decodeText (raw.take count) ≠ .ok text := by
  have hParts :
      raw ++ more =
        raw.take (completeTextLength raw) ++
          (raw.drop (completeTextLength raw) ++ more) := by
    rw [← List.append_assoc, List.take_append_drop]
  refine ⟨?_, fun count => decodeText_take_longer⟩
  intro text
  constructor
  · intro hText
    rcases decodeText_complete hText with ⟨before, hBefore⟩
    rw [hParts] at hText
    rcases (decodeText_append hBefore _ _).mp hText with
      ⟨after, hAfter, hSame⟩
    exact ⟨before, after, hBefore, hAfter, hSame⟩
  · rintro ⟨before, after, hBefore, hAfter, hSame⟩
    rw [hParts]
    exact (decodeText_append hBefore _ _).mpr
      ⟨after, hAfter, hSame⟩

end RdfXml
