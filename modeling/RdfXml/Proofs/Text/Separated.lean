import RdfXml.Text.Separated

/-
  Texts around separators.

  A text without a separator can be told apart from what
  follows behind the separator, and a text that is cut at all
  separators loses nothing else.

  Main declarations:
    * `separated_eq_iff`
    * `mem_splitOn`
-/

------------------------------------------------------------
-- Parts Between Separators
------------------------------------------------------------

namespace RdfXml

/- Texts are cut in one way at their first separator. -/
theorem separated_eq_iff
    {separator : Char}
    {first second rest more : List Char}
    (hFirst : separator ∉ first)
    (hSecond : separator ∉ second) :
    first ++ separator :: rest = second ++ separator :: more ↔
      first = second ∧ rest = more := by
  constructor
  · intro hSame
    induction first generalizing second with
    | nil =>
        cases second with
        | nil => simpa using hSame
        | cons head second =>
            injection hSame with hHead _
            subst hHead
            exact absurd List.mem_cons_self hSecond
    | cons head first ih =>
        cases second with
        | nil =>
            injection hSame with hHead _
            subst hHead
            exact absurd List.mem_cons_self hFirst
        | cons other second =>
            injection hSame with hHead hTail
            subst hHead
            rcases ih
                (List.not_mem_of_not_mem_cons hFirst)
                (List.not_mem_of_not_mem_cons hSecond)
                hTail with
              ⟨rfl, rfl⟩
            exact ⟨rfl, rfl⟩
  · rintro ⟨rfl, rfl⟩
    rfl

theorem splitOn_ne_nil
    (separator : Char)
    (input : List Char) :
    splitOn separator input ≠ [] := by
  cases input with
  | nil => simp [splitOn]
  | cons c rest =>
      unfold splitOn
      split
      · simp
      · split
        · simp
        · simp

/- Every character is in a part or separates parts. -/
theorem mem_splitOn
    {c : Char}
    {input : List Char}
    (separator : Char)
    (hMember : c ∈ input) :
    c = separator ∨
      ∃ part ∈ splitOn separator input, c ∈ part := by
  induction input with
  | nil => cases hMember
  | cons head rest ih =>
      rcases List.exists_cons_of_ne_nil
          (splitOn_ne_nil separator rest) with
        ⟨part, parts, hParts⟩
      simp only [splitOn, hParts] at ih ⊢
      by_cases hHead : head = separator
      · rw [if_pos hHead]
        rcases List.mem_cons.mp hMember with rfl | hRest
        · exact .inl hHead
        · rcases ih hRest with
            hHere | ⟨other, hOther, hInside⟩
          · exact .inl hHere
          · exact .inr
              ⟨other, List.mem_cons_of_mem _ hOther, hInside⟩
      · rw [if_neg hHead]
        rcases List.mem_cons.mp hMember with rfl | hRest
        · exact .inr
            ⟨_, List.mem_cons_self, List.mem_cons_self⟩
        · rcases ih hRest with
            hHere | ⟨other, hOther, hInside⟩
          · exact .inl hHere
          · rcases List.mem_cons.mp hOther with rfl | hLater
            · exact .inr
                ⟨_, List.mem_cons_self,
                  List.mem_cons_of_mem _ hInside⟩
            · exact .inr
                ⟨other, List.mem_cons_of_mem _ hLater,
                  hInside⟩

end RdfXml
