import Mathlib.Data.List.TakeWhile
import RdfXml.Grammar.Machine
import RdfXml.Proofs.Iri.Absolute

/-
  Fragments of a base.

  The parts of a text put together are the text again, and no
  number sign stands in front of the fragment.  So the name
  that an identifier has in a base is what a reference to that
  fragment of the base resolves to.

  Main declarations:
    * `Iri.IsRelative`
    * `Iri.Parts.front`
    * `Iri.Parts.split_front`
    * `Iri.Parts.resolve_fragment`
    * `Machine.idIri_resolve`
-/

------------------------------------------------------------
-- Splitting And Joining
------------------------------------------------------------

namespace RdfXml

namespace Iri

/- A text is a reference that has no scheme. -/
def IsRelative (text : String) : Prop :=
  isAbsolute text = false ∧
    (Parts.split text.toList).check = .ok ()

/- A character that fails the test ends what is taken. -/
theorem not_mem_takeWhile
    {test : Char → Bool}
    {c : Char}
    (hTest : test c = false)
    (input : List Char) :
    c ∉ input.takeWhile test := by
  intro hMember
  have hPasses := List.mem_takeWhile_imp hMember
  rw [hTest] at hPasses
  cases hPasses

/- A scheme is split off with its colon, or there is none. -/
theorem splitScheme_cases (input : List Char) :
    splitScheme input = (none, input) ∨
      ∃ scheme rest,
        isScheme scheme = true ∧
          input = scheme ++ ':' :: rest ∧
            splitScheme input = (some scheme, rest) := by
  cases hSplit : (splitScheme input).1 with
  | none =>
      left
      unfold splitScheme at hSplit ⊢
      dsimp only at hSplit ⊢
      split
      · rfl
      · next hDrop =>
          rw [hDrop] at hSplit
          dsimp only at hSplit
          split at hSplit
          · cases hSplit
          · next hNone => rw [if_neg hNone]
  | some scheme =>
      rcases splitScheme_some hSplit with
        ⟨hScheme, rest, rfl⟩
      exact
        .inr ⟨scheme, rest, hScheme, rfl,
          splitScheme_cons hScheme rest⟩

namespace Parts

/- All but the fragment, put together. -/
def front (parts : Parts) : List Char :=
  parts.schemeChars ++
    (withDelimiter ['/', '/'] parts.authority? ++
      (parts.path ++ withDelimiter ['?'] parts.query?))

theorem toChars_eq_front (parts : Parts) :
    parts.toChars =
      parts.front ++ withDelimiter ['#'] parts.fragment? := by
  simp [toChars, relativeChars, suffixChars, front]

/- A text is its scheme and what follows it. -/
theorem schemeChars_split (input : List Char) :
    input =
        (split input).schemeChars ++ (splitScheme input).2 ∧
      '#' ∉ (split input).schemeChars := by
  unfold schemeChars split
  dsimp only
  rcases splitScheme_cases input with
    hNone | ⟨scheme, rest, hValid, hInput, hSplit⟩
  · rw [hNone]
    exact ⟨rfl, by simp⟩
  · rw [hSplit]
    have hSign : '#' ∉ scheme :=
      not_mem_scheme hValid (by decide)
    refine ⟨?_, ?_⟩
    · rw [hInput, List.append_assoc, List.singleton_append]
    · simpa using hSign

/- What follows is an authority and what follows that. -/
theorem authority_split (input : List Char) :
    let authority? := (splitAuthority input).1
    input =
        withDelimiter ['/', '/'] authority? ++
          (splitAuthority input).2 ∧
      '#' ∉ withDelimiter ['/', '/'] authority? := by
  unfold splitAuthority
  split
  · next rest =>
      have hSign : '#' ∉ rest.takeWhile inAuthority :=
        not_mem_takeWhile (by decide) rest
      refine ⟨?_, ?_⟩
      · simp [withDelimiter, List.takeWhile_append_dropWhile]
      · simpa [withDelimiter] using hSign
  · exact ⟨rfl, by simp [withDelimiter]⟩

/- A text that can only be a fragment is one. -/
theorem fragment_split
    {rest : List Char}
    (hHead : ∀ c, rest.head? = some c → c = '#') :
    rest = withDelimiter ['#'] (splitFragment rest) := by
  cases rest with
  | nil => rfl
  | cons c rest =>
      cases hHead c rfl
      rfl

/- What a path is followed by is a query and a fragment. -/
theorem suffix_split
    {rest : List Char}
    (hHead : ∀ c, rest.head? = some c → inPath c = false) :
    rest =
        withDelimiter ['?'] (splitQuery rest).1 ++
          withDelimiter ['#']
            (splitFragment (splitQuery rest).2) ∧
      '#' ∉ withDelimiter ['?'] (splitQuery rest).1 := by
  unfold splitQuery
  split
  · next query =>
      have hBehind :
          ∀ c, (query.dropWhile (· != '#')).head? = some c →
            c = '#' := by
        intro c hLast
        have hFails :=
          List.head?_dropWhile_not (· != '#') query
        rw [hLast] at hFails
        simpa using hFails
      have hSign : '#' ∉ query.takeWhile (· != '#') :=
        not_mem_takeWhile (by decide) query
      refine ⟨?_, by simpa [withDelimiter] using hSign⟩
      dsimp only
      rw [← fragment_split hBehind]
      simp [withDelimiter, List.takeWhile_append_dropWhile]
  · next hOther =>
      refine ⟨fragment_split ?_, by simp [withDelimiter]⟩
      intro c hFirst
      rcases List.head?_eq_some_iff.mp hFirst with
        ⟨query, hQuery⟩
      have hMark : c ≠ '?' := by
        rintro rfl
        exact hOther query hQuery
      simpa [inPath, hMark] using hHead c hFirst

/-
  A text is what precedes its fragment and the fragment, and
  no number sign stands in what precedes it.
-/
theorem split_front (input : List Char) :
    input =
        (split input).front ++
          withDelimiter ['#'] (split input).fragment? ∧
      '#' ∉ (split input).front := by
  rcases schemeChars_split input with ⟨hScheme, hInScheme⟩
  rcases authority_split (splitScheme input).2 with
    ⟨hAuthority, hInAuthority⟩
  have hHead :
      ∀ c,
        ((splitAuthority
          (splitScheme input).2).2.dropWhile
            inPath).head? = some c →
          inPath c = false := by
    intro c hFirst
    have hFails :=
      List.head?_dropWhile_not inPath
        (splitAuthority (splitScheme input).2).2
    rw [hFirst] at hFails
    exact hFails
  rcases suffix_split hHead with ⟨hSuffix, hInQuery⟩
  have hPath :=
    List.takeWhile_append_dropWhile
      (p := inPath)
      (l := (splitAuthority (splitScheme input).2).2)
  have hInPath :
      '#' ∉ (splitAuthority
        (splitScheme input).2).2.takeWhile inPath :=
    not_mem_takeWhile (by decide) _
  refine ⟨?_, ?_⟩
  · rw [hSuffix] at hPath
    unfold front
    simp only [List.append_assoc]
    calc input
        = (split input).schemeChars ++
            (splitScheme input).2 := hScheme
      _ = _ := by
        congr 1
        rw [hAuthority]
        congr 1
        exact hPath.symm
  · unfold front
    simp only [List.mem_append, not_or]
    exact ⟨hInScheme, hInAuthority, hInPath, hInQuery⟩

------------------------------------------------------------
-- References To Fragments
------------------------------------------------------------

/- Without an authority no path looks like one. -/
theorem split_path
    {input : List Char}
    (hNone : (split input).authority? = none) :
    (split input).path.take 2 ≠ ['/', '/'] := by
  intro hSlashes
  have hRest :
      splitAuthority (splitScheme input).2 =
        (none, (splitScheme input).2) := by
    have hAuthority :
        (splitAuthority (splitScheme input).2).1 = none :=
      hNone
    unfold splitAuthority at hAuthority ⊢
    split at hAuthority
    · cases hAuthority
    · rfl
  have hPath :
      (split input).path =
        (splitScheme input).2.takeWhile inPath := by
    unfold split
    dsimp only
    rw [hRest]
  have hWhole :
      (splitScheme input).2 =
        '/' :: '/' ::
          ((split input).path.drop 2 ++
            (splitScheme input).2.dropWhile inPath) := by
    have hTaken :=
      List.take_append_drop 2 (split input).path
    have hParts :
        (split input).path ++
            (splitScheme input).2.dropWhile inPath =
          (splitScheme input).2 := by
      rw [hPath]
      exact List.takeWhile_append_dropWhile
    rw [hSlashes] at hTaken
    calc (splitScheme input).2
        = (['/', '/'] ++ (split input).path.drop 2) ++
            (splitScheme input).2.dropWhile inPath := by
          rw [hTaken, hParts]
      _ = _ := rfl
  rw [hWhole] at hRest
  cases hRest

/- A reference to a fragment has no other part. -/
theorem split_sign (id : List Char) :
    split ('#' :: id) = ⟨none, none, [], none, some id⟩ := by
  rcases splitScheme_cases ('#' :: id) with
    hNone | ⟨scheme, rest, hScheme, hInput, _⟩
  · unfold split
    rw [hNone]
    rfl
  · cases scheme with
    | nil => cases hScheme
    | cons c scheme =>
        cases hInput
        cases hScheme

/-
  A reference to a fragment leads to the base with another
  fragment.
-/
theorem resolve_fragment
    {input id : List Char}
    (hId : (split ('#' :: id)).check = .ok ()) :
    (split input).resolve (split ('#' :: id)) =
      .ok { split input with fragment? := some id } := by
  unfold resolve
  rw [hId, split_sign]
  have hTarget :
      (split input).target ⟨none, none, [], none, some id⟩ =
        .ok { split input with fragment? := some id } :=
    rfl
  have hChecked :
      checkTarget { split input with fragment? := some id } =
        .ok { split input with fragment? := some id } := by
    unfold checkTarget
    dsimp only
    cases hAuthority : (split input).authority? with
    | some authority => rfl
    | none => simp [split_path hAuthority]
  dsimp only
  rw [hTarget]
  exact hChecked

end Parts

end Iri

------------------------------------------------------------
-- Identifiers
------------------------------------------------------------

namespace Machine

/- An identifier takes the place of the base's fragment. -/
theorem idIri_front (base id : String) :
    idIri base id =
      String.ofList
        ((Iri.Parts.split base.toList).front ++
          '#' :: id.toList) := by
  rcases Iri.Parts.split_front base.toList with
    ⟨hBase, hSign⟩
  have hFront :
      base.toList.takeWhile (· != '#') =
        (Iri.Parts.split base.toList).front := by
    have hAll :
        ∀ c ∈ (Iri.Parts.split base.toList).front,
          (c != '#') = true := by
      intro c hMember
      have hOther : c ≠ '#' := by
        rintro rfl
        exact hSign hMember
      simpa using hOther
    have hBehind :
        (Iri.Parts.withDelimiter ['#']
          (Iri.Parts.split
            base.toList).fragment?).takeWhile (· != '#') =
          [] := by
      cases (Iri.Parts.split base.toList).fragment? with
      | none => rfl
      | some fragment => rfl
    calc base.toList.takeWhile (· != '#')
        = ((Iri.Parts.split base.toList).front ++
            Iri.Parts.withDelimiter ['#']
              (Iri.Parts.split
                base.toList).fragment?).takeWhile
            (· != '#') := congrArg _ hBase
      _ = (Iri.Parts.split base.toList).front := by
        rw [List.takeWhile_append_of_pos hAll, hBehind,
          List.append_nil]
  unfold idIri
  rw [hFront, ← String.toList_inj]
  simp

/-
  In a base that is an IRI, an identifier names what a
  reference to it as a fragment resolves to, whatever the base
  consists of.  The reference can be resolved.
-/
theorem idIri_resolve
    {base id : String}
    {parts : Iri.Parts}
    (hBase : Iri.parse base = .ok parts)
    (hId : Iri.IsRelative ("#" ++ id)) :
    idIri base id = Iri.resolve base ("#" ++ id) ∧
      resolutionNotes base ("#" ++ id) = [] := by
  rcases hId with ⟨hRelative, hCheck⟩
  have hParts := (Iri.isAbsolute_of_parse hBase).1
  have hSign :
      ("#" ++ id).toList = '#' :: id.toList := by
    simp
  rw [hSign] at hCheck
  have hResolved :
      Iri.resolveAgainst base ("#" ++ id) =
        .ok (.ok (idIri base id)) := by
    unfold Iri.resolveAgainst
    rw [hBase, hParts, hSign]
    dsimp only [Except.map]
    rw [Iri.Parts.resolve_fragment hCheck, idIri_front]
    dsimp only
    rw [Iri.Parts.toChars_eq_front]
    rfl
  refine ⟨?_, ?_⟩
  · unfold Iri.resolve
    rw [hRelative, hResolved]
    rfl
  · unfold resolutionNotes Iri.resolutionFault?
    rw [hRelative, hResolved]
    rfl

/-
  A base with a path that has dot segments, a query, and a
  fragment.
-/
theorem idIri_resolve_dots :
    let base := "http://e/a/../b?q/../r#f"
    (∃ parts, Iri.parse base = .ok parts) ∧
      Iri.IsRelative "#i:/d?e" ∧
      idIri base "i:/d?e" = "http://e/a/../b?q/../r#i:/d?e" ∧
      Iri.resolve base "#i:/d?e" =
        "http://e/a/../b?q/../r#i:/d?e" := by
  intro base
  have hBase :
      Iri.parse base =
        .ok (Iri.Parts.split base.toList) := by
    decide +kernel
  have hId : Iri.IsRelative ("#" ++ "i:/d?e") := by
    unfold Iri.IsRelative
    decide +kernel
  have hName :
      idIri base "i:/d?e" =
        "http://e/a/../b?q/../r#i:/d?e" := by
    decide +kernel
  refine ⟨⟨_, hBase⟩, hId, hName, ?_⟩
  rw [← hName]
  exact (idIri_resolve hBase hId).1.symm

end Machine

end RdfXml
