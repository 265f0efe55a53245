import RdfXml.Iri.Resolution
import RdfXml.Rdf.Statement

/-
  Absolute references.

  A reference is absolute when it begins with a scheme and a
  colon.  Resolution against an absolute base always gives an
  absolute reference, also where it fails and the reference
  is only appended to the base.

  Main declarations:
    * `Iri.isAbsolute_iff`
    * `Iri.isAbsolute_append`
    * `Iri.isAbsolute_of_parse`
    * `Iri.resolve_isAbsolute`
    * `blankNodeLabel?_of_isAbsolute`
    * `Object.ofResource_of_isAbsolute`
-/

------------------------------------------------------------
-- Schemes
------------------------------------------------------------

namespace RdfXml

namespace Iri

/- A scheme has no delimiters in it. -/
theorem not_mem_scheme
    {scheme : List Char}
    {c : Char}
    (hScheme : isScheme scheme = true)
    (hOther : isSchemeChar c = false) :
    c ∉ scheme := by
  cases scheme with
  | nil => simp
  | cons first rest =>
      simp only [isScheme, Bool.and_eq_true,
        List.all_eq_true] at hScheme
      intro hMember
      rcases List.mem_cons.mp hMember with rfl | hRest
      · have hLetter : isSchemeChar c = true := by
          simp [isSchemeChar, isAsciiAlphanumeric, hScheme.1]
        rw [hOther] at hLetter
        cases hLetter
      · have hChar := hScheme.2 c hRest
        rw [hOther] at hChar
        cases hChar

/- The scheme is split off at the first colon. -/
theorem splitScheme_cons
    {scheme : List Char}
    (hScheme : isScheme scheme = true)
    (rest : List Char) :
    splitScheme (scheme ++ ':' :: rest) =
      (some scheme, rest) := by
  have hColon : ':' ∉ scheme :=
    not_mem_scheme hScheme (by decide)
  have hFront :
      (scheme ++ ':' :: rest).takeWhile (· != ':') =
        scheme := by
    rw [List.takeWhile_append_of_pos]
    · simp
    · intro c hMember
      have hOther : c ≠ ':' := by
        rintro rfl
        exact hColon hMember
      simpa using hOther
  unfold splitScheme
  dsimp only
  rw [hFront, List.drop_left]
  simp [hScheme]

/- Behind what stands before a colon stands the colon. -/
theorem drop_beforeColon (input : List Char) :
    let front := input.takeWhile (· != ':')
    input.drop front.length = [] ∨
      ∃ rest,
        input.drop front.length = ':' :: rest ∧
          input = front ++ ':' :: rest := by
  induction input with
  | nil => exact .inl rfl
  | cons c input ih =>
      by_cases hColon : c = ':'
      · subst hColon
        exact .inr ⟨input, rfl, rfl⟩
      · rw [List.takeWhile_cons_of_pos (by simpa using hColon)]
        rcases ih with hNone | ⟨rest, hDrop, hParts⟩
        · exact .inl hNone
        · exact .inr ⟨rest, hDrop, congrArg (c :: ·) hParts⟩

/- What is split off is a scheme. -/
theorem splitScheme_some
    {input scheme : List Char}
    (hSplit : (splitScheme input).1 = some scheme) :
    isScheme scheme = true ∧
      ∃ rest, input = scheme ++ ':' :: rest := by
  unfold splitScheme at hSplit
  dsimp only at hSplit
  rcases drop_beforeColon input with
    hNone | ⟨rest, hDrop, hParts⟩
  · rw [hNone] at hSplit
    cases hSplit
  · rw [hDrop] at hSplit
    dsimp only at hSplit
    split at hSplit
    · next hScheme =>
        cases hSplit
        exact ⟨hScheme, rest, hParts⟩
    · cases hSplit

/- An absolute reference begins with a scheme. -/
theorem isAbsolute_iff (reference : String) :
    isAbsolute reference = true ↔
      ∃ scheme rest,
        isScheme scheme = true ∧
          reference.toList = scheme ++ ':' :: rest := by
  constructor
  · intro hAbsolute
    rcases Option.isSome_iff_exists.mp hAbsolute with
      ⟨scheme, hSplit⟩
    rcases splitScheme_some hSplit with
      ⟨hScheme, rest, hRest⟩
    exact ⟨scheme, rest, hScheme, hRest⟩
  · rintro ⟨scheme, rest, hScheme, hReference⟩
    unfold isAbsolute
    rw [hReference, splitScheme_cons hScheme]
    rfl

/- What follows an absolute reference changes nothing. -/
theorem isAbsolute_append
    {base : String}
    (hBase : isAbsolute base = true)
    (more : String) :
    isAbsolute (base ++ more) = true := by
  rw [isAbsolute_iff] at hBase ⊢
  rcases hBase with ⟨scheme, rest, hScheme, hRest⟩
  refine ⟨scheme, rest ++ more.toList, hScheme, ?_⟩
  rw [String.toList_append, hRest]
  simp

------------------------------------------------------------
-- Resolved References
------------------------------------------------------------

/- An IRI is absolute. -/
theorem isAbsolute_of_parse
    {text : String}
    {parts : Parts}
    (hParse : parse text = .ok parts) :
    parts = Parts.split text.toList ∧
      isAbsolute text = true := by
  unfold parse at hParse
  dsimp only at hParse
  split at hParse
  · cases hParse
  · split at hParse
    · next hScheme =>
        cases hParse
        exact ⟨rfl, hScheme⟩
    · cases hParse

/- Parts with a scheme make up an absolute reference. -/
theorem Parts.isAbsolute
    {parts : Parts}
    {scheme : List Char}
    (hScheme : parts.scheme? = some scheme)
    (hValid : isScheme scheme = true) :
    Iri.isAbsolute (String.ofList parts.toChars) = true := by
  rw [isAbsolute_iff]
  refine ⟨scheme, parts.relativeChars, hValid, ?_⟩
  rw [String.toList_ofList, Parts.toChars,
    Parts.schemeChars, hScheme]
  simp

/- A target has its own scheme or that of the base. -/
theorem Parts.resolve_scheme
    {base reference target : Parts}
    (hTarget : base.resolve reference = .ok target) :
    target.scheme? =
      if reference.scheme?.isSome then reference.scheme?
      else base.scheme? := by
  unfold Parts.resolve at hTarget
  split at hTarget
  · cases hTarget
  · split at hTarget
    · next hScheme =>
        cases hTarget
        rw [if_pos hScheme]
    · next hScheme =>
        rw [if_neg hScheme]
        cases hMade : base.target reference with
        | error fault =>
            rw [hMade] at hTarget
            cases hTarget
        | ok made =>
            rw [hMade] at hTarget
            have hSame : made = target := by
              simp only [Except.bind, checkTarget] at hTarget
              split at hTarget
              · cases hTarget
              · cases hTarget
                rfl
            subst hSame
            unfold Parts.target at hMade
            split at hMade
            · cases hMade
              rfl
            · cases hPath : base.targetPath reference with
              | error fault =>
                  rw [hPath] at hMade
                  cases hMade
              | ok path =>
                  rw [hPath] at hMade
                  cases hMade
                  rfl

/- What resolution succeeds with is absolute. -/
theorem resolveAgainst_isAbsolute
    {base reference iri : String}
    (hResolved :
      resolveAgainst base reference = .ok (.ok iri)) :
    Iri.isAbsolute iri = true := by
  unfold resolveAgainst at hResolved
  cases hParse : parse base with
  | error fault =>
      rw [hParse] at hResolved
      cases hResolved
  | ok parts =>
      rcases isAbsolute_of_parse hParse with
        ⟨hParts, hAbsolute⟩
      rw [hParse] at hResolved
      cases hTarget :
          parts.resolve (Parts.split reference.toList) with
      | error fault =>
          simp [Except.map, hTarget] at hResolved
      | ok target =>
          simp only [Except.map, hTarget, Except.ok.injEq]
            at hResolved
          subst hResolved
          have hScheme := Parts.resolve_scheme hTarget
          have hSplit :
              ∃ input scheme,
                (splitScheme input).1 = some scheme ∧
                  target.scheme? = some scheme := by
            split at hScheme
            · next hOwn =>
                rcases Option.isSome_iff_exists.mp hOwn with
                  ⟨scheme, hSome⟩
                exact
                  ⟨reference.toList, scheme, hSome,
                    hScheme.trans hSome⟩
            · rcases Option.isSome_iff_exists.mp hAbsolute
                with ⟨scheme, hSome⟩
              refine ⟨base.toList, scheme, hSome, ?_⟩
              rw [hScheme, hParts]
              exact hSome
          rcases hSplit with
            ⟨input, scheme, hSome, hTargetScheme⟩
          exact
            Parts.isAbsolute hTargetScheme
              (splitScheme_some hSome).1

/-
  Resolution against an absolute base is absolute: a reference
  that is so itself, what resolution succeeds with, and the
  base with the reference behind it.
-/
theorem resolve_isAbsolute
    {base : String}
    (hBase : Iri.isAbsolute base = true)
    (reference : String) :
    Iri.isAbsolute (resolve base reference) = true := by
  unfold resolve
  split
  · next hReference => exact hReference
  · split
    · next iri hResolved =>
        exact resolveAgainst_isAbsolute hResolved
    · exact isAbsolute_append hBase reference

end Iri

/- No scheme begins with an underscore. -/
theorem blankNodeLabel?_of_isAbsolute
    {reference : String}
    (hAbsolute : Iri.isAbsolute reference = true) :
    blankNodeLabel? reference = none := by
  rw [Iri.isAbsolute_iff] at hAbsolute
  rcases hAbsolute with ⟨scheme, rest, hScheme, hRest⟩
  unfold blankNodeLabel?
  rw [hRest]
  cases scheme with
  | nil => cases hScheme
  | cons first others =>
      split
      · next hSame =>
          have hFirst := (List.cons.inj hSame).1
          subst hFirst
          cases hScheme
      · rfl

/- An absolute reference is no blank node. -/
theorem Object.ofResource_of_isAbsolute
    {reference : String}
    (hAbsolute : Iri.isAbsolute reference = true) :
    Object.ofResource reference = .iri reference := by
  unfold ofResource
  rw [blankNodeLabel?_of_isAbsolute hAbsolute]
  rfl

end RdfXml
