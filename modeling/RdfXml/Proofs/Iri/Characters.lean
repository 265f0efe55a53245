import RdfXml.Proofs.Iri.Fragment
import RdfXml.Proofs.Text.Separated

/-
  The characters that an IRI may consist of.

  Each component of an IRI is checked by characters of its
  own, and all of them together are those of a query, the
  brackets of an address, the sign of a fragment, and the
  sign of percent-encoded bytes.  No blank, no line end, no
  quote, and no angle bracket is among them.

  Main declarations:
    * `Iri.isIriChar`
    * `Iri.isIriChar_of_checkChars`
    * `Iri.isAddressChar_of_isIpv6`
    * `Iri.isIriChar_of_checkAuthority`
    * `Iri.isIriChar_of_check`
    * `Iri.isIriChar_of_isValid`
-/

------------------------------------------------------------
-- Character Classes
------------------------------------------------------------

namespace RdfXml

namespace Iri

/- Characters that may occur somewhere in an IRI. -/
def isIriChar (c : Char) : Bool :=
  isQueryChar c || c == '%' || c == '#' || c == '[' ||
    c == ']'

/- Characters of a numeric address. -/
def isAddressChar (c : Char) : Bool :=
  isHexDigit c || c == '.' || c == ':'

theorem isIriChar_of_isQueryChar
    {c : Char}
    (hChar : isQueryChar c = true) :
    isIriChar c = true := by
  simp [isIriChar, hChar]

theorem isIriChar_of_isFragmentChar
    {c : Char}
    (hChar : isFragmentChar c = true) :
    isIriChar c = true := by
  apply isIriChar_of_isQueryChar
  simp [isQueryChar, hChar]

theorem isIriChar_of_isPathChar
    {c : Char}
    (hChar : isPathChar c = true) :
    isIriChar c = true := by
  apply isIriChar_of_isFragmentChar
  simp [isFragmentChar, hChar]

theorem isIriChar_of_isPlain
    {c : Char}
    (hChar : isPlain c = true) :
    isIriChar c = true := by
  apply isIriChar_of_isPathChar
  simp [isPathChar, hChar]

theorem isIriChar_of_isUserChar
    {c : Char}
    (hChar : isUserChar c = true) :
    isIriChar c = true := by
  rcases (Bool.or_eq_true _ _).mp hChar with hPlain | hColon
  · exact isIriChar_of_isPlain hPlain
  · rw [beq_iff_eq.mp hColon]
    decide

theorem isIriChar_of_isAsciiAlphanumeric
    {c : Char}
    (hChar : isAsciiAlphanumeric c = true) :
    isIriChar c = true := by
  apply isIriChar_of_isPlain
  simp [isPlain, hChar]

theorem isIriChar_of_isAsciiDigit
    {c : Char}
    (hDigit : isAsciiDigit c = true) :
    isIriChar c = true := by
  apply isIriChar_of_isAsciiAlphanumeric
  simp [isAsciiAlphanumeric, hDigit]

theorem isIriChar_of_isSchemeChar
    {c : Char}
    (hChar : isSchemeChar c = true) :
    isIriChar c = true := by
  simp only [isSchemeChar, Bool.or_eq_true, beq_iff_eq]
    at hChar
  rcases hChar with ((hLetter | rfl) | rfl) | rfl
  · exact isIriChar_of_isAsciiAlphanumeric hLetter
  · decide
  · decide
  · decide

theorem isAsciiAlphanumeric_of_isHexDigit
    {c : Char}
    (hDigit : isHexDigit c = true) :
    isAsciiAlphanumeric c = true := by
  have hSmall : 'f' ≤ 'z' := by decide
  have hCapital : 'F' ≤ 'Z' := by decide
  unfold isHexDigit hexDigit? at hDigit
  simp only [Bool.and_eq_true, decide_eq_true_eq] at hDigit
  unfold isAsciiAlphanumeric isAsciiLetter isAsciiDigit
  split at hDigit
  · next hNumber => simp [hNumber]
  · split at hDigit
    · next hLetter =>
        simp [hLetter.1, Char.le_trans hLetter.2 hSmall]
    · split at hDigit
      · next hLetter =>
          simp [hLetter.1, Char.le_trans hLetter.2 hCapital]
      · cases hDigit

theorem isIriChar_of_isHexDigit
    {c : Char}
    (hDigit : isHexDigit c = true) :
    isIriChar c = true :=
  isIriChar_of_isAsciiAlphanumeric
    (isAsciiAlphanumeric_of_isHexDigit hDigit)

theorem isIriChar_of_isAddressChar
    {c : Char}
    (hChar : isAddressChar c = true) :
    isIriChar c = true := by
  simp only [isAddressChar, Bool.or_eq_true, beq_iff_eq]
    at hChar
  rcases hChar with (hDigit | rfl) | rfl
  · exact isIriChar_of_isHexDigit hDigit
  · decide
  · decide

------------------------------------------------------------
-- Checks
------------------------------------------------------------

/- Checks in a row pass when each of them does. -/
theorem check_bind_ok
    {first : Except Fault Unit}
    {next : Unit → Except Fault Unit}
    (hCheck : first >>= next = .ok ()) :
    first = .ok () ∧ next () = .ok () := by
  cases first with
  | error fault => cases hCheck
  | ok _ => exact ⟨rfl, hCheck⟩

/-
  Characters that pass a check are of its class, or they
  belong to percent-encoded bytes.
-/
theorem isIriChar_of_checkChars
    {allowed : Char → Bool}
    {behind chars : List Char}
    (hAllowed :
      ∀ c, allowed c = true → isIriChar c = true)
    (hCheck : checkChars allowed behind chars = .ok ()) :
    ∀ c ∈ chars, isIriChar c = true := by
  induction chars using checkChars.induct allowed with
  | case1 => simp
  | case2 high low rest hDigits ih =>
      simp only [checkChars, hDigits, if_true] at hCheck
      rw [Bool.and_eq_true] at hDigits
      simp only [List.forall_mem_cons]
      exact
        ⟨by decide, isIriChar_of_isHexDigit hDigits.1,
          isIriChar_of_isHexDigit hDigits.2, ih hCheck⟩
  | case3 high low rest hDigits =>
      simp [checkChars, hDigits] at hCheck
  | case4 rest hOther =>
      rw [checkChars.eq_3 _ _ _ _ hOther, if_pos rfl]
        at hCheck
      cases hCheck
  | case5 c rest hOther hSign hHere ih =>
      rw [checkChars.eq_3 _ _ _ _ hOther, if_neg hSign,
        if_pos hHere] at hCheck
      rw [List.forall_mem_cons]
      exact ⟨hAllowed c hHere, ih hCheck⟩
  | case6 c rest hOther hSign hHere =>
      rw [checkChars.eq_3 _ _ _ _ hOther, if_neg hSign,
        if_neg hHere] at hCheck
      cases hCheck

------------------------------------------------------------
-- Addresses
------------------------------------------------------------

theorem isAddressChar_of_isAsciiDigit
    {c : Char}
    (hDigit : isAsciiDigit c = true) :
    isAddressChar c = true := by
  have hRange : '0' ≤ c ∧ c ≤ '9' := by
    simpa [isAsciiDigit] using hDigit
  simp [isAddressChar, isHexDigit, hexDigit?, hRange]

theorem isAsciiDigit_of_isIpv4Part
    {part : List Char}
    (hPart : isIpv4Part part = true) :
    ∀ c ∈ part, isAsciiDigit c = true := by
  unfold isIpv4Part at hPart
  split at hPart
  · simpa using hPart
  · simp only [Bool.and_eq_true] at hPart
    simp [hPart]
  · simp only [Bool.and_eq_true] at hPart
    simp [hPart]
  · cases hPart

theorem isAddressChar_of_isIpv4
    {address : List Char}
    (hAddress : isIpv4 address = true) :
    ∀ c ∈ address, isAddressChar c = true := by
  simp only [isIpv4, Bool.and_eq_true, List.all_eq_true]
    at hAddress
  intro c hMember
  rcases mem_splitOn '.' hMember with
    rfl | ⟨part, hPart, hInside⟩
  · decide
  · exact isAddressChar_of_isAsciiDigit
      (isAsciiDigit_of_isIpv4Part (hAddress.2 part hPart) c
        hInside)

theorem isAddressChar_of_isIpv6Group
    {group : List Char}
    (hGroup : isIpv6Group group = true) :
    ∀ c ∈ group, isAddressChar c = true := by
  simp only [isIpv6Group, Bool.and_eq_true,
    List.all_eq_true] at hGroup
  intro c hMember
  simp [isAddressChar, hGroup.2 c hMember]

theorem isAddressChar_of_ipv6Groups?
    {last : Bool}
    {groups : List (List Char)}
    {count : Nat}
    (hGroups : ipv6Groups? last groups = some count) :
    ∀ group ∈ groups, ∀ c ∈ group,
      isAddressChar c = true := by
  induction groups using ipv6Groups?.induct last
      generalizing count with
  | case1 => simp
  | case2 group hGroup =>
      simpa using isAddressChar_of_isIpv6Group hGroup
  | case3 group hGroup hLast =>
      rw [Bool.and_eq_true] at hLast
      simpa using isAddressChar_of_isIpv4 hLast.2
  | case4 group hGroup hLast =>
      simp [ipv6Groups?, hGroup, hLast] at hGroups
  | case5 group rest hRest hGroup ih =>
      rw [ipv6Groups?.eq_3 _ _ _ hRest, if_pos hGroup]
        at hGroups
      rcases Option.map_eq_some_iff.mp hGroups with
        ⟨others, hOthers, _⟩
      rw [List.forall_mem_cons]
      exact
        ⟨isAddressChar_of_isIpv6Group hGroup, ih hOthers⟩
  | case6 group rest hRest hGroup =>
      rw [ipv6Groups?.eq_3 _ _ _ hRest, if_neg hGroup]
        at hGroups
      cases hGroups

theorem isAddressChar_of_ipv6Part?
    {last : Bool}
    {part : List Char}
    {count : Nat}
    (hPart : ipv6Part? last part = some count) :
    ∀ c ∈ part, isAddressChar c = true := by
  unfold ipv6Part? at hPart
  split at hPart
  · next hEmpty =>
      rw [List.isEmpty_iff.mp hEmpty]
      simp
  · intro c hMember
    rcases mem_splitOn ':' hMember with
      rfl | ⟨group, hGroup, hInside⟩
    · decide
    · exact isAddressChar_of_ipv6Groups? hPart group hGroup
        c hInside

theorem splitDoubleColon_some
    {address front back : List Char}
    (hSplit :
      splitDoubleColon address = some (front, back)) :
    address = front ++ ':' :: ':' :: back := by
  induction address using splitDoubleColon.induct
      generalizing front with
  | case1 => cases hSplit
  | case2 c => cases hSplit
  | case3 a b rest hColons =>
      rw [splitDoubleColon, if_pos hColons] at hSplit
      cases hSplit
      simp only [Bool.and_eq_true, decide_eq_true_eq]
        at hColons
      rw [hColons.1, hColons.2, List.nil_append]
  | case4 a b rest hColons ih =>
      rw [splitDoubleColon, if_neg hColons] at hSplit
      rcases Option.map_eq_some_iff.mp hSplit with
        ⟨parts, hParts, hSame⟩
      cases hSame
      rw [ih hParts, List.cons_append]

theorem isAddressChar_of_isIpv6
    {address : List Char}
    (hAddress : isIpv6 address = true) :
    ∀ c ∈ address, isAddressChar c = true := by
  unfold isIpv6 at hAddress
  split at hAddress
  · rw [Bool.and_eq_true, beq_iff_eq] at hAddress
    exact isAddressChar_of_ipv6Part? hAddress.2
  · next front back hSplit =>
      split at hAddress
      · next hFront hBack =>
          rw [splitDoubleColon_some hSplit]
          simp only [List.forall_mem_append,
            List.forall_mem_cons]
          exact
            ⟨isAddressChar_of_ipv6Part? hFront, by decide,
              by decide, isAddressChar_of_ipv6Part? hBack⟩
      · cases hAddress

------------------------------------------------------------
-- Authorities
------------------------------------------------------------

/- Up to a character, the character, and what follows it. -/
theorem takeWhile_cut
    (c : Char)
    (input : List Char) :
    let front := input.takeWhile (· != c)
    input = front ∨
      input = front ++ c :: input.drop (front.length + 1) := by
  induction input with
  | nil => exact .inl rfl
  | cons head rest ih =>
      by_cases hHead : head = c
      · subst hHead
        right
        simp
      · dsimp only at ih ⊢
        rw [List.takeWhile_cons_of_pos (by simpa using hHead)]
        exact ih.imp (congrArg (head :: ·))
          (congrArg (head :: ·))

/- What stands around a character that all may be near. -/
theorem forall_mem_of_cut
    {good : Char → Prop}
    {c : Char}
    {input : List Char}
    (hCut : good c)
    (hFront : ∀ x ∈ input.takeWhile (· != c), good x)
    (hBack :
      ∀ x ∈ input.drop
        ((input.takeWhile (· != c)).length + 1), good x) :
    ∀ x ∈ input, good x := by
  rcases takeWhile_cut c input with hNone | hParts
  · rw [hNone]
    exact hFront
  · rw [hParts]
    simp only [List.forall_mem_append, List.forall_mem_cons]
    exact ⟨hFront, hCut, hBack⟩

theorem isIriChar_of_find?_none
    {refused : Char → Bool}
    {chars : List Char}
    (hRefused :
      ∀ c, refused c = false → isIriChar c = true)
    (hNone : chars.find? refused = none) :
    ∀ c ∈ chars, isIriChar c = true := by
  intro c hMember
  apply hRefused
  simpa using List.find?_eq_none.mp hNone c hMember

theorem isIriChar_of_checkPort
    {port : List Char}
    (hCheck : checkPort port = .ok ()) :
    ∀ c ∈ port, isIriChar c = true := by
  unfold checkPort at hCheck
  split at hCheck
  · cases hCheck
  · next hNone =>
      refine isIriChar_of_find?_none (fun c hDigit => ?_) hNone
      exact isIriChar_of_isAsciiDigit (by simpa using hDigit)

theorem isIriChar_of_checkFutureAddress
    {address : List Char}
    (hCheck : checkFutureAddress address = .ok ()) :
    ∀ c ∈ address, isIriChar c = true := by
  unfold checkFutureAddress at hCheck
  dsimp only at hCheck
  split at hCheck
  · cases hCheck
  · next hVersion =>
      split at hCheck
      · cases hCheck
      · split at hCheck
        · cases hCheck
        · next hRest =>
            refine forall_mem_of_cut (c := '.') (by decide)
              (isIriChar_of_find?_none (fun c hHere => ?_)
                hVersion)
              (isIriChar_of_find?_none (fun c hHere => ?_)
                hRest)
            · exact isIriChar_of_isHexDigit
                (by simpa using hHere)
            · simp only [isFutureAddressChar,
                Bool.not_eq_false', Bool.and_eq_true]
                at hHere
              exact isIriChar_of_isUserChar hHere.2

theorem isIriChar_of_checkAddress
    {address : List Char}
    (hCheck : checkAddress address = .ok ()) :
    ∀ c ∈ address, isIriChar c = true := by
  unfold checkAddress at hCheck
  split at hCheck
  · rw [List.forall_mem_cons]
    exact
      ⟨by decide, isIriChar_of_checkFutureAddress hCheck⟩
  · rw [List.forall_mem_cons]
    exact
      ⟨by decide, isIriChar_of_checkFutureAddress hCheck⟩
  · split at hCheck
    · next hAddress =>
        intro c hMember
        exact isIriChar_of_isAddressChar
          (isAddressChar_of_isIpv6 hAddress c hMember)
    · cases hCheck

theorem isIriChar_of_checkAfterAddress
    {after : List Char}
    (hCheck : checkAfterAddress after = .ok ()) :
    ∀ c ∈ after, isIriChar c = true := by
  cases after with
  | nil => simp
  | cons c rest =>
      simp only [checkAfterAddress] at hCheck
      split at hCheck
      · next hColon =>
          rw [hColon, List.forall_mem_cons]
          exact ⟨by decide, isIriChar_of_checkPort hCheck⟩
      · cases hCheck

/-
  The closing bracket may stand behind the authority, which
  then is all part of the address.
-/
theorem isIriChar_of_checkBracketed
    {behind input : List Char}
    (hCheck : checkBracketed behind input = .ok ()) :
    ∀ c ∈ input, isIriChar c = true := by
  unfold checkBracketed at hCheck
  dsimp only at hCheck
  split at hCheck
  · cases hCheck
  · split at hCheck
    · cases hCheck
    · next hAddress =>
        have hChars := isIriChar_of_checkAddress hAddress
        rw [List.takeWhile_append] at hChars hCheck
        split at hChars
        · exact (List.forall_mem_append.mp hChars).1
        · next hInside =>
            rw [if_neg hInside] at hCheck
            exact forall_mem_of_cut (by decide) hChars
              (isIriChar_of_checkAfterAddress hCheck)

theorem isIriChar_of_checkNamedHost
    {behind input : List Char}
    (hCheck : checkNamedHost behind input = .ok ()) :
    ∀ c ∈ input, isIriChar c = true := by
  unfold checkNamedHost at hCheck
  dsimp only at hCheck
  rcases check_bind_ok hCheck with ⟨hName, hPort⟩
  exact forall_mem_of_cut (by decide)
    (isIriChar_of_checkChars
      (fun c => isIriChar_of_isPlain) hName)
    (isIriChar_of_checkPort hPort)

theorem isIriChar_of_checkHost
    {behind host : List Char}
    (hCheck : checkHost behind host = .ok ()) :
    ∀ c ∈ host, isIriChar c = true := by
  unfold checkHost at hCheck
  split at hCheck
  · rw [List.forall_mem_cons]
    exact ⟨by decide, isIriChar_of_checkBracketed hCheck⟩
  · exact isIriChar_of_checkNamedHost hCheck

/- User information stands before the host, if any does. -/
theorem isIriChar_of_checkAuthority
    {behind authority : List Char}
    (hCheck : checkAuthority behind authority = .ok ()) :
    ∀ c ∈ authority, isIriChar c = true := by
  unfold checkAuthority at hCheck
  dsimp only at hCheck
  rcases check_bind_ok hCheck with ⟨hUser, hHost⟩
  split at hHost
  · next host hRest =>
      have hParts :
          authority = userPart authority ++ '@' :: host := by
        rw [← hRest]
        exact (List.prefix_iff_eq_append.mp
          (List.takeWhile_prefix _)).symm
      rw [hParts]
      simp only [List.forall_mem_append,
        List.forall_mem_cons]
      exact
        ⟨isIriChar_of_checkChars
            (fun c => isIriChar_of_isUserChar) hUser,
          by decide, isIriChar_of_checkHost hHost⟩
  · exact isIriChar_of_checkHost hHost

------------------------------------------------------------
-- IRIs
------------------------------------------------------------

theorem isIriChar_of_isScheme
    {scheme : List Char}
    (hScheme : isScheme scheme = true) :
    ∀ c ∈ scheme, isIriChar c = true := by
  intro c hMember
  cases hChar : isSchemeChar c with
  | true => exact isIriChar_of_isSchemeChar hChar
  | false =>
      exact absurd hMember (not_mem_scheme hScheme hChar)

theorem isIriChar_of_withDelimiter
    {delimiter : List Char}
    {part? : Option (List Char)}
    {check : List Char → Except Fault Unit}
    (hDelimiter : delimiter.all isIriChar = true)
    (hPart :
      ∀ part, check part = .ok () →
        ∀ c ∈ part, isIriChar c = true)
    (hCheck : Parts.checkOptional check part? = .ok ()) :
    ∀ c ∈ Parts.withDelimiter delimiter part?,
      isIriChar c = true := by
  cases part? with
  | none => simp [Parts.withDelimiter]
  | some part =>
      rw [Parts.withDelimiter, List.forall_mem_append]
      exact
        ⟨List.all_eq_true.mp hDelimiter, hPart part hCheck⟩

/- What passes the checks of its parts is of IRIs. -/
theorem isIriChar_of_check
    {input : List Char}
    (hCheck : (Parts.split input).check = .ok ()) :
    ∀ c ∈ input, isIriChar c = true := by
  unfold Parts.check at hCheck
  dsimp only at hCheck
  rcases check_bind_ok hCheck with ⟨hAuthority, hOthers⟩
  have hLater :
      (checkChars isPathChar (Parts.split input).suffixChars
          (Parts.split input).path >>= fun _ =>
        Parts.checkOptional
            (checkChars isQueryChar
              (Parts.withDelimiter ['#']
                (Parts.split input).fragment?))
            (Parts.split input).query? >>= fun _ =>
          Parts.checkOptional (checkChars isFragmentChar [])
            (Parts.split input).fragment?) = .ok () := by
    split at hOthers
    · exact (check_bind_ok hOthers).2
    · exact hOthers
  rcases check_bind_ok hLater with ⟨hPath, hSuffix⟩
  rcases check_bind_ok hSuffix with ⟨hQuery, hFragment⟩
  have hScheme :
      ∀ c ∈ (Parts.split input).schemeChars,
        isIriChar c = true := by
    unfold Parts.schemeChars
    split
    · next scheme hSplit =>
        rw [List.forall_mem_append]
        exact
          ⟨isIriChar_of_isScheme (splitScheme_some hSplit).1,
            List.all_eq_true.mp (by decide)⟩
    · simp
  rw [(Parts.split_front input).1]
  simp only [Parts.front, List.forall_mem_append]
  refine ⟨⟨hScheme, ?_, ?_, ?_⟩, ?_⟩
  · exact isIriChar_of_withDelimiter (by decide)
      (fun _ => isIriChar_of_checkAuthority) hAuthority
  · exact isIriChar_of_checkChars
      (fun _ => isIriChar_of_isPathChar) hPath
  · exact isIriChar_of_withDelimiter (by decide)
      (fun _ => isIriChar_of_checkChars
        (fun _ => isIriChar_of_isQueryChar)) hQuery
  · exact isIriChar_of_withDelimiter (by decide)
      (fun _ => isIriChar_of_checkChars
        (fun _ => isIriChar_of_isFragmentChar)) hFragment

/- A valid IRI only has characters of IRIs. -/
theorem isIriChar_of_isValid
    {text : String}
    (hValid : isValid text = true) :
    ∀ c ∈ text.toList, isIriChar c = true := by
  unfold isValid parse at hValid
  dsimp only at hValid
  split at hValid
  · next hParse =>
      split at hParse
      · cases hParse
      · next hCheck => exact isIriChar_of_check hCheck
  · cases hValid

end Iri

end RdfXml
