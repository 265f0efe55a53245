import RdfXml.Proofs.Text.Utf8
import RdfXml.Xml.Tokenizer

/-
  Character data that is decoded in parts.

  Without the positions of its faults, resolving references
  is a machine whose state is the body of the reference that
  is open.  A text whose first part can be decoded can be
  decoded part by part, and the part that a tokenizer takes
  from the end of a chunk is such a first part.

  Main declarations:
    * `Reference.follow`
    * `Reference.resolveFrom_ok_iff`
    * `decodeText_ok_iff`
    * `decodeText_append`
    * `decodeText_of_closed`
    * `decodeText_complete`
-/

------------------------------------------------------------
-- References Without Positions
------------------------------------------------------------

namespace RdfXml

namespace Reference

/- The character that the body of a reference names. -/
def named? (body : List Char) : Option Char :=
  (character 0 0 body).toOption

/- Positions are only part of the fault. -/
theorem character_toOption
    (start stop : Nat)
    (body : List Char) :
    (character start stop body).toOption = named? body := by
  unfold named? character
  split
  · split <;> rfl
  · split <;> rfl

/-
  Follow a text from an open reference or from none.  The
  result is the reference that is open at the end and the
  resolved characters, or nothing at the first fault.
-/
def follow :
    Option (List Char) → List Char →
      Option (Option (List Char) × List Char)
| open?, [] => some (open?, [])
| none, c :: rest =>
    if c = '&' then
      follow (some []) rest
    else
      (follow none rest).map (fun r => (r.1, c :: r.2))
| some body, c :: rest =>
    if c = '&' then
      none
    else if c = ';' then
      match named? body with
      | none => none
      | some c =>
          (follow none rest).map (fun r => (r.1, c :: r.2))
    else
      follow (some (body ++ [c])) rest

/- A character in front of both results. -/
theorem map_cons_iff
    {result : Except Fault (List Char)}
    {followed? : Option (Option (List Char) × List Char)}
    (hSame : ∀ out,
      result = .ok out ↔ followed? = some (none, out))
    (c : Char)
    (out : List Char) :
    result.map (c :: ·) = .ok out ↔
      followed?.map (fun r => (r.1, c :: r.2)) =
        some (none, out) := by
  cases result with
  | error fault =>
      refine ⟨fun hOk => (by cases hOk), fun hSome => ?_⟩
      rcases Option.map_eq_some_iff.mp hSome with
        ⟨⟨last, chars⟩, hFollowed, hPair⟩
      cases hPair
      cases (hSame chars).mpr hFollowed
  | ok chars =>
      rw [(hSame chars).mp rfl]
      simp [Except.map]

/-
  Resolving succeeds when following does and leaves no
  reference open.
-/
theorem resolveFrom_ok_iff
    (total : Nat)
    (open? : Option (Nat × List Char))
    (position : Nat)
    (text out : List Char) :
    resolveFrom total open? position text = .ok out ↔
      follow (open?.map Prod.snd) text =
        some (none, out) := by
  induction text generalizing open? position out with
  | nil =>
      cases open? with
      | none => simp [resolveFrom, follow]
      | some entry => simp [resolveFrom, follow]
  | cons c rest ih =>
      cases open? with
      | none =>
          by_cases hAmp : c = '&'
          · have hRest :=
              ih (some (position, [])) (position + 1) out
            simpa [resolveFrom, follow, hAmp] using hRest
          · have hRest :=
              map_cons_iff
                (ih none (position + c.utf8Size)) c out
            simpa [resolveFrom, follow, hAmp] using hRest
      | some entry =>
          rcases entry with ⟨start, body⟩
          by_cases hAmp : c = '&'
          · simp [resolveFrom, follow, hAmp]
          · by_cases hEnd : c = ';'
            · have hNamed :=
                character_toOption (start + 1) position body
              cases hChar :
                  character (start + 1) position body with
              | error fault =>
                  rw [hChar] at hNamed
                  simp [resolveFrom, follow, hEnd, hChar,
                    ← hNamed, Except.toOption]
              | ok named =>
                  rw [hChar] at hNamed
                  have hRest :=
                    map_cons_iff (ih none (position + 1))
                      named out
                  simpa [resolveFrom, follow, hEnd, hChar,
                    ← hNamed, Except.toOption] using hRest
            · have hRest :=
                ih (some (start, body ++ [c]))
                  (position + c.utf8Size) out
              simpa [resolveFrom, follow, hAmp, hEnd]
                using hRest

/- Following a text goes on where its first part ended. -/
theorem follow_append
    (open? : Option (List Char))
    (first second : List Char) :
    follow open? (first ++ second) =
      (follow open? first).bind (fun r =>
        (follow r.1 second).map
          (fun q => (q.1, r.2 ++ q.2))) := by
  induction first generalizing open? with
  | nil =>
      simp [follow]
  | cons c first ih =>
      cases open? with
      | none =>
          by_cases hAmp : c = '&'
          · simp [follow, hAmp, ih]
          · simp only [List.cons_append, follow, hAmp,
              if_false, ih]
            cases follow none first with
            | none => rfl
            | some r => simp [Function.comp_def]
      | some body =>
          by_cases hAmp : c = '&'
          · simp [follow, hAmp]
          · by_cases hEnd : c = ';'
            · simp only [List.cons_append, follow, hEnd,
                if_true, ih]
              cases named? body with
              | none => rfl
              | some named =>
                  cases follow none first with
                  | none => rfl
                  | some r => simp [Function.comp_def]
            · simp [follow, hAmp, hEnd, ih]

/- What a text does is decided by its first part first. -/
theorem follow_append_some
    {open? last? : Option (List Char)}
    {first second out : List Char}
    (hFollow :
      follow open? (first ++ second) = some (last?, out)) :
    ∃ middle? before after,
      follow open? first = some (middle?, before) ∧
        follow middle? second = some (last?, after) ∧
          out = before ++ after := by
  rw [follow_append] at hFollow
  rcases Option.bind_eq_some_iff.mp hFollow with
    ⟨⟨middle?, before⟩, hFirst, hRest⟩
  rcases Option.map_eq_some_iff.mp hRest with
    ⟨⟨end?, after⟩, hSecond, hPair⟩
  cases hPair
  exact ⟨middle?, before, after, hFirst, hSecond, rfl⟩

/- A text without an ampersand holds no reference. -/
theorem follow_plain
    {text : List Char}
    (hPlain : '&' ∉ text) :
    follow none text = some (none, text) := by
  induction text with
  | nil => rfl
  | cons c text ih =>
      have hHead : c ≠ '&' := by
        intro hSame
        exact hPlain (by simp [hSame])
      have hTail : '&' ∉ text := by
        intro hMember
        exact hPlain (by simp [hMember])
      simp [follow, hHead, ih hTail]

/- No reference is open behind a semicolon. -/
theorem follow_semicolon
    {open? last? : Option (List Char)}
    {text out : List Char}
    (hFollow :
      follow open? (text ++ [';']) = some (last?, out)) :
    last? = none := by
  rcases follow_append_some hFollow with
    ⟨middle?, before, after, _, hEnd, _⟩
  cases middle? with
  | none =>
      simp [follow] at hEnd
      exact hEnd.1.symm
  | some body =>
      simp only [follow] at hEnd
      cases hNamed : named? body with
      | none => simp [hNamed] at hEnd
      | some named =>
          simp [hNamed] at hEnd
          exact hEnd.1.symm

/- No reference is open where an ampersand may follow. -/
theorem follow_before_ampersand
    {open? : Option (List Char)}
    {text : List Char}
    {result : Option (List Char) × List Char}
    (hFollow :
      follow open? ('&' :: text) = some result) :
    open? = none := by
  cases open? with
  | none => rfl
  | some body => simp [follow] at hFollow

end Reference

------------------------------------------------------------
-- Decoding In Parts
------------------------------------------------------------

/- When bytes are the text of character data. -/
theorem decodeText_ok_iff
    {raw : List UInt8}
    {text : String} :
    decodeText raw = .ok text ↔
      ∃ chars,
        Utf8.decode raw = .ok chars ∧
          Reference.follow none chars =
            some (none, text.toList) := by
  cases hDecode : Utf8.decode raw with
  | error fault => simp [decodeText, hDecode]
  | ok chars =>
      have hResolve := fun out =>
        Reference.resolveFrom_ok_iff
          (Utf8.byteLength chars) none 0 chars out
      cases hChars : Reference.resolve chars with
      | error fault =>
          have hNone : Reference.follow none chars ≠
              some (none, text.toList) := by
            intro hFollow
            have hOk := (hResolve text.toList).mpr hFollow
            rw [Reference.resolve, hOk] at hChars
            cases hChars
          simp [decodeText, hDecode, hChars, hNone]
      | ok out =>
          have hFollow := (hResolve out).mp hChars
          rw [Option.map_none] at hFollow
          simp only [decodeText, hDecode, hChars,
            Except.ok.injEq, exists_eq_left', hFollow,
            Option.some.injEq, Prod.mk.injEq, true_and]
          constructor
          · rintro rfl
            rw [String.toList_ofList]
          · intro hOut
            rw [hOut, String.ofList_toList]

/-
  Character data whose first part can be decoded is decoded
  part by part.
-/
theorem decodeText_append
    {first : List UInt8}
    {before : String}
    (hFirst : decodeText first = .ok before)
    (second : List UInt8)
    (text : String) :
    decodeText (first ++ second) = .ok text ↔
      ∃ after,
        decodeText second = .ok after ∧
          text = before ++ after := by
  rcases decodeText_ok_iff.mp hFirst with
    ⟨chars, hChars, hFollow⟩
  constructor
  · intro hWhole
    rcases decodeText_ok_iff.mp hWhole with
      ⟨all, hAll, hText⟩
    rcases Utf8.decode_append_ok hChars hAll with
      ⟨more, hSecond, rfl⟩
    rcases Reference.follow_append_some hText with
      ⟨middle?, out, rest, hOut, hRest, hSame⟩
    rw [hFollow] at hOut
    cases hOut
    refine ⟨String.ofList rest,
      decodeText_ok_iff.mpr ⟨more, hSecond, ?_⟩, ?_⟩
    · rw [hRest, String.toList_ofList]
    · apply String.toList_inj.mp
      rw [String.toList_append, String.toList_ofList, hSame]
  · rintro ⟨after, hSecond, rfl⟩
    rcases decodeText_ok_iff.mp hSecond with
      ⟨more, hMore, hOut⟩
    refine decodeText_ok_iff.mpr ⟨chars ++ more, ?_, ?_⟩
    · rw [Utf8.decode_append hChars, hMore]
      rfl
    · rw [Reference.follow_append, hFollow,
        Option.bind_some, hOut, String.toList_append]
      rfl

/- Decoded character data is UTF-8. -/
theorem decodeName_of_decodeText
    {raw : List UInt8}
    {text : String}
    (hText : decodeText raw = .ok text) :
    ∃ name, decodeName raw = .ok name := by
  rcases decodeText_ok_iff.mp hText with ⟨chars, hChars, _⟩
  exact ⟨String.ofList chars, by
    simp [decodeName, Utf8.decodeString, hChars,
      Except.map]⟩

theorem decodeText_nil :
    decodeText [] = .ok "" :=
  decodeText_ok_iff.mpr ⟨[], Utf8.decode_nil, rfl⟩

------------------------------------------------------------
-- The Complete Part Of A Text
------------------------------------------------------------

/-
  A text either goes on with the last ampersand, that of an
  open reference, where `withoutOpenReference` ends it, or is
  left whole and has no ampersand behind its last semicolon.
-/
theorem withoutOpenReference_cases (raw : List UInt8) :
    (∃ tail,
      raw =
          withoutOpenReference raw ++ byte '&' :: tail ∧
        byte ';' ∉ tail ∧ byte '&' ∉ tail) ∨
      withoutOpenReference raw = raw ∧
        ∃ closed plain,
          raw = closed ++ plain ∧ byte '&' ∉ plain ∧
            (closed = [] ∨
              ∃ before, closed = before ++ [byte ';']) := by
  have hParts :
      raw.reverse.takeWhile (fun b => b != byte '&') ++
        raw.reverse.dropWhile (fun b => b != byte '&') =
          raw.reverse :=
    List.takeWhile_append_dropWhile
  generalize hTail :
    raw.reverse.takeWhile (fun b => b != byte '&') = tail
    at hParts
  have hPlain : byte '&' ∉ tail := by
    intro hMember
    have hAll :
        (raw.reverse.takeWhile (fun b => b != byte '&')).all
          (fun b => b != byte '&') = true :=
      List.all_takeWhile
    rw [hTail] at hAll
    have hNe := List.all_eq_true.mp hAll _ hMember
    simp at hNe
  cases hBefore :
      raw.reverse.dropWhile (fun b => b != byte '&') with
  | nil =>
      rw [hBefore, List.append_nil] at hParts
      right
      have hLength : tail.length = raw.length := by
        rw [hParts, List.length_reverse]
      refine ⟨?_, [], raw, rfl, ?_, Or.inl rfl⟩
      · simp [withoutOpenReference, hTail, hLength]
      · intro hMember
        rw [hParts] at hPlain
        exact hPlain (by simpa using hMember)
  | cons b before =>
      have hAmp : b = byte '&' := by
        have hHead :=
          List.head?_dropWhile_not
            (fun b => b != byte '&') raw.reverse
        rw [hBefore] at hHead
        simpa using hHead
      rw [hBefore, hAmp] at hParts
      have hRaw : raw =
          before.reverse ++ byte '&' :: tail.reverse := by
        have hReverse := congrArg List.reverse hParts
        simpa using hReverse.symm
      have hLength : tail.length < raw.length := by
        rw [hRaw]
        simp
        omega
      by_cases hSemi : byte ';' ∈ tail
      · right
        rcases List.append_of_mem hSemi with
          ⟨after, inner, hSplit⟩
        refine ⟨?_,
          before.reverse ++
            byte '&' :: inner.reverse ++ [byte ';'],
          after.reverse, ?_, ?_,
          Or.inr ⟨_, rfl⟩⟩
        · simp [withoutOpenReference, hTail, hSemi]
        · rw [hRaw, hSplit]
          simp
        · intro hMember
          apply hPlain
          rw [hSplit]
          simp [List.mem_reverse.mp hMember]
      · left
        refine ⟨tail.reverse, ?_, by simpa using hSemi,
          by simpa using hPlain⟩
        have hTake : withoutOpenReference raw =
            before.reverse := by
          have hCount :
              raw.length - tail.length - 1 =
                before.reverse.length := by
            rw [hRaw]
            simp
            omega
          simp only [withoutOpenReference, hTail]
          rw [if_pos (by simp [hLength, hSemi]), hCount,
            hRaw, List.take_left]
        rw [hTake]
        exact hRaw

/- What is left of the end of a text is all of it or less. -/
theorem withoutOpenCharacter_le (raw : List UInt8) :
    withoutOpenCharacter raw ≤ raw.length := by
  unfold withoutOpenCharacter
  split
  · next index hDecode =>
      exact Nat.le_of_lt
        (Utf8.decode_take_of_incomplete hDecode).1
  · exact Nat.le_refl _

theorem completeTextLength_le (raw : List UInt8) :
    completeTextLength raw ≤ raw.length := by
  have hShorter :
      (withoutOpenReference raw).length ≤ raw.length := by
    rcases withoutOpenReference_cases raw with
      ⟨tail, hRaw, _⟩ | ⟨hSame, _⟩
    · have hLength := congrArg List.length hRaw
      simp at hLength
      omega
    · exact Nat.le_of_eq (congrArg List.length hSame)
  exact Nat.le_trans
    (withoutOpenCharacter_le (withoutOpenReference raw))
    hShorter

/- An unfinished character is looked for behind text. -/
theorem withoutOpenCharacter_append
    {first : List UInt8}
    {chars : List Char}
    (hFirst : Utf8.decode first = .ok chars)
    (second : List UInt8) :
    withoutOpenCharacter (first ++ second) =
      first.length + withoutOpenCharacter second := by
  unfold withoutOpenCharacter
  rw [Utf8.decode_append hFirst]
  cases Utf8.decode second with
  | ok rest => exact List.length_append
  | error fault =>
      rcases fault with ⟨index, length?⟩
      cases length? with
      | none => rfl
      | some length => exact List.length_append

/-
  Text that is not known to be wrong can be decoded up to its
  last unfinished character.
-/
theorem decode_take_complete
    {raw more : List UInt8}
    {all : List Char}
    (hAll : Utf8.decode (raw ++ more) = .ok all) :
    ∃ chars,
      Utf8.decode (raw.take (withoutOpenCharacter raw)) =
        .ok chars := by
  unfold withoutOpenCharacter
  split
  · next index hDecode =>
      exact (Utf8.decode_take_of_incomplete hDecode).2
  · next hOther =>
      rw [List.take_length]
      cases hDecode : Utf8.decode raw with
      | ok chars => exact ⟨chars, rfl⟩
      | error fault =>
          rcases fault with ⟨index, length?⟩
          cases length? with
          | none => exact absurd hDecode (hOther index)
          | some length =>
              rw [Utf8.decode_append_of_invalid hDecode]
                at hAll
              cases hAll

/-
  Decoding the start of a text leaves no reference open when
  no ampersand stands behind its last semicolon.
-/
theorem follow_of_closed
    {closed plain : List UInt8}
    {chars out : List Char}
    {last? : Option (List Char)}
    (hClosed :
      closed = [] ∨
        ∃ before, closed = before ++ [byte ';'])
    (hPlain : byte '&' ∉ plain)
    (hChars :
      Utf8.decode (closed ++ plain) = .ok chars)
    (hFollow :
      Reference.follow none chars = some (last?, out)) :
    last? = none := by
  have hRest : ∀ rest : List Char,
      Utf8.decode plain = .ok rest → '&' ∉ rest := by
    intro rest hDecode hMember
    exact hPlain
      (Utf8.ascii_mem_of_decode hDecode hMember (by decide))
  rcases hClosed with rfl | ⟨before, rfl⟩
  · rw [List.nil_append] at hChars
    rw [Reference.follow_plain (hRest chars hChars)]
      at hFollow
    cases hFollow
    rfl
  · rw [List.append_assoc, List.singleton_append] at hChars
    rcases Utf8.decode_ascii_split (by decide) hChars with
      ⟨first, rest, _, hPlainChars, rfl⟩
    have hSemi :
        first ++ Char.ofNat (byte ';').toNat :: rest =
          (first ++ [';']) ++ rest := by
      rw [List.append_assoc]
      rfl
    rw [hSemi] at hFollow
    rcases Reference.follow_append_some hFollow with
      ⟨middle?, _, _, hFirst, hSecond, _⟩
    have hMiddle := Reference.follow_semicolon hFirst
    subst hMiddle
    rw [Reference.follow_plain (hRest rest hPlainChars)]
      at hSecond
    cases hSecond
    rfl

/-
  Character data can be decoded up to a place between two
  characters when no ampersand stands behind the last
  semicolon in front of it.
-/
theorem decodeText_of_closed
    {closed plain : List UInt8}
    {chars rest out : List Char}
    (hClosed :
      closed = [] ∨
        ∃ before, closed = before ++ [byte ';'])
    (hPlain : byte '&' ∉ plain)
    (hChars :
      Utf8.decode (closed ++ plain) = .ok chars)
    (hFollow :
      Reference.follow none (chars ++ rest) =
        some (none, out)) :
    ∃ before, decodeText (closed ++ plain) = .ok before := by
  rcases Reference.follow_append_some hFollow with
    ⟨open?, first, _, hBefore, _, _⟩
  have hOpen :=
    follow_of_closed hClosed hPlain hChars hBefore
  subst hOpen
  refine ⟨String.ofList first,
    decodeText_ok_iff.mpr ⟨chars, hChars, ?_⟩⟩
  rw [hBefore, String.toList_ofList]

/- An unfinished character is not in front of a semicolon. -/
theorem take_withoutOpenCharacter
    {closed plain more : List UInt8}
    {all : List Char}
    (hClosed :
      closed = [] ∨
        ∃ before, closed = before ++ [byte ';'])
    (hAll :
      Utf8.decode ((closed ++ plain) ++ more) = .ok all) :
    ∃ count,
      (closed ++ plain).take
          (withoutOpenCharacter (closed ++ plain)) =
        closed ++ plain.take count := by
  rcases hClosed with rfl | ⟨before, rfl⟩
  · exact ⟨_, rfl⟩
  · rw [List.append_assoc, List.append_assoc,
      List.singleton_append] at hAll
    rcases Utf8.decode_ascii_split (by decide) hAll with
      ⟨first, _, hFirst, _, _⟩
    have hBefore :
        Utf8.decode (before ++ [byte ';']) =
          .ok (first ++ [';']) := by
      rw [Utf8.decode_append hFirst]
      rfl
    refine ⟨withoutOpenCharacter plain, ?_⟩
    rw [withoutOpenCharacter_append hBefore,
      List.take_length_add_append]

/-
  What a tokenizer takes from a text at the end of a chunk
  can be decoded whenever the whole text can.
-/
theorem decodeText_complete
    {raw more : List UInt8}
    {text : String}
    (hText : decodeText (raw ++ more) = .ok text) :
    ∃ before,
      decodeText (raw.take (completeTextLength raw)) =
        .ok before := by
  rcases decodeText_ok_iff.mp hText with
    ⟨all, hAll, hFollow⟩
  rcases withoutOpenReference_cases raw with
    ⟨tail, hRaw, _⟩ | ⟨hSame, closed, plain, hRaw, hPlain,
      hClosed⟩
  · -- an open reference follows the bytes that are taken
    rw [hRaw, List.append_assoc, List.cons_append] at hAll
    rcases Utf8.decode_ascii_split (by decide) hAll with
      ⟨chars, rest, hChars, _, rfl⟩
    have hLength : completeTextLength raw =
        (withoutOpenReference raw).length := by
      simp [completeTextLength, withoutOpenCharacter, hChars]
    have hTake :
        raw.take (completeTextLength raw) =
          withoutOpenReference raw := by
      rw [hLength]
      calc
        raw.take (withoutOpenReference raw).length =
            (withoutOpenReference raw ++
              byte '&' :: tail).take
                (withoutOpenReference raw).length := by
          rw [← hRaw]
        _ = withoutOpenReference raw := List.take_left
    rcases Reference.follow_append_some hFollow with
      ⟨open?, out, _, hBefore, hRest, _⟩
    have hOpen := Reference.follow_before_ampersand hRest
    subst hOpen
    refine ⟨String.ofList out, decodeText_ok_iff.mpr
      ⟨chars, ?_, ?_⟩⟩
    · rw [hTake]
      exact hChars
    · rw [hBefore, String.toList_ofList]
  · -- only an unfinished character is left behind
    have hLength :
        completeTextLength raw =
          withoutOpenCharacter raw := by
      rw [completeTextLength, hSame]
    rcases decode_take_complete hAll with ⟨chars, hChars⟩
    have hTake : ∃ count,
        raw.take (completeTextLength raw) =
          closed ++ plain.take count := by
      rw [hLength]
      rw [hRaw] at hAll ⊢
      exact take_withoutOpenCharacter hClosed hAll
    rcases hTake with ⟨count, hTake⟩
    rw [← hLength] at hChars
    have hWhole := hAll
    rw [← List.take_append_drop (completeTextLength raw) raw,
      List.append_assoc] at hWhole
    rcases Utf8.decode_append_ok hChars hWhole with
      ⟨rest, _, rfl⟩
    have hPart : byte '&' ∉ plain.take count := by
      intro hMember
      exact hPlain (List.mem_of_mem_take hMember)
    rw [hTake] at hChars ⊢
    exact decodeText_of_closed hClosed hPart hChars hFollow

end RdfXml
