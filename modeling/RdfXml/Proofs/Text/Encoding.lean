import RdfXml.Proofs.Text.Utf8

/-
  UTF-8 encoding and decoding undo one another.

  A character has one spelling in bytes.  Encoding writes it,
  decoding accepts it, and decoding accepts nothing else.

  Main declarations:
    * `Utf8.Spells`
    * `Utf8.spells_encodeChar`
    * `Utf8.decode_encode`
    * `Utf8.encode_of_decode`
    * `Utf8.ascii_mem_of_encode`
    * `Utf8.IsUnfinished`
    * `Utf8.isUnfinished_of_incomplete`
-/

------------------------------------------------------------
-- Spellings
------------------------------------------------------------

namespace RdfXml

namespace Utf8

/- The bytes are the character's in the shortest form. -/
def Spells (c : Char) : List UInt8 → Prop
| [b0] => c.toNat < 0x80 ∧ b0.toNat = c.toNat
| [b0, b1] =>
    0x80 ≤ c.toNat ∧ c.toNat < 0x800 ∧
      b0.toNat = 0xC0 + c.toNat / 64 ∧
      b1.toNat = 0x80 + c.toNat % 64
| [b0, b1, b2] =>
    0x800 ≤ c.toNat ∧ c.toNat < 0x10000 ∧
      b0.toNat = 0xE0 + c.toNat / 4096 ∧
      b1.toNat = 0x80 + c.toNat / 64 % 64 ∧
      b2.toNat = 0x80 + c.toNat % 64
| [b0, b1, b2, b3] =>
    0x10000 ≤ c.toNat ∧
      b0.toNat = 0xF0 + c.toNat / 262144 ∧
      b1.toNat = 0x80 + c.toNat / 4096 % 64 ∧
      b2.toNat = 0x80 + c.toNat / 64 % 64 ∧
      b3.toNat = 0x80 + c.toNat % 64
| _ => False

/- Characters are code points without the surrogates. -/
theorem toNat_valid (c : Char) :
    c.toNat < 0xD800 ∨
      0xDFFF < c.toNat ∧ c.toNat < 0x110000 :=
  c.valid

theorem toNat_ofNat_lt
    {code : Nat}
    (hByte : code < 0x100) :
    (UInt8.ofNat code).toNat = code := by
  rw [UInt8.toNat_ofNat']
  exact Nat.mod_eq_of_lt hByte

theorem spells_encodeChar (c : Char) :
    Spells c (String.utf8EncodeChar c) := by
  have hValid := toNat_valid c
  have hCode : c.val.toNat = c.toNat := rfl
  unfold String.utf8EncodeChar
  rw [hCode]
  dsimp only
  split
  · refine ⟨by omega, ?_⟩
    rw [toNat_ofNat_lt (by omega)]
  · split
    · refine ⟨by omega, by omega, ?_, ?_⟩
      · rw [toNat_ofNat_lt (by omega)]
        omega
      · rw [toNat_ofNat_lt (by omega)]
        omega
    · split
      · refine ⟨by omega, by omega, ?_, ?_, ?_⟩
        · rw [toNat_ofNat_lt (by omega)]
          omega
        · rw [toNat_ofNat_lt (by omega)]
          omega
        · rw [toNat_ofNat_lt (by omega)]
          omega
      · refine ⟨by omega, ?_, ?_, ?_, ?_⟩
        · rw [toNat_ofNat_lt (by omega)]
          omega
        · rw [toNat_ofNat_lt (by omega)]
          omega
        · rw [toNat_ofNat_lt (by omega)]
          omega
        · rw [toNat_ofNat_lt (by omega)]
          omega

/- A character has one spelling. -/
theorem Spells.unique
    {c : Char}
    {first second : List UInt8}
    (hFirst : Spells c first)
    (hSecond : Spells c second) :
    first = second := by
  have hByte : ∀ a b : UInt8, a.toNat = b.toNat → a = b :=
    fun _ _ hSame => UInt8.toNat_inj.mp hSame
  unfold Spells at hFirst hSecond
  split at hFirst
  · split at hSecond
    · rw [hByte _ _ (hFirst.2.trans hSecond.2.symm)]
    · omega
    · omega
    · omega
    · cases hSecond
  · split at hSecond
    · omega
    · rcases hFirst with ⟨_, _, hA0, hA1⟩
      rcases hSecond with ⟨_, _, hB0, hB1⟩
      rw [hByte _ _ (hA0.trans hB0.symm),
        hByte _ _ (hA1.trans hB1.symm)]
    · omega
    · omega
    · cases hSecond
  · split at hSecond
    · omega
    · omega
    · rcases hFirst with ⟨_, _, hA0, hA1, hA2⟩
      rcases hSecond with ⟨_, _, hB0, hB1, hB2⟩
      rw [hByte _ _ (hA0.trans hB0.symm),
        hByte _ _ (hA1.trans hB1.symm),
        hByte _ _ (hA2.trans hB2.symm)]
    · omega
    · cases hSecond
  · split at hSecond
    · omega
    · omega
    · omega
    · rcases hFirst with ⟨_, hA0, hA1, hA2, hA3⟩
      rcases hSecond with ⟨_, hB0, hB1, hB2, hB3⟩
      rw [hByte _ _ (hA0.trans hB0.symm),
        hByte _ _ (hA1.trans hB1.symm),
        hByte _ _ (hA2.trans hB2.symm),
        hByte _ _ (hA3.trans hB3.symm)]
    · cases hSecond
  · cases hFirst

/- Only characters of the ASCII range have its bytes. -/
theorem Spells.ascii
    {c : Char}
    {spelling : List UInt8}
    (hSpells : Spells c spelling)
    {b : UInt8}
    (hMember : b ∈ spelling)
    (hAscii : b.toNat < 0x80) :
    b.toNat = c.toNat := by
  unfold Spells at hSpells
  split at hSpells
  · rw [List.mem_singleton.mp hMember]
    exact hSpells.2
  · simp only [List.mem_cons, List.not_mem_nil, or_false]
      at hMember
    rcases hMember with rfl | rfl
    · omega
    · omega
  · simp only [List.mem_cons, List.not_mem_nil, or_false]
      at hMember
    rcases hMember with rfl | rfl | rfl
    · omega
    · omega
    · omega
  · simp only [List.mem_cons, List.not_mem_nil, or_false]
      at hMember
    rcases hMember with rfl | rfl | rfl | rfl
    · omega
    · omega
    · omega
    · omega
  · cases hSpells

------------------------------------------------------------
-- Reading A Spelling
------------------------------------------------------------

theorem lead_two
    {b : UInt8}
    (hLow : 0xC2 ≤ b.toNat)
    (hHigh : b.toNat < 0xE0) :
    lead b = .leads 1 0x80 0xBF := by
  unfold lead
  simp only [UInt8.lt_iff_toNat_lt, UInt8.reduceToNat]
  rw [if_neg (by omega), if_neg (by omega), if_pos hHigh]

theorem lead_three
    {b : UInt8}
    (hLow : 0xE0 ≤ b.toNat)
    (hHigh : b.toNat < 0xF0) :
    lead b =
      .leads 2 (if b.toNat = 0xE0 then 0xA0 else 0x80)
        (if b.toNat = 0xED then 0x9F else 0xBF) := by
  unfold lead
  simp only [UInt8.lt_iff_toNat_lt, ← UInt8.toNat_inj,
    UInt8.reduceToNat]
  rw [if_neg (by omega), if_neg (by omega),
    if_neg (by omega)]
  split
  · next hFirst => rw [if_neg (by omega)]
  · split
    · rfl
    · rfl

theorem lead_four
    {b : UInt8}
    (hLow : 0xF0 ≤ b.toNat)
    (hHigh : b.toNat ≤ 0xF4) :
    lead b =
      .leads 3 (if b.toNat = 0xF0 then 0x90 else 0x80)
        (if b.toNat = 0xF4 then 0x8F else 0xBF) := by
  unfold lead
  simp only [UInt8.lt_iff_toNat_lt, ← UInt8.toNat_inj,
    UInt8.reduceToNat]
  rw [if_neg (by omega), if_neg (by omega),
    if_neg (by omega), if_neg (by omega), if_neg (by omega),
    if_neg (by omega)]
  split
  · next hFirst => rw [if_neg (by omega)]
  · split
    · rw [if_neg (by omega)]
    · rw [if_pos (by omega), if_pos (by omega)]

theorem ofNat_toNat_eq
    {c : Char}
    {code : Nat}
    (hCode : code = c.toNat) :
    Char.ofNat code = c := by
  rw [hCode, Char.ofNat_toNat]

/- A byte behind a first byte of two to four. -/
theorem within_tail
    {b : UInt8}
    {code : Nat}
    (hByte : b.toNat = 0x80 + code % 64) :
    within 0x80 0xBF b = true := by
  rw [within_iff]
  simp only [UInt8.reduceToNat]
  omega

/- A spelling is read as its character. -/
theorem Spells.next
    {c : Char}
    {b : UInt8}
    {tail : List UInt8}
    (hSpells : Spells c (b :: tail))
    (more : List UInt8) :
    Utf8.next b (tail ++ more) =
      (.scalar c (tail.length + 1), more) := by
  have hValid := toNat_valid c
  unfold Spells at hSpells
  split at hSpells
  · next hParts =>
      cases hParts
      have hAscii : b < 0x80 := by
        rw [UInt8.lt_iff_toNat_lt]
        simp only [UInt8.reduceToNat]
        omega
      rw [List.nil_append, next_ascii hAscii,
        ofNat_toNat_eq hSpells.2]
      rfl
  · next b1 hParts =>
      cases hParts
      rcases hSpells with ⟨hLow, hHigh, hB, hB1⟩
      have hChar : scalar2 b b1 = c := by
        apply ofNat_toNat_eq
        simp only [payload]
        omega
      have hLead := lead_two (b := b) (by omega) (by omega)
      simp [Utf8.next, hLead, within_tail hB1, hChar]
  · next b1 b2 hParts =>
      cases hParts
      rcases hSpells with ⟨hLow, hHigh, hB, hB1, hB2⟩
      have hChar : scalar3 b b1 b2 = c := by
        apply ofNat_toNat_eq
        simp only [payload]
        omega
      have hLead := lead_three (b := b) (by omega) (by omega)
      have hFirst :
          within (if b.toNat = 0xE0 then 0xA0 else 0x80)
            (if b.toNat = 0xED then 0x9F else 0xBF)
            b1 = true := by
        rw [within_iff]
        split
        · split
          · omega
          · simp only [UInt8.reduceToNat]
            omega
        · split
          · simp only [UInt8.reduceToNat]
            omega
          · simp only [UInt8.reduceToNat]
            omega
      simp [Utf8.next, hLead, hFirst, within_tail hB2, hChar]
  · next b1 b2 b3 hParts =>
      cases hParts
      rcases hSpells with ⟨hLow, hB, hB1, hB2, hB3⟩
      have hChar : scalar4 b b1 b2 b3 = c := by
        apply ofNat_toNat_eq
        simp only [payload]
        omega
      have hLead := lead_four (b := b) (by omega) (by omega)
      have hFirst :
          within (if b.toNat = 0xF0 then 0x90 else 0x80)
            (if b.toNat = 0xF4 then 0x8F else 0xBF)
            b1 = true := by
        rw [within_iff]
        split
        · split
          · omega
          · simp only [UInt8.reduceToNat]
            omega
        · split
          · simp only [UInt8.reduceToNat]
            omega
          · simp only [UInt8.reduceToNat]
            omega
      simp [Utf8.next, hLead, hFirst, within_tail hB2,
        within_tail hB3, hChar]
  · cases hSpells

/- A byte behind a first byte, by its number. -/
def InTail (b : UInt8) : Prop :=
  0x80 ≤ b.toNat ∧ b.toNat ≤ 0xBF

theorem inTail_of_within
    {b : UInt8}
    (hWithin : ¬ (!within 0x80 0xBF b) = true) :
    InTail b := by
  simpa [InTail, within_iff] using hWithin

theorem spells_two
    {b b1 : UInt8}
    (hLow : 0xC2 ≤ b.toNat)
    (hHigh : b.toNat < 0xE0)
    (hFirst : InTail b1) :
    Spells (scalar2 b b1) [b, b1] := by
  unfold InTail at hFirst
  have hCode :
      (scalar2 b b1).toNat =
        (b.toNat % 32) * 64 + b1.toNat % 64 := by
    apply toNat_ofNat
    simp only [Nat.isValidChar, payload]
    omega
  refine ⟨?_, ?_, ?_, ?_⟩
  all_goals omega

/- Neither overlong forms nor surrogates are read. -/
theorem spells_three
    {b b1 b2 : UInt8}
    (hLow : 0xE0 ≤ b.toNat)
    (hHigh : b.toNat < 0xF0)
    (hFirst : InTail b1)
    (hShort : b.toNat = 0xE0 → 0xA0 ≤ b1.toNat)
    (hPlain : b.toNat = 0xED → b1.toNat ≤ 0x9F)
    (hSecond : InTail b2) :
    Spells (scalar3 b b1 b2) [b, b1, b2] := by
  unfold InTail at hFirst hSecond
  have hCode :
      (scalar3 b b1 b2).toNat =
        ((b.toNat % 16) * 64 + b1.toNat % 64) * 64 +
          b2.toNat % 64 := by
    apply toNat_ofNat
    simp only [Nat.isValidChar, payload]
    omega
  refine ⟨?_, ?_, ?_, ?_, ?_⟩
  all_goals omega

/- Nothing beyond the last code point is read. -/
theorem spells_four
    {b b1 b2 b3 : UInt8}
    (hLow : 0xF0 ≤ b.toNat)
    (hHigh : b.toNat ≤ 0xF4)
    (hFirst : InTail b1)
    (hShort : b.toNat = 0xF0 → 0x90 ≤ b1.toNat)
    (hLast : b.toNat = 0xF4 → b1.toNat ≤ 0x8F)
    (hSecond : InTail b2)
    (hThird : InTail b3) :
    Spells (scalar4 b b1 b2 b3) [b, b1, b2, b3] := by
  unfold InTail at hFirst hSecond hThird
  have hCode :
      (scalar4 b b1 b2 b3).toNat =
        (((b.toNat % 8) * 64 + b1.toNat % 64) * 64 +
          b2.toNat % 64) * 64 + b3.toNat % 64 := by
    apply toNat_ofNat
    simp only [Nat.isValidChar, payload]
    omega
  refine ⟨?_, ?_, ?_, ?_, ?_⟩
  all_goals omega

/- Only a byte of the ASCII range stands alone. -/
theorem lead_alone
    {b : UInt8}
    (hLead : lead b = .alone) :
    b.toNat < 0x80 := by
  unfold lead at hLead
  simp only [UInt8.lt_iff_toNat_lt, UInt8.reduceToNat]
    at hLead
  split at hLead
  · assumption
  · repeat' split at hLead
    all_goals cases hLead

/- Only the spelling of a character is read as it. -/
theorem spells_of_next
    {c : Char}
    {b : UInt8}
    {tail : List UInt8}
    {length : Nat}
    (hNext : Utf8.next b tail = (.scalar c length, [])) :
    Spells c (b :: tail) := by
  unfold Utf8.next at hNext
  split at hNext
  · next hLead =>
      cases hNext
      have hAscii := lead_alone hLead
      have hCode : (Char.ofNat b.toNat).toNat = b.toNat := by
        apply toNat_ofNat
        simp only [Nat.isValidChar]
        omega
      exact ⟨by omega, hCode.symm⟩
  · cases hNext
  · next count low high hLead =>
      have hCases := lead_cases hLead
      split at hNext
      · cases hNext
      split at hNext
      · cases hNext
      next b1 t1 hFirst =>
      have hBounds : low.toNat ≤ b1.toNat ∧
          b1.toNat ≤ high.toNat := by
        simpa [within_iff] using hFirst
      have hTail : InTail b1 := by
        unfold InTail
        omega
      split at hNext
      · next hCount =>
          cases hNext
          exact spells_two (by omega) (by omega) hTail
      split at hNext
      · cases hNext
      split at hNext
      · cases hNext
      next hCount b2 t2 hSecond =>
      have hSecond := inTail_of_within hSecond
      split at hNext
      · next hCount3 =>
          cases hNext
          exact spells_three (by omega) (by omega) hTail
            (by omega) (by omega) hSecond
      split at hNext
      · cases hNext
      split at hNext
      · cases hNext
      next hCount3 b3 t3 hThird =>
      have hThird := inTail_of_within hThird
      cases hNext
      exact spells_four (by omega) (by omega) hTail
        (by omega) (by omega) hSecond hThird

------------------------------------------------------------
-- Whole Texts
------------------------------------------------------------

theorem encode_append (first second : String) :
    encode (first ++ second) =
      encode first ++ encode second := by
  simp [encode]

theorem encode_ofList (chars : List Char) :
    encode (String.ofList chars) =
      chars.flatMap String.utf8EncodeChar := by
  simp [encode]

/- What is encoded is read back. -/
theorem decode_encode (text : String) :
    decode (encode text) = .ok text.toList := by
  unfold encode
  induction text.toList with
  | nil => exact decode_nil
  | cons c chars ih =>
      have hSpells := spells_encodeChar c
      rw [List.flatMap_cons]
      generalize String.utf8EncodeChar c = spelling
        at hSpells
      cases spelling with
      | nil => cases hSpells
      | cons b tail =>
          rw [List.cons_append, decode_cons, hSpells.next]
          dsimp only
          rw [ih]
          rfl

theorem decodeString_encode (text : String) :
    decodeString (encode text) = .ok text := by
  simp [decodeString, decode_encode, Except.map]

/- What is read is what encoding writes. -/
theorem encode_of_decode
    {raw : List UInt8}
    {chars : List Char}
    (hDecode : decode raw = .ok chars) :
    encode (String.ofList chars) = raw := by
  rw [encode_ofList]
  induction hLength : raw.length using Nat.strongRecOn
    generalizing raw chars with
  | ind count ih =>
      cases raw with
      | nil =>
          rw [decode_nil] at hDecode
          cases hDecode
          rfl
      | cons b t =>
          rcases decode_cons_ok hDecode with
            ⟨c, tail, rest, restChars, rfl, rfl, hRest,
              hMore, _⟩
          have hNext := hMore []
          rw [List.append_nil] at hNext
          have hSame :=
            (spells_encodeChar c).unique
              (spells_of_next hNext)
          have hShort : rest.length < count := by
            rw [← hLength]
            simp only [List.length_cons, List.length_append]
            omega
          rw [List.flatMap_cons, hSame, ih _ hShort hRest rfl]
          rfl

/- Different bytes are not read as the same text. -/
theorem decodeString_injective
    {first second : List UInt8}
    {text : String}
    (hFirst : decodeString first = .ok text)
    (hSecond : decodeString second = .ok text) :
    first = second := by
  have hEncode : ∀ raw,
      decodeString raw = .ok text → encode text = raw := by
    intro raw hText
    unfold decodeString at hText
    cases hDecode : decode raw with
    | error fault =>
        rw [hDecode] at hText
        cases hText
    | ok chars =>
        rw [hDecode] at hText
        cases hText
        exact encode_of_decode hDecode
  exact (hEncode first hFirst).symm.trans
    (hEncode second hSecond)

/- A byte of the ASCII range is a character of the text. -/
theorem ascii_mem_of_encode
    {text : String}
    {c : Char}
    (hAscii : c.toNat < 0x80)
    (hMember : byte c ∈ encode text) :
    c ∈ text.toList := by
  have hByte : (byte c).toNat = c.toNat :=
    toNat_ofNat_lt (by omega)
  rcases List.mem_flatMap.mp hMember with
    ⟨found, hFound, hSpelled⟩
  have hCode :=
    (spells_encodeChar found).ascii hSpelled
      (by rw [hByte]; exact hAscii)
  rw [hByte] at hCode
  have hSame : c = found := by
    rw [← Char.ofNat_toNat c, hCode, Char.ofNat_toNat]
  rw [hSame]
  exact hFound

------------------------------------------------------------
-- Unfinished Characters
------------------------------------------------------------

/- The bytes of a character begin with these and go on. -/
def IsUnfinished (part : List UInt8) : Prop :=
  ∃ c rest,
    rest ≠ [] ∧ part ++ rest = String.utf8EncodeChar c

/- Some byte may follow every first byte that asks for one. -/
theorem lead_within
    {b low high : UInt8}
    {count : Nat}
    (hLead : lead b = .leads count low high) :
    within low high low = true := by
  unfold lead at hLead
  repeat' split at hLead
  all_goals cases hLead
  all_goals decide

/- Bytes behind a first byte that make up a character. -/
def Completes (b : UInt8) (tail : List UInt8) : Prop :=
  ∃ c length, next b tail = (.scalar c length, [])

section Leads

variable
  {b low high b1 : UInt8}
  {count : Nat}
  (hLead : lead b = .leads count low high)
  (hFirst : within low high b1 = true)

include hLead hFirst

/- The last of four bytes may be any that continues. -/
theorem completes_third
    {b2 : UInt8}
    (hTwo : count ≠ 1)
    (hThree : count ≠ 2)
    (hSecond : within 0x80 0xBF b2 = true) :
    Completes b [b1, b2, 0x80] := by
  have hLast : within 0x80 0xBF 0x80 = true := by
    decide
  unfold Completes
  simp only [next, hLead, hFirst, hTwo, hThree, hSecond,
    hLast, Bool.not_true, Bool.false_eq_true, if_false]
  exact ⟨_, _, rfl⟩

/- A second byte can go on with any that continues. -/
theorem completes_second (hTwo : count ≠ 1) :
    ∃ more, Completes b (b1 :: 0x80 :: more) := by
  have hSecond : within 0x80 0xBF 0x80 = true := by
    decide
  by_cases hThree : count = 2
  · refine ⟨[], ?_⟩
    unfold Completes
    simp only [next, hLead, hFirst, hThree, hSecond,
      Bool.not_true, Bool.false_eq_true, if_false,
      Nat.reduceEqDiff, if_true]
    exact ⟨_, _, rfl⟩
  · exact ⟨[0x80],
      completes_third hLead hFirst hTwo hThree hSecond⟩

/- A second byte within the bounds can be gone on with. -/
theorem completes_first :
    ∃ more, Completes b (b1 :: more) := by
  by_cases hTwo : count = 1
  · refine ⟨[], ?_⟩
    unfold Completes
    simp only [next, hLead, hFirst, hTwo, Bool.not_true,
      Bool.false_eq_true, if_false, if_true]
    exact ⟨_, _, rfl⟩
  · rcases completes_second hLead hFirst hTwo with
      ⟨more, hMore⟩
    exact ⟨_, hMore⟩

end Leads

/- A sequence that is cut off can go on to a character. -/
theorem next_cut
    {b : UInt8}
    {t rest : List UInt8}
    (hNext : next b t = (.cut, rest)) :
    ∃ more, more ≠ [] ∧ Completes b (t ++ more) := by
  unfold next at hNext
  split at hNext
  · cases hNext
  · cases hNext
  · next count low high hLead =>
      split at hNext
      · rcases completes_first hLead (lead_within hLead) with
          ⟨more, hMore⟩
        exact ⟨low :: more, List.cons_ne_nil _ _, hMore⟩
      split at hNext
      · cases hNext
      next b1 t1 hNot =>
      have hFirst : within low high b1 = true := by
        simpa using hNot
      split at hNext
      · cases hNext
      next hTwo =>
      split at hNext
      · rcases completes_second hLead hFirst hTwo with
          ⟨more, hMore⟩
        exact ⟨0x80 :: more, List.cons_ne_nil _ _, hMore⟩
      split at hNext
      · cases hNext
      next b2 t2 hNot =>
      have hSecond : within 0x80 0xBF b2 = true := by
        simpa using hNot
      split at hNext
      · cases hNext
      next hThree =>
      split at hNext
      · exact ⟨[0x80], List.cons_ne_nil _ _,
          completes_third hLead hFirst hTwo hThree hSecond⟩
      split at hNext
      · cases hNext
      · cases hNext

/- What decoding finds incomplete is an unfinished character. -/
theorem isUnfinished_of_incomplete
    {input : List UInt8}
    {index : Nat}
    (hDecode : decode input = .error ⟨index, none⟩) :
    IsUnfinished (input.drop index) := by
  induction hLength : input.length using Nat.strongRecOn
    generalizing input index with
  | ind count ih =>
      cases input with
      | nil =>
          rw [decode_nil] at hDecode
          cases hDecode
      | cons b t =>
          rw [decode_cons] at hDecode
          rcases hNext : next b t with ⟨head, rest⟩
          rw [hNext] at hDecode
          cases head with
          | scalar c length =>
              rcases next_scalar hNext with
                ⟨tail, rfl, rfl, _, _⟩
              dsimp only at hDecode
              cases hRest : decode rest with
              | ok restChars =>
                  rw [hRest] at hDecode
                  cases hDecode
              | error fault =>
                  rcases fault with ⟨inner, length?⟩
                  rw [hRest] at hDecode
                  cases hDecode
                  have hShort : rest.length < count := by
                    rw [← hLength]
                    simp only [List.length_cons,
                      List.length_append]
                    omega
                  rw [show tail.length + 1 + inner =
                      (tail.length + inner) + 1 by omega,
                    List.drop_succ_cons,
                    List.drop_length_add_append]
                  exact ih _ hShort hRest rfl
          | invalid length => cases hDecode
          | cut =>
              cases hDecode
              rcases next_cut hNext with
                ⟨more, hSome, c, length, hWhole⟩
              refine ⟨c, more, hSome, ?_⟩
              exact (spells_of_next hWhole).unique
                (spells_encodeChar c)

namespace IsUnfinished

/- Less of an unfinished character is unfinished as well. -/
theorem front
    {first second : List UInt8}
    (hPart : IsUnfinished (first ++ second)) :
    IsUnfinished first := by
  rcases hPart with ⟨c, rest, hSome, hWhole⟩
  rw [List.append_assoc] at hWhole
  exact ⟨c, second ++ rest,
    List.append_ne_nil_of_right_ne_nil second hSome, hWhole⟩

theorem length_le
    {part : List UInt8}
    (hPart : IsUnfinished part) :
    part.length ≤ 3 := by
  rcases hPart with ⟨c, rest, hSome, hWhole⟩
  have hLength := congrArg List.length hWhole
  rw [List.length_append, String.length_utf8EncodeChar]
    at hLength
  have hFour := c.utf8Size_le_four
  have hRest := List.length_pos_iff.mpr hSome
  omega

/- An unfinished character is not text of its own. -/
theorem eq_nil_of_decode
    {part : List UInt8}
    {chars : List Char}
    (hPart : IsUnfinished part)
    (hDecode : decode part = .ok chars) :
    part = [] := by
  rcases hPart with ⟨c, rest, hSome, hWhole⟩
  have hChar :
      decode (part ++ rest) = .ok [c] := by
    have hText := decode_encode (String.ofList [c])
    rw [encode_ofList, String.toList_ofList] at hText
    rw [hWhole]
    simpa using hText
  rcases decode_append_ok hDecode hChar with
    ⟨more, hMore, hParts⟩
  cases chars with
  | nil => exact (encode_of_decode hDecode).symm
  | cons first chars =>
      have hNone : more = [] := by
        have hTail := (List.cons.inj hParts).2
        exact (List.append_eq_nil_iff.mp hTail.symm).2
      rw [hNone] at hMore
      exact absurd (encode_of_decode hMore).symm hSome

end IsUnfinished

end Utf8

end RdfXml
