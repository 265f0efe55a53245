import RdfXml.Text.Utf8

/-
  Strict UTF-8 decoding as a homomorphism.

  A byte list that is UTF-8 can be decoded on its own,
  whatever follows it; a byte of the ASCII range is never
  part of a longer sequence; and bytes that are wrong stay
  wrong when more bytes follow.

  Main declarations:
    * `Utf8.next`
    * `Utf8.decode_cons`
    * `Utf8.decode_append`
    * `Utf8.decode_take_of_incomplete`
    * `Utf8.decode_append_of_invalid`
    * `Utf8.decode_ascii_split`
    * `Utf8.ascii_mem_of_decode`
    * `Utf8.decode_lead_suffix`
-/

------------------------------------------------------------
-- One Sequence
------------------------------------------------------------

namespace RdfXml

namespace Utf8

/-
  The sequence that a byte list begins with, and the bytes
  that follow it.
-/
def next
    (b0 : UInt8)
    (t0 : List UInt8) : Sequence × List UInt8 :=
  match lead b0 with
  | .alone => (.scalar (Char.ofNat b0.toNat) 1, t0)
  | .invalid => (.invalid 1, t0)
  | .leads count low high =>
      match t0 with
      | [] => (.cut, [])
      | b1 :: t1 =>
          if !within low high b1 then
            (.invalid 1, b1 :: t1)
          else if count = 1 then
            (.scalar (scalar2 b0 b1) 2, t1)
          else
            match t1 with
            | [] => (.cut, [])
            | b2 :: t2 =>
                if !within 0x80 0xBF b2 then
                  (.invalid 2, b2 :: t2)
                else if count = 2 then
                  (.scalar (scalar3 b0 b1 b2) 3, t2)
                else
                  match t2 with
                  | [] => (.cut, [])
                  | b3 :: t3 =>
                      if !within 0x80 0xBF b3 then
                        (.invalid 3, b3 :: t3)
                      else
                        (.scalar (scalar4 b0 b1 b2 b3) 4,
                          t3)

theorem sequences_cons
    (b : UInt8)
    (t : List UInt8) :
    sequences (b :: t) =
      (next b t).1 :: sequences (next b t).2 := by
  rw [sequences.eq_def, next]
  dsimp only
  repeat' split
  all_goals simp_all [sequences.eq_1]

/- A byte of the ASCII range is a character of its own. -/
theorem next_ascii
    {b : UInt8}
    (hAscii : b < 0x80)
    (t : List UInt8) :
    next b t = (.scalar (Char.ofNat b.toNat) 1, t) := by
  simp [next, lead, hAscii]

/- What a first byte may ask for. -/
theorem lead_cases
    {b low high : UInt8}
    {count : Nat}
    (hLead : lead b = .leads count low high) :
    0xC2 ≤ b.toNat ∧ 0x80 ≤ low.toNat ∧
      high.toNat ≤ 0xBF ∧
      (count = 1 ∧ b.toNat < 0xE0 ∨
        count = 2 ∧ b.toNat = 0xE0 ∧ low.toNat = 0xA0 ∨
        count = 2 ∧ b.toNat = 0xED ∧ high.toNat = 0x9F ∨
        count = 2 ∧ 0xE0 < b.toNat ∧ b.toNat < 0xF0 ∧
          b.toNat ≠ 0xED ∨
        count = 3 ∧ b.toNat = 0xF0 ∧ low.toNat = 0x90 ∨
        count = 3 ∧ 0xF0 < b.toNat ∧ b.toNat < 0xF4 ∨
        count = 3 ∧ b.toNat = 0xF4 ∧ high.toNat = 0x8F) := by
  unfold lead at hLead
  simp only [UInt8.lt_iff_toNat_lt, ← UInt8.toNat_inj,
    UInt8.reduceToNat] at hLead
  repeat' split at hLead
  all_goals cases hLead
  all_goals simp
  all_goals omega

theorem within_iff
    {low high b : UInt8} :
    within low high b = true ↔
      low.toNat ≤ b.toNat ∧ b.toNat ≤ high.toNat := by
  simp [within, UInt8.le_iff_toNat_le]

theorem toNat_ofNat
    {code : Nat}
    (hValid : code.isValidChar) :
    (Char.ofNat code).toNat = code := by
  unfold Char.ofNat
  rw [dif_pos hValid]
  rfl

/- A code number beyond ASCII gives a character beyond it. -/
theorem ofNat_high
    {code : Nat}
    (hHigh : 0x80 ≤ code)
    (hValid : code.isValidChar) :
    0x80 ≤ (Char.ofNat code).toNat := by
  rw [toNat_ofNat hValid]
  exact hHigh

/-
  An encoded character is read from its own bytes alone.
  Either it is a single byte of the ASCII range, or neither
  it nor any of its bytes is in that range.
-/
theorem next_scalar
    {b : UInt8}
    {t rest : List UInt8}
    {c : Char}
    {length : Nat}
    (hNext : next b t = (.scalar c length, rest)) :
    ∃ tail,
      t = tail ++ rest ∧ length = tail.length + 1 ∧
        (∀ more, next b (tail ++ more) =
          (.scalar c length, more)) ∧
        (0x80 ≤ b.toNat →
          0x80 ≤ c.toNat ∧ ∀ x ∈ tail, 0x80 ≤ x.toNat) := by
  unfold next at hNext
  split at hNext
  · next hLead =>
      cases hNext
      refine ⟨[], rfl, rfl, ?_, ?_⟩
      · intro more
        simp [next, hLead]
      · intro hHigh
        unfold lead at hLead
        simp only [UInt8.lt_iff_toNat_lt,
          UInt8.reduceToNat] at hLead
        rw [if_neg (by omega)] at hLead
        repeat' split at hLead
        all_goals cases hLead
  · cases hNext
  · next count low high hLead =>
      have hCases := lead_cases hLead
      split at hNext
      · cases hNext
      · next b1 t1 =>
          split at hNext
          · cases hNext
          · next hFirst =>
              have hBounds : low.toNat ≤ b1.toNat ∧
                  b1.toNat ≤ high.toNat := by
                simpa [within_iff] using hFirst
              split at hNext
              · next hCount =>
                  cases hNext
                  refine ⟨[b1], rfl, rfl, ?_, ?_⟩
                  · intro more
                    simp [next, hLead, hFirst, hCount]
                  · intro hHigh
                    refine ⟨?_, by simp; omega⟩
                    apply ofNat_high
                    · simp only [payload]
                      omega
                    · simp only [payload, Nat.isValidChar]
                      omega
              · next hCount =>
                  split at hNext
                  · cases hNext
                  · next b2 t2 =>
                      split at hNext
                      · cases hNext
                      · next hSecond =>
                          have hTail : 0x80 ≤ b2.toNat ∧
                              b2.toNat ≤ 0xBF := by
                            simpa [within_iff] using hSecond
                          split at hNext
                          · next hCount3 =>
                              cases hNext
                              refine
                                ⟨[b1, b2], rfl, rfl, ?_, ?_⟩
                              · intro more
                                simp [next, hLead, hFirst,
                                  hSecond, hCount3]
                              · intro hHigh
                                refine ⟨?_, by simp; omega⟩
                                apply ofNat_high
                                · simp only [payload]
                                  omega
                                · simp only [payload,
                                    Nat.isValidChar]
                                  omega
                          · next hCount3 =>
                              split at hNext
                              · cases hNext
                              · next b3 t3 =>
                                  split at hNext
                                  · cases hNext
                                  · next hThird =>
                                      have hLast :
                                          0x80 ≤ b3.toNat ∧
                                            b3.toNat ≤
                                              0xBF := by
                                        simpa [within_iff]
                                          using hThird
                                      cases hNext
                                      refine ⟨[b1, b2, b3],
                                        rfl, rfl, ?_, ?_⟩
                                      · intro more
                                        simp [next, hLead,
                                          hFirst, hSecond,
                                          hThird, hCount,
                                          hCount3]
                                      · intro hHigh
                                        refine
                                          ⟨?_, by simp; omega⟩
                                        apply ofNat_high
                                        · simp only [payload]
                                          omega
                                        · simp only [payload,
                                            Nat.isValidChar]
                                          omega

/- Bytes that begin no character go on beginning none. -/
theorem next_invalid
    {b : UInt8}
    {t rest : List UInt8}
    {length : Nat}
    (hNext : next b t = (.invalid length, rest))
    (more : List UInt8) :
    ∃ rest,
      next b (t ++ more) = (.invalid length, rest) := by
  unfold next at hNext
  split at hNext
  · cases hNext
  · next hLead =>
      cases hNext
      exact ⟨t ++ more, by simp [next, hLead]⟩
  · next count low high hLead =>
      split at hNext
      · cases hNext
      · next b1 t1 =>
          split at hNext
          · next hFirst =>
              cases hNext
              exact ⟨_, by simp [next, hLead, hFirst]; rfl⟩
          · next hFirst =>
              split at hNext
              · cases hNext
              · next hCount =>
                  split at hNext
                  · cases hNext
                  · next b2 t2 =>
                      split at hNext
                      · next hSecond =>
                          cases hNext
                          exact ⟨_, by
                            simp [next, hLead, hFirst,
                              hCount, hSecond]
                            rfl⟩
                      · next hSecond =>
                          split at hNext
                          · cases hNext
                          · next hCount3 =>
                              split at hNext
                              · cases hNext
                              · next b3 t3 =>
                                  split at hNext
                                  · next hThird =>
                                      cases hNext
                                      exact ⟨_, by
                                        simp [next, hLead,
                                          hFirst, hCount,
                                          hSecond, hCount3,
                                          hThird]
                                        rfl⟩
                                  · cases hNext

------------------------------------------------------------
-- Decoding In Parts
------------------------------------------------------------

/- The same fault with `count` bytes in front. -/
def Fault.shift
    (count : Nat)
    (fault : Fault) : Fault :=
  { fault with index := count + fault.index }

theorem Fault.shift_shift
    (first second : Nat)
    (fault : Fault) :
    (fault.shift second).shift first =
      fault.shift (first + second) := by
  simp [Fault.shift, Nat.add_assoc]

theorem collect_shift
    (count index : Nat)
    (list : List Sequence) :
    collect (count + index) list =
      (collect index list).mapError (Fault.shift count) := by
  induction list generalizing index with
  | nil => rfl
  | cons head list ih =>
      cases head with
      | scalar c length =>
          simp only [collect]
          rw [Nat.add_assoc, ih (index + length)]
          cases collect (index + length) list with
          | error fault => rfl
          | ok chars => rfl
      | invalid length => rfl
      | cut => rfl

/- Decoding goes on behind the first sequence. -/
theorem decode_cons
    (b : UInt8)
    (t : List UInt8) :
    decode (b :: t) =
      match next b t with
      | (.scalar c length, rest) =>
          ((decode rest).mapError (Fault.shift length)).map
            (c :: ·)
      | (.invalid length, _) => .error ⟨0, some length⟩
      | (.cut, _) => .error ⟨0, none⟩ := by
  rw [decode, sequences_cons]
  rcases next b t with ⟨head, rest⟩
  cases head with
  | scalar c length =>
      have hShift :=
        collect_shift length 0 (sequences rest)
      rw [Nat.add_zero] at hShift
      simp only [collect, Nat.zero_add, hShift]
      rfl
  | invalid length => rfl
  | cut => rfl

theorem decode_nil :
    decode [] = .ok [] := by
  simp [decode, sequences, collect]

/-
  What text decodes to begins with one character, and its
  bytes begin with those of that character.
-/
theorem decode_cons_ok
    {b : UInt8}
    {t : List UInt8}
    {chars : List Char}
    (hDecode : decode (b :: t) = .ok chars) :
    ∃ c tail rest restChars,
      t = tail ++ rest ∧ chars = c :: restChars ∧
        decode rest = .ok restChars ∧
        (∀ more, next b (tail ++ more) =
          (.scalar c (tail.length + 1), more)) ∧
        (0x80 ≤ b.toNat →
          0x80 ≤ c.toNat ∧ ∀ x ∈ tail, 0x80 ≤ x.toNat) := by
  rw [decode_cons] at hDecode
  rcases hNext : next b t with ⟨head, rest⟩
  rw [hNext] at hDecode
  cases head with
  | scalar c length =>
      rcases next_scalar hNext with
        ⟨tail, hParts, rfl, hMore, hHigh⟩
      dsimp only at hDecode
      cases hRest : decode rest with
      | error fault =>
          rw [hRest] at hDecode
          cases hDecode
      | ok restChars =>
          rw [hRest] at hDecode
          cases hDecode
          exact ⟨c, tail, rest, restChars, hParts, rfl,
            hRest, hMore, hHigh⟩
  | invalid length => cases hDecode
  | cut => cases hDecode

/- Text can be decoded before what follows it. -/
theorem decode_append
    {first : List UInt8}
    {chars : List Char}
    (hFirst : decode first = .ok chars)
    (second : List UInt8) :
    decode (first ++ second) =
      ((decode second).mapError
        (Fault.shift first.length)).map (chars ++ ·) := by
  induction hLength : first.length using Nat.strongRecOn
    generalizing first chars with
  | ind count ih =>
      cases first with
      | nil =>
          rw [decode_nil] at hFirst
          cases hFirst
          rw [List.nil_append, ← hLength]
          cases decode second with
          | error fault =>
              change Except.error fault = .error (fault.shift 0)
              simp [Fault.shift]
          | ok rest => rfl
      | cons b t =>
          rcases decode_cons_ok hFirst with
            ⟨c, tail, rest, restChars, rfl, rfl, hRest,
              hMore, _⟩
          have hShort : rest.length < count := by
            rw [← hLength]
            simp only [List.length_cons, List.length_append]
            omega
          have hSplit := ih _ hShort hRest rfl
          rw [List.cons_append, List.append_assoc,
            decode_cons, hMore]
          dsimp only
          rw [hSplit]
          cases decode second with
          | error fault =>
              apply congrArg Except.error
              rw [Fault.shift_shift, ← hLength,
                List.length_cons, List.length_append,
                Nat.add_right_comm]
          | ok more => rfl

/- What follows the first part of a text is text as well. -/
theorem decode_append_ok
    {first second : List UInt8}
    {chars all : List Char}
    (hFirst : decode first = .ok chars)
    (hAll : decode (first ++ second) = .ok all) :
    ∃ rest,
      decode second = .ok rest ∧ all = chars ++ rest := by
  rw [decode_append hFirst] at hAll
  cases hSecond : decode second with
  | error fault =>
      rw [hSecond] at hAll
      cases hAll
  | ok rest =>
      rw [hSecond] at hAll
      cases hAll
      exact ⟨rest, rfl, rfl⟩

/-
  An unfinished character stands at the end, behind bytes
  that are text.
-/
theorem decode_take_of_incomplete
    {input : List UInt8}
    {index : Nat}
    (hDecode : decode input = .error ⟨index, none⟩) :
    index < input.length ∧
      ∃ chars, decode (input.take index) = .ok chars := by
  induction hLength : input.length using Nat.strongRecOn
    generalizing input index with
  | ind count ih =>
      cases input with
      | nil =>
          rw [decode_nil] at hDecode
          cases hDecode
      | cons b t =>
          rw [decode_cons] at hDecode
          rcases hNext : next b t with ⟨head, rest⟩
          rw [hNext] at hDecode
          cases head with
          | scalar c length =>
              rcases next_scalar hNext with
                ⟨tail, rfl, rfl, hMore, _⟩
              dsimp only at hDecode
              cases hRest : decode rest with
              | ok restChars =>
                  rw [hRest] at hDecode
                  cases hDecode
              | error fault =>
                  rcases fault with ⟨inner, length?⟩
                  rw [hRest] at hDecode
                  cases hDecode
                  have hShort : rest.length < count := by
                    rw [← hLength]
                    simp only [List.length_cons,
                      List.length_append]
                    omega
                  rcases ih _ hShort hRest rfl with
                    ⟨hIndex, chars, hTake⟩
                  rw [← hLength]
                  refine ⟨by simp; omega, c :: chars, ?_⟩
                  rw [show tail.length + 1 + inner =
                      (tail.length + inner) + 1 by omega,
                    List.take_succ_cons,
                    List.take_length_add_append, decode_cons,
                    hMore]
                  dsimp only
                  rw [hTake]
                  rfl
          | invalid length => cases hDecode
          | cut =>
              cases hDecode
              rw [← hLength]
              exact ⟨by simp, [], decode_nil⟩

/- Bytes that are no text do not become text. -/
theorem decode_append_of_invalid
    {input : List UInt8}
    {index length : Nat}
    (hDecode :
      decode input = .error ⟨index, some length⟩)
    (more : List UInt8) :
    decode (input ++ more) =
      .error ⟨index, some length⟩ := by
  induction hLength : input.length using Nat.strongRecOn
    generalizing input index with
  | ind count ih =>
      cases input with
      | nil =>
          rw [decode_nil] at hDecode
          cases hDecode
      | cons b t =>
          rw [decode_cons] at hDecode
          rcases hNext : next b t with ⟨head, rest⟩
          rw [hNext] at hDecode
          cases head with
          | scalar c count =>
              rcases next_scalar hNext with
                ⟨tail, rfl, rfl, hMore, _⟩
              dsimp only at hDecode
              cases hRest : decode rest with
              | ok restChars =>
                  rw [hRest] at hDecode
                  cases hDecode
              | error fault =>
                  rcases fault with ⟨inner, length?⟩
                  rw [hRest] at hDecode
                  cases hDecode
                  have hShort : rest.length < count := by
                    rw [← hLength]
                    simp only [List.length_cons,
                      List.length_append]
                    omega
                  have hLater := ih _ hShort hRest rfl
                  rw [List.cons_append, List.append_assoc,
                    decode_cons, hMore]
                  dsimp only
                  rw [hLater]
                  rfl
          | invalid count =>
              cases hDecode
              rcases next_invalid hNext more with ⟨rest, hMore⟩
              rw [List.cons_append, decode_cons, hMore]
          | cut => cases hDecode

------------------------------------------------------------
-- ASCII Bytes In Text
------------------------------------------------------------

theorem decode_ascii_cons
    {x : UInt8}
    (hAscii : x.toNat < 0x80)
    (rest : List UInt8) :
    decode (x :: rest) =
      ((decode rest).mapError (Fault.shift 1)).map
        (Char.ofNat x.toNat :: ·) := by
  have hLow : x < 0x80 := by
    simpa [UInt8.lt_iff_toNat_lt] using hAscii
  rw [decode_cons, next_ascii hLow]

/-
  A byte that is not in the first part of a list is in the
  other one, with all that follows it.
-/
theorem append_split
    {front second tail rest : List UInt8}
    {x : UInt8}
    (hParts : front ++ x :: second = tail ++ rest)
    (hOut : x ∉ tail) :
    ∃ middle,
      front = tail ++ middle ∧
        rest = middle ++ x :: second := by
  rcases List.append_eq_append_iff.mp hParts with
    ⟨middle, hTail, hRight⟩ | ⟨middle, hFront, hRest⟩
  · cases middle with
    | nil =>
        refine ⟨[], ?_, ?_⟩
        · rw [hTail]
          simp
        · rw [List.nil_append] at hRight
          rw [hRight]
          rfl
    | cons y middle =>
        rw [List.cons_append] at hRight
        have hSame : x = y := (List.cons.inj hRight).1
        apply absurd _ hOut
        rw [hTail, hSame]
        simp
  · exact ⟨middle, hFront, hRest⟩

/- A byte of the ASCII range splits a text in two. -/
theorem decode_ascii_split
    {first second : List UInt8}
    {x : UInt8}
    {chars : List Char}
    (hAscii : x.toNat < 0x80)
    (hDecode :
      decode (first ++ x :: second) = .ok chars) :
    ∃ firstChars secondChars,
      decode first = .ok firstChars ∧
        decode second = .ok secondChars ∧
        chars =
          firstChars ++
            Char.ofNat x.toNat :: secondChars := by
  induction hLength : first.length using Nat.strongRecOn
    generalizing first chars with
  | ind count ih =>
      cases first with
      | nil =>
          rw [List.nil_append, decode_ascii_cons hAscii]
            at hDecode
          cases hSecond : decode second with
          | error fault =>
              rw [hSecond] at hDecode
              cases hDecode
          | ok secondChars =>
              rw [hSecond] at hDecode
              cases hDecode
              exact ⟨[], secondChars, decode_nil, rfl, rfl⟩
      | cons b t =>
          rw [List.cons_append] at hDecode
          rcases decode_cons_ok hDecode with
            ⟨c, tail, rest, restChars, hParts, rfl, hRest,
              hMore, hHigh⟩
          have hOut : x ∉ tail := by
            intro hMember
            by_cases hLead : 0x80 ≤ b.toNat
            · have hLow := (hHigh hLead).2 x hMember
              omega
            · have hLow : b < 0x80 := by
                simp only [UInt8.lt_iff_toNat_lt,
                  UInt8.reduceToNat]
                omega
              have hAlone := hMore []
              rw [next_ascii hLow] at hAlone
              simp only [Prod.mk.injEq,
                Sequence.scalar.injEq] at hAlone
              have hNone : tail = [] := by
                simpa using hAlone.1.2
              rw [hNone] at hMember
              cases hMember
          rcases append_split hParts hOut with
            ⟨middle, rfl, rfl⟩
          have hShort : middle.length < count := by
            rw [← hLength]
            simp only [List.length_cons, List.length_append]
            omega
          rcases ih _ hShort hRest rfl with
            ⟨firstChars, secondChars, hFirst, hSecond, rfl⟩
          refine
            ⟨c :: firstChars, secondChars, ?_, hSecond, rfl⟩
          rw [decode_cons, hMore]
          dsimp only
          rw [hFirst]
          rfl

/-
  A character of the ASCII range comes from the byte that
  stands for it.
-/
theorem ascii_mem_of_decode
    {input : List UInt8}
    {chars : List Char}
    {c : Char}
    (hDecode : decode input = .ok chars)
    (hMember : c ∈ chars)
    (hAscii : c.toNat < 0x80) :
    byte c ∈ input := by
  induction hLength : input.length using Nat.strongRecOn
    generalizing input chars with
  | ind count ih =>
      cases input with
      | nil =>
          rw [decode_nil] at hDecode
          cases hDecode
          cases hMember
      | cons b t =>
          rcases decode_cons_ok hDecode with
            ⟨c', tail, rest, restChars, rfl, rfl, hRest, hMore,
              hHigh⟩
          rcases List.mem_cons.mp hMember with rfl | hLater
          · have hLow : b < 0x80 := by
              simp only [UInt8.lt_iff_toNat_lt,
                UInt8.reduceToNat]
              by_cases hLead : 0x80 ≤ b.toNat
              · have := (hHigh hLead).1
                omega
              · omega
            have hAlone := hMore []
            rw [next_ascii hLow] at hAlone
            simp only [Prod.mk.injEq,
              Sequence.scalar.injEq] at hAlone
            have hChar : byte c = b := by
              apply UInt8.toNat_inj.mp
              rw [← hAlone.1.1, byte, toNat_ofNat]
              · simp
              · have hLess := b.toNat_lt
                unfold Nat.isValidChar
                omega
            simp [hChar]
          · have hShort : rest.length < count := by
              rw [← hLength]
              simp only [List.length_cons, List.length_append]
              omega
            have hLow := ih _ hShort hRest hLater rfl
            simp [hLow]

------------------------------------------------------------
-- First Bytes In Text
------------------------------------------------------------

/- The bytes behind the first one of a character. -/
theorem next_tail
    {b : UInt8}
    {tail : List UInt8}
    {c : Char}
    {length : Nat}
    (hNext : next b tail = (.scalar c length, [])) :
    ∀ x ∈ tail, x.toNat ≤ 0xBF := by
  unfold next at hNext
  split at hNext
  · cases hNext
    intro x hMember
    cases hMember
  · cases hNext
  · next count low high hLead =>
      have hHigh := (lead_cases hLead).2.2.1
      repeat' split at hNext
      all_goals
        simp only [Prod.mk.injEq, Sequence.scalar.injEq,
          reduceCtorEq, false_and] at hNext
      all_goals simp_all [within_iff]
      all_goals omega

/-
  A byte that begins a sequence of several bytes stands at
  the start of a character, so text goes on to be text there.
-/
theorem decode_lead_suffix
    {front more : List UInt8}
    {x : UInt8}
    {chars : List Char}
    (hLead : 0xC0 ≤ x.toNat)
    (hDecode : decode (front ++ x :: more) = .ok chars) :
    ∃ rest, decode (x :: more) = .ok rest := by
  induction hLength : front.length using Nat.strongRecOn
    generalizing front chars with
  | ind count ih =>
      cases front with
      | nil => exact ⟨chars, hDecode⟩
      | cons b t =>
          rw [List.cons_append] at hDecode
          rcases decode_cons_ok hDecode with
            ⟨c, tail, rest, restChars, hParts, _, hRest,
              hMore, _⟩
          have hOut : x ∉ tail := by
            intro hMember
            have hAlone := hMore []
            rw [List.append_nil] at hAlone
            have hLow := next_tail hAlone x hMember
            omega
          rcases append_split hParts hOut with
            ⟨middle, rfl, rfl⟩
          apply ih middle.length _ hRest rfl
          rw [← hLength]
          simp only [List.length_cons, List.length_append]
          omega

end Utf8

end RdfXml
