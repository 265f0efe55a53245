import Mathlib.Data.List.DropRight
import RdfXml.Proofs.Grammar.Run
import RdfXml.Proofs.Grammar.Tree
import RdfXml.Proofs.Xml.Writing

/-
  Runs of text in the markup of events.

  Merging runs of text changes neither the markup of events
  nor where they fit.  Dropping the blanks at both ends of
  that markup is dropping those of the first and of the last
  text, since tags begin and end in brackets and no blank is
  escaped.

  Main declarations:
    * `Event.spaced_merged`
    * `Event.markupAll_merged`
    * `Nesting.Admits.merged`
    * `Event.trimmed`
    * `Nesting.Admits.trimmed`
    * `Event.trimText_markupAll`
-/

------------------------------------------------------------
-- Merged Events
------------------------------------------------------------

namespace RdfXml

namespace Event

/- An event in front of spaced events leaves them spaced. -/
theorem Spaced.join
    {events : List Event}
    (hSpaced : Spaced events)
    (event : Event) :
    Spaced (event.join events) := by
  cases event with
  | startElement tag => exact hSpaced
  | endElement name => exact hSpaced
  | characters text =>
      unfold Event.join
      split
      · next more rest hText =>
          cases hText
          refine ⟨?_, hSpaced.2⟩
          rw [Ne, String.append_eq_empty_iff]
          exact fun hNone => hSpaced.1 hNone.2
      · next hText hOther =>
          cases hText
          split
          · exact hSpaced
          · next hSome =>
              exact ⟨hSome, hOther, hSpaced⟩
      · next hOther _ => exact absurd rfl (hOther text)

/- An end tag may follow spaced events. -/
theorem Spaced.concat
    {events : List Event}
    (hSpaced : Spaced events)
    (name : Name) :
    Spaced (events ++ [.endElement name]) := by
  induction events with
  | nil => trivial
  | cons event events ih =>
      have hTail := ih hSpaced.tail
      cases event with
      | startElement tag => exact hTail
      | endElement other => exact hTail
      | characters text =>
          refine ⟨hSpaced.1, ?_, hTail⟩
          intro more tail hSame
          cases events with
          | nil => cases hSame
          | cons next events =>
              exact hSpaced.2.1 more events
                (by rw [(List.cons.inj hSame).1])

/- Merged events are spaced. -/
theorem spaced_merged (events : List Event) :
    Spaced (merged events) := by
  induction events with
  | nil => trivial
  | cons event events ih => exact ih.join event

theorem markupAll_join
    (event : Event)
    (events : List Event) :
    markupAll (event.join events) =
      event.markup ++ markupAll events := by
  unfold Event.join
  split
  · simp [markupAll_cons, markup, Machine.escape_append,
      String.append_assoc]
  · split
    · next hNone =>
        simp [markup, hNone, Machine.escape_empty]
    · rw [markupAll_cons]
  · rw [markupAll_cons]

/- Merged events have the markup of the events. -/
theorem markupAll_merged (events : List Event) :
    markupAll (merged events) = markupAll events := by
  induction events with
  | nil => rfl
  | cons event events ih =>
      have hJoin := markupAll_join event (merged events)
      rw [ih] at hJoin
      rw [markupAll_cons]
      exact hJoin

end Event

namespace Nesting

/- Text may be dropped where it may stand. -/
theorem Admits.text_tail
    {n last : Nesting}
    {text : String}
    {events : List Event}
    (hAdmits :
      n.Admits (.characters text :: events) last) :
    n.openTags ≠ [] ∧ n.Admits events last := by
  rcases hAdmits with ⟨next, hStep, _, hRest⟩
  rcases step?_characters hStep with ⟨hOpen, rfl⟩
  exact ⟨hOpen, hRest⟩

/- Text may stand inside of every element. -/
theorem Admits.text_cons
    {n last : Nesting}
    {events : List Event}
    (hAdmits : n.Admits events last)
    (hOpen : n.openTags ≠ [])
    (text : String) :
    n.Admits (.characters text :: events) last := by
  refine ⟨n, ?_, trivial, hAdmits⟩
  rcases n with ⟨tags, hasRoot⟩
  cases tags with
  | nil => exact absurd rfl hOpen
  | cons tag outer => rfl

theorem Admits.join
    {n last : Nesting}
    {event : Event}
    {events : List Event}
    (hAdmits : n.Admits (event :: events) last) :
    n.Admits (event.join events) last := by
  unfold Event.join
  split
  · rcases hAdmits.text_tail with ⟨hOpen, hRest⟩
    exact hRest.text_tail.2.text_cons hOpen _
  · split
    · exact hAdmits.text_tail.2
    · exact hAdmits
  · exact hAdmits

/- Merged events stand where the events stand. -/
theorem Admits.merged
    {n last : Nesting}
    {events : List Event}
    (hAdmits : n.Admits events last) :
    n.Admits (Event.merged events) last := by
  induction events generalizing n with
  | nil => exact hAdmits
  | cons event events ih =>
      rcases hAdmits with ⟨next, hStep, hFits, hRest⟩
      have hJoin : n.Admits
          (event :: Event.merged events) last :=
        ⟨next, hStep, hFits, ih hRest⟩
      exact hJoin.join

end Nesting

------------------------------------------------------------
-- Blanks At The Ends
------------------------------------------------------------

/- A text without the blanks at its beginning. -/
def withoutBlanksBefore (text : String) : String :=
  String.ofList (text.toList.dropWhile isXmlBlank)

/- A text without the blanks at its end. -/
def withoutBlanksBehind (text : String) : String :=
  String.ofList (text.toList.rdropWhile isXmlBlank)

theorem trimText_eq (text : String) :
    Machine.trimText text =
      withoutBlanksBehind (withoutBlanksBefore text) := by
  simp [Machine.trimText, trimBoth, withoutBlanksBehind,
    withoutBlanksBefore, List.rdropWhile]

section Blanks

variable {drop : Char → Bool}

/- Nothing is dropped behind what begins with no blank. -/
theorem dropWhile_append_kept
    {second : List Char}
    (hKept : second.dropWhile drop = second)
    (first : List Char) :
    (first ++ second).dropWhile drop =
      first.dropWhile drop ++ second := by
  rw [List.dropWhile_append]
  split
  · next hNone =>
      rw [List.isEmpty_iff.mp hNone, hKept]
      rfl
  · rfl

/- Nothing is dropped before what ends in no blank. -/
theorem rdropWhile_append_kept
    {first : List Char}
    (hKept : first.rdropWhile drop = first)
    (second : List Char) :
    (first ++ second).rdropWhile drop =
      first ++ second.rdropWhile drop := by
  have hReverse :
      first.reverse.dropWhile drop = first.reverse := by
    have hSame := congrArg List.reverse hKept
    rwa [List.rdropWhile, List.reverse_reverse] at hSame
  simp [List.rdropWhile, dropWhile_append_kept hReverse]

/- Nothing is dropped before another character. -/
theorem rdropWhile_append_of_mem
    {second : List Char}
    {c : Char}
    (hMember : c ∈ second)
    (hOther : drop c = false)
    (first : List Char) :
    (first ++ second).rdropWhile drop =
      first ++ second.rdropWhile drop := by
  have hSome :
      (second.reverse.dropWhile drop).isEmpty = false := by
    rw [Bool.eq_false_iff]
    intro hNone
    rw [List.isEmpty_iff, List.dropWhile_eq_nil_iff] at hNone
    have hDropped := hNone c (List.mem_reverse.mpr hMember)
    rw [hOther] at hDropped
    cases hDropped
  simp [List.rdropWhile, List.dropWhile_append, hSome]

/-
  Each character stands for itself, or is kept and stands for
  something that begins with a character that is kept.
-/
theorem flatMap_dropWhile
    {f : Char → List Char}
    (hCases : ∀ c,
      f c = [c] ∨
        drop c = false ∧
          ∃ first rest, f c = first :: rest ∧
            drop first = false)
    (chars : List Char) :
    (chars.flatMap f).dropWhile drop =
      (chars.dropWhile drop).flatMap f := by
  induction chars with
  | nil => rfl
  | cons c chars ih =>
      rcases hCases c with
        hPlain | ⟨hKept, first, rest, hParts, hFirst⟩
      · rw [List.flatMap_cons, hPlain, List.singleton_append,
          List.dropWhile_cons, List.dropWhile_cons, ih]
        split
        · rfl
        · rw [List.flatMap_cons, hPlain,
            List.singleton_append]
      · rw [List.dropWhile_cons_of_neg (by simp [hKept]),
          List.flatMap_cons, hParts, List.cons_append,
          List.dropWhile_cons_of_neg (by simp [hFirst])]

end Blanks

namespace Reference

/- Blanks are not escaped, and nothing becomes a blank. -/
theorem escapeChar_kept (c : Char) :
    escapeChar c = [c] ∨
      isXmlBlank c = false ∧
        ∃ middle, escapeChar c = '&' :: (middle ++ [';']) := by
  have hAll :
      entities.all (fun e =>
        !isXmlBlank e.1 &&
          e.2 == '&' :: (e.2.tail.dropLast ++ [';'])) =
        true := by
    decide
  rcases escapeChar_cases c with ⟨hPlain, _⟩ | hEntity
  · exact Or.inl hPlain
  · have hEntry := List.all_eq_true.mp hAll _ hEntity
    simp only [Bool.and_eq_true, Bool.not_eq_true',
      beq_iff_eq] at hEntry
    exact Or.inr ⟨hEntry.1, _, hEntry.2⟩

theorem escape_withoutBlanksBefore (text : String) :
    withoutBlanksBefore (escape text) =
      escape (withoutBlanksBefore text) := by
  have hCases : ∀ c,
      escapeChar c = [c] ∨
        isXmlBlank c = false ∧
          ∃ first rest, escapeChar c = first :: rest ∧
            isXmlBlank first = false := by
    intro c
    rcases escapeChar_kept c with
      hPlain | ⟨hOther, middle, hEntity⟩
    · exact Or.inl hPlain
    · exact Or.inr ⟨hOther, _, _, hEntity, by decide⟩
  have hChars := flatMap_dropWhile hCases text.toList
  simp [withoutBlanksBefore, escape, hChars]

theorem escape_withoutBlanksBehind (text : String) :
    withoutBlanksBehind (escape text) =
      escape (withoutBlanksBehind text) := by
  have hCases : ∀ c,
      (List.reverse ∘ escapeChar) c = [c] ∨
        isXmlBlank c = false ∧
          ∃ first rest,
            (List.reverse ∘ escapeChar) c = first :: rest ∧
              isXmlBlank first = false := by
    intro c
    rcases escapeChar_kept c with
      hPlain | ⟨hOther, middle, hEntity⟩
    · exact Or.inl (by simp [hPlain])
    · refine Or.inr
        ⟨hOther, ';', middle.reverse ++ ['&'], ?_,
          by decide⟩
      simp [hEntity]
  have hChars :=
    flatMap_dropWhile hCases text.toList.reverse
  simp only [withoutBlanksBehind, escape, List.rdropWhile,
    String.toList_ofList, List.reverse_flatMap, hChars,
    String.ofList_inj]
  simp [Function.comp_def]

end Reference

------------------------------------------------------------
-- Trimmed Events
------------------------------------------------------------

namespace Event

/- Events without the blanks that they begin with. -/
def trimFront : List Event → List Event
| .characters text :: rest =>
    join (.characters (withoutBlanksBefore text)) rest
| events => events

/- Events without the blanks that they end with. -/
def trimBack : List Event → List Event
| [] => []
| [.characters text] =>
    join (.characters (withoutBlanksBehind text)) []
| event :: rest => event :: trimBack rest

/- Events without the blanks at both ends. -/
def trimmed (events : List Event) : List Event :=
  trimBack (trimFront events)

/- A tag, which begins and ends in an angle bracket. -/
def IsTag : Event → Prop
| .characters _ => False
| _ => True

theorem isTag_or_characters (event : Event) :
    event.IsTag ∨ ∃ text, event = .characters text := by
  cases event with
  | characters text => exact Or.inr ⟨text, rfl⟩
  | _ => exact Or.inl trivial

/- What follows a text is a tag, if it is anything. -/
theorem Spaced.next_isTag
    {text : String}
    {event : Event}
    {rest : List Event}
    (hSpaced : Spaced (.characters text :: event :: rest)) :
    event.IsTag := by
  rcases event.isTag_or_characters with hTag | ⟨more, rfl⟩
  · exact hTag
  · exact absurd rfl (hSpaced.2.1 more rest)

theorem IsTag.markup_parts
    {event : Event}
    (hTag : event.IsTag) :
    ∃ middle,
      event.markup.toList = '<' :: (middle ++ ['>']) := by
  cases event with
  | characters text => exact hTag.elim
  | startElement tag =>
      refine ⟨(tag.name.qualified ++
        String.join
            (tag.declarations.map Machine.declarationText) ++
          String.join
            (tag.attributes.map
              Machine.attributeText)).toList, ?_⟩
      simp [markup, Machine.startTagText]
  | endElement name =>
      refine ⟨'/' :: name.qualified.toList, ?_⟩
      simp [markup, Machine.endTagText]

/- Nothing is dropped before a tag or behind it. -/
theorem IsTag.kept
    {event : Event}
    (hTag : event.IsTag) :
    event.markup.toList.dropWhile isXmlBlank =
        event.markup.toList ∧
      event.markup.toList.rdropWhile isXmlBlank =
        event.markup.toList ∧
      '<' ∈ event.markup.toList := by
  rcases hTag.markup_parts with ⟨middle, hParts⟩
  have hOpen : ¬ isXmlBlank '<' = true := by decide
  have hClose : ¬ isXmlBlank '>' = true := by decide
  rw [hParts]
  refine ⟨List.dropWhile_cons_of_neg hOpen, ?_, by simp⟩
  rw [← List.cons_append]
  exact List.rdropWhile_concat_neg _ _ _ hClose

theorem markupAll_kept
    {event : Event}
    (hTag : event.IsTag)
    (events : List Event) :
    (markupAll (event :: events)).toList.dropWhile
        isXmlBlank =
      (markupAll (event :: events)).toList := by
  rw [markupAll_cons, String.toList_append,
    List.dropWhile_append, hTag.kept.1]
  split
  · next hNone =>
      have hMember := hTag.kept.2.2
      rw [List.isEmpty_iff.mp hNone] at hMember
      cases hMember
  · rfl

/- Only the first event can begin with blanks. -/
theorem withoutBlanksBefore_markupAll
    {events : List Event}
    (hSpaced : Spaced events) :
    withoutBlanksBefore (markupAll events) =
      markupAll (trimFront events) := by
  cases events with
  | nil => rfl
  | cons event events =>
      rcases event.isTag_or_characters with
        hTag | ⟨text, rfl⟩
      · have hSame : trimFront (event :: events) =
            event :: events := by
          cases event with
          | characters text => exact hTag.elim
          | _ => rfl
        rw [hSame, withoutBlanksBefore,
          markupAll_kept hTag events, String.ofList_toList]
      · have hRest :
            (markupAll events).toList.dropWhile isXmlBlank =
              (markupAll events).toList := by
          cases events with
          | nil => rfl
          | cons next events =>
              exact markupAll_kept hSpaced.next_isTag events
        rw [trimFront, markupAll_join, markupAll_cons]
        simp only [markup]
        rw [← Reference.escape_withoutBlanksBefore]
        apply String.toList_inj.mp
        simp [withoutBlanksBefore,
          dropWhile_append_kept hRest]

theorem trimBack_cons_cons
    (event next : Event)
    (events : List Event) :
    trimBack (event :: next :: events) =
      event :: trimBack (next :: events) := by
  cases event with
  | _ => rfl

theorem IsTag.trimBack_cons
    {event : Event}
    (hTag : event.IsTag)
    (events : List Event) :
    trimBack (event :: events) = event :: trimBack events := by
  cases events with
  | nil =>
      cases event with
      | characters text => exact hTag.elim
      | _ => rfl
  | cons next events => exact trimBack_cons_cons _ _ _

/- Only the last event can end with blanks. -/
theorem withoutBlanksBehind_markupAll
    {events : List Event}
    (hSpaced : Spaced events) :
    withoutBlanksBehind (markupAll events) =
      markupAll (trimBack events) := by
  induction events with
  | nil => rfl
  | cons event events ih =>
      have hTail := ih hSpaced.tail
      rcases event.isTag_or_characters with
        hTag | ⟨text, rfl⟩
      · rw [hTag.trimBack_cons, markupAll_cons,
          markupAll_cons, ← hTail]
        apply String.toList_inj.mp
        simp [withoutBlanksBehind,
          rdropWhile_append_kept hTag.kept.2.1]
      · cases events with
        | nil =>
            rw [trimBack, markupAll_join, markupAll_cons]
            simp [markupAll, markup,
              Reference.escape_withoutBlanksBehind]
        | cons next events =>
            have hMember :
                '<' ∈ (markupAll (next :: events)).toList := by
              rw [markupAll_cons, String.toList_append]
              exact List.mem_append_left _
                hSpaced.next_isTag.kept.2.2
            have hMark : isXmlBlank '<' = false := by decide
            rw [trimBack_cons_cons,
              markupAll_cons _ (next :: events),
              markupAll_cons _ (trimBack (next :: events)),
              ← hTail]
            apply String.toList_inj.mp
            simp [withoutBlanksBehind,
              rdropWhile_append_of_mem hMember hMark]

theorem Spaced.trimFront
    {events : List Event}
    (hSpaced : Spaced events) :
    Spaced (trimFront events) := by
  cases events with
  | nil => trivial
  | cons event events =>
      cases event with
      | characters text => exact hSpaced.tail.join _
      | _ => exact hSpaced

theorem Spaced.trimBack
    {events : List Event}
    (hSpaced : Spaced events) :
    Spaced (trimBack events) := by
  induction events with
  | nil => trivial
  | cons event events ih =>
      have hTail := ih hSpaced.tail
      cases event with
      | startElement tag =>
          rw [IsTag.trimBack_cons (by trivial)]
          exact hTail
      | endElement name =>
          rw [IsTag.trimBack_cons (by trivial)]
          exact hTail
      | characters text =>
          cases events with
          | nil => exact hTail.join _
          | cons next events =>
              have hNext := hSpaced.next_isTag
              rw [hNext.trimBack_cons] at hTail
              rw [trimBack_cons_cons, hNext.trimBack_cons]
              refine ⟨hSpaced.1, ?_, hTail⟩
              rintro more tail hSame
              cases hSame
              exact hNext.elim

theorem Spaced.trimmed
    {events : List Event}
    (hSpaced : Spaced events) :
    Spaced (trimmed events) :=
  hSpaced.trimFront.trimBack

/-
  The markup of trimmed events is the trimmed markup of the
  events.
-/
theorem trimText_markupAll
    {events : List Event}
    (hSpaced : Spaced events) :
    Machine.trimText (markupAll events) =
      markupAll (trimmed events) := by
  rw [trimText_eq, withoutBlanksBefore_markupAll hSpaced,
    withoutBlanksBehind_markupAll hSpaced.trimFront]
  rfl

end Event

namespace Nesting

/- Text may be replaced by other text. -/
theorem Admits.text_change
    {n last : Nesting}
    {text : String}
    {events : List Event}
    (hAdmits :
      n.Admits (.characters text :: events) last)
    (other : String) :
    n.Admits (Event.join (.characters other) events) last :=
  (hAdmits.text_tail.2.text_cons hAdmits.text_tail.1
    other).join

theorem Admits.trimFront
    {n last : Nesting}
    {events : List Event}
    (hAdmits : n.Admits events last) :
    n.Admits (Event.trimFront events) last := by
  cases events with
  | nil => exact hAdmits
  | cons event events =>
      cases event with
      | characters text => exact hAdmits.text_change _
      | _ => exact hAdmits

theorem Admits.trimBack
    {n last : Nesting}
    {events : List Event}
    (hAdmits : n.Admits events last) :
    n.Admits (Event.trimBack events) last := by
  induction events generalizing n with
  | nil => exact hAdmits
  | cons event events ih =>
      rcases hAdmits with ⟨next, hStep, hFits, hRest⟩
      rcases event.isTag_or_characters with
        hTag | ⟨text, rfl⟩
      · rw [hTag.trimBack_cons]
        exact ⟨next, hStep, hFits, ih hRest⟩
      · cases events with
        | nil =>
            have hAll : n.Admits [.characters text] last :=
              ⟨next, hStep, hFits, hRest⟩
            exact hAll.text_change _
        | cons head events =>
            rw [Event.trimBack_cons_cons]
            exact ⟨next, hStep, hFits, ih hRest⟩

/- Trimmed events stand where the events stand. -/
theorem Admits.trimmed
    {n last : Nesting}
    {events : List Event}
    (hAdmits : n.Admits events last) :
    n.Admits (Event.trimmed events) last :=
  hAdmits.trimFront.trimBack

end Nesting

end RdfXml
