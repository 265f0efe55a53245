import RdfXml.Proofs.CommandLine.BlankNodes
import RdfXml.Proofs.Iri.Characters
import RdfXml.Proofs.Rdf.BlankNodeLabel
import RdfXml.Proofs.Rdf.LanguageTag

/-
  The N-Triples lines of statements.

  Subject, predicate, and object can be read off the line of
  a statement that is a triple, since no valid IRI and no
  valid label has a blank in it, and since the end of an
  escaped literal is its first quote without a backslash.
  No part of a line has a line end in it.

  Main declarations:
    * `escaped_quote_eq_iff`
    * `Statement.subject_unblank`
    * `Statement.line_parts`
    * `Statement.toTriple_of_line`
    * `Statement.OnOneLine`
    * `Parser.parseDocument_lines`
-/

------------------------------------------------------------
-- Escaped Literals
------------------------------------------------------------

namespace RdfXml

/- No escaped character begins like another one. -/
theorem literalChar_append_eq_iff
    {c d : Char}
    {rest more : List Char} :
    literalChar c ++ rest = literalChar d ++ more ↔
      c = d ∧ rest = more := by
  constructor
  · intro hSame
    unfold literalChar at hSame
    grind
  · rintro ⟨rfl, rfl⟩
    rfl

theorem literalChar_append_ne_quote
    (c : Char)
    (rest more : List Char) :
    literalChar c ++ rest ≠ '"' :: more := by
  unfold literalChar
  grind

/- What is escaped ends at the first quote on its own. -/
theorem escaped_quote_eq_iff
    {first second rest more : List Char} :
    first.flatMap literalChar ++ '"' :: rest =
        second.flatMap literalChar ++ '"' :: more ↔
      first = second ∧ rest = more := by
  constructor
  · intro hSame
    induction first generalizing second with
    | nil =>
        cases second with
        | nil => simpa using hSame
        | cons d second =>
            rw [List.flatMap_cons, List.append_assoc]
              at hSame
            exact absurd hSame.symm
              (literalChar_append_ne_quote d _ _)
    | cons c first ih =>
        cases second with
        | nil =>
            rw [List.flatMap_cons, List.append_assoc]
              at hSame
            exact absurd hSame
              (literalChar_append_ne_quote c _ _)
        | cons d second =>
            rw [List.flatMap_cons, List.flatMap_cons,
              List.append_assoc, List.append_assoc,
              literalChar_append_eq_iff] at hSame
            rcases ih hSame.2 with ⟨rfl, rfl⟩
            exact ⟨by rw [hSame.1], rfl⟩
  · rintro ⟨rfl, rfl⟩
    rfl

theorem toList_literalText (value : String) :
    (literalText value).toList =
      '"' :: (value.toList.flatMap literalChar ++ ['"']) := by
  simp [literalText]

/- What may stand in a line. -/
def OnOneLine (chars : List Char) : Prop :=
  ∀ c ∈ chars, c ≠ '\n' ∧ c ≠ '\r'

/- Line ends in a literal are escaped. -/
theorem literalChar_onOneLine (c : Char) :
    OnOneLine (literalChar c) := by
  unfold OnOneLine literalChar
  grind

theorem literalText_onOneLine (value : String) :
    OnOneLine (literalText value).toList := by
  rw [toList_literalText]
  unfold OnOneLine
  simp only [List.forall_mem_cons, List.forall_mem_append]
  refine ⟨by decide, ?_, by simp⟩
  intro c hMember
  rcases List.mem_flatMap.mp hMember with ⟨d, _, hInside⟩
  exact literalChar_onOneLine d c hInside

------------------------------------------------------------
-- Texts Without Blanks
------------------------------------------------------------

/- No blank may stand in a text. -/
def Unblank (chars : List Char) : Prop :=
  ∀ c ∈ chars, isXmlBlank c = false

theorem Unblank.onOneLine
    {chars : List Char}
    (hUnblank : Unblank chars) :
    OnOneLine chars := by
  intro c hMember
  have hBlank := hUnblank c hMember
  constructor
  · rintro rfl
    cases hBlank
  · rintro rfl
    cases hBlank

theorem Unblank.not_mem_space
    {chars : List Char}
    (hUnblank : Unblank chars) :
    ' ' ∉ chars := by
  intro hMember
  cases hUnblank ' ' hMember

/- A class of characters without blanks makes no blanks. -/
theorem Unblank.of_class
    {good : Char → Bool}
    {chars : List Char}
    (hBlanks : [' ', '\t', '\n', '\r'].any good = false)
    (hGood : ∀ c ∈ chars, good c = true) :
    Unblank chars := by
  intro c hMember
  rw [Bool.eq_false_iff]
  intro hBlank
  have hListed : c ∈ [' ', '\t', '\n', '\r'] := by
    simpa [isXmlBlank, or_assoc] using hBlank
  exact List.any_eq_false.mp hBlanks c hListed
    (hGood c hMember)

theorem unblank_of_validIri
    {text iri : String}
    (hValid : validIri text = .ok iri) :
    Unblank text.toList := by
  unfold validIri at hValid
  split at hValid
  · next hIri =>
      exact .of_class (by decide)
        (Iri.isIriChar_of_isValid hIri)
  · cases hValid

theorem unblank_of_label
    {label : String}
    (hValid : BlankNodeLabel.isValid label = true) :
    Unblank label.toList := by
  have hParts :
      ∀ c ∈ label.toList, BlankNodeLabel.isPart c = true := by
    unfold BlankNodeLabel.isValid at hValid
    cases hChars : label.toList with
    | nil => simp
    | cons c rest =>
        simp only [hChars, BlankNodeLabel.isValidChars,
          Bool.and_eq_true, List.all_eq_true] at hValid
        rw [List.forall_mem_cons]
        exact
          ⟨by simp [BlankNodeLabel.isPart, hValid.1.1],
            hValid.1.2⟩
  exact .of_class (by decide) hParts

/- The text of a resource that is a term has no blanks. -/
theorem unblank_of_validResource
    {reference : String}
    {resource : Resource}
    (hValid : validResource reference = .ok resource) :
    Unblank (resourceText reference).toList := by
  unfold validResource at hValid
  unfold resourceText
  cases hLabel : blankNodeLabel? reference with
  | some label =>
      rw [hLabel] at hValid
      dsimp only [validBlankNode] at hValid
      split at hValid
      · next hHere =>
          rw [eq_of_blankNodeLabel? hLabel]
          simp only [Option.isSome_some, if_true,
            blankNodeReference, String.toList_append]
          exact List.forall_mem_append.mpr
            ⟨by simp [isXmlBlank], unblank_of_label hHere⟩
      · cases hValid
  | none =>
      rw [hLabel] at hValid
      dsimp only at hValid
      cases hIri : validIri reference with
      | error e =>
          rw [hIri] at hValid
          cases hValid
      | ok iri =>
          simp only [Option.isSome_none, Bool.false_eq_true,
            if_false, String.toList_append]
          exact List.forall_mem_append.mpr
            ⟨List.forall_mem_append.mpr
              ⟨by simp [isXmlBlank],
                unblank_of_validIri hIri⟩,
              by simp [isXmlBlank]⟩

------------------------------------------------------------
-- Objects
------------------------------------------------------------

/- A resource is read off its text. -/
theorem resourceText_injective
    {first second : String}
    (hSame : resourceText first = resourceText second) :
    first = second := by
  have hMarked :
      ∀ {reference label other : String},
        blankNodeLabel? reference = some label →
          reference ≠ "<" ++ other ++ ">" := by
    intro reference label other hLabel hBrackets
    rw [hBrackets] at hLabel
    simp [blankNodeLabel?] at hLabel
  unfold resourceText at hSame
  cases hFirst : blankNodeLabel? first with
  | some label =>
      cases hSecond : blankNodeLabel? second with
      | some other => simpa [hFirst, hSecond] using hSame
      | none =>
          rw [hFirst, hSecond] at hSame
          exact absurd hSame (hMarked hFirst)
  | none =>
      cases hSecond : blankNodeLabel? second with
      | some other =>
          rw [hFirst, hSecond] at hSame
          exact absurd hSame.symm (hMarked hSecond)
      | none =>
          simpa [hFirst, hSecond, ← String.toList_inj]
            using hSame

/- No resource begins with a quote. -/
theorem resourceText_ne_literal
    (reference value suffix : String) :
    resourceText reference ≠ literalText value ++ suffix := by
  intro hSame
  have hHead := congrArg (fun t => t.toList.head?) hSame
  unfold resourceText at hHead
  split at hHead
  · next hLabel =>
      rcases Option.isSome_iff_exists.mp hLabel with
        ⟨label, hSome⟩
      rw [eq_of_blankNodeLabel? hSome] at hHead
      simp [blankNodeReference, literalText] at hHead
  · simp [literalText] at hHead

/- A datatype or a language is read off the suffix. -/
theorem validLiteral_of_suffix
    {datatype language datatype' language' : String}
    (hSame :
      literalSuffix datatype language =
        literalSuffix datatype' language')
    (value : String) :
    validLiteral value datatype language =
      validLiteral value datatype' language' := by
  rw [← String.toList_inj] at hSame
  unfold literalSuffix at hSame
  unfold validLiteral
  by_cases hType : datatype = ""
  · by_cases hType' : datatype' = ""
    · by_cases hTag : language = ""
      · by_cases hTag' : language' = ""
        · simp [hType, hType', hTag, hTag']
        · simp [hType, hType', hTag, hTag'] at hSame
      · by_cases hTag' : language' = ""
        · simp [hType, hType', hTag, hTag'] at hSame
        · have hTags : language = language' := by
            simpa [hType, hType', hTag, hTag',
              String.toList_inj] using hSame
          simp [hType, hType', hTags]
    · by_cases hTag : language = ""
      · simp [hType, hType', hTag] at hSame
      · simp [hType, hType', hTag] at hSame
  · by_cases hType' : datatype' = ""
    · by_cases hTag' : language' = ""
      · simp [hType, hType', hTag'] at hSame
      · simp [hType, hType', hTag'] at hSame
    · have hTypes : datatype = datatype' := by
        simpa [hType, hType', String.toList_inj] using hSame
      simp [hTypes, hType']

/- The suffix of a literal that is a term has no line ends. -/
theorem literalSuffix_onOneLine
    {value datatype language : String}
    {valid : Literal}
    (hValid :
      validLiteral value datatype language = .ok valid) :
    OnOneLine (literalSuffix datatype language).toList := by
  unfold validLiteral at hValid
  unfold literalSuffix
  split at hValid
  · next hType =>
      rw [if_pos hType]
      cases hIri : validIri datatype with
      | error e =>
          rw [hIri] at hValid
          cases hValid
      | ok iri =>
          simp only [String.toList_append]
          refine List.forall_mem_append.mpr
            ⟨List.forall_mem_append.mpr
              ⟨by simp, ?_⟩, by simp⟩
          exact (unblank_of_validIri hIri).onOneLine
  · next hType =>
      rw [if_neg hType]
      split at hValid
      · next hTag =>
          rw [if_pos hTag]
          split at hValid
          · next hCheck =>
              rw [String.toList_append]
              refine List.forall_mem_append.mpr
                ⟨by simp, ?_⟩
              refine Unblank.onOneLine
                (.of_class (by decide)
                  (LanguageTag.isTagChar_of_lowerString
                    (LanguageTag.isTagChar_of_check
                      hCheck)))
          · cases hValid
      · next hTag =>
          rw [if_neg hTag]
          exact fun c hMember => by simp at hMember

namespace Object

theorem text_ofResource (reference : String) :
    (ofResource reference).text = resourceText reference := by
  unfold ofResource
  split
  · rfl
  · rfl

theorem toList_text_literal
    (value datatype language : String) :
    (literal value datatype language).text.toList =
      '"' :: (value.toList.flatMap literalChar ++
        '"' :: (literalSuffix datatype language).toList) := by
  simp [text, toList_literalText]

/- The term of an object is read off its text. -/
theorem toTerm_of_text
    {first second : Object}
    (hFirst : first.Formed)
    (hSecond : second.Formed)
    (hSame : first.text = second.text) :
    first.toTerm = second.toTerm := by
  cases hFirst with
  | resource reference =>
      rw [text_ofResource] at hSame
      cases hSecond with
      | resource other =>
          rw [text_ofResource] at hSame
          rw [resourceText_injective hSame]
      | literal value datatype language =>
          exact absurd hSame
            (resourceText_ne_literal _ _ _)
  | literal value datatype language =>
      cases hSecond with
      | resource other =>
          rw [text_ofResource] at hSame
          exact absurd hSame.symm
            (resourceText_ne_literal _ _ _)
      | literal value' datatype' language' =>
          rw [← String.toList_inj, toList_text_literal,
            toList_text_literal, List.cons.injEq,
            escaped_quote_eq_iff, String.toList_inj,
            String.toList_inj] at hSame
          rcases hSame with ⟨_, rfl, hSuffix⟩
          simp only [toTerm, validLiteral_of_suffix hSuffix]

/- The text of an object that is a term has no line ends. -/
theorem text_onOneLine
    {object : Object}
    {term : Term}
    (hFormed : object.Formed)
    (hTerm : object.toTerm = .ok term) :
    OnOneLine object.text.toList := by
  cases hFormed with
  | resource reference =>
      rw [toTerm_ofResource] at hTerm
      rw [text_ofResource]
      cases hValid : validResource reference with
      | error e =>
          rw [hValid] at hTerm
          cases hTerm
      | ok resource =>
          exact (unblank_of_validResource hValid).onOneLine
  | literal value datatype language =>
      rw [text, String.toList_append]
      refine List.forall_mem_append.mpr
        ⟨literalText_onOneLine value, ?_⟩
      simp only [toTerm] at hTerm
      cases hValid : validLiteral value datatype language with
      | error e =>
          rw [hValid] at hTerm
          cases hTerm
      | ok valid => exact literalSuffix_onOneLine hValid

end Object

------------------------------------------------------------
-- Statements
------------------------------------------------------------

namespace Statement

/- A triple has the terms of its statement. -/
theorem toTriple_eq_ok_iff
    {statement : Statement}
    {triple : Triple} :
    statement.toTriple = .ok triple ↔
      statement.object.toTerm = .ok triple.object ∧
        validResource statement.subject =
            .ok triple.subject ∧
          validIri statement.predicate =
            .ok triple.predicate := by
  rcases triple with ⟨subject, predicate, object⟩
  unfold toTriple
  cases statement.object.toTerm with
  | error e => simp [bind, Except.bind]
  | ok object' =>
      cases validResource statement.subject with
      | error e => simp [bind, Except.bind]
      | ok subject' =>
          cases validIri statement.predicate with
          | error e => simp [bind, Except.bind]
          | ok predicate' =>
              simp [bind, Except.bind, pure, Except.pure]
              grind

/- The parts of a line, with the blanks between them. -/
theorem toList_line (statement : Statement) :
    statement.line.toList =
      (resourceText statement.subject).toList ++
        ' ' :: (('<' :: (statement.predicate.toList ++ ['>']))
          ++ ' ' :: (statement.object.text.toList ++
            [' ', '.'])) := by
  simp [line]

/- A predicate between brackets has no blanks. -/
theorem unblank_predicate
    {text iri : String}
    (hValid : validIri text = .ok iri) :
    Unblank ('<' :: (text.toList ++ ['>'])) :=
  List.forall_mem_cons.mpr
    ⟨by decide,
      List.forall_mem_append.mpr
        ⟨unblank_of_validIri hValid,
          by simp [isXmlBlank]⟩⟩

/- The line of a triple is cut at its first two blanks. -/
theorem line_parts
    {left right : Statement}
    {first second : Triple}
    (hFirst : left.toTriple = .ok first)
    (hSecond : right.toTriple = .ok second)
    (hLine : left.line = right.line) :
    left.subject = right.subject ∧
      left.predicate = right.predicate ∧
        left.object.text = right.object.text := by
  rcases toTriple_eq_ok_iff.mp hFirst with
    ⟨_, hSubject, hPredicate⟩
  rcases toTriple_eq_ok_iff.mp hSecond with
    ⟨_, hSubject', hPredicate'⟩
  rw [← String.toList_inj, toList_line, toList_line,
    separated_eq_iff
      (unblank_of_validResource hSubject).not_mem_space
      (unblank_of_validResource hSubject').not_mem_space,
    separated_eq_iff
      (unblank_predicate hPredicate).not_mem_space
      (unblank_predicate hPredicate').not_mem_space]
    at hLine
  rcases hLine with ⟨hSubjects, hPredicates, hObjects⟩
  refine ⟨?_, ?_, ?_⟩
  · exact resourceText_injective
      (String.toList_inj.mp hSubjects)
  · simpa [String.toList_inj] using hPredicates
  · simpa [String.toList_inj] using hObjects

/- The line of a triple determines the triple. -/
theorem toTriple_of_line
    {left right : Statement}
    {first second : Triple}
    (hLeft : left.object.Formed)
    (hRight : right.object.Formed)
    (hFirst : left.toTriple = .ok first)
    (hSecond : right.toTriple = .ok second)
    (hLine : left.line = right.line) :
    first = second := by
  rcases line_parts hFirst hSecond hLine with
    ⟨hSubject, hPredicate, hText⟩
  have hObject := Object.toTerm_of_text hLeft hRight hText
  have hSame : left.toTriple = right.toTriple := by
    unfold toTriple
    rw [hSubject, hPredicate, hObject]
  rw [hFirst, hSecond] at hSame
  exact Except.ok.inj hSame

/- A triple is written on one line. -/
theorem line_onOneLine
    {statement : Statement}
    {triple : Triple}
    (hFormed : statement.object.Formed)
    (hTriple : statement.toTriple = .ok triple) :
    OnOneLine statement.line.toList := by
  rcases toTriple_eq_ok_iff.mp hTriple with
    ⟨hObject, hSubject, hPredicate⟩
  rw [toList_line]
  refine List.forall_mem_append.mpr
    ⟨(unblank_of_validResource hSubject).onOneLine,
      List.forall_mem_cons.mpr ⟨by decide, ?_⟩⟩
  refine List.forall_mem_append.mpr
    ⟨(unblank_predicate hPredicate).onOneLine,
      List.forall_mem_cons.mpr ⟨by decide, ?_⟩⟩
  exact List.forall_mem_append.mpr
    ⟨Object.text_onOneLine hFormed hObject, by simp⟩

end Statement

------------------------------------------------------------
-- Statements Of Parsers
------------------------------------------------------------

namespace Parser

/-
  Take two statements, each made by a parser of a document of
  its own, that both are triples.  When their lines are the
  same, so are their triples.  And each of them is written on
  one line, whatever its literal holds.
-/
theorem parseDocument_lines
    {options otherOptions : Options}
    {chunks otherChunks : List (List UInt8 × Bool)}
    {left right : Statement}
    {first second : Triple}
    (hLeft :
      left ∈ statementsOf (parseDocument options chunks).2)
    (hRight :
      right ∈
        statementsOf
          (parseDocument otherOptions otherChunks).2)
    (hFirst : left.toTriple = .ok first)
    (hSecond : right.toTriple = .ok second) :
    (left.line = right.line → first = second) ∧
      OnOneLine left.line.toList ∧
        OnOneLine right.line.toList := by
  have hLeftFormed := parseDocument_formed hLeft
  have hRightFormed := parseDocument_formed hRight
  exact
    ⟨Statement.toTriple_of_line hLeftFormed hRightFormed
        hFirst hSecond,
      Statement.line_onOneLine hLeftFormed hFirst,
      Statement.line_onOneLine hRightFormed hSecond⟩

/-
  A literal that looks like the end of a line and another
  line, as the text of a property and as an attribute.
-/
theorem parseDocument_lines_quoted :
    let root :=
      bytes "<o:a xmlns:o='u:' xmlns:r='" ++
        bytes Rdf.space ++
          bytes "' r:about='u:x' xml:lang='en'"
    let value := bytes "&#34;@en .&#10;&lt;u:x>"
    let content :=
      root ++ bytes "><o:p>" ++ value ++
        bytes "</o:p></o:a>"
    let empty :=
      root ++ bytes " o:p='" ++ value ++ bytes "'/>"
    let made : Statement :=
      ⟨"u:x", "u:p", .plain "\"@en .\n<u:x>" "en"⟩
    let triple : Triple :=
      ⟨.iri "u:x", "u:p",
        .literal (.tagged "\"@en .\n<u:x>" "en")⟩
    made ∈
        statementsOf (parseDocument {} [(content, true)]).2 ∧
      made ∈
        statementsOf
          (parseDocument {} [(empty, true)]).2 ∧
      made.toTriple = .ok triple ∧
      made.line =
        "<u:x> <u:p> \"\\\"@en .\\n<u:x>\"@en ." ∧
      OnOneLine made.line.toList := by
  intro root value content empty made triple
  have hContent :
      made ∈
        statementsOf
          (parseDocument {} [(content, true)]).2 := by
    decide +kernel
  have hEmpty :
      made ∈
        statementsOf
          (parseDocument {} [(empty, true)]).2 := by
    decide +kernel
  have hTriple : made.toTriple = .ok triple := by
    decide +kernel
  exact
    ⟨hContent, hEmpty, hTriple, by decide +kernel,
      (parseDocument_lines hContent hEmpty hTriple
        hTriple).2.1⟩

end Parser

end RdfXml
