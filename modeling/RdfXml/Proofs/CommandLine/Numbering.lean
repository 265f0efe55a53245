import RdfXml.Proofs.Parser.Lines

/-
  Blank nodes that are valid behind the number of a file.

  With the number of a file in front, a label begins as the
  number does.  What was wrong with how the label began is
  wrong no longer, and everything else that was wrong with it
  still is.

  Main declarations:
    * `BlankNodeLabel.isTail`
    * `BlankNodeLabel.isValidChars_eq`
    * `Statement.BeginsLabels`
    * `scopeBlankNodes_valid_iff`
-/

------------------------------------------------------------
-- Labels Behind Other Characters
------------------------------------------------------------

namespace RdfXml

namespace BlankNodeLabel

/- The characters may stand behind the start of a label. -/
def isTail (label : List Char) : Bool :=
  label.all isPart && label.getLast? != some '.'

/- The characters begin as a label does. -/
def begins (label : List Char) : Bool :=
  label.head?.any isStart

theorem isPart_of_isStart
    {c : Char}
    (hStart : isStart c = true) :
    isPart c = true := by
  simp [isPart, hStart]

/- A label begins like one and goes on like one. -/
theorem isValidChars_eq (label : List Char) :
    isValidChars label = (begins label && isTail label) := by
  cases label with
  | nil => rfl
  | cons c rest =>
      cases hStart : isStart c with
      | false => simp [isValidChars, begins, hStart]
      | true =>
          simp [isValidChars, begins, isTail, hStart,
            isPart_of_isStart hStart]

/-
  Behind the start of a label, only what goes on like a label
  makes one.
-/
theorem isValidChars_append
    {front label : List Char}
    {last : Char}
    (hStart : begins (front ++ [last]) = true)
    (hParts : (front ++ [last]).all isPart = true)
    (hLast : last ≠ '.') :
    isValidChars (front ++ last :: label) =
      isTail label := by
  have hBegins : begins (front ++ last :: label) = true := by
    cases front with
    | nil => exact hStart
    | cons c front => exact hStart
  have hAll :
      (front ++ last :: label).all isPart =
        label.all isPart := by
    rw [List.append_cons, List.all_append, hParts,
      Bool.true_and]
  have hEnd :
      ((front ++ last :: label).getLast? != some '.') =
        (label.getLast? != some '.') := by
    cases label with
    | nil =>
        have hOther : some last ≠ some '.' := by
          simpa using hLast
        rw [List.getLast?_concat, bne_iff_ne.mpr hOther]
        rfl
    | cons c label =>
        simp [List.getLast?_append, List.getLast?_cons]
  rw [isValidChars_eq, hBegins, Bool.true_and, isTail, hAll,
    hEnd]
  rfl

/- A label behind the number of a file. -/
theorem isValidChars_numbered
    (file : Nat)
    (label : List Char) :
    isValidChars
        ('f' :: (Nat.toDigits 10 file ++ '_' :: label)) =
      isTail label := by
  have hDigits :
      (Nat.toDigits 10 file).all isPart = true := by
    rw [List.all_eq_true]
    intro c hMember
    exact isPart_of_isStart
      (isStart_of_isDigit
        (Nat.isDigit_of_mem_toDigits (by decide) (by decide)
          hMember))
  have hLetter : isPart 'f' = true := by
    decide
  have hMark : isPart '_' = true := by
    decide
  have hFront :
      'f' :: (Nat.toDigits 10 file ++ '_' :: label) =
        ('f' :: Nat.toDigits 10 file) ++ '_' :: label :=
    rfl
  rw [hFront]
  apply isValidChars_append
  · rfl
  · simp [hDigits, hLetter, hMark]
  · decide

end BlankNodeLabel

------------------------------------------------------------
-- References
------------------------------------------------------------

/- A reference is no blank node, or its label begins like one. -/
def BeginsLabel (reference : String) : Prop :=
  ∀ label,
    blankNodeLabel? reference = some label →
      BlankNodeLabel.begins label.toList = true

theorem validBlankNode_ok_iff
    (reference label : String) :
    (∃ node, validBlankNode reference label = .ok node) ↔
      BlankNodeLabel.isValid label = true := by
  unfold validBlankNode
  cases BlankNodeLabel.isValid label with
  | true => simp
  | false => simp

/-
  A number in front hides how a label begins, and nothing
  else that may be wrong with it.
-/
theorem validBlankNode_scopeReference
    {reference label : String}
    (hLabel : blankNodeLabel? reference = some label)
    (file : Nat) :
    ∃ numbered,
      blankNodeLabel? (scopeReference file reference) =
          some numbered ∧
        BlankNodeLabel.isValid label =
          (BlankNodeLabel.begins label.toList &&
            BlankNodeLabel.isValid numbered) := by
  rcases blankNodeLabel?_scopeReference hLabel file with
    ⟨numbered, hNumbered⟩
  refine ⟨numbered, hNumbered, ?_⟩
  have hChars :
      numbered.toList =
        'f' :: (Nat.toDigits 10 file ++
          '_' :: label.toList) := by
    have hSame :=
      congrArg String.toList (eq_of_blankNodeLabel? hNumbered)
    rw [toList_scopeReference hLabel] at hSame
    simpa [blankNodeReference] using hSame.symm
  unfold BlankNodeLabel.isValid
  rw [hChars, BlankNodeLabel.isValidChars_numbered,
    BlankNodeLabel.isValidChars_eq]

/- A reference that is no blank node gets no number. -/
theorem scopeReference_none
    {reference : String}
    (hNone : blankNodeLabel? reference = none)
    (file : Nat) :
    scopeReference file reference = reference := by
  simp [scopeReference, hNone]

theorem validResource_scopeReference_iff
    (file : Nat)
    (reference : String) :
    (∃ resource, validResource reference = .ok resource) ↔
      (∃ resource,
        validResource (scopeReference file reference) =
          .ok resource) ∧
        BeginsLabel reference := by
  unfold BeginsLabel
  cases hLabel : blankNodeLabel? reference with
  | none => simp [scopeReference_none hLabel]
  | some label =>
      rcases validBlankNode_scopeReference hLabel file with
        ⟨numbered, hNumbered, hValid⟩
      simp only [validResource, hLabel, hNumbered,
        validBlankNode_ok_iff, hValid, Bool.and_eq_true,
        Option.some.injEq, forall_eq']
      exact And.comm

------------------------------------------------------------
-- Statements
------------------------------------------------------------

namespace Statement

/- The labels of all blank nodes begin like labels. -/
def BeginsLabels (statement : Statement) : Prop :=
  ∀ position reference,
    statement.blankNode? position = some reference →
      BeginsLabel reference

theorem beginsLabels_iff {statement : Statement} :
    statement.BeginsLabels ↔
      BeginsLabel statement.subject ∧
        ∀ reference,
          statement.object = .blankNode reference →
            BeginsLabel reference := by
  constructor
  · intro hBegins
    refine ⟨?_, ?_⟩
    · intro label hLabel
      exact hBegins .subject statement.subject
        (blankNode?_subject_eq_some_iff.mpr
          ⟨rfl, label, hLabel⟩) label hLabel
    · intro reference hObject
      exact hBegins .object reference
        (blankNode?_object_eq_some_iff.mpr hObject)
  · rintro ⟨hSubject, hObject⟩ position reference hNode
    cases position with
    | subject =>
        rcases blankNode?_subject_eq_some_iff.mp hNode with
          ⟨rfl, _⟩
        exact hSubject
    | object =>
        exact hObject reference
          (blankNode?_object_eq_some_iff.mp hNode)

/- A statement is a triple when its parts are terms. -/
theorem toTriple_ok_iff (statement : Statement) :
    (∃ triple, statement.toTriple = .ok triple) ↔
      (∃ term, statement.object.toTerm = .ok term) ∧
        (∃ resource,
          validResource statement.subject = .ok resource) ∧
        ∃ iri, validIri statement.predicate = .ok iri := by
  constructor
  · rintro ⟨triple, hTriple⟩
    rcases toTriple_eq_ok_iff.mp hTriple with
      ⟨hObject, hSubject, hPredicate⟩
    exact ⟨⟨_, hObject⟩, ⟨_, hSubject⟩, ⟨_, hPredicate⟩⟩
  · rintro ⟨⟨object, hObject⟩, ⟨subject, hSubject⟩,
      ⟨predicate, hPredicate⟩⟩
    exact ⟨⟨subject, predicate, object⟩,
      toTriple_eq_ok_iff.mpr
        ⟨hObject, hSubject, hPredicate⟩⟩

/- Objects are numbered where they are blank nodes. -/
theorem toTerm_scopeBlankNodes_iff
    (file : Nat)
    (statement : Statement) :
    (∃ term, statement.object.toTerm = .ok term) ↔
      (∃ term,
        (scopeBlankNodes file statement).object.toTerm =
          .ok term) ∧
        ∀ reference,
          statement.object = .blankNode reference →
            BeginsLabel reference := by
  rcases statement with ⟨subject, predicate, object⟩
  cases object with
  | iri reference => simp [scopeBlankNodes]
  | literal value datatype language =>
      simp [scopeBlankNodes]
  | blankNode reference =>
      have hTerm :
          ∀ other label,
            (blankNodeLabel? other).getD other = label →
              ((∃ term,
                (Object.blankNode other).toTerm = .ok term) ↔
                  BlankNodeLabel.isValid label = true) := by
        rintro other label rfl
        rw [← validBlankNode_ok_iff other, Object.toTerm]
        cases validBlankNode other
            ((blankNodeLabel? other).getD other) with
        | error e => simp [Except.map]
        | ok node => simp [Except.map]
      simp only [scopeBlankNodes, Object.blankNode.injEq,
        forall_eq']
      unfold BeginsLabel
      cases hLabel : blankNodeLabel? reference with
      | none => simp [scopeReference_none hLabel]
      | some label =>
          rcases validBlankNode_scopeReference hLabel file with
            ⟨numbered, hNumbered, hValid⟩
          rw [hTerm reference label (by simp [hLabel]),
            hTerm _ numbered (by simp [hNumbered]), hValid]
          simp [and_comm]

/-
  A statement is a triple exactly when it is one with the
  number of a file in front of its labels, and its labels
  begin like labels without it.
-/
theorem toTriple_scopeBlankNodes_iff
    (file : Nat)
    (statement : Statement) :
    (∃ triple, statement.toTriple = .ok triple) ↔
      (∃ triple,
        (scopeBlankNodes file statement).toTriple =
          .ok triple) ∧
        statement.BeginsLabels := by
  rw [toTriple_ok_iff, toTriple_ok_iff, beginsLabels_iff,
    toTerm_scopeBlankNodes_iff file,
    validResource_scopeReference_iff file]
  constructor
  · rintro ⟨⟨hTerm, hObject⟩, ⟨hResource, hSubject⟩, hIri⟩
    exact ⟨⟨hTerm, hResource, hIri⟩, hSubject, hObject⟩
  · rintro ⟨⟨hTerm, hResource, hIri⟩, hSubject, hObject⟩
    exact ⟨⟨hTerm, hObject⟩, ⟨hResource, hSubject⟩, hIri⟩

end Statement

------------------------------------------------------------
-- Files Given Alone And With Others
------------------------------------------------------------

namespace CommandLine

/- Statements that are triples are not skipped. -/
theorem statementMessages_eq_nil_iff
    (file : InputFile)
    (statement : Statement) :
    file.statementMessages statement = [] ↔
      ∃ triple,
        (file.relabel statement).toTriple = .ok triple := by
  unfold InputFile.statementMessages
  cases (file.relabel statement).toTriple with
  | error e => simp
  | ok triple => simp

/-
  A statement is a triple, and is not skipped when its file is
  given alone, exactly when it is a triple with the number of
  the file in front of its labels, and is not skipped when the
  file is given with others, and all of its labels begin like
  labels.
-/
theorem scopeBlankNodes_valid_iff
    (path : String)
    (file : Nat)
    (statement : Statement) :
    ((∃ triple, statement.toTriple = .ok triple) ↔
        (∃ triple,
          (scopeBlankNodes file statement).toTriple =
            .ok triple) ∧
          statement.BeginsLabels) ∧
      (InputFile.statementMessages ⟨path, none⟩ statement =
          [] ↔
        InputFile.statementMessages ⟨path, some file⟩
            statement = [] ∧
          statement.BeginsLabels) := by
  have hIff :=
    Statement.toTriple_scopeBlankNodes_iff file statement
  rw [statementMessages_eq_nil_iff,
    statementMessages_eq_nil_iff]
  exact ⟨hIff, hIff⟩

/-
  A hyphen begins no label, but may stand behind the number of
  a file.  The statement about it is skipped in a file that is
  given alone, and written when the file is given with others.
-/
theorem scopeBlankNodes_mends :
    let input : FileInput :=
      ⟨[bytes
        ("<a xmlns='u:' xmlns:r='" ++ Rdf.space ++
          "' r:nodeID='-x'/>")], none⟩
    let made : Statement := ⟨"_:-x", Rdf.typeIri, .iri "u:a"⟩
    made ∈ statementsOf (parseInput {} input).1 ∧
      made.toTriple = .error (.blankNode "_:-x") ∧
        (scopeBlankNodes 1 made).toTriple =
          .ok ⟨.blankNode "f1_-x", Rdf.typeIri,
            .resource (.iri "u:a")⟩ := by
  decide +kernel

end CommandLine

end RdfXml
