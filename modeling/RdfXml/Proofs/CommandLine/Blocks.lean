import RdfXml.CommandLine.Report
import RdfXml.Proofs.Collector
import RdfXml.Proofs.Parser.Lifecycle
import RdfXml.Proofs.Parser.XmlLiteral

/-
  The files of a command line, one block each.

  What is written is one block of triples for each file, in
  order.  A block depends on its file and its place alone: it
  holds what a parser makes of the file, given all that could
  be read of it.

  Main declarations:
    * `CommandLine.block`
    * `CommandLine.Fails`
    * `CommandLine.parseInput_statements`
    * `CommandLine.parseInput_fails`
    * `CommandLine.convert_blocks`
-/

------------------------------------------------------------
-- Blocks
------------------------------------------------------------

namespace RdfXml

namespace CommandLine

/-
  A statement of the file at a place, as it is written when
  there are `count` files.
-/
def placedStatement
    (count place : Nat)
    (statement : Statement) : Statement :=
  if 1 < count then scopeBlankNodes (place + 1) statement
  else statement

/-
  The triples of the file at a place: of what a parser makes
  of its chunks, all that are triples once they are placed.
-/
def block
    (options : Options)
    (count place : Nat) : FileContent → List Triple
| .cannotOpen _ => []
| .opened input =>
    (statementsOf
      (Parser.parseDocument options
        (unmarked input.chunks)).2).filterMap
      (fun s => (placedStatement count place s).toTriple.toOption)

/-
  A file cannot be opened, cannot be read to its end, or is
  refused by a parser.
-/
def Fails (options : Options) : FileContent → Prop
| .cannotOpen _ => True
| .opened input =>
    input.fault?.isSome ∨
      ∃ e,
        (Parser.parseDocument options
          (unmarked input.chunks)).1.result = .error e

------------------------------------------------------------
-- Inputs
------------------------------------------------------------

/- Chunks that are not the last never finish a document. -/
theorem parseChunks_unfinished
    {p : Parser}
    (hUnfinished : p.status ≠ .finished)
    (pieces : List (List UInt8)) :
    (p.parseChunks (unmarked pieces)).1.status ≠
      .finished := by
  induction pieces generalizing p with
  | nil => exact hUnfinished
  | cons piece pieces ih =>
      apply ih
      by_cases hRunning : p.status = .running
      · rw [Parser.parseChunk_running hRunning]
        cases hResult :
            (p.tokenizer.feed piece false).result with
        | error e => simp [Parser.advance_failed hResult]
        | ok value => simp [Parser.advance_ok hResult]
      · rw [(Parser.parseChunk_stopped hRunning piece
          false).1]
        exact hUnfinished

section Inputs

variable
  (options : Options)
  (input : FileInput)

/- An input makes the statements of a parser of its chunks. -/
theorem parseInput_statements :
    statementsOf (parseInput options input).1 =
      statementsOf
        (Parser.parseDocument options
          (unmarked input.chunks)).2 := by
  rcases Parser.parseWhileRunning_calls
      (Parser.start options).1 input.chunks with
    ⟨hParser, hCalls⟩
  rw [← Parser.statementsOf_calls,
    ← Parser.statementsOf_calls
      (Parser.parseDocument options
        (unmarked input.chunks)).2]
  apply congrArg statementsOf
  unfold parseInput Parser.parseDocument
  dsimp only
  rw [hParser, callsOf_append, callsOf_append,
    callsOf_append, callsOf_append, hCalls]

/-
  An input fails when reading it ends in a fault or a parser
  refuses its chunks.  A fault that comes behind an error is
  never seen, but then the error is.
-/
theorem parseInput_fails :
    (parseInput options input).2.isOk = false ↔
      Fails options (.opened input) := by
  have hParser :=
    (Parser.parseWhileRunning_calls
      (Parser.start options).1 input.chunks).1
  have hUnfinished :=
    parseChunks_unfinished
      (p := (Parser.start options).1)
      (by simp [Parser.start]) input.chunks
  unfold parseInput Fails Parser.parseDocument
  dsimp only
  rw [hParser]
  generalize
    ((Parser.start options).1.parseChunks
      (unmarked input.chunks)).1 = p at hUnfinished ⊢
  cases hStatus : p.status with
  | finished => exact absurd hStatus hUnfinished
  | running =>
      cases input.fault? with
      | some fault => simp [Except.isOk, Except.toBool]
      | none =>
          cases p.finish.1.result with
          | error e => simp [Except.isOk, Except.toBool]
          | ok value => simp [Except.isOk, Except.toBool]
  | failed e =>
      have hResult : p.finish.1.result = .error e := by
        rw [Parser.finish_quiet (by rw [hStatus]; simp)]
        simp [Parser.result, Parser.error?, hStatus]
      rw [hResult]
      simp [Except.isOk, Except.toBool]

end Inputs

------------------------------------------------------------
-- Files At Their Places
------------------------------------------------------------

/- The file with a path at a place among `count` files. -/
def fileAt
    (count place : Nat)
    (path : String) : InputFile :=
  ⟨path, if 1 < count then some (place + 1) else none⟩

theorem inputFiles_places (paths : List String) :
    inputFiles paths =
      paths.mapIdx (fileAt paths.length) := by
  symm
  rw [List.mapIdx_eq_iff]
  intro place
  unfold inputFiles
  split
  · next hSeveral =>
      rw [List.getElem?_map, List.getElem?_zipIdx]
      cases paths[place]? with
      | none => rfl
      | some path => simp [fileAt, hSeveral]
  · next hSingle =>
      rw [List.getElem?_map]
      cases paths[place]? with
      | none => rfl
      | some path => simp [fileAt, hSingle]

section Files

variable
  (options : Options)
  (count place : Nat)
  (path : String)
  (content : FileContent)

theorem relabel_fileAt (statement : Statement) :
    (fileAt count place path).relabel statement =
      placedStatement count place statement := by
  unfold InputFile.relabel fileAt placedStatement
  by_cases hSeveral : 1 < count
  · simp [hSeveral]
  · simp [hSeveral]

/- A file gives the triples of its block. -/
theorem convertFile_triples :
    (convertFile options (fileAt count place path)
      content).triples =
      block options count place content := by
  cases content with
  | cannotOpen fault => rfl
  | opened input =>
      have hTriple :
          (fileAt count place path).triple? =
            fun signal =>
              signal.statement?.bind
                (fun s =>
                  (placedStatement count place
                    s).toTriple.toOption) := by
        funext signal
        unfold InputFile.triple?
        cases signal.statement? with
        | none => rfl
        | some s => simp [relabel_fileAt]
      unfold block convertFile convertInput
      dsimp only
      rw [hTriple, ← parseInput_statements]
      unfold statementsOf
      rw [List.filterMap_filterMap]

/- A file is reported as failed when it fails. -/
theorem convertFile_failed :
    (convertFile options (fileAt count place path)
      content).failed = true ↔
      Fails options content := by
  cases content with
  | cannotOpen fault => exact iff_of_true rfl trivial
  | opened input =>
      rw [← parseInput_fails]
      unfold convertFile convertInput
      dsimp only
      rw [Bool.not_eq_true']

end Files

------------------------------------------------------------
-- Command Lines
------------------------------------------------------------

theorem fileReports_places
    (options : Options)
    (files : String → FileContent)
    (paths : List String) :
    fileReports options files paths =
      paths.mapIdx
        (fun place path =>
          convertFile options
            (fileAt paths.length place path)
            (files path)) := by
  symm
  rw [List.mapIdx_eq_iff]
  intro place
  unfold fileReports
  rw [inputFiles_places, List.getElem?_map,
    List.getElem?_mapIdx, Option.map_map]
  rfl

theorem fileReports_failed
    (options : Options)
    (files : String → FileContent)
    (paths : List String) :
    (fileReports options files paths).any
        FileReport.failed = true ↔
      ∃ path ∈ paths, Fails options (files path) := by
  rw [fileReports_places, List.any_eq_true]
  constructor
  · rintro ⟨report, hReport, hFailed⟩
    rcases List.mem_mapIdx.mp hReport with
      ⟨place, hPlace, rfl⟩
    exact ⟨_, List.getElem_mem hPlace,
      (convertFile_failed _ _ _ _ _).mp hFailed⟩
  · rintro ⟨path, hPath, hFails⟩
    rcases List.getElem_of_mem hPath with
      ⟨place, hPlace, rfl⟩
    exact ⟨_, List.mem_mapIdx.mpr ⟨place, hPlace, rfl⟩,
      (convertFile_failed _ _ _ _ _).mpr hFails⟩

/-
  A command line with valid settings writes the blocks of its
  files in their order.  Its exit code says whether a file has
  failed.  What a file gives does not depend on what the other
  files hold, or on whether they fail.
-/
theorem convert_blocks
    {arguments : Arguments}
    {options : Options}
    (hOptions : optionsOf arguments = .ok options)
    (files : String → FileContent) :
    let paths := arguments.files
    let blocks :=
      paths.mapIdx
        (fun place path =>
          block options paths.length place (files path))
    let report := convert files arguments
    (fileReports options files paths).map
          FileReport.triples = blocks ∧
      report.output =
        Turtle.document (turtleBase? arguments)
          blocks.flatten ∧
      (report.exitCode = 1 ↔
        ∃ path ∈ paths, Fails options (files path)) ∧
      (report.exitCode = 0 ↔
        ∀ path ∈ paths, ¬ Fails options (files path)) ∧
      ∀ (others : String → FileContent)
          (place : Nat) (path : String),
        paths[place]? = some path →
        others path = files path →
          (fileReports options others paths)[place]? =
            (fileReports options files paths)[place]? := by
  intro paths blocks report
  have hTriples :
      (fileReports options files paths).map
        FileReport.triples = blocks := by
    symm
    rw [List.mapIdx_eq_iff]
    intro place
    rw [fileReports_places, List.getElem?_map,
      List.getElem?_mapIdx, Option.map_map]
    congr 1
    funext path
    exact convertFile_triples _ _ _ _ _
  have hFailed := fileReports_failed options files paths
  have hOutput :
      report.output =
        Turtle.document (turtleBase? arguments)
          ((fileReports options files paths).flatMap
            FileReport.triples) := by
    simp only [report, convert, hOptions]
    rfl
  have hCode :
      report.exitCode =
        if (fileReports options files paths).any
          FileReport.failed then 1 else 0 := by
    simp only [report, convert, hOptions]
    rfl
  refine ⟨hTriples, ?_, ?_, ?_, ?_⟩
  · rw [hOutput, List.flatMap_def, hTriples]
  · rw [hCode, ← hFailed]
    split
    · next hAny => simp [hAny]
    · next hAny => simp [hAny]
  · have hNone :
        (∀ path ∈ paths, ¬ Fails options (files path)) ↔
          ¬ ∃ path ∈ paths, Fails options (files path) := by
      simp
    rw [hCode, hNone, ← hFailed]
    split
    · next hAny => simp [hAny]
    · next hAny => simp [hAny]
  · intro others place path hPlace hSame
    rw [fileReports_places, fileReports_places,
      List.getElem?_mapIdx, List.getElem?_mapIdx, hPlace]
    simp only [Option.map_some, hSame]

/-
  A file that is missing stands between one that is accepted
  and one that fails after its first statement.
-/
theorem convert_blocks_missing :
    let arguments : Arguments :=
      { files := ["a", "missing", "b"] }
    let files : String → FileContent := fun path =>
      if path = "a" then
        .opened
          ⟨[bytes "<a xmlns='u:'", bytes "/>"], none⟩
      else if path = "b" then
        .opened
          ⟨[bytes "<b xmlns='u:'></", bytes "c>"], none⟩
      else
        .cannotOpen .notFound
    optionsOf arguments = .ok {} ∧
      (fileReports {} files arguments.files).map
          FileReport.triples =
        [[⟨.blankNode "f1_b1", Rdf.typeIri,
            .resource (.iri "u:a")⟩],
          [],
          [⟨.blankNode "f3_b1", Rdf.typeIri,
            .resource (.iri "u:b")⟩]] ∧
      (convert files arguments).exitCode = 1 := by
  intro arguments files
  have hOptions : optionsOf arguments = .ok {} := by
    have hPrefix :
        Options.isBlankNodePrefix defaultBlankNodePrefix =
          true := by
      decide +kernel
    unfold optionsOf Options.withBlankNodePrefix
    rw [Option.getD_none, hPrefix]
    rfl
  have hBlocks := convert_blocks hOptions files
  refine ⟨hOptions, hBlocks.1.trans ?_, ?_⟩
  · decide +kernel
  · exact hBlocks.2.2.1.mpr ⟨"missing", by decide, trivial⟩

end CommandLine

end RdfXml
