import RdfXml.CommandLine.FileTree
import RdfXml.Options
import RdfXml.Parser
import RdfXml.Rdf.Triple

/-
  Converting one file to triples.

  With several files the labels of blank nodes get the number
  of the file in front, so that files never share a blank
  node.

  Key definitions include:
    * `scopeBlankNodes`
    * `CommandLine.Message`
    * `CommandLine.InputFile`
    * `CommandLine.FileReport`
    * `CommandLine.convertFile`
-/

------------------------------------------------------------
-- Labels By File
------------------------------------------------------------

namespace RdfXml

/- A reference with the file's number in front of its label. -/
def scopeReference
    (file : Nat)
    (reference : String) : String :=
  match blankNodeLabel? reference with
  | some label =>
      "_:f" ++ toString file ++ "_" ++ label
  | none => reference

/-
  A statement with the file's number in front of the labels of
  its blank nodes.
-/
def scopeBlankNodes
    (file : Nat)
    (statement : Statement) : Statement :=
  { statement with
    subject := scopeReference file statement.subject
    object :=
      match statement.object with
      | .blankNode reference =>
          .blankNode (scopeReference file reference)
      | object => object }

namespace CommandLine

------------------------------------------------------------
-- Messages
------------------------------------------------------------

/- What goes to standard error. -/
inductive Message where
| record (record : LogRecord)
| line (text : String)
deriving DecidableEq, Repr

/- An error about a file. -/
def fileError (path text : String) : Message :=
  .line ("Error: " ++ path ++ ": " ++ text)

/- The record of a statement that is no triple. -/
def skipped
    (path : String)
    (statement : Statement)
    (error : TermError) : Message :=
  .record
    ⟨.warn, .commandLine,
      path ++ ": skipping `" ++ statement.line ++ "`: " ++
        error.message⟩

/- The record of a file that was converted. -/
def done (path : String) : Message :=
  .record ⟨.info, .commandLine, path ++ ": done"⟩

------------------------------------------------------------
-- Files
------------------------------------------------------------

/-
  A file of a command line.  Its number is known where there
  are several files.
-/
structure InputFile where
  path : String
  number? : Option Nat
deriving DecidableEq, Repr

namespace InputFile

/- A statement of a file as it goes into the document. -/
def relabel
    (file : InputFile)
    (statement : Statement) : Statement :=
  match file.number? with
  | some number => scopeBlankNodes number statement
  | none => statement

/- The triple that a signal about a file gives, if any. -/
def triple?
    (file : InputFile)
    (signal : Signal) : Option Triple :=
  match signal.statement? with
  | some statement =>
      (file.relabel statement).toTriple.toOption
  | none => none

/- The messages about a statement, which may be no triple. -/
def statementMessages
    (file : InputFile)
    (statement : Statement) : List Message :=
  match (file.relabel statement).toTriple with
  | .ok _ => []
  | .error e => [skipped file.path (file.relabel statement) e]

/- The messages of a signal; its own record comes first. -/
def messages
    (file : InputFile)
    (signal : Signal) : List Message :=
  .record signal.record ::
    match signal.statement? with
    | some statement => file.statementMessages statement
    | none => []

end InputFile

/-
  What the conversion of a file gives: its triples in order,
  the messages about it, and whether it failed.
-/
structure FileReport where
  triples : List Triple
  messages : List Message
  failed : Bool
deriving DecidableEq, Repr

namespace FileReport

/- A file that gives nothing but an error. -/
def ofError (path text : String) : FileReport :=
  ⟨[], [fileError path text], true⟩

end FileReport

/-
  The signals of parsing the input of a file, and the fault or
  the error that they end with.  A parser that has stopped
  reads no further.
-/
def parseInput
    (options : Options)
    (input : FileInput) :
    List Signal × Except String Unit :=
  let (parser, first) := Parser.start options
  let (parser, middle) := parser.parseWhileRunning input.chunks
  let (finished, last) := parser.finish
  (first ++ middle ++ last,
    match parser.status, input.fault?, finished.result with
    | .running, some fault, _ => .error fault.message
    | _, _, .error e => .error e.message
    | _, _, .ok () => .ok ())

/- Convert a file that could be opened. -/
def convertInput
    (options : Options)
    (file : InputFile)
    (input : FileInput) : FileReport :=
  let (signals, result) := parseInput options input
  { triples := signals.filterMap file.triple?
    messages :=
      signals.flatMap file.messages ++
        match result with
        | .ok () => [done file.path]
        | .error text => [fileError file.path text]
    failed := !result.isOk }

/- Convert a file. -/
def convertFile
    (options : Options)
    (file : InputFile)
    (content : FileContent) : FileReport :=
  match content with
  | .cannotOpen fault =>
      .ofError file.path fault.message
  | .opened input => convertInput options file input

end CommandLine

end RdfXml
