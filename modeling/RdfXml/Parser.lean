import RdfXml.Grammar.Machine
import RdfXml.Xml.Tokenizer

/-
  A parser of RDF/XML documents that arrive in chunks.

  `Parser.parseChunk` gives the signals that a chunk causes,
  `Parser.finish` those of the end of the document.  The first
  error is reported once and stops the parser.

  Key definitions include:
    * `Status`
    * `Parser`
    * `Parser.start`
    * `Parser.parseChunk`
    * `Parser.finish`
    * `Parser.result`
    * `Parser.parseWhileRunning`
-/

------------------------------------------------------------
-- State
------------------------------------------------------------

namespace RdfXml

/- Where a parser is in the life of its document. -/
inductive Status where
| running
| finished
| failed (error : XmlError)
deriving DecidableEq, Repr

/- A parser between two chunks. -/
structure Parser where
  tokenizer : Tokenizer
  machine : Machine
  status : Status
deriving DecidableEq, Repr

/- A parser together with the signals of a step. -/
abbrev Parser.Result :=
  Parser × List Signal

namespace Parser

/- A parser before the first chunk. -/
def start (options : Options) : Result :=
  ({ tokenizer := Tokenizer.start
     machine := Machine.start options
     status := .running },
    [.note
      (.started options.baseIri options.blankNodePrefix)])

------------------------------------------------------------
-- Chunks
------------------------------------------------------------

/- The status after a chunk, and the signals about it. -/
def settle
    (isFinal : Bool) :
    Except XmlError Unit → Status × List Signal
| .error e => (.failed e, [.failed e])
| .ok () =>
    if isFinal then (.finished, [.note .completed])
    else (.running, [])

/- Process a chunk while the parser is running. -/
def advance
    (p : Parser)
    (chunk : List UInt8)
    (isFinal : Bool) : Result :=
  let outcome := p.tokenizer.feed chunk isFinal
  let (machine, signals) := p.machine.run outcome.events
  let (status, last) := settle isFinal outcome.result
  ({ tokenizer := outcome.tokenizer, machine, status },
    signals ++ last)

/-
  Process the next chunk of the document; `isFinal` marks the
  last one, which may be empty.  Nothing happens after it or
  after an error.
-/
def parseChunk
    (p : Parser)
    (chunk : List UInt8)
    (isFinal : Bool) : Result :=
  match p.status with
  | .running => p.advance chunk isFinal
  | .finished =>
      (p, [.note (.bytesAfterEnd chunk.length)])
  | .failed _ =>
      (p, [.note (.bytesAfterError chunk.length)])

/- End the document unless it has ended already. -/
def finish (p : Parser) : Result :=
  match p.status with
  | .running => p.parseChunk [] true
  | _ => (p, [])

/- The error that stopped a parser. -/
def error? (p : Parser) : Option XmlError :=
  match p.status with
  | .failed e => some e
  | _ => none

/- The result of a parser whose document has ended. -/
def result (p : Parser) : Except XmlError Unit :=
  match p.error? with
  | some e => .error e
  | none => .ok ()

------------------------------------------------------------
-- Several Chunks
------------------------------------------------------------

/- Process chunks in order, each with its mark. -/
def parseChunks :
    Parser → List (List UInt8 × Bool) → Result
| p, [] => (p, [])
| p, (chunk, isFinal) :: rest =>
    let head := p.parseChunk chunk isFinal
    let tail := parseChunks head.1 rest
    (tail.1, head.2 ++ tail.2)

/-
  Process chunks, none of them the last, for as long as the
  parser is running.
-/
def parseWhileRunning :
    Parser → List (List UInt8) → Result
| p, [] => (p, [])
| p, chunk :: rest =>
    match p.status with
    | .running =>
        let head := p.parseChunk chunk false
        let tail := parseWhileRunning head.1 rest
        (tail.1, head.2 ++ tail.2)
    | _ => (p, [])

end Parser

end RdfXml
