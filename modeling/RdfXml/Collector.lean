import RdfXml.Chunks
import RdfXml.Parser
import RdfXml.Rdf.Graph

/-
  Reading a document into a graph.

  A collector takes the signals of a parser.  Statements that
  are no triples are left out, and the first such problem is
  kept.

  Key definitions include:
    * `Collector`
    * `Collector.accept`
    * `Collector.acceptAll`
    * `Collector.result`
    * `ReadError`
    * `readDocument`
-/

------------------------------------------------------------
-- Collectors
------------------------------------------------------------

namespace RdfXml

/-
  A graph that takes statements, the namespace of each prefix
  declared so far, and the error of the first statement that
  is no triple.
-/
structure Collector where
  graph : Graph := {}
  namespaces : List (String × String) := []
  error? : Option TermError := none
deriving DecidableEq, Repr

namespace Collector

/- A later declaration of a prefix replaces an earlier one. -/
def declare
    (c : Collector)
    (label uri : String) : Collector :=
  { c with
    namespaces :=
      (label, uri) ::
        c.namespaces.filter (fun d => d.1 != label) }

/- The record of a statement that is left out. -/
def droppedRecord
    (statement : Statement)
    (error : TermError) : LogRecord :=
  ⟨.warn, .graph,
    "Dropping statement `" ++ statement.line ++ "`: " ++
      error.message⟩

/- Take a statement. -/
def acceptStatement
    (c : Collector)
    (statement : Statement) : Collector × List LogRecord :=
  match statement.toTriple with
  | .ok triple =>
      ({ c with graph := c.graph.insert triple }, [])
  | .error e =>
      ({ c with error? := c.error?.or (some e) },
        [droppedRecord statement e])

/- Take a signal; its own record comes first. -/
def accept
    (c : Collector)
    (signal : Signal) : Collector × List LogRecord :=
  match signal with
  | .statement s =>
      let (c, records) := c.acceptStatement s
      (c, signal.record :: records)
  | .declared label uri =>
      (c.declare label uri, [signal.record])
  | _ => (c, [signal.record])

/- Take signals in order. -/
def acceptAll :
    Collector → List Signal → Collector × List LogRecord
| c, [] => (c, [])
| c, signal :: rest =>
    let head := c.accept signal
    let tail := acceptAll head.1 rest
    (tail.1, head.2 ++ tail.2)

/- The error of the first statement that was left out. -/
def result (c : Collector) : Except TermError Unit :=
  match c.error? with
  | some e => .error e
  | none => .ok ()

end Collector

------------------------------------------------------------
-- Whole Documents
------------------------------------------------------------

/- Why a document could not be read into a graph. -/
inductive ReadError where
| document (cause : XmlError)
| term (cause : TermError)
deriving DecidableEq, Repr

/- An error of the document comes before one of its terms. -/
def readResult
    (document : Except XmlError Unit)
    (terms : Except TermError Unit) : Except ReadError Unit :=
  match document, terms with
  | .error e, _ => .error (.document e)
  | .ok (), .error e => .error (.term e)
  | .ok (), .ok () => .ok ()

/- A graph after reading, with the result and the records. -/
structure ReadOutcome where
  graph : Graph
  result : Except ReadError Unit
  records : List LogRecord

/- Add the triples of a document to a graph. -/
def readDocument
    (input : List UInt8)
    (options : Options)
    (graph : Graph) : ReadOutcome :=
  let (p, first) := Parser.start options
  let (p, middle) :=
    p.parseWhileRunning (chunksOf documentChunkSize input)
  let (p, last) := p.finish
  let (c, records) :=
    Collector.acceptAll { graph }
      (first ++ middle ++ last)
  { graph := c.graph
    result := readResult p.result c.result
    records }

end RdfXml
