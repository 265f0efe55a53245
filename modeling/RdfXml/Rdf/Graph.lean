import RdfXml.Rdf.Triple

/-
  Graphs: finite sets of triples.

  Key definitions include:
    * `Graph`
    * `Graph.insert`
    * `Row`
    * `Graph.rows`
-/

------------------------------------------------------------
-- Graphs
------------------------------------------------------------

namespace RdfXml

/- Triples without repetition, the latest first. -/
structure Graph where
  triples : List Triple := []
deriving DecidableEq, Repr

namespace Graph

/- The graph without triples. -/
def empty : Graph := {}

/- A graph holds a triple. -/
def contains
    (graph : Graph)
    (triple : Triple) : Bool :=
  decide (triple ∈ graph.triples)

/- Add a triple unless the graph holds it. -/
def insert
    (graph : Graph)
    (triple : Triple) : Graph :=
  if graph.contains triple then graph
  else ⟨triple :: graph.triples⟩

end Graph

------------------------------------------------------------
-- Rows
------------------------------------------------------------

/- How the object of a row is to be read. -/
inductive ObjectKind where
| iri
| blankNode
| literal
deriving DecidableEq, Repr

namespace ObjectKind

/- The word for a kind. -/
def word : ObjectKind → String
| .iri => "iri"
| .blankNode => "bnode"
| .literal => "literal"

end ObjectKind

/-
  A triple with all positions as texts, the form in which
  graphs are listed.
-/
structure Row where
  subject : String
  predicate : String
  kind : ObjectKind
  object : String
  datatype : String
  language : String
deriving DecidableEq, Repr

/- A resource with blank nodes as references. -/
def Resource.text : Resource → String
| .iri text => text
| .blankNode label => blankNodeReference label

namespace Triple

/- The row of a triple. -/
def row (triple : Triple) : Row :=
  let subject := triple.subject.text
  let predicate := triple.predicate
  match triple.object with
  | .resource (.iri iri) =>
      ⟨subject, predicate, .iri, iri, "", ""⟩
  | .resource (.blankNode label) =>
      ⟨subject, predicate, .blankNode,
        blankNodeReference label, "", ""⟩
  | .literal literal =>
      ⟨subject, predicate, .literal, literal.value,
        literal.datatype, literal.language⟩

end Triple

namespace Row

/- The texts of a row in order. -/
def texts (row : Row) : List String :=
  [row.subject, row.predicate, row.kind.word, row.object,
   row.datatype, row.language]

/- Rows are ordered by their texts, the first one first. -/
def precedes (left right : Row) : Bool :=
  !decide (right.texts < left.texts)

end Row

namespace Graph

/- The rows of a graph in order. -/
def rows (graph : Graph) : List Row :=
  (graph.triples.map Triple.row).mergeSort Row.precedes

end Graph

end RdfXml
