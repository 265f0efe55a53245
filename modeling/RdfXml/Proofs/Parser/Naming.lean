import RdfXml.Proofs.Grammar.Issuing
import RdfXml.Proofs.Grammar.Naming
import RdfXml.Proofs.Parser.Frames
import RdfXml.Proofs.Parser.XmlLiteral

/-
  Fresh blank nodes of documents.

  The sites of a document are its elements that need a blank
  node.  A parser gives each of them one of its own, and uses
  it wherever it states something about this site.

  Main declarations:
    * `Tokenizer.feedAll_completes`
    * `Machine.start_named`
    * `Parser.parseChunks_named`
-/

------------------------------------------------------------
-- Completed Documents
------------------------------------------------------------

namespace RdfXml

/- What is delivered lacks only ends to be an element. -/
theorem Tokenizer.feedAll_completes
    (chunks : List (List UInt8 × Bool)) :
    (start.feedAll chunks).events = [] ∨
      ∃ (root : Element) (names : List Name),
        (start.feedAll chunks).events ++
            names.map .endElement =
          root.events := by
  rcases feedAll_follows start_tracks chunks with
    ⟨later, hEvents, _⟩
  have hSame : (start.feedAll chunks).events = later.events := by
    rw [hEvents]
    rfl
  rw [hSame]
  exact later.completes

/-
  A machine that lacks only ends has issued all blank nodes
  of the document.
-/
theorem Machine.start_named
    {name : Site → String}
    {options : Options}
    {root : Element}
    {events : List Event}
    {names : List Name}
    (hEvents : events ++ names.map .endElement = root.events)
    (hAgrees :
      Grammar.Agrees name (start options).blankNodes
        (Grammar.sites root)) :
    let m := ((start options).run events).1
    m.blankNodes =
        (start options).blankNodes.after
          (Grammar.sites root).length ∧
      statementsOf ((start options).run events).2 ++
          statementsOf (m.run (names.map .endElement)).2 =
        Grammar.namedDocument name options root := by
  intro m
  have hRuns := runs_named hAgrees
  rw [← hEvents] at hRuns
  rcases hRuns with ⟨hLast, hMade⟩
  rw [run_append] at hLast hMade
  constructor
  · rw [← run_ends_blankNodes m names, hLast]
  · rw [← hMade, statementsOf_append]

------------------------------------------------------------
-- Blank Nodes Of Sites
------------------------------------------------------------

namespace Parser

/-
  The sites of a document have names that are all different.
  They are, in document order, what the parser has issued,
  and no more than these.  What the parser states, followed
  by what the missing ends of elements would state, is what
  the document says with these names for its sites.
-/
theorem parseChunks_named
    (options : Options)
    (chunks : List (List UInt8 × Bool)) :
    let events := (Tokenizer.start.feedAll chunks).events
    let parsed := (Parser.start options).1.parseChunks chunks
    let machine := parsed.1.machine
    let supply : BlankNodes := ⟨options.blankNodePrefix, 0⟩
    events = [] ∧ statementsOf parsed.2 = [] ∧
        machine.blankNodes = supply ∨
      ∃ (root : Element) (names : List Name)
        (name : Site → String),
        let sites := Grammar.sites root
        events ++ names.map .endElement = root.events ∧
        sites.Nodup ∧
        (∀ first ∈ sites, ∀ second ∈ sites,
          name first = name second → first = second) ∧
        sites.map name = supply.upcoming sites.length ∧
        machine.blankNodes = supply.after sites.length ∧
        statementsOf parsed.2 ++
            statementsOf
              (machine.run (names.map .endElement)).2 =
          Grammar.namedDocument name options root := by
  intro events parsed machine supply
  have hMachine :
      machine = ((Machine.start options).run events).1 :=
    parseChunks_machine rfl chunks
  have hStatements :
      statementsOf parsed.2 =
        statementsOf ((Machine.start options).run events).2 :=
    parseChunks_statements options chunks
  rw [hStatements, hMachine]
  rcases Tokenizer.feedAll_completes chunks with
    hNone | ⟨root, names, hEvents⟩
  · have hEmpty : events = [] := hNone
    rw [hEmpty]
    exact .inl ⟨rfl, rfl, rfl⟩
  · have hNodup := Grammar.sites_nodup root
    rcases Grammar.exists_agrees hNodup
        (Machine.start options).blankNodes with
      ⟨name, hAgrees⟩
    have hNames : ((Grammar.sites root).map name).Nodup := by
      rw [hAgrees]
      exact BlankNodes.upcoming_nodup _ _
    rcases Machine.start_named hEvents hAgrees with
      ⟨hIssued, hMade⟩
    exact
      .inr
        ⟨root, names, name, hEvents, hNodup,
          List.inj_on_of_nodup_map hNames, hAgrees, hIssued,
          hMade⟩

end Parser

end RdfXml
