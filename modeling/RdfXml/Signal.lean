import RdfXml.Grammar.Frame
import RdfXml.Iri.Characters
import RdfXml.Log
import RdfXml.Text.Quoted
import RdfXml.Xml.Error
import RdfXml.Xml.Event

/-
  What a parser reports while it reads a document.

  Statements, namespace declarations, and the error that
  stopped it are results; notes only say what happened.  Every
  signal has a log record.

  Key definitions include:
    * `Note`
    * `Signal`
    * `Signal.record`
    * `statementsOf`
-/

------------------------------------------------------------
-- Notes
------------------------------------------------------------

namespace RdfXml

/- Something worth a log record that is no result. -/
inductive Note where
| started (base blankNodePrefix : String)
| completed
| bytesAfterEnd (count : Nat)
| bytesAfterError (count : Nat)
| element (tag : StartTag) (role : Role)
| elementAfterRoot (name : Name)
| endWithoutFrame (name : Name)
| unqualifiedAttribute (name : String)
| unresolved (reference base : String) (cause : Iri.Fault)
| readAsLiteral (parseType : String)
| pushed (kind : FrameKind) (depth : Nat) (scope : Scope)
deriving DecidableEq, Repr

namespace Note

/- The attributes of a start tag as shown in a record. -/
def attributesText (attributes : List Attribute) : String :=
  " ".intercalate
    (attributes.map
      (fun a =>
        "@" ++ a.name.qualified ++ "='" ++ a.value ++ "'"))

/- The record of a note. -/
def record : Note → LogRecord
| .started base blankNodePrefix =>
    ⟨.debug, .parser,
      "new parser (base <" ++ base ++
        ">, blank node prefix " ++
          Quoted.render blankNodePrefix ++ ")"⟩
| .completed =>
    ⟨.debug, .parser, "document complete"⟩
| .bytesAfterEnd count =>
    ⟨.warn, .parser,
      "ignoring " ++ toString count ++
        " bytes after the final chunk"⟩
| .bytesAfterError count =>
    ⟨.warn, .parser,
      "ignoring " ++ toString count ++
        " bytes after a parse error"⟩
| .element tag role =>
    ⟨.trace, .grammar,
      "<" ++ tag.name.qualified ++ "> " ++
        attributesText tag.attributes ++ " as " ++
          role.word⟩
| .elementAfterRoot name =>
    ⟨.trace, .grammar,
      "- ignoring <" ++ name.qualified ++
        "> after the root element"⟩
| .endWithoutFrame name =>
    ⟨.trace, .grammar,
      "- ignoring </" ++ name.qualified ++
        "> with no open frame"⟩
| .unqualifiedAttribute name =>
    ⟨.trace, .attributes,
      "- ignoring unqualified attribute @" ++ name⟩
| .unresolved reference base cause =>
    ⟨.debug, .references,
      "- cannot resolve <" ++ reference ++ "> against <" ++
        base ++ ">: " ++ cause.message⟩
| .readAsLiteral parseType =>
    ⟨.debug, .grammar,
      "- parseType=\"" ++ parseType ++
        "\" is handled as \"Literal\""⟩
| .pushed kind depth scope =>
    ⟨.trace, .frames,
      "- push " ++ kind.word ++ " frame (depth " ++
        toString depth ++ ", lang " ++
          Quoted.render scope.lang ++ ", base <" ++
            scope.base ++ ">)"⟩

end Note

------------------------------------------------------------
-- Signals
------------------------------------------------------------

/-
  A report of a parser.  The default namespace is declared
  with an empty prefix.
-/
inductive Signal where
| statement (statement : Statement)
| declared (label uri : String)
| failed (error : XmlError)
| note (note : Note)
deriving DecidableEq, Repr

namespace Signal

/- The log record of a signal. -/
def record : Signal → LogRecord
| .statement s =>
    ⟨.trace, .emitter, "- emitting " ++ s.line⟩
| .declared label uri =>
    ⟨.debug, .emitter,
      "- namespace " ++ Quoted.render label ++ " = <" ++
        uri ++ ">"⟩
| .failed error =>
    ⟨.debug, .parser, "parse failed: " ++ error.message⟩
| .note n => n.record

/- The statement of a signal, if it is one. -/
def statement? : Signal → Option Statement
| .statement s => some s
| _ => none

end Signal

/- The statements among signals, in order. -/
def statementsOf (signals : List Signal) : List Statement :=
  signals.filterMap Signal.statement?

/- Statements as signals. -/
def statementSignals
    (statements : List Statement) : List Signal :=
  statements.map .statement

end RdfXml
