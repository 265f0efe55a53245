import RdfXml.Log
import RdfXml.Text.Pattern.Reader

/-
  Which log records are shown, and how.

  A filter is written as directives between commas, each a
  level, an origin, or an origin with a level, and may end in
  a slash and a pattern that must occur in messages.

  Key definitions include:
    * `LogFilter.Directive`
    * `LogFilter`
    * `LogFilter.ofString`
    * `LogFilter.admits`
    * `LogFilter.recordText`
-/

------------------------------------------------------------
-- Origins And Levels
------------------------------------------------------------

namespace RdfXml

/- The origin of a record as shown. -/
def Component.origin : Component → String
| .parser => "xml2rdf::parser"
| .emitter => "xml2rdf::emitter"
| .attributes => "xml2rdf::attributes"
| .references => "xml2rdf::iri"
| .frames => "xml2rdf::frame"
| .grammar => "xml2rdf::handler"
| .graph => "xml2rdf::sink"
| .commandLine => "xml2rdf"

/- The word for a level as shown, five columns wide. -/
def Level.label : Level → String
| .error => "ERROR"
| .warn => "WARN "
| .info => "INFO "
| .debug => "DEBUG"
| .trace => "TRACE"

namespace LogFilter

/- The rank up to which a word admits records. -/
def rankOf? (word : String) : Option Nat :=
  let word := lowerString word
  if word = "off" then some 0
  else if word = "error" then some 1
  else if word = "warn" then some 2
  else if word = "info" then some 3
  else if word = "debug" then some 4
  else if word = "trace" then some 5
  else none

------------------------------------------------------------
-- Filters
------------------------------------------------------------

/- A rank for the origins that begin with a text. -/
structure Directive where
  origin? : Option String
  rank : Nat
deriving DecidableEq, Repr

end LogFilter

/- Directives, and a pattern that must occur in messages. -/
structure LogFilter where
  directives : List LogFilter.Directive
  pattern? : Option Pattern := none
deriving DecidableEq, Repr

namespace LogFilter

/- A text without white space at its ends. -/
def trimmed (text : String) : String :=
  trimBoth isWhitespace text

/- A fault in a directive. -/
def faultText (part : String) : String :=
  "invalid logging spec '" ++ part ++ "'"

/- The directive of a part between commas. -/
def directive? (part : String) : Except String Directive :=
  match splitString '=' part with
  | [word] =>
      match rankOf? word with
      | some rank => .ok ⟨none, rank⟩
      | none => .ok ⟨some word, 5⟩
  | [origin, word] =>
      let word := trimmed word
      if word = "" then
        .ok ⟨some origin, 5⟩
      else
        match rankOf? word with
        | some rank => .ok ⟨some origin, rank⟩
        | none => .error (faultText word)
  | _ => .error (faultText part)

/- Add a directive in place of one for the same origin. -/
def insert
    (directives : List Directive)
    (directive : Directive) : List Directive :=
  if directives.any (fun d => d.origin? == directive.origin?)
  then
    directives.map
      (fun d =>
        if d.origin? == directive.origin? then directive
        else d)
  else
    directives ++ [directive]

/- The length of the origin of a directive. -/
def originLength (directive : Directive) : Nat :=
  (directive.origin?.map String.utf8ByteSize).getD 0

/- Only errors are shown unless a directive says otherwise. -/
def orDefault (directives : List Directive) :
    List Directive :=
  if directives.isEmpty then [⟨none, 1⟩] else directives

/- The directives of a text, and the faults in it. -/
def readDirectives
    (text : String) : List Directive × List String :=
  let parts :=
    ((splitString ',' text).map trimmed).filter (· != "")
  (parts.map directive?).foldl
    (fun state part =>
      match part with
      | .ok directive => (insert state.1 directive, state.2)
      | .error fault => (state.1, state.2 ++ [fault]))
    ([], [])

/- The directives in the order in which they are looked at. -/
def ordered
    (directives : List Directive) : List Directive :=
  (orDefault directives).reverse.mergeSort
    (fun a b => originLength b ≤ originLength a)

/- The pattern behind a slash, if any, and the faults in it. -/
def readPattern :
    Option String → Option Pattern × List String
| none => (none, [])
| some text =>
    match Pattern.ofString text with
    | .ok pattern => (some pattern, [])
    | .error fault =>
        (none, ["invalid regex filter - " ++ fault.text text])

/- A warning about a fault. -/
def warningText (fault : String) : String :=
  "warning: " ++ fault ++ ", ignoring it"

/-
  The filter of a text, and the warnings about it.  Longer
  origins are looked at first, and later ones of a length.
-/
def ofString (text : String) : LogFilter × List String :=
  match splitString '/' text with
  | [] => (⟨orDefault [], none⟩, [])
  | _ :: _ :: _ :: _ =>
      (⟨orDefault [], none⟩,
        [warningText (faultText text ++ " (too many '/'s)")])
  | front :: back =>
      let (directives, faults) := readDirectives front
      let (pattern?, more) := readPattern back.head?
      (⟨ordered directives, pattern?⟩,
        (faults ++ more).map warningText)

/- A directive is about an origin. -/
def concerns
    (directive : Directive)
    (origin : String) : Bool :=
  match directive.origin? with
  | some start => start.toList.isPrefixOf origin.toList
  | none => true

/- A record is shown. -/
def admits
    (filter : LogFilter)
    (record : LogRecord) : Bool :=
  let origin := record.component.origin
  match filter.directives.find? (concerns · origin) with
  | some directive =>
      record.level.rank ≤ directive.rank &&
        filter.pattern?.all
          (fun pattern => pattern.occursIn record.message.toList)
  | none => false

------------------------------------------------------------
-- Display
------------------------------------------------------------

/- Lines after the first one are indented. -/
def indented (message : String) : String :=
  String.join
    (message.toList.map
      (fun c =>
        if c = '\n' then "\n    " else String.singleton c))

/- A record as shown, without its time. -/
def recordText (record : LogRecord) : String :=
  "[" ++ record.level.label ++ " " ++
    record.component.origin ++ "] " ++
      indented record.message

end LogFilter

end RdfXml
