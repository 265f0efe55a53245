import RdfXml.CommandLine.Arguments
import RdfXml.CommandLine.FileReport
import RdfXml.CommandLine.LogFilter
import RdfXml.Turtle.Writer

/-
  Converting files to one Turtle document.

  Each file is parsed on its own, and the triples of all files
  are written in order.

  Key definitions include:
    * `CommandLine.Report`
    * `CommandLine.fileReports`
    * `CommandLine.convert`
    * `CommandLine.run`
    * `CommandLine.messageTexts`
-/

------------------------------------------------------------
-- Whole Runs
------------------------------------------------------------

namespace RdfXml

namespace CommandLine

/- What a run leaves behind. -/
structure Report where
  exitCode : Nat
  output : String := ""
  messages : List Message := []

/- A character between single quotes. -/
def quotedChar (c : Char) : String :=
  if c = '\'' then "'\\''"
  else if c = '"' then "'\"'"
  else "'" ++ Quoted.renderChar c ++ "'"

/- The kind of a fault in an IRI, in structured form. -/
def faultForm : Iri.Fault → String
| .noScheme => "NoScheme"
| .hostCharacter c =>
    "InvalidHostCharacter(" ++ quotedChar c ++ ")"
| .hostAddress => "InvalidHostIp(AddrParseError(Ipv6))"
| .portCharacter c =>
    "InvalidPortCharacter(" ++ quotedChar c ++ ")"
| .codePoint c =>
    "InvalidIriCodePoint(" ++ quotedChar c ++ ")"
| .percentEncoding chars =>
    "InvalidPercentEncoding([" ++
      ", ".intercalate
        (chars.map
          (fun c => "Some(" ++ quotedChar c ++ ")") ++
            List.replicate (3 - chars.length) "None") ++ "])"
| .twoSlashes => "PathStartingWithTwoSlashes"

/- An error of the settings, in structured form. -/
def optionsErrorForm : OptionsError → String
| .baseIri iri cause =>
    "IriParseError \x7b source: IriParseError \x7b kind: " ++
      faultForm cause ++ " \x7d, iri: " ++
        Quoted.render iri ++ " \x7d"
| .blankNodePrefix text =>
    "InvalidBlankNodePrefix \x7b prefix: " ++
      Quoted.render text ++ " \x7d"

/- The settings of a command line. -/
def optionsOf
    (arguments : Arguments) : Except OptionsError Options := do
  let options ←
    Options.withBlankNodePrefix {}
      (arguments.blankNodePrefix?.getD defaultBlankNodePrefix)
  match arguments.base? with
  | some base => options.withBaseIri base
  | none => .ok options

/- The base that a document is written with. -/
def turtleBase? (arguments : Arguments) : Option Turtle.Base :=
  arguments.base?.map
    (fun base => ⟨base, Iri.Parts.split base.toList⟩)

/- Files with their numbers, which a single file has not. -/
def inputFiles (paths : List String) : List InputFile :=
  if 1 < paths.length then
    paths.zipIdx.map
      (fun entry => ⟨entry.1, some (entry.2 + 1)⟩)
  else
    paths.map (fun path => ⟨path, none⟩)

/- The reports of converting files in order. -/
def fileReports
    (options : Options)
    (files : String → FileContent)
    (paths : List String) : List FileReport :=
  (inputFiles paths).map
    (fun file =>
      convertFile options file (files file.path))

/- Convert the files of a command line. -/
def convert
    (files : String → FileContent)
    (arguments : Arguments) : Report :=
  match optionsOf arguments with
  | .error e =>
      { exitCode := 1
        messages := [.line ("Error: " ++ optionsErrorForm e)] }
  | .ok options =>
      let reports := fileReports options files arguments.files
      { exitCode := if reports.any FileReport.failed then 1 else 0
        output :=
          Turtle.document (turtleBase? arguments)
            (reports.flatMap FileReport.triples)
        messages := reports.flatMap FileReport.messages }

/- Run a command line on files that can be looked up. -/
def run
    (files : String → FileContent)
    (arguments : List String) : Report :=
  match Request.ofList arguments with
  | .convert arguments => convert files arguments
  | .help => { exitCode := 0 }
  | .version => { exitCode := 0 }
  | .misuse => { exitCode := 2 }

------------------------------------------------------------
-- Standard Error
------------------------------------------------------------

/- The text of a message, if the filter admits it. -/
def messageText?
    (filter : LogFilter) : Message → Option String
| .record r =>
    if filter.admits r then some (LogFilter.recordText r)
    else none
| .line text => some text

/-
  The texts of a run's messages, with what there is to say
  about the filter itself in front.
-/
def messageTexts
    (filterText : String)
    (report : Report) : List String :=
  let (filter, warnings) := LogFilter.ofString filterText
  warnings ++ report.messages.filterMap (messageText? filter)

/- The lines of some texts. -/
def linesOf (texts : List String) : List String :=
  texts.flatMap (splitString '\n')

end CommandLine

end RdfXml
