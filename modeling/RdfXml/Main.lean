import RdfXml.CommandLine.Report

/-
  The program: RDF/XML files in, one Turtle document out.
-/

------------------------------------------------------------
-- Reading Files
------------------------------------------------------------

namespace RdfXml

/- Read a file, or say why it cannot be read. -/
def readFile (path : String) : IO FileContent := do
  try
    let content ← IO.FS.readBinFile path
    return .opened (.ofBytes content.toList)
  catch e =>
    match e with
    | .noFileOrDirectory .. => return .cannotOpen .notFound
    | .inappropriateType .. => return .opened (.ofFault .isDirectory)
    | e => return .cannotOpen (.other (toString e))

/- Read all files that a command line names. -/
def readFiles
    (paths : List String) :
    IO (List (String × FileContent)) :=
  paths.mapM
    (fun path => do return (path, ← readFile path))

/- The files that a command line names. -/
def filesOf : CommandLine.Request → List String
| .convert arguments => arguments.files
| _ => []

/- The content of a file that has been read. -/
def contentOf
    (files : List (String × FileContent))
    (path : String) : FileContent :=
  (files.lookup path).getD (.cannotOpen .notFound)

------------------------------------------------------------
-- Entry Point
------------------------------------------------------------

/- How to use the program. -/
def usage : String :=
  "Usage: rdfxml [--base URL] [--blank-node-prefix PREFIX] " ++
    "FILE..."

/- Convert the files of a command line and give the exit code. -/
def runProgram (arguments : List String) : IO UInt32 := do
  let request := CommandLine.Request.ofList arguments
  let files ← readFiles (filesOf request)
  let filterText := (← IO.getEnv "RUST_LOG").getD ""
  let report := CommandLine.run (contentOf files) arguments
  IO.print report.output
  for text in CommandLine.messageTexts filterText report do
    IO.eprintln text
  match request with
  | .convert _ => pure ()
  | _ => IO.eprintln usage
  return report.exitCode.toUInt32

end RdfXml

/- The program. -/
def main (arguments : List String) : IO UInt32 :=
  RdfXml.runProgram arguments
