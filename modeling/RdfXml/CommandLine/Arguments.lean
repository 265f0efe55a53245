import RdfXml.Options
import RdfXml.Url.Normal

/-
  The arguments of the command line.

  Key definitions include:
    * `CommandLine.Arguments`
    * `CommandLine.Request`
    * `CommandLine.Request.ofList`
-/

------------------------------------------------------------
-- Arguments
------------------------------------------------------------

namespace RdfXml

namespace CommandLine

/-
  What a command line asks for: files, a base in its normal
  form, and what generated blank nodes begin with.
-/
structure Arguments where
  files : List String := []
  base? : Option String := none
  blankNodePrefix? : Option String := none
deriving DecidableEq, Repr

/- How a command line is to be understood. -/
inductive Request where
| convert (arguments : Arguments)
| help
| version
| misuse
deriving DecidableEq, Repr

namespace Arguments

/- Add a file, whose name must not be empty. -/
def addFile
    (arguments : Arguments)
    (name : String) : Option Arguments :=
  if name = "" then none
  else some
    { arguments with files := arguments.files ++ [name] }

/- Set the base, once. -/
def setBase
    (arguments : Arguments)
    (text : String) : Option Arguments :=
  match arguments.base?, Url.normalize? text with
  | none, some url => some { arguments with base? := some url }
  | _, _ => none

/- Set what generated blank nodes begin with, once. -/
def setBlankNodePrefix
    (arguments : Arguments)
    (text : String) : Option Arguments :=
  match arguments.blankNodePrefix? with
  | none =>
      some { arguments with blankNodePrefix? := some text }
  | some _ => none

end Arguments

------------------------------------------------------------
-- Reading Arguments
------------------------------------------------------------

/- An option that takes a value. -/
inductive ValueOption where
| base
| blankNodePrefix
deriving DecidableEq, Repr

namespace ValueOption

/- Set the option. -/
def set
    (arguments : Arguments)
    (text : String) : ValueOption → Option Arguments
| .base => arguments.setBase text
| .blankNodePrefix => arguments.setBlankNodePrefix text

/- The option with a name. -/
def ofName? (name : List Char) : Option ValueOption :=
  if name = "base".toList then some .base
  else if name = "blank-node-prefix".toList then
    some .blankNodePrefix
  else none

end ValueOption

/- An argument as it looks by its first characters. -/
inductive Form where
| separator
| long (name : List Char) (value? : Option (List Char))
| short (name : Char)
| plain
deriving DecidableEq, Repr

/- The form of an argument; one hyphen alone is plain. -/
def formOf (argument : String) : Form :=
  match argument.toList with
  | ['-', '-'] => .separator
  | '-' :: '-' :: rest =>
      let name := rest.takeWhile (· != '=')
      match rest.drop name.length with
      | [] => .long name none
      | _ :: value => .long name (some value)
  | '-' :: name :: _ => .short name
  | _ => .plain

/- A request for information, if an argument is one. -/
def information? : Form → Option Request
| .long name none =>
    if name = "help".toList then some .help
    else if name = "version".toList then some .version
    else none
| .short name =>
    if name = 'h' then some .help
    else if name = 'V' then some .version
    else none
| _ => none

namespace Request

/- Arguments that are all files, and at least one of all. -/
def ofFiles
    (arguments : Arguments)
    (files : List String) : Request :=
  match files.foldlM Arguments.addFile arguments with
  | some arguments =>
      if arguments.files.isEmpty then .misuse
      else .convert arguments
  | none => .misuse

/-
  Read arguments after those read so far.  `pending?` is an
  option that waits for its value.
-/
def read :
    Arguments → Option ValueOption → List String → Request
| arguments, none, [] => ofFiles arguments []
| _, some _, [] => .misuse
| arguments, some pending, argument :: rest =>
    match formOf argument with
    | .plain =>
        match pending.set arguments argument with
        | some arguments => read arguments none rest
        | none => .misuse
    | _ => .misuse
| arguments, none, argument :: rest =>
    match formOf argument with
    | .separator => ofFiles arguments rest
    | .plain =>
        match arguments.addFile argument with
        | some arguments => read arguments none rest
        | none => .misuse
    | .long name value? =>
        match ValueOption.ofName? name, value? with
        | some pending, none =>
            read arguments (some pending) rest
        | some chosen, some value =>
            match chosen.set arguments (String.ofList value) with
            | some arguments => read arguments none rest
            | none => .misuse
        | none, _ =>
            (information? (.long name value?)).getD .misuse
    | .short name =>
        (information? (.short name)).getD .misuse

/- What a command line asks for. -/
def ofList (arguments : List String) : Request :=
  read {} none arguments

end Request

end CommandLine

end RdfXml
