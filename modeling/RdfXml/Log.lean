/-
  Records of what a program does.

  Key definitions include:
    * `Level`
    * `Component`
    * `LogRecord`
-/

------------------------------------------------------------
-- Log Records
------------------------------------------------------------

namespace RdfXml

/- How much a record matters, the most severe one first. -/
inductive Level where
| error
| warn
| info
| debug
| trace
deriving DecidableEq, Repr

namespace Level

/- The word for a level. -/
def word : Level → String
| .error => "error"
| .warn => "warn"
| .info => "info"
| .debug => "debug"
| .trace => "trace"

/- The rank of a level, the most severe one lowest. -/
def rank : Level → Nat
| .error => 1
| .warn => 2
| .info => 3
| .debug => 4
| .trace => 5

end Level

/- The part of the program that a record comes from. -/
inductive Component where
| parser
| emitter
| attributes
| references
| frames
| grammar
| graph
| commandLine
deriving DecidableEq, Repr

/- A message with its level and its origin. -/
structure LogRecord where
  level : Level
  component : Component
  message : String
deriving DecidableEq, Repr

end RdfXml
