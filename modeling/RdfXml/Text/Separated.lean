/-
  Texts cut at a separator.

  Key definitions include:
    * `splitOn`
    * `splitString`
-/

------------------------------------------------------------
-- Parts Between Separators
------------------------------------------------------------

namespace RdfXml

/- The parts of a list between separators, at least one. -/
def splitOn
    (separator : Char) :
    List Char → List (List Char)
| [] => [[]]
| c :: rest =>
    match splitOn separator rest with
    | [] => [[c]]
    | part :: parts =>
        if c = separator then
          [] :: part :: parts
        else
          (c :: part) :: parts

/- The parts of a text between separators, at least one. -/
def splitString
    (separator : Char)
    (text : String) : List String :=
  (splitOn separator text.toList).map String.ofList

end RdfXml
