/-
  Inputs cut into chunks.

  Key definitions include:
    * `chunksOf`
    * `documentChunkSize`
-/

------------------------------------------------------------
-- Cutting Into Chunks
------------------------------------------------------------

namespace RdfXml

/- At most `limit` chunks of `size` bytes. -/
def chunksFrom
    (size : Nat) :
    Nat → List UInt8 → List (List UInt8)
| 0, _ => []
| limit + 1, input =>
    if input.isEmpty then
      []
    else
      input.take size ::
        chunksFrom size limit (input.drop size)

/- An input in chunks of `size` bytes, the last one shorter. -/
def chunksOf
    (size : Nat)
    (input : List UInt8) : List (List UInt8) :=
  chunksFrom size input.length input

/- The size of the chunks that whole documents are read in. -/
def documentChunkSize : Nat := 4096

end RdfXml
