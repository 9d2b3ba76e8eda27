import Assay.File.Stream
import Assay.Yaml.Token

/-!
# What a scan draws on

A document is read in portions, and a portion only once the scan wants a character of it. The first
two are read before the scan begins. A portion may be impossible to decode, or hold characters that
may not stand in a document; then the scan cannot go on to it.
-/

namespace Assay.Yaml

/-- The characters that a scan can have, and why it cannot have those behind them. Without a reason
they are all that the document has. -/
structure Supply where
  chars : List Char
  fault? : Option Fault := none

/-- The number of characters that are read at once. -/
def portionSize : Nat := 4096

/-- A supply with more characters in front. -/
def Supply.behind (s : Supply) (cs : List Char) : Supply := { s with chars := cs ++ s.chars }

/-- What portions supply that are read one by one. -/
def laterPortions : Nat → TextStream → Supply
  | 0, _ => { chars := [] }
  | fuel + 1, file =>
      match file.read portionSize with
      | .error f => { chars := [], fault? := some (.failed f) }
      | .ok (cs, rest) =>
          if cs.isEmpty then { chars := [] }
          else if cs.all isAllowed then (laterPortions fuel rest).behind cs
          else { chars := [], fault? := some .invalid }

/-- What a file supplies. The characters of the first two portions are looked at together. -/
def supplyOf (file : TextStream) : Except Fault Supply := do
  let (first, file) ← (file.read portionSize).mapError .failed
  let (second, file) ← (file.read portionSize).mapError .failed
  let cs := first ++ second
  if cs.all isAllowed then
    return (laterPortions (file.decoded.length + file.bytes.length + 2) file).behind cs
  else throw .invalid

end Assay.Yaml
