import Assay.File.Path
import Assay.Text.Quoted
import Assay.Text.Utf8

/-!
# Relative paths and URIs

A path can be told from another one by steps upwards and then down. As a URI its bytes are escaped
except letters, digits and a few signs.
-/

namespace Assay.Path

/-- The part that two lists of names have in common at the front, taken away from both. -/
def dropCommon : List String → List String → List String × List String
  | a :: as, b :: bs => if a = b then dropCommon as bs else (a :: as, b :: bs)
  | as, bs => (as, bs)

/-- The path that leads from one place to another; both are given from the root without `..`. -/
def relativeTo (target start : Path) : Path :=
  let (down, up) := dropCommon target.parts start.parts
  { root := .relative, parts := up.map (fun _ => "..") ++ down }

/-- Whether a byte stands for itself in a URI. -/
def isUriByte (b : UInt8) : Bool :=
  let c := Char.ofNat b.toNat
  b.toNat < 0x80 && (c.isAlphanum || ['_', '.', '-', '~', '/'].contains c)

/-- How a byte is written in a URI. -/
def uriByte (b : UInt8) : String :=
  if isUriByte b then (Char.ofNat b.toNat).toString
  else "%" ++ (Text.hexPadded 2 b.toNat).toUpper

/-- The URI of a path from the root. -/
def toUri (p : Path) : String :=
  "file://" ++ String.join ((Text.Utf8.encode p.toString).map uriByte)

end Assay.Path
