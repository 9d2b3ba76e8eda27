import Assay.File.Tree

/-!
# Reading files in portions

A file that is read in portions is decoded in chunks as they are needed. A character that a chunk
ends inside is decoded with the next chunk, and a carriage return at the end of a chunk waits for what
follows it. Bytes that cannot be decoded are only met by the portion that needs their chunk.
-/

namespace Assay

/-- A file that is being read: the bytes that are still to be decoded, the first of them that belong
to a character that was cut, whether a carriage return is held back, the characters that have been
decoded and not been read, and the sizes of the last chunk in bytes and in characters. -/
structure TextStream where
  bytes : List UInt8
  cut : List UInt8 := []
  holdsReturn : Bool := false
  decoded : List Char := []
  chunkBytes : Nat := 0
  chunkChars : Nat := 1

namespace TextStream

/-! ## Sizes -/

/-- The quotient that is nearest, and of two equally near ones the even one. -/
def roundedDiv (n d : Nat) : Nat :=
  let q := n / d
  let r := n % d
  if 2 * r < d || (2 * r = d && q % 2 = 0) then q else q + 1

/-- A fraction that is not less than one as a floating-point number: what it is rounded to, times a
power of two, and the exponent of that power. -/
def floating (n d : Nat) : Nat × Nat :=
  let places := 52 - (n / d).log2
  (roundedDiv (n * Nat.pow 2 places) d, places)

/-- How many bytes a number of characters may take if each takes as many as those of the last chunk,
and at least one. Both the quotient and the product are floating-point numbers. -/
def estimate (s : TextStream) (count : Nat) : Nat :=
  if s.chunkBytes ≤ s.chunkChars then count
  else
    let (mean, places) := floating s.chunkBytes s.chunkChars
    let (product, places) := floating (mean * count) (Nat.pow 2 places)
    product / Nat.pow 2 places

/-- The fewest bytes that are read at once. -/
def chunkSize : Nat := 8192

/-! ## Decoding -/

/-- Whether bytes that cannot be decoded may be the front of a character. The front of a surrogate
counts. -/
def isCut : List UInt8 → Bool
  | [] => false
  | b :: rest =>
      match Text.Utf8.sequenceLength? b with
      | none => false
      | some size =>
          rest.length + 1 < size &&
            (Text.Utf8.fitting b rest = rest.length ||
              (b = 0xed && rest.length = 1 && rest.all Text.Utf8.isContinuation))

/-- Decode as many bytes as there are whole characters; the others are kept. -/
def decodeFront (bytes : List UInt8) : Except Text.Utf8.Fault (List Char × List UInt8) :=
  match Text.Utf8.decode bytes with
  | .ok cs => .ok (cs, [])
  | .error f =>
      let rest := bytes.drop f.first
      if isCut rest then (Text.Utf8.decode (bytes.take f.first)).map (·, rest) else .error f

/-- Decode the next chunk. Behind the last one nothing can be kept or held back. The answer says
whether the file may go on. -/
def decodeChunk (s : TextStream) (count : Nat) : Except Text.Utf8.Fault (Bool × TextStream) := do
  let chunk := s.bytes.take (max chunkSize (s.estimate count))
  let (cs, cut) ←
    if chunk.isEmpty then (Text.Utf8.decode s.cut).map (·, [])
    else decodeFront (s.cut ++ chunk)
  let cs := if s.holdsReturn && (chunk.isEmpty || !cs.isEmpty) then '\r' :: cs else cs
  let holdsReturn := !chunk.isEmpty &&
    (if cs.isEmpty then s.holdsReturn else cs.getLast? = some '\r')
  let cs := FileTree.unifyLineEnds (if holdsReturn then cs.dropLast else cs)
  return (!chunk.isEmpty || !cs.isEmpty,
    { bytes := s.bytes.drop chunk.length
      cut
      holdsReturn
      decoded := s.decoded ++ cs
      chunkBytes := if cs.isEmpty then 0 else chunk.length
      chunkChars := if cs.isEmpty then 1 else cs.length })

/-- Read a number of characters, or all that are left. -/
def readWithin (count : Nat) : Nat → TextStream → Except Text.Utf8.Fault (List Char × TextStream)
  | 0, s => .ok (s.decoded.take count, { s with decoded := s.decoded.drop count })
  | fuel + 1, s => do
      if count ≤ s.decoded.length then
        return (s.decoded.take count, { s with decoded := s.decoded.drop count })
      let (more, s) ← s.decodeChunk (count - s.decoded.length)
      if more then readWithin count fuel s
      else return (s.decoded, { s with decoded := [] })

/-- Read a number of characters, or all that are left. Each chunk takes bytes or is the last. -/
def read (s : TextStream) (count : Nat) : Except Failure (List Char × TextStream) :=
  (readWithin count (s.bytes.length + 3) s).mapError FileTree.decodeFault

end TextStream

/-- A file, to be read from its start. -/
def FileTree.openText {π : Type} (t : FileTree π) (p : Path) : Except Failure TextStream :=
  return { bytes := ← t.readBytes p }

end Assay
