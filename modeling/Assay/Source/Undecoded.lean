import Assay.Source.Encoding
import Assay.Source.Parser.Statement

/-!
# Bytes that are no characters

Bytes that are not in UTF-8 matter only in the words and the literals of a source file: comments may
hold anything. A file is read with such bytes masked; this module finds the word or the literal that
holds the first of them.
-/

namespace Assay.Source

namespace Undecoded

/-- The bytes of a file that are no characters, first of all: the bytes from them on, the line they
stand in, and the bytes of that line before them. -/
structure Place where
  bytes : List UInt8
  line : Nat
  before : List Char

/-- The place of the first bytes that are no characters. -/
def find? (file : List UInt8) : Option Place :=
  match Text.Utf8.decode file with
  | .ok _ => none
  | .error f =>
      let front := unifyEnds (Text.Utf8.decodeLossy (file.take f.first))
      some
        { bytes := file.drop f.first, line := 1 + (front.filter (· = '\n')).length
          before := (front.reverse.takeWhile (· ≠ '\n')).reverse }

/-- The message for bytes in which some are no characters, those before them having `skipped`
bytes. -/
def message? (skipped : Nat) (bytes : List UInt8) : Option String :=
  match Text.Utf8.decode bytes with
  | .ok _ => none
  | .error f => some ("(unicode error) " ++ { f with first := f.first + skipped }.message)

/-- Whether a token covers a place. -/
def covers (p : Place) (t : Token) : Bool :=
  let column := byteLength p.before
  (t.span.line < p.line || (t.span.line = p.line && t.span.column ≤ column)) &&
    (p.line < t.span.endLine || (p.line = t.span.endLine && column < t.span.endColumn))

/-- The fault of a literal that covers a place: it is found behind the literal. -/
def inLiteral (i : ParserInput) (p : Place) (index : Nat) (t : Token) : Option SyntaxFault :=
  let parts := TextLiteral.parts t
  if parts.bytes then
    some (i.faultAtToken "bytes can only contain ASCII literal characters" t)
  else
    let front := parts.body.takeWhile (· ≠ '\x7f')
    let alone := !parts.raw && parts.body.contains '\\'
    let counted :=
      if alone then (front.reverse.takeWhile fun c => 128 ≤ c.toNat).reverse
      else if parts.formatted then (front.reverse.takeWhile (· ≠ '\x7d')).reverse
      else front
    let left := byteLength parts.body - byteLength front
    let next := (i.stream.tokens.toList.drop index).find? fun t => t.kind ≠ .string
    (message? (byteLength counted) (p.bytes.take left)).map fun message =>
      i.faultBehind message (next.getD t)

/-- The fault of a word that covers a place. -/
def inWord (i : ParserInput) (p : Place) : Option SyntaxFault :=
  let front := (p.before.reverse.takeWhile isNameChar).reverse
  let rest := p.bytes.takeWhile fun b => 128 ≤ b || isNameChar (Char.ofNat b.toNat)
  let cursor := byteLength p.before + rest.length
  (message? (byteLength front) rest).map fun message =>
    .ofCursor i.lines message p.line cursor

/-- The fault of a place, unless a comment covers it. -/
def fault? (i : ParserInput) (p : Place) : Option SyntaxFault :=
  match i.stream.tokens.toList.zipIdx.find? fun t => t.1.kind = .string && covers p t.1 with
  | some (t, index) => inLiteral i p index t
  | none => match i.stream.fault with
    | some (.definite _ line column _) =>
        if line = p.line && column = p.before.length then inWord i p else none
    | _ => none

end Undecoded

end Assay.Source
