import Assay.Text.Printable

/-!
# Quoted texts

A text is shown between quotes with unprintable characters escaped. Single quotes are used unless
the text has a single quote and no double quote.
-/

namespace Assay.Text

/-- The lower-case hexadecimal digits of a number, padded with zeros to a width. -/
def hexPadded (width n : Nat) : String :=
  let digits := Nat.toDigits 16 n
  String.ofList (List.replicate (width - digits.length) '0' ++ digits)

/-- The escape of an unprintable character: two, four or eight digits. -/
def escapeCode (n : Nat) : String :=
  if n < 0x100 then "\\x" ++ hexPadded 2 n
  else if n < 0x10000 then "\\u" ++ hexPadded 4 n
  else "\\U" ++ hexPadded 8 n

/-- How one character is written between the given quotes. -/
def quoteChar (quote c : Char) : String :=
  if c = quote ∨ c = '\\' then String.ofList ['\\', c]
  else if c = '\n' then "\\n"
  else if c = '\r' then "\\r"
  else if c = '\t' then "\\t"
  else if isPrintable c then c.toString
  else escapeCode c.toNat

/-- The quote that a text is put between. -/
def chooseQuote (s : String) : Char :=
  if s.toList.contains '\'' && !s.toList.contains '"' then '"' else '\''

/-- A text between quotes, with quotes, backslashes and unprintable characters escaped. -/
def quoted (s : String) : String :=
  let quote := chooseQuote s
  quote.toString ++ String.join (s.toList.map (quoteChar quote)) ++ quote.toString

/-- How one byte is written between the given quotes: printable ASCII as itself. -/
def quoteByte (quote : Char) (b : UInt8) : String :=
  let c := Char.ofNat b.toNat
  if c = quote ∨ c = '\\' then String.ofList ['\\', c]
  else if c = '\n' then "\\n"
  else if c = '\r' then "\\r"
  else if c = '\t' then "\\t"
  else if 0x20 ≤ b.toNat ∧ b.toNat < 0x7f then c.toString
  else "\\x" ++ hexPadded 2 b.toNat

/-- A string of bytes between quotes, marked with a leading `b`. -/
def quotedBytes (bs : List UInt8) : String :=
  let quote := chooseQuote (String.ofList (bs.map fun b => Char.ofNat b.toNat))
  "b" ++ quote.toString ++ String.join (bs.map (quoteByte quote)) ++ quote.toString

end Assay.Text
