import Assay.Source.Lexer
import Assay.Source.Parser.Run
import Assay.Text.CharacterName

/-!
# Text literals

String tokens that follow each other are one literal. Escapes are resolved, and the replacement
fields of formatted texts are read as expressions that stand where they stand in the text.
-/

namespace Assay.Source

namespace TextLiteral

/-- The parts of a string token: its marks and its body. -/
structure Parts where
  bytes : Bool
  raw : Bool
  formatted : Bool
  body : List Char
  bodyCursor : Cursor

/-- Take a string token apart. -/
def parts (t : Token) : Parts :=
  let text := t.text.toList
  let marks := text.takeWhile fun c => c ≠ '"' && c ≠ '\''
  let has (a b : Char) : Bool := marks.any fun c => c = a || c = b
  let rest := text.drop marks.length
  let size := match rest with
    | a :: b :: c :: _ :: _ :: _ :: _ => if a = b && b = c then 3 else 1
    | _ => 1
  let start : Cursor :=
    { rest := text, line := t.span.line, bytes := t.span.column, lineEnded := false }
  { bytes := has 'b' 'B', raw := has 'r' 'R', formatted := has 'f' 'F',
    body := (rest.drop size).take (rest.length - 2 * size),
    bodyCursor := start.skip (marks.length + size) }

/-! ## Escapes -/

/-- The value of a hexadecimal digit. -/
def hexValue (c : Char) : Nat :=
  if c.isDigit then c.toNat - 48
  else if 'a' ≤ c && c ≤ 'f' then c.toNat - 87
  else c.toNat - 55

/-- The number that digits to a base stand for. -/
def numberOf (base : Nat) (digits : List Char) : Nat :=
  digits.foldl (fun n c => n * base + hexValue c) 0

/-- How far a character reaches in the form of the text that positions of escapes count in:
characters beyond ASCII are spelled as long escapes there. -/
def spelledWidth (c : Char) : Nat := if c.toNat < 128 then 1 else 10

/-- How far a backslash reaches in that form: before a character beyond ASCII it is spelled as an
escape too. -/
def backslashWidth (next : Char) : Nat := if next.toNat < 128 then 1 else 6

/-- Why an escape cannot be resolved, and the first and last position of it. -/
structure EscapeFault where
  reason : String
  first : Nat
  last : Nat

/-- The message of a bad escape. -/
def EscapeFault.message (f : EscapeFault) : String :=
  let first := f.first
  let last := f.last
  let reason := f.reason
  s!"(unicode error) 'unicodeescape' codec can't decode bytes in position {first}-{last}: {reason}"

/-- The characters of single-letter escapes. -/
def simpleEscape? (c : Char) : Option Char :=
  match c with
  | '\\' => some '\\'
  | '\'' => some '\''
  | '"' => some '"'
  | 'b' => some '\x08'
  | 'f' => some '\x0c'
  | 't' => some '\t'
  | 'n' => some '\n'
  | 'r' => some '\r'
  | 'v' => some '\x0b'
  | 'a' => some '\x07'
  | _ => none

/-- Resolve the escapes of a text. Positions count from `position`. -/
def resolve : Nat → Nat → List Char → List Char → Except EscapeFault (List Char)
  | 0, _, done, _ => .ok done.reverse
  | _ + 1, _, done, [] => .ok done.reverse
  | fuel + 1, position, done, '\\' :: c :: rest =>
      let hex (count : Nat) (form : String) : Except EscapeFault (List Char) :=
        let digits := (rest.take count).takeWhile isHexDigit
        if digits.length < count then
          .error ⟨s!"truncated {form} escape", position, position + 1 + digits.length⟩
        else
          let n := numberOf 16 digits
          if n > 0x10ffff then
            .error ⟨"illegal Unicode character", position, position + 1 + count⟩
          else resolve fuel (position + 2 + count) (Char.ofNat n :: done) (rest.drop count)
      if c = '\n' then resolve fuel (position + 2) done rest
      else if c = 'x' then hex 2 "\\xXX"
      else if c = 'u' then hex 4 "\\uXXXX"
      else if c = 'U' then hex 8 "\\UXXXXXXXX"
      else if c = 'N' then
        match rest with
        | '\x7b' :: rest =>
            let name := rest.takeWhile (· ≠ '\x7d')
            let length := name.foldl (fun n c => n + spelledWidth c) 0
            if name.length < rest.length && 0 < length then
              match Text.namedChar? (String.ofList name) with
              | some c => resolve fuel (position + 4 + length) (c :: done) (rest.drop (name.length + 1))
              | none =>
                  .error ⟨"unknown Unicode character name", position, position + 3 + length⟩
            else .error ⟨"malformed \\N character escape", position, position + 2 + length⟩
        | _ => .error ⟨"malformed \\N character escape", position, position + 1⟩
      else if '0' ≤ c && c < '8' then
        let digits := ((c :: rest).take 3).takeWhile fun d => '0' ≤ d && d < '8'
        resolve fuel (position + 1 + digits.length) (Char.ofNat (numberOf 8 digits) :: done)
          ((c :: rest).drop digits.length)
      else match simpleEscape? c with
        | some e => resolve fuel (position + 2) (e :: done) rest
        | none =>
            resolve fuel (position + backslashWidth c + spelledWidth c) (c :: '\\' :: done) rest
  | fuel + 1, position, done, c :: rest =>
      resolve fuel (position + spelledWidth c) (c :: done) rest

/-- Resolve the escapes of a byte text. Positions count from `position`; that of a broken hexadecimal
escape is the fault. -/
def resolveBytes : Nat → Nat → List Char → List Char → Except Nat (List Char)
  | 0, _, done, _ => .ok done.reverse
  | _ + 1, _, done, [] => .ok done.reverse
  | fuel + 1, position, done, '\\' :: c :: rest =>
      if c = '\n' then resolveBytes fuel (position + 2) done rest
      else if c = 'x' then
        let digits := (rest.take 2).takeWhile isHexDigit
        if digits.length = 2 then
          resolveBytes fuel (position + 4) (Char.ofNat (numberOf 16 digits) :: done) (rest.drop 2)
        else .error position
      else if '0' ≤ c && c < '8' then
        let digits := ((c :: rest).take 3).takeWhile fun d => '0' ≤ d && d < '8'
        resolveBytes fuel (position + 1 + digits.length)
          (Char.ofNat (numberOf 8 digits % 256) :: done) ((c :: rest).drop digits.length)
      else match simpleEscape? c with
        | some e => resolveBytes fuel (position + 2) (e :: done) rest
        | none => resolveBytes fuel (position + 2) (c :: '\\' :: done) rest
  | fuel + 1, position, done, c :: rest => resolveBytes fuel (position + 1) (c :: done) rest

/-- The bytes that characters of a byte text stand for. -/
def bytesOf (cs : List Char) : List UInt8 := cs.map fun c => UInt8.ofNat c.toNat

/-- The characters that a stretch of a text stands for. -/
def textOf (raw : Bool) (cs : List Char) : Parser (List Char) :=
  if raw then return cs
  else match resolve (cs.length + 1) 0 [] cs with
    | .ok cs => return cs
    | .error fault => Parser.refuseHere fault.message

/-! ## Formatted texts -/

/-- The part of a formatted text up to the next brace that matters: the characters as written, and
whether a doubled brace ends the part. -/
def plainPart (raw nested : Bool) : Nat → List Char → Cursor → Parser (List Char × Bool × Cursor)
  | 0, done, c => return (done.reverse, false, c)
  | fuel + 1, done, c =>
      match c.rest with
      | [] => return (done.reverse, false, c)
      | '\\' :: 'N' :: '\x7b' :: name =>
          if raw then plainPart raw nested fuel ('\\' :: done) (c.skip 1)
          else
            let length := min ((name.takeWhile (· ≠ '\x7d')).length + 4) c.rest.length
            plainPart raw nested fuel ((c.rest.take length).reverse ++ done) (c.skip length)
      | '\\' :: 'N' :: other :: _ =>
          if raw then plainPart raw nested fuel ('\\' :: done) (c.skip 1)
          else plainPart raw nested fuel (other :: 'N' :: '\\' :: done) (c.skip 3)
      | ch :: next :: _ =>
          if ch = '\\' && !raw && next ≠ '\x7b' && next ≠ '\x7d' then
            plainPart raw nested fuel (next :: ch :: done) (c.skip 2)
          else if ch = '\x7b' || ch = '\x7d' then
            if nested then return (done.reverse, false, c)
            else if next = ch then return ((ch :: done).reverse, true, c.skip 2)
            else if ch = '\x7d' then Parser.refuseHere "f-string: single '\x7d' is not allowed"
            else return (done.reverse, false, c)
          else plainPart raw nested fuel (ch :: done) (c.skip 1)
      | [ch] =>
          if ch = '\x7d' && !nested then
            Parser.refuseHere "f-string: single '\x7d' is not allowed"
          else if ch = '\x7b' || ch = '\x7d' then return (done.reverse, false, c)
          else plainPart raw nested fuel (ch :: done) (c.skip 1)

/-- The state of the search for the end of a replacement field. -/
structure FieldScan where
  quote : Option (Char × Nat) := none
  opened : List Char := []

/-- Find the end of the expression of a replacement field: a mark outside of brackets and strings. -/
def fieldEnd : Nat → FieldScan → Cursor → Parser Cursor
  | 0, _, c => return c
  | fuel + 1, scan, c =>
      match c.rest with
      | [] =>
          if scan.quote.isSome then Parser.refuseHere "f-string: unterminated string"
          else match scan.opened with
            | b :: _ => Parser.refuseHere s!"f-string: unmatched '{b}'"
            | [] => return c
      | ch :: rest =>
          let triple := match rest with
            | a :: b :: _ => a = ch && b = ch
            | _ => false
          if ch = '\\' then
            Parser.refuseHere "f-string expression part cannot include a backslash"
          else match scan.quote with
            | some (quote, size) =>
                if ch = quote && size = 1 then
                  fieldEnd fuel { scan with quote := none } (c.skip 1)
                else if ch = quote && triple then
                  fieldEnd fuel { scan with quote := none } (c.skip 3)
                else fieldEnd fuel scan (c.skip 1)
            | none =>
                if ch = '\'' || ch = '"' then
                  let size := if triple then 3 else 1
                  fieldEnd fuel { scan with quote := some (ch, size) } (c.skip size)
                else if (closingBracket ch).isSome && 200 ≤ scan.opened.length then
                  Parser.refuseHere "f-string: too many nested parenthesis"
                else if (closingBracket ch).isSome then
                  fieldEnd fuel { scan with opened := ch :: scan.opened } (c.skip 1)
                else if ch = '#' then
                  Parser.refuseHere "f-string expression part cannot include '#'"
                else if scan.opened.isEmpty && ['!', ':', '\x7d', '=', '>', '<'].contains ch then
                  if rest.head? = some '=' && ['!', '=', '<', '>'].contains ch then
                    fieldEnd fuel scan (c.skip 2)
                  else if ch = '>' || ch = '<' then fieldEnd fuel scan (c.skip 1)
                  else return c
                else if isClosing ch then
                  match scan.opened with
                  | [] => Parser.refuseHere s!"f-string: unmatched '{ch}'"
                  | b :: opened =>
                      if closingBracket b = some ch then
                        fieldEnd fuel { scan with opened } (c.skip 1)
                      else Parser.refuseHere
                        (s!"f-string: closing parenthesis '{ch}' does not match " ++
                          s!"opening parenthesis '{b}'")
                else fieldEnd fuel scan (c.skip 1)

/-- Where the columns of a replacement field are counted from: the brace, or the literal if the line
ends behind the brace. -/
def fieldStart (whole : Span) (brace : Cursor) (inner : List Char) : Nat :=
  let blank := inner.takeWhile fun c => c = ' ' || c = '\t' || c = '\x0c'
  if (inner.drop blank.length).head? ≠ some '\n' then brace.bytes
  else if brace.line = whole.line then whole.column
  else 0

/-- Read the expression of a replacement field. It is read as if it stood in round brackets, the
opening one in the place of the brace. -/
def fieldExpr (rule : Parser Expr) (whole : Span) (brace stop : Cursor) : Parser Expr := do
  let brace := brace.settle
  let inner := (brace.skip 1).since stop
  if inner.all fun c => c = ' ' || c = '\t' || c = '\n' || c = '\x0c' then
    match stop.peek? with
    | some mark =>
        if mark = '!' || mark = ':' || mark = '=' then
          Parser.refuseHere s!"f-string: expression required before '{mark}'"
        else Parser.refuseHere "f-string: empty expression not allowed"
    | none => Parser.refuseHere "f-string: empty expression not allowed"
  else
    let cs := '(' :: inner ++ [')', '\n']
    let input : ParserInput :=
      { stream := .ofCursor
          { brace with rest := cs, chars := 0, lineEnded := false, origin := brace.bytes },
        lines := .ofChars cs (brace.line - 1), field? := some (fieldStart whole brace inner) }
    match rule.run input with
    | .ok e => return e
    | .error fault => Parser.refuse fault

/-- Read the conversion of a replacement field if there is one. -/
def conversion (c : Cursor) : Parser Cursor :=
  match c.rest with
  | '!' :: mark :: _ =>
      if mark = 's' || mark = 'r' || mark = 'a' then return c.skip 2
      else Parser.refuseHere "f-string: invalid conversion character: expected 's', 'r', or 'a'"
  | ['!'] => Parser.refuseHere "f-string: expecting '\x7d'"
  | _ => return c

mutual

/-- Read a formatted text from a place up to its end, or up to the brace that closes the field it
is the format of. `depth` counts the fields around it. -/
def formattedParts (rule : Parser Expr) (raw : Bool) (span : Span) :
    Nat → Nat → Cursor → Parser (List Expr × Cursor)
  | 0, _, c => return ([], c)
  | fuel + 1, depth, c => do
      let (plain, doubled, c) ← plainPart raw (depth ≠ 0) (c.rest.length + 1) [] c
      let _ ← textOf raw plain
      if doubled then formattedParts rule raw span fuel depth c
      else match c.rest with
        | '\x7b' :: _ =>
            let (field, c) ← formattedField rule raw span fuel depth c
            let (more, c) ← formattedParts rule raw span fuel depth c
            return (field :: more, c)
        | _ => return ([], c)

/-- Read a replacement field: its expression, its conversion and its format. -/
def formattedField (rule : Parser Expr) (raw : Bool) (span : Span) :
    Nat → Nat → Cursor → Parser (Expr × Cursor)
  | 0, _, c => return (default, c)
  | fuel + 1, depth, brace => do
      if depth ≥ 2 then Parser.refuseHere "f-string: expressions nested too deeply"
      else
        let stop ← fieldEnd (brace.rest.length + 1) {} (brace.skip 1)
        if stop.rest.isEmpty then Parser.refuseHere "f-string: expecting '\x7d'"
        else
          let value ← fieldExpr rule span brace stop
          let c := if stop.peek? = some '=' then
              (stop.skip 1).skipWhile fun c =>
                c = ' ' || c = '\t' || c = '\n' || c = '\x0b' || c = '\x0c' || c = '\r'
            else stop
          let c ← conversion c
          let (format, c) ← if c.peek? = some ':' then do
              let c := c.skip 1
              if c.rest.isEmpty then Parser.refuseHere "f-string: expecting '\x7d'"
              else
                let (parts, c) ← formattedParts rule raw span fuel (depth + 1) c
                pure ([Expr.operation span .joinedText parts], c)
            else pure ([], c)
          if c.peek? = some '\x7d' then
            return (.operation span .formatted (value :: format), c.skip 1)
          else Parser.refuseHere "f-string: expecting '\x7d'"

end

/-! ## Literals -/

/-- What one string token adds to a literal: its text, or the fields of a formatted text. -/
inductive Piece where
  | bytes (value : List UInt8)
  | plain (text : List Char)
  | formatted (fields : List Expr)

/-- Read one string token; `whole` is the span of the literal it belongs to. -/
def piece (rule : Parser Expr) (whole : Span) (t : Token) : Parser Piece := do
  let p := parts t
  if p.bytes then
    if p.body.any fun c => c.toNat ≥ 128 then
      Parser.refuseToken "bytes can only contain ASCII literal characters" t
    else if p.raw then return .bytes (bytesOf p.body)
    else match resolveBytes (p.body.length + 1) 0 [] p.body with
      | .ok cs => return .bytes (bytesOf cs)
      | .error position =>
          Parser.refuseHere s!"(value error) invalid \\x escape at position {position}"
  else if p.formatted then
    let body := { p.bodyCursor with rest := p.body }
    let (fields, _) ← formattedParts rule p.raw whole (2 * p.body.length + 4) 0 body
    return .formatted fields
  else return .plain (← textOf p.raw p.body)

/-- Read all tokens of a literal. -/
def pieces (rule : Parser Expr) (whole : Span) : List Token → Parser (List Piece)
  | [] => return []
  | t :: ts => do return (← piece rule whole t) :: (← pieces rule whole ts)

/-- Put the pieces of a literal together. -/
def join (whole : Span) (ps : List Piece) : Expr :=
  if ps.any fun | .formatted _ => true | _ => false then
    .operation whole .joinedText (ps.flatMap fun | .formatted fields => fields | _ => [])
  else if ps.any fun | .bytes _ => true | _ => false then
    .literal whole (.bytes (ps.flatMap fun | .bytes value => value | _ => []))
  else .literal whole (.text (String.ofList (ps.flatMap fun | .plain cs => cs | _ => [])))

end TextLiteral

namespace Parser

/-- Read string tokens as one literal. `rule` reads the expressions of formatted texts. -/
def textLiteral (rule : Parser Expr) : Parser Expr := do
  let start ← here
  let tokens ← many1 (kind .string)
  let whole ← spanFrom start
  let byteCount := (tokens.filter fun t => (TextLiteral.parts t).bytes).length
  if byteCount ≠ 0 && byteCount ≠ tokens.length then
    refuseHere "cannot mix bytes and nonbytes literals"
  else return TextLiteral.join whole (← TextLiteral.pieces rule whole tokens)

end Parser

end Assay.Source
