import Assay.Source.Token
import Assay.Text.IdentifierChar
import Assay.Text.Printable
import Assay.Text.Quoted

/-!
# Reading a text into tokens

`TokenStream.ofText` reads a whole source text. Line ends of all styles become line feeds and the
last line is ended if it is not (`unifyLines`). Every step of the lexer reads at least one
character, finishes a line, or stops, so a bound on the steps that grows with the text is never
reached.
-/

namespace Assay.Source

/-- A place in the text: what is left to read, and how much of the current line was read. When
`lineEnded` holds, the next character begins a new line. What is read on its own may begin within a
line, behind `origin` bytes of it. -/
structure Cursor where
  rest : List Char
  line : Nat := 0
  bytes : Nat := 0
  chars : Nat := 0
  lineEnded : Bool := true
  origin : Nat := 0
  deriving Inhabited

namespace Cursor

/-- Step onto the next line if the current one has ended and there is more to read. -/
def settle (c : Cursor) : Cursor :=
  if c.lineEnded && !c.rest.isEmpty then
    { rest := c.rest, line := c.line + 1, bytes := 0, chars := 0, lineEnded := false }
  else c

/-- Read one character. -/
def next? (c : Cursor) : Option (Char × Cursor) :=
  let c := c.settle
  match c.rest with
  | [] => none
  | ch :: rest =>
      some (ch, { c with
        rest := rest, bytes := c.bytes + byteWidth ch, chars := c.chars + 1,
        lineEnded := ch = '\n' })

/-- The next character, without reading it. -/
def peek? (c : Cursor) : Option Char := c.rest.head?

/-- Read the given number of characters. -/
def skip : Nat → Cursor → Cursor
  | 0, c => c
  | n + 1, c => match c.next? with
    | none => c
    | some (_, c) => skip n c

/-- Read the longest run of characters of a class. -/
def skipWhile (c : Cursor) (p : Char → Bool) : Cursor := c.skip (c.rest.takeWhile p).length

/-- The characters between an earlier place and this one. -/
def since (start c : Cursor) : List Char := start.rest.take (start.rest.length - c.rest.length)

/-- A definite fault behind the last character read. -/
def fault (c : Cursor) (message : String) : LexFault :=
  .definite message c.line (c.chars - 1) (c.chars - 1)

end Cursor

/-- Characters that may stand in a name; every character beyond ASCII is looked at later. -/
def isNameChar (c : Char) : Bool := c.isAlphanum || c = '_' || c.toNat ≥ 128

/-- Characters that may begin a name. -/
def isNameStart (c : Char) : Bool := c.isAlpha || c = '_' || c.toNat ≥ 128

/-- Whether a character is a hexadecimal digit. -/
def isHexDigit (c : Char) : Bool :=
  c.isDigit || ('a' ≤ c && c ≤ 'f') || ('A' ≤ c && c ≤ 'F')

/-- Make all line ends line feeds. -/
def unifyEnds : List Char → List Char
  | [] => []
  | '\r' :: '\n' :: rest => '\n' :: unifyEnds rest
  | '\r' :: rest => '\n' :: unifyEnds rest
  | c :: rest => c :: unifyEnds rest

/-- Whether a text ends with a carriage return and a line feed. -/
def endsWithPair (cs : List Char) : Bool := "\r\n".toList.isSuffixOf cs

/-- Make all line ends line feeds, and end the last line. An empty line follows a last line that ends
with a carriage return and a line feed. -/
def unifyLines (cs : List Char) : List Char :=
  let unified := unifyEnds cs
  if unified.getLast? = some '\n' && !endsWithPair cs then unified else unified ++ ['\n']

/-! ## Numbers -/

/-- Digits that may be grouped by single low lines, the first already known to be one. -/
def digitGroups (isDigit : Char → Bool) (message : String) :
    Nat → Cursor → Except LexFault Cursor
  | 0, c => .ok c
  | fuel + 1, c =>
      let c := c.skipWhile isDigit
      if c.peek? = some '_' then
        let c := c.skip 1
        if c.peek?.any isDigit then digitGroups isDigit message fuel c else .error (c.fault message)
      else .ok c

/-- Digits of a decimal number. -/
def decimalTail (c : Cursor) : Except LexFault Cursor :=
  digitGroups Char.isDigit "invalid decimal literal" c.rest.length c

/-- Whether a word that may follow a number directly does. The short words with an `i` need not end
there. -/
def followsNumber (rest : List Char) : Bool :=
  (["if", "in", "is"].any fun word => word.toList.isPrefixOf rest) ||
    ["and", "else", "for", "or", "not"].any fun word =>
      word.toList.isPrefixOf rest && !(rest.drop word.length).head?.any isNameChar

/-- A number must not run into a character of a name, some keywords apart. -/
def endOfNumber (c : Cursor) (kind : String) : Except LexFault Cursor :=
  if followsNumber c.rest then .ok c
  else if c.peek?.any isNameChar then .error (c.fault s!"invalid {kind} literal")
  else .ok c

/-- The digits behind a radix mark such as `0x`. -/
def radixDigits (kind : String) (isDigit : Char → Bool) : Nat → Cursor → Except LexFault Cursor
  | 0, c => .ok c
  | fuel + 1, c =>
      let c := if c.peek? = some '_' then c.skip 1 else c
      match c.peek? with
      | some d =>
          if isDigit d then
            let c := c.skipWhile isDigit
            if c.peek? = some '_' then radixDigits kind isDigit fuel c else .ok c
          else if d.isDigit && kind != "hexadecimal" then
            .error ((c.skip 1).fault s!"invalid digit '{d}' in {kind} literal")
          else .error (c.fault s!"invalid {kind} literal")
      | none => .error (c.fault s!"invalid {kind} literal")

/-- A number written with a radix mark; the cursor stands behind the mark. -/
def radixNumber (kind : String) (isDigit : Char → Bool) (c : Cursor) :
    Except LexFault Cursor := do
  let c ← radixDigits kind isDigit c.rest.length c
  match c.peek? with
  | some d =>
      if d.isDigit && kind != "hexadecimal" then
        .error ((c.skip 1).fault s!"invalid digit '{d}' in {kind} literal")
      else endOfNumber c kind
  | none => endOfNumber c kind

/-- The exponent and the imaginary mark of a number, the cursor standing behind its digits. -/
def numberTail (c : Cursor) : Except LexFault Cursor := do
  let imaginary (c : Cursor) : Except LexFault Cursor :=
    if c.peek? = some 'j' || c.peek? = some 'J' then endOfNumber (c.skip 1) "imaginary"
    else endOfNumber c "decimal"
  if c.peek? = some 'e' || c.peek? = some 'E' then
    let behind := c.skip 1
    match behind.peek? with
    | some d =>
        if d = '+' || d = '-' then
          let digits := behind.skip 1
          if digits.peek?.any Char.isDigit then imaginary (← decimalTail digits)
          else .error (digits.fault "invalid decimal literal")
        else if d.isDigit then imaginary (← decimalTail behind)
        else endOfNumber c "decimal"
    | none => endOfNumber c "decimal"
  else imaginary c

/-- The part of a number from its decimal point, the cursor standing behind the point. -/
def fraction (c : Cursor) : Except LexFault Cursor := do
  if c.peek?.any Char.isDigit then numberTail (← decimalTail c) else numberTail c

/-- Leading zeros, which may be grouped by low lines. -/
def leadingZeros : Nat → Cursor → Except LexFault Cursor
  | 0, c => .ok c
  | fuel + 1, c =>
      if c.peek? = some '_' then
        let c := c.skip 1
        match c.peek? with
        | some '0' => leadingZeros fuel (c.skip 1)
        | some d => if d.isDigit then .ok c else .error (c.fault "invalid decimal literal")
        | none => .error (c.fault "invalid decimal literal")
      else if c.peek? = some '0' then leadingZeros fuel (c.skip 1)
      else .ok c

/-- Read a number that begins at `start` with a digit. -/
def lexNumber (start : Cursor) : Except LexFault Cursor := do
  if start.peek? = some '0' then
    let c := start.skip 1
    match c.peek? with
    | some 'x' | some 'X' => radixNumber "hexadecimal" isHexDigit (c.skip 1)
    | some 'o' | some 'O' => radixNumber "octal" (fun d => '0' ≤ d && d < '8') (c.skip 1)
    | some 'b' | some 'B' => radixNumber "binary" (fun d => d = '0' || d = '1') (c.skip 1)
    | _ =>
        let zeros ← leadingZeros c.rest.length c
        let nonzero := zeros.peek?.any Char.isDigit
        let c ← if nonzero then decimalTail zeros else pure zeros
        match c.peek? with
        | some '.' => fraction (c.skip 1)
        | some 'e' | some 'E' | some 'j' | some 'J' => numberTail c
        | _ =>
            if nonzero then
              .error (.definite
                ("leading zeros in decimal integer literals are not permitted; " ++
                  "use an 0o prefix for octal integers")
                start.line (start.bytes - start.origin)
                (max zeros.bytes start.bytes - start.origin))
            else endOfNumber c "decimal"
  else
    let c ← decimalTail start
    if c.peek? = some '.' then fraction (c.skip 1) else numberTail c

/-! ## Strings -/

/-- Read up to the closing quotes of a string. `run` counts the quotes just read. -/
def stringBody (quote : Char) (size : Nat) : Nat → Nat → Cursor → Option Cursor
  | 0, _, _ => none
  | fuel + 1, run, c =>
      if run = size then some c
      else match c.next? with
        | none => none
        | some (ch, c) =>
            if size = 1 && ch = '\n' then none
            else if ch = quote then stringBody quote size fuel (run + 1) c
            else if ch = '\\' then stringBody quote size fuel 0 (c.skip 1)
            else stringBody quote size fuel 0 c

/-- The line in which the lexer notices that a string is not closed. -/
def unterminatedLine (quote : Char) (size : Nat) : Nat → Cursor → Nat
  | 0, c => c.line
  | fuel + 1, c => match c.next? with
    | none => c.line
    | some (ch, c) =>
        if size = 1 && ch = '\n' then c.line
        else if ch = '\\' then unterminatedLine quote size fuel (c.skip 1)
        else unterminatedLine quote size fuel c

/-- Read a string whose prefix letters began at `start`; `c` stands before the opening quote. -/
def lexString (start c : Cursor) : Except LexFault Cursor :=
  match c.rest with
  | quote :: rest =>
      let size := if [quote, quote].isPrefixOf rest then 3 else 1
      let behind := c.skip size
      match stringBody quote size (behind.rest.length + 2) 0 behind with
      | some ended => .ok ended
      | none =>
          let line := unterminatedLine quote size behind.rest.length behind
          let kind := if size = 3 then "unterminated triple-quoted string literal"
            else "unterminated string literal"
          .error (.definite s!"{kind} (detected at line {line})"
            start.line start.chars start.chars)
  | [] => .ok c

/-- The number of letters that mark a string literal at the front of `cs`, if a quote follows. -/
def stringPrefix? (cs : List Char) : Option Nat :=
  let isQuote (c : Char) : Bool := c = '"' || c = '\''
  let letter (c : Char) (set : String) : Bool := set.toList.contains c
  match cs with
  | a :: b :: c :: _ =>
      if isQuote a then some 0
      else if letter a "bBuUrRfF" && isQuote b then some 1
      else if isQuote c &&
          ((letter a "rR" && letter b "bBfF") || (letter a "bBfF" && letter b "rR")) then some 2
      else none
  | a :: b :: _ =>
      if isQuote a then some 0
      else if letter a "bBuUrRfF" && isQuote b then some 1
      else none
  | a :: _ => if isQuote a then some 0 else none
  | [] => none

/-! ## Operators -/

/-- Operators of three characters. -/
def operators3 : List String := ["**=", "//=", ">>=", "<<=", "..."]

/-- Operators of two characters. -/
def operators2 : List String :=
  ["!=", "%=", "&=", "**", "*=", "+=", "-=", "->", "//", "/=", ":=", "<<", "<=", "<>", "==", ">=",
   ">>", "@=", "^=", "|="]

/-- The number of characters of the operator at the front of `cs`. -/
def operatorLength (cs : List Char) : Nat :=
  if operators3.any fun op => op.toList.isPrefixOf cs then 3
  else if operators2.any fun op => op.toList.isPrefixOf cs then 2
  else 1

/-- The bracket that closes a given one. -/
def closingBracket (c : Char) : Option Char :=
  if c = '(' then some ')'
  else if c = '[' then some ']'
  else if c = '\x7b' then some '\x7d'
  else none

/-- Whether a character is a closing bracket. -/
def isClosing (c : Char) : Bool := c = ')' || c = ']' || c = '\x7d'

/-! ## The lexer -/

/-- The state between two tokens. `indents` holds the columns of the open blocks, innermost first,
with tabs to multiples of eight and with tabs as single columns. -/
structure LexState where
  cursor : Cursor
  tokens : Array Token := #[]
  indents : List (Nat × Nat) := [(0, 0)]
  brackets : List OpenBracket := []
  lineStart : Bool := true

/-- What one step of the lexer comes to. -/
inductive LexStep where
  | more (state : LexState)
  | finished (state : LexState)
  | faulty (fault : LexFault) (state : LexState)

namespace LexState

/-- Add a token that begins at `start` and ends at the given place. -/
def push (s : LexState) (kind : TokenKind) (start ended : Cursor) : LexState :=
  let start := start.settle
  let text := String.ofList (start.since ended)
  let kind := if kind = .name && keywords.contains text then .keyword else kind
  let token : Token :=
    { kind, text, cursor := ended.bytes, depth := s.brackets.length,
      span := { line := start.line, column := start.bytes,
                endLine := ended.line, endColumn := ended.bytes } }
  { s with tokens := s.tokens.push token, cursor := ended }

/-- Add a layout token without columns at the cursor. -/
def pushLayout (s : LexState) (kind : TokenKind) : LexState :=
  let c := s.cursor
  let token : Token :=
    { kind, text := "", located := false, cursor := c.bytes, depth := s.brackets.length,
      span := { line := c.line, column := 0, endLine := c.line, endColumn := 0 } }
  { s with tokens := s.tokens.push token }

/-- Go behind a backslash that continues the line: only a line end may follow it. -/
def continueLine (c : Cursor) : Except LexFault Cursor :=
  match c.next? with
  | some ('\n', c) =>
      if c.rest.isEmpty then .error (.endInContinuation c.line c.bytes) else .ok c
  | some (_, c) => .error (.strayContinuation c.line (c.bytes - 1))
  | none => .error (.endInContinuation c.line c.bytes)

/-- The columns of the indentation of a line: with tabs to multiples of eight, with tabs as single
columns, and where the first continued line of it began. -/
structure Indentation where
  column : Nat := 0
  narrow : Nat := 0
  continued : Nat := 0

/-- Measure the indentation of a line. -/
def measure : Nat → Indentation → Cursor → Except LexFault (Indentation × Cursor)
  | 0, i, c => .ok (i, c)
  | fuel + 1, i, c => do
      match c.peek? with
      | some ' ' => measure fuel { i with column := i.column + 1, narrow := i.narrow + 1 } (c.skip 1)
      | some '\t' =>
          measure fuel { i with column := (i.column / 8 + 1) * 8, narrow := i.narrow + 1 } (c.skip 1)
      | some '\x0c' => measure fuel { i with column := 0, narrow := 0 } (c.skip 1)
      | some '\\' =>
          let continued := if i.continued = 0 then i.column else i.continued
          measure fuel { i with continued } (← continueLine (c.skip 1))
      | _ => .ok (i, c)

/-- The cursor at the end of its line. -/
def lineEndBytes (c : Cursor) : Nat :=
  c.bytes + byteLength (c.rest.takeWhile (· ≠ '\n')) + (if c.rest.contains '\n' then 1 else 0)

/-- Compare the indentation of a line with the open blocks. -/
def layout (s : LexState) (column narrow : Nat) : LexStep :=
  match s.indents with
  | [] => .more s
  | (top, topNarrow) :: _ =>
      if column = top then
        if narrow = topNarrow then .more s else .faulty (.mixedTabs s.cursor.line) s
      else if top < column then
        if s.indents.length ≥ 100 then .faulty (.tooDeep s.cursor.line) s
        else if narrow ≤ topNarrow then .faulty (.mixedTabs s.cursor.line) s
        else .more ({ s with indents := (column, narrow) :: s.indents }.pushLayout .indent)
      else
        let closed := s.indents.takeWhile fun block => column < block.1
        let left := s.indents.drop closed.length
        match left with
        | (c, n) :: _ =>
            if c ≠ column then
              .faulty (.badDedent s.cursor.line (lineEndBytes s.cursor)) s
            else if n ≠ narrow then .faulty (.mixedTabs s.cursor.line) s
            else .more (closed.foldl (fun s _ => s.pushLayout .dedent) { s with indents := left })
        | [] => .more s

/-- Handle the beginning of a line: blank lines are skipped up to their end, other lines open or
close blocks unless a bracket is open. -/
def beginLine (s : LexState) : LexStep :=
  let start := s.cursor.settle
  match measure (start.rest.length + 1) {} start with
  | .error fault => .faulty fault s
  | .ok (i, c) =>
      let c := c.settle
      let s := { s with cursor := c, lineStart := false }
      match c.peek? with
      | some '\n' => .more { s with cursor := c.skip 1, lineStart := true }
      | some '#' =>
          .more { s with cursor := (c.skipWhile (· ≠ '\n')).skip 1, lineStart := true }
      | _ =>
          if s.brackets.isEmpty then
            let column := if i.continued = 0 then i.column else i.continued
            let narrow := if i.continued = 0 then i.narrow else i.continued
            s.layout column narrow
          else .more s

/-- Read an operator or a bracket at the cursor. -/
def operator (s : LexState) (start : Cursor) (c : Char) : LexStep :=
  let n := operatorLength start.rest
  let behind := start.skip n
  if n = 1 && (closingBracket c).isSome then
    if s.brackets.length ≥ 200 then .faulty (behind.fault "too many nested parentheses") s
    else
      let brackets := ⟨c, start.line, start.bytes⟩ :: s.brackets
      .more ({ s with brackets }.push .operator start behind)
  else if n = 1 && isClosing c then
    match s.brackets with
    | [] => .faulty (behind.fault s!"unmatched '{c}'") s
    | b :: brackets =>
        let s := { s with brackets }
        if closingBracket b.bracket = some c then .more (s.push .operator start behind)
        else
          let opening := b.bracket
          let message := s!"closing parenthesis '{c}' does not match opening parenthesis '{opening}'"
          let line := b.line
          let message := if line = start.line then message else message ++ s!" on line {line}"
          .faulty (behind.fault message) s
  else if Text.isPrintable c then .more (s.push .operator start behind)
  else
    let code := (Text.hexPadded 4 c.toNat).toUpper
    .faulty (behind.fault s!"invalid non-printable character U+{code}") s

/-- Read a name. Characters beyond ASCII must fit the classes of identifiers. -/
def word (s : LexState) (start : Cursor) : LexStep :=
  let ended := start.skipWhile isNameChar
  let letters := start.since ended
  if letters.all fun c => c.toNat < 128 then .more (s.push .name start ended)
  else match Text.firstNonIdentifier? letters with
    | none => .more (s.push .name start ended)
    | some i =>
        let c := letters.getD i ' '
        let code := (Text.hexPadded 4 c.toNat).toUpper
        let message := if Text.isPrintable c then s!"invalid character '{c}' (U+{code})"
          else s!"invalid non-printable character U+{code}"
        .faulty ((start.skip (i + 1)).fault message) s

/-- Take one step. -/
def step (s : LexState) : LexStep :=
  if s.lineStart && !s.cursor.rest.isEmpty then s.beginLine
  else
    let start := (s.cursor.skipWhile fun c => c = ' ' || c = '\t' || c = '\x0c').settle
    match start.peek? with
    | none =>
        if s.brackets.isEmpty then
          let s := { s with cursor := start }
          let open_ := s.indents.length - 1
          let s := (List.replicate open_ ()).foldl (fun s _ => s.pushLayout .dedent) s
          .finished (s.pushLayout .endOfInput)
        else .faulty .endInBrackets { s with cursor := start }
    | some c =>
        if c = '#' || c = '\n' then
          let stop := start.skipWhile (· ≠ '\n')
          let behind := stop.skip 1
          if s.brackets.isEmpty then
            let s := s.push .newline start stop
            .more { s with cursor := behind, lineStart := true }
          else .more { s with cursor := behind, lineStart := true }
        else match stringPrefix? start.rest with
          | some n => match lexString start (start.skip n) with
            | .ok ended => .more (s.push .string start ended)
            | .error fault => .faulty fault s
          | none =>
              if isNameStart c then s.word start
              else if c.isDigit || (c = '.' && (start.rest.drop 1).head?.any Char.isDigit) then
                let number := if c = '.' then fraction (start.skip 1) else lexNumber start
                match number with
                | .ok ended => .more (s.push .number start ended)
                | .error fault => .faulty fault s
              else if c = '\\' then match continueLine (start.skip 1) with
                | .ok behind => .more { s with cursor := behind }
                | .error fault => .faulty fault s
              else s.operator start c

/-- Take at most the given number of steps. -/
def run : Nat → LexState → TokenStream
  | 0, s => { tokens := s.tokens, unclosed := s.brackets, lastLine := s.cursor.line }
  | fuel + 1, s => match s.step with
    | .more s => run fuel s
    | .finished s => { tokens := s.tokens, unclosed := s.brackets, lastLine := s.cursor.line }
    | .faulty fault s =>
        { tokens := s.tokens, fault := some fault, unclosed := s.brackets,
          lastLine := s.cursor.settle.line }

end LexState

/-- Read characters into tokens. -/
def TokenStream.ofChars (cs : List Char) : TokenStream :=
  LexState.run (2 * cs.length + 4) { cursor := { rest := cs } }

/-- Read on from a place within a line. -/
def TokenStream.ofCursor (c : Cursor) : TokenStream :=
  LexState.run (2 * c.rest.length + 4) { cursor := c, lineStart := false }

/-- Read a source text into tokens. -/
def TokenStream.ofText (text : String) : TokenStream := .ofChars (unifyLines text.toList)

end Assay.Source
