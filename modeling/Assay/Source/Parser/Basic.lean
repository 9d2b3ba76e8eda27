import Assay.Decimal.Reading
import Assay.Source.Fault
import Assay.Source.Stmt
import Assay.Text.Compatibility
import Std.Data.TreeMap

/-!
# Parsers with ordered choice

A parser reads tokens from a position and gives a result, gives none, or stops the whole reading
with a fault. Choices are ordered: the first alternative that gives a result is taken. The state
remembers how many tokens have been looked at, because a text that no rule explains is refused at
the last of them.

A text is read twice: if the first reading gives nothing, the second tries the rules that explain
common mistakes (`complain`).
-/

namespace Assay.Source

/-- What the parser reads. The replacement fields of a formatted text are read on their own: their
messages say so, and columns count from the beginning of the field, which `field?` holds. -/
structure ParserInput where
  stream : TokenStream
  lines : SourceLines
  field? : Option Nat := none

namespace ParserInput

/-- A message, which says that it is about a field if it is. -/
def worded (i : ParserInput) (message : String) : String :=
  if i.field?.isSome then "f-string: " ++ message else message

/-- The fault with a message that points to a span. -/
def faultAt (i : ParserInput) (message : String) (s : Span) : SyntaxFault :=
  .ofSpan i.lines (i.worded message) s (i.field?.getD 0)

/-- The fault with a message that points to a token. -/
def faultAtToken (i : ParserInput) (message : String) (t : Token) : SyntaxFault :=
  if t.located then i.faultAt message t.span
  else .ofLine i.lines (i.worded message) t.span.line 0 0

/-- The fault with a message that points to where the lexer stands behind a token. -/
def faultBehind (i : ParserInput) (message : String) (t : Token) : SyntaxFault :=
  if t.located then i.faultAt message t.span
  else .ofCursor i.lines (i.worded message) t.span.line t.cursor

/-- A fault as it is shown when a token is the last that was looked at: the line of a field in which
the lexer stands is shown with its line feed. -/
def shown (i : ParserInput) (fault : SyntaxFault) (seen : Token) : SyntaxFault :=
  if i.field?.isSome && seen.span.endLine ≤ fault.line then { fault with text := fault.text ++ "\n" }
  else fault

end ParserInput

/-- Rules whose results are remembered for each position. -/
inductive Remembered where
  | expression
  | disjunction
  | bitwiseOr
  | namedMistake
  | starTarget
  | starAtomTarget
  | deleteTarget
  | block
  | pattern
  deriving DecidableEq

/-- The key of a rule at a position. No two rules share one at any positions. -/
def Remembered.key (rule : Remembered) (position : Nat) : Nat := 9 * position + rule.ctorIdx

/-- A remembered result. -/
inductive Remains where
  | expr (value : Expr)
  | stmts (value : List Stmt)
  | pattern (value : Pattern)
  | nothing

/-- The state of a reading: the position, the number of tokens looked at, whether mistakes are
being explained, and the remembered results with the positions behind them. -/
structure ParserState where
  position : Nat := 0
  seen : Nat := 0
  explaining : Bool := false
  memory : Std.TreeMap Nat (Remains × Nat) := {}

/-- Why a reading stops for good: the parser refuses the text, having looked at a token in line
`seenLine`, or the lexer has stopped where the next token should be. -/
inductive Stop where
  | refused (fault : SyntaxFault) (seenLine : Nat)
  | reached (fault : LexFault)

/-- A parser. -/
def Parser (α : Type) : Type := ParserInput → ParserState → Except Stop (Option α × ParserState)

namespace Parser

variable {α β : Type}

/-- Give a result without reading. -/
def result (a : α) : Parser α := fun _ s => .ok (some a, s)

/-- Give no result. -/
def fail : Parser α := fun _ s => .ok (none, s)

/-- Read one thing after another. -/
def andThen (p : Parser α) (f : α → Parser β) : Parser β := fun i s =>
  match p i s with
  | .error stop => .error stop
  | .ok (none, s) => .ok (none, s)
  | .ok (some a, s) => f a i s

instance : Monad Parser where
  pure := result
  bind := andThen

instance : Inhabited (Parser α) := ⟨fail⟩

/-- Take the second alternative if the first gives nothing. -/
def orElse (p : Parser α) (q : Unit → Parser α) : Parser α := fun i s =>
  match p i s with
  | .ok (none, t) => q () i { t with position := s.position }
  | outcome => outcome

instance : OrElse (Parser α) := ⟨orElse⟩

/-- Read something if it is there. -/
def optional (p : Parser α) : Parser (Option α) := fun i s =>
  match p i s with
  | .error stop => .error stop
  | .ok (none, t) => .ok (some none, { t with position := s.position })
  | .ok (some a, t) => .ok (some (some a), t)

/-- Whether something follows, without reading it. -/
def follows (p : Parser α) : Parser Bool := fun i s =>
  match p i s with
  | .error stop => .error stop
  | .ok (found, t) => .ok (some found.isSome, { t with position := s.position })

/-- Go on only if a condition holds. -/
def guardThat (b : Bool) : Parser Unit := if b then result () else fail

/-- Go on only if something follows. -/
def ahead (p : Parser α) : Parser Unit := do guardThat (← follows p)

/-- Go on only if something does not follow. -/
def notAhead (p : Parser α) : Parser Unit := do guardThat (!(← follows p))

/-- Read as often as possible, at most `bound` times. -/
def manyUpTo : Nat → Parser α → Parser (List α)
  | 0, _ => result []
  | bound + 1, p => do
      match ← optional p with
      | some a => return a :: (← manyUpTo bound p)
      | none => return []

/-- Read as often as possible. Each time a token is read, so the number of tokens is a bound. -/
def many (p : Parser α) : Parser (List α) := fun i s =>
  manyUpTo (i.stream.tokens.size + 1) p i s

/-- Read at least once. -/
def many1 (p : Parser α) : Parser (List α) := do return (← p) :: (← many p)

/-- Read at least once, with a separator between. -/
def separated (p : Parser α) (separator : Parser β) : Parser (List α) := do
  return (← p) :: (← many (separator >>= fun _ => p))

/-- Remember the result of a rule for the position where it begins. -/
def remember (rule : Remembered) (wrap : α → Remains) (unwrap : Remains → Option α)
    (p : Parser α) : Parser α := fun i s =>
  match s.memory[rule.key s.position]? with
  | some (r, position) => .ok (unwrap r, { s with position })
  | none => match p i s with
    | .error stop => .error stop
    | .ok (found, t) =>
        let r := match found with
          | some a => wrap a
          | none => .nothing
        .ok (found, { t with memory := t.memory.insert (rule.key s.position) (r, t.position) })

/-- Remember a rule for expressions. -/
def rememberExpr (rule : Remembered) (p : Parser Expr) : Parser Expr :=
  remember rule .expr (fun | .expr e => some e | _ => none) p

/-! ## Tokens -/

/-- The token at the position, which counts as looked at. -/
def peek : Parser Token := fun i s =>
  match i.stream.tokens[s.position]? with
  | some t => .ok (some t, { s with seen := max s.seen (s.position + 1) })
  | none => match i.stream.fault with
    | some fault => .error (.reached fault)
    | none => .ok (none, s)

/-- Read a token that fits. -/
def tokenWhere (p : Token → Bool) : Parser Token := fun i s =>
  match peek i s with
  | .ok (some t, s) =>
      if p t then .ok (some t, { s with position := s.position + 1 }) else .ok (none, s)
  | outcome => outcome

/-- Read an operator or bracket. -/
def op (text : String) : Parser Token := tokenWhere (·.isOperator text)

/-- Read a keyword. -/
def kw (word : String) : Parser Token := tokenWhere (·.isKeyword word)

/-- Read a word that is a keyword only here. -/
def soft (word : String) : Parser Token := tokenWhere fun t => t.kind = .name && t.text == word

/-- Read a token of a kind. -/
def kind (k : TokenKind) : Parser Token := tokenWhere (·.kind = k)

/-- Read one of several operators. -/
def opOf (texts : List String) : Parser Token :=
  tokenWhere fun t => t.kind = .operator && texts.contains t.text

/-- Read one of several keywords. -/
def kwOf (words : List String) : Parser Token :=
  tokenWhere fun t => t.kind = .keyword && words.contains t.text

/-- Read a name. -/
def ident : Parser Token := kind .name

/-- The identifier that a name stands for: names that are compatible are the same. -/
def identifier (t : Token) : String :=
  if t.text.toList.all fun c => c.toNat < 128 then t.text
  else Text.Compatibility.normalize t.text

/-- Read the end of a logical line. -/
def newline : Parser Token := kind .newline

/-- The place where the next token begins. -/
def here : Parser Span := do return (← peek).span

/-- The last token before the position that is not layout. -/
def lastWord? (tokens : Array Token) : Nat → Option Token
  | 0 => none
  | n + 1 => match tokens[n]? with
    | some t => if t.isLayout then lastWord? tokens n else some t
    | none => lastWord? tokens n

/-- The span from a beginning up to the last token read. -/
def spanFrom (start : Span) : Parser Span := fun i s =>
  match lastWord? i.stream.tokens s.position with
  | some t => .ok (some (start.upTo t.span), s)
  | none => .ok (some start, s)

/-- Read something and give it the span that was read. -/
def spanned (p : Parser (Span → α)) : Parser α := do
  let start ← here
  let build ← p
  return build (← spanFrom start)

/-! ## Refusing -/

/-- The last token that was looked at. -/
def lastSeen : Parser Token := fun i s => .ok (some (i.stream.tokens.getD (s.seen - 1) default), s)

/-- Refuse the text with a fault that is complete. -/
def refuse (fault : SyntaxFault) : Parser α := do
  let t ← lastSeen
  fun _ _ => .error (.refused fault t.span.line)

/-- Refuse the text with a fault in what is being read. -/
def refuseWith (fault : ParserInput → SyntaxFault) : Parser α := do
  let t ← lastSeen
  fun i s => refuse (i.shown (fault i) t) i s

/-- Refuse the text and point to a span. -/
def refuseSpan (message : String) (s : Span) : Parser α := refuseWith (·.faultAt message s)

/-- Refuse the text and point to a token. -/
def refuseToken (message : String) (t : Token) : Parser α := refuseWith (·.faultAtToken message t)

/-- Refuse the text and point to no place in the line of a token. -/
def refuseLine (message : String) (t : Token) : Parser α :=
  refuseToken message { t with located := false }

/-- Refuse the text and point to the last token that was looked at. -/
def refuseHere (message : String) (kind : FaultKind := .grammar) : Parser α := do
  let t ← lastSeen
  refuseWith fun i => { i.faultBehind message t with kind }

/-- Refuse the text and point to the beginning of a span. -/
def refusePlace (message : String) (s : Span) : Parser α :=
  refuseWith fun i => { i.faultAt message s with endOffset := -(i.field?.getD 0 : Int) }

/-- Refuse the text and point from a beginning up to the last byte that the lexer has read. -/
def refuseFrom (message : String) (start : Span) : Parser α := do
  let t ← lastSeen
  refuseSpan message { start with endLine := t.span.endLine, endColumn := t.cursor - 1 }

/-- Read an operator that must be there. -/
def needOp (text : String) : Parser Token := do
  let t ← peek
  if t.isOperator text then op text else refuseToken s!"expected '{text}'" t

/-- Whether a number is imaginary. -/
def isImaginaryText (text : String) : Bool := text.endsWith "j" || text.endsWith "J"

/-- The number of digits of a number that is too long to be read: a whole number at the base ten. -/
def excessDigits? (text : String) : Option Nat :=
  let digits := text.toList.filter (· ≠ '_')
  if digits.head? ≠ some '0' && digits.all Char.isDigit && Decimal.digitLimit < digits.length then
    some digits.length
  else none

/-- Read a number, which must not be too long. -/
def number : Parser Token := do
  let t ← kind .number
  match excessDigits? t.text with
  | none => return t
  | some digits =>
      let message := (Decimal.ReadFault.tooLong digits).message ++
        " - Consider hexadecimal for huge integer literals to avoid decimal conversion limits."
      refuseLine message t

/-- Whether mistakes are being explained. -/
def explaining : Parser Bool := fun _ s => .ok (some s.explaining, s)

/-- A rule that explains a mistake. It is tried in the second reading only, and never gives a
result: it refuses the text or lets the next alternative try. -/
def complain (p : Parser Unit) : Parser α := do
  if ← explaining then
    p
    fail
  else fail

/-- Read without explaining mistakes. -/
def quietly (p : Parser α) : Parser α := fun i s =>
  match p i { s with explaining := false } with
  | .ok (found, t) => .ok (found, { t with explaining := s.explaining })
  | .error stop => .error stop

end Parser

end Assay.Source
