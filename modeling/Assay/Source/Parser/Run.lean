import Assay.Source.Parser.Basic

/-!
# Reading with a rule

`Parser.run` reads a text with a rule and finds the fault if there is no result. Faults of the
lexer behind the place where the parser gives up go before the parser's own.
-/

namespace Assay.Source

namespace ParserInput

/-- How a fault of the lexer is reported when the parser runs into it. -/
def faultOfLexer (i : ParserInput) (fault : LexFault) : SyntaxFault :=
  fault.report i.lines i.stream.unclosed

/-- The fault to report when the parser gives up in line `seenLine`: a definite fault of the lexer
further on, a bracket that was opened in an earlier line and is never closed, or the parser's own. -/
def settle (i : ParserInput) (own : SyntaxFault) (seenLine : Nat) : SyntaxFault :=
  match i.stream.fault with
  | none => own
  | some (.definite message line column endColumn) =>
      i.faultOfLexer (.definite message line column endColumn)
  | some _ => match i.stream.unclosed with
    | b :: _ => if b.line < seenLine then .ofBracket i.lines b else own
    | [] => own

/-- The fault of a text that no rule explains: `last` is the last token of the first reading and
`further` that of the second. -/
def unexplained (i : ParserInput) (last further : Token) : SyntaxFault :=
  match last.kind with
  | .indent => { i.faultBehind "unexpected indent" further with kind := .indentation }
  | .dedent => { i.faultBehind "unexpected unindent" further with kind := .indentation }
  | _ => i.settle (i.shown (i.faultAtToken "invalid syntax" last) further) further.span.line

end ParserInput

/-- The fault that a stopped reading reports. -/
def Stop.fault (i : ParserInput) : Stop → SyntaxFault
  | refused own seenLine => i.settle own seenLine
  | reached fault => i.faultOfLexer fault

/-- Read a text with a rule, a second time to explain the mistake if need be. -/
def Parser.run {α : Type} (rule : Parser α) (i : ParserInput) : Except SyntaxFault α :=
  let tokenBefore (n : Nat) : Token := i.stream.tokens.getD (n - 1) default
  match rule i {} with
  | .ok (some a, _) => .ok a
  | .error stop => .error (stop.fault i)
  | .ok (none, s) => match rule i { seen := s.seen, explaining := true } with
    | .error stop => .error (stop.fault i)
    | .ok (_, t) => .error (i.unexplained (tokenBefore s.seen) (tokenBefore t.seen))

end Assay.Source
