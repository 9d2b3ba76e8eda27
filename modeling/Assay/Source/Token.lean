import Assay.Source.Span

/-!
# Tokens

What the lexer hands to the parser: words, literals and operators with their places, and the
tokens that stand for the layout of lines.
-/

namespace Assay.Source

/-- What a token is. Keywords are told apart from other names by their text. -/
inductive TokenKind where
  | name
  | keyword
  | number
  | string
  | operator
  | newline
  | indent
  | dedent
  | endOfInput
  deriving DecidableEq, Repr, Inhabited

/-- An opening bracket that is not closed yet, with its place. -/
structure OpenBracket where
  bracket : Char
  line : Nat
  column : Nat
  deriving Repr, Inhabited

/-- One token. Layout tokens are not `located`: they have a line but no columns, and `cursor` tells
how many bytes of that line were read when they were found. `depth` is the number of brackets that
are open behind the token. -/
structure Token where
  kind : TokenKind
  text : String
  span : Span
  located : Bool := true
  cursor : Nat := 0
  depth : Nat := 0
  deriving Repr, Inhabited

namespace Token

/-- Whether the token is a given keyword. -/
def isKeyword (t : Token) (word : String) : Bool := t.kind = .keyword && t.text == word

/-- Whether the token is a given operator or bracket. -/
def isOperator (t : Token) (op : String) : Bool := t.kind = .operator && t.text == op

/-- Tokens that mark lines and blocks rather than words. -/
def isLayout (t : Token) : Bool :=
  t.kind = .newline || t.kind = .indent || t.kind = .dedent || t.kind = .endOfInput

end Token

/-- The reserved words. -/
def keywords : List String :=
  ["False", "None", "True", "and", "as", "assert", "async", "await", "break", "class", "continue",
   "def", "del", "elif", "else", "except", "finally", "for", "from", "global", "if", "import",
   "in", "is", "lambda", "nonlocal", "not", "or", "pass", "raise", "return", "try", "while",
   "with", "yield"]

/-- Names that act as keywords in some places only. -/
def softKeywords : List String := ["_", "case", "match"]

/-- Whether a word is the beginning of a soft keyword; such words never count as a forgotten
comma. -/
def beginsSoftKeyword (word : String) : Bool := softKeywords.any fun k => k.startsWith word

/-- Why the lexer stopped before the end of the text. A `definite` fault is reported wherever it is
found, at columns that count characters; the others only when the parser reaches them. -/
inductive LexFault where
  | definite (message : String) (line column endColumn : Nat)
  | badDedent (line cursor : Nat)
  | mixedTabs (line : Nat)
  | tooDeep (line : Nat)
  | strayContinuation (line column : Nat)
  | endInContinuation (line cursor : Nat)
  | endInBrackets
  deriving Repr, Inhabited

/-- The outcome of reading a text into tokens: the tokens, and what stopped the lexer early. The
brackets are those open where it stopped, innermost first, and `lastLine` is the line it was in. -/
structure TokenStream where
  tokens : Array Token
  fault : Option LexFault := none
  unclosed : List OpenBracket := []
  lastLine : Nat := 1
  deriving Inhabited

end Assay.Source
