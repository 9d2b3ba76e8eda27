import Assay.Source.Parser.Parameters
import Assay.Source.Parser.TextLiteral

/-!
# The grammar of expressions

From the loosest binding construct to the atoms. Operators that group from the left are read as
loops.
-/

namespace Assay.Source

/-- The arguments of a call, in the order in which they are visited: positional ones, then
keywords. -/
structure Arguments where
  positional : List Expr := []
  keywords : List Expr := []
  unpacksMapping : Bool := false

/-- One argument of a call behind the plain ones. -/
inductive LateArgument where
  | starred (value : Expr)
  | keyword (value : Expr)
  | mapping (value : Expr)

/-- Put the arguments of a call together. -/
def Arguments.of (plain : List Expr) (late : List LateArgument) : Arguments where
  positional := plain ++ late.filterMap fun | .starred e => some e | _ => none
  keywords := late.filterMap fun
    | .starred _ => none
    | .keyword e => some e
    | .mapping e => some e
  unpacksMapping := late.any fun | .mapping _ => true | _ => false

namespace Rules

open Assay.Source.Parser

variable (r : Rules)

/-! ## Lists of expressions -/

/-- An expression behind a star. -/
def behindStar (value : Parser Expr) : Parser Expr := spanned do
  let _ ← op "*"
  let e ← value
  return fun s => .starred s e .load

/-- An expression, or an operand behind a star. -/
def starExpression : Parser Expr := behindStar r.bitwiseOr <|> r.expression

/-- One expression, or several that make a tuple. -/
def tupleOf (item : Parser Expr) : Parser Expr := do
  let start ← here
  let first ← item
  let more ← many (do
    let _ ← op ","
    item)
  let trailing ← optional (op ",")
  if more.isEmpty && trailing.isNone then return first
  else return .sequence (← spanFrom start) .tuple (first :: more) .load

/-- Expressions that may be starred; several make a tuple. -/
def starExpressions : Parser Expr := tupleOf r.starExpression

/-- Expressions; several make a tuple. -/
def expressions : Parser Expr := tupleOf r.expression

/-- A name that is given a value on the way. -/
def assignmentExpression : Parser Expr := spanned do
  let t ← ident
  let _ ← op ":="
  let value ← r.expression
  return fun s => .walrus s (.name t.span (identifier t) .store) value

/-- Arguments inside of round brackets that are neither starred nor keywords. -/
def plainArgument : Parser Expr :=
  r.assignmentExpression <|> (do
    let e ← r.expression
    notAhead (op ":=")
    return e)

/-- An expression behind a star, in a call. -/
def starredArgument : Parser Expr := behindStar r.expression

/-- A value that a generator function gives. -/
def yieldExpr : Parser Expr := spanned do
  let _ ← kw "yield"
  (do
    let _ ← kw "from"
    let e ← r.expression
    return fun s => .operation s .yieldFrom [e]) <|>
  (do
    let e ← optional r.starExpressions
    return fun s => .operation s .yield e.toList)

/-! ## Comprehension clauses -/

/-- One clause of a comprehension. -/
def clause : Parser Clause := do
  match ← optional (do
      let async ← optional (kw "async")
      let _ ← kw "for"
      let target ← r.starTargets
      let _ ← kw "in"
      return (async.isSome, target)) with
  | some (isAsync, target) =>
      let iterable ← r.disjunction
      let conditions ← many (do
        let _ ← kw "if"
        r.disjunction)
      return .mk isAsync target iterable conditions
  | none => complain do
      let _ ← optional (kw "async")
      let _ ← kw "for"
      refuseTarget .loop (← r.starExpressions)

/-- The clauses of a comprehension. -/
def clauses : Parser (List Clause) := many1 r.clause

/-- A comprehension of results and clauses. -/
def comprehensionOf (kind : ComprehensionKind) (results : List Expr) (span : Span) :
    List Clause → Expr
  | .mk isAsync target iterable conditions :: further =>
      .comprehension span kind results isAsync target iterable conditions further
  | [] => .literal span .none

/-- The span of the last part of clauses. -/
def lastOfClauses (cs : List Clause) : Span :=
  match cs.getLast? with
  | some (.mk _ _ iterable conditions) => (conditions.getLast?.getD iterable).span
  | none => default

/-- The span of the target of the last clause. -/
def lastTarget (cs : List Clause) : Span :=
  match cs.getLast? with
  | some (.mk _ target _ _) => target.span
  | none => default

/-- A named expression, or an operand behind a star. -/
def starNamedExpression : Parser Expr := behindStar r.bitwiseOr <|> r.namedExpression

/-- Named expressions that may be starred. -/
def starNamedExpressions : Parser (List Expr) := do
  let es ← separated r.starNamedExpression (op ",")
  let _ ← optional (op ",")
  return es

/-! ## Arguments -/

/-- Mistakes in a keyword argument. -/
def keywordMistakes : Parser Unit :=
  (do
    let t ← kwOf ["True", "False", "None"]
    let e ← op "="
    let word := t.text
    refuseSpan s!"cannot assign to {word}" (t.span.upTo e.span)) <|>
  (do
    let t ← ident
    let e ← op "="
    let _ ← r.expression
    let _ ← r.clauses
    refuseSpan "invalid syntax. Maybe you meant '==' or ':=' instead of '='?"
      (t.span.upTo e.span)) <|>
  (do
    notAhead (do
      let _ ← ident
      let _ ← op "=")
    let a ← r.expression
    let e ← op "="
    refuseSpan "expression cannot contain assignment, perhaps you meant \"==\"?"
      (a.span.upTo e.span))

/-- An argument with its keyword. -/
def keywordArgument : Parser LateArgument := spanned do
  let t ← ident
  let _ ← op "="
  let e ← r.expression
  return fun s => .keyword (.operation s (.keywordArgument (identifier t)) [e])

/-- A keyword argument or a starred one. -/
def keywordOrStarred : Parser LateArgument :=
  complain r.keywordMistakes <|> r.keywordArgument <|>
  (do return .starred (← r.starredArgument))

/-- A keyword argument or a mapping that is unpacked. -/
def keywordOrMapping : Parser LateArgument :=
  complain r.keywordMistakes <|> r.keywordArgument <|>
  (spanned do
    let _ ← op "**"
    let e ← r.expression
    return fun s => .mapping (.operation s (.keywordArgument none) [e]))

/-- The arguments from the first keyword on. -/
def lateArguments : Parser (List LateArgument) :=
  (do
    let first ← separated r.keywordOrStarred (op ",")
    let second ← optional (do
      let _ ← op ","
      separated r.keywordOrMapping (op ","))
    return first ++ second.getD []) <|>
  separated r.keywordOrMapping (op ",")

/-- The arguments before the first keyword. -/
def earlyArguments : Parser (List Expr) :=
  separated
    (r.starredArgument <|> (do
      let e ← r.plainArgument
      notAhead (op "=")
      return e)) (op ",")

/-- The arguments of a call. -/
def args : Parser Arguments :=
  (do
    let plain ← r.earlyArguments
    let late ← optional (do
      let _ ← op ","
      r.lateArguments)
    return .of plain (late.getD [])) <|>
  (do return .of [] (← r.lateArguments))

/-- Mistakes in the arguments of a call. -/
def argumentMistakes : Parser Unit :=
  (do
    let start ← here
    let _ ← r.args
    let whole ← spanFrom start
    let _ ← op ","
    let _ ← op "*"
    refuseSpan "iterable argument unpacking follows keyword argument unpacking" whole) <|>
  (do
    let a ← r.expression
    let cs ← r.clauses
    let _ ← op ","
    let more : Parser Unit :=
      (do let _ ← r.args) <|>
      (do
        let _ ← r.expression
        let _ ← r.clauses)
    let _ ← optional more
    refuseSpan "Generator expression must be parenthesized" (a.span.upTo (lastOfClauses cs))) <|>
  (do
    let t ← ident
    let e ← op "="
    let _ ← r.expression
    let _ ← r.clauses
    refuseSpan "invalid syntax. Maybe you meant '==' or ':=' instead of '='?"
      (t.span.upTo e.span)) <|>
  (do
    let a ← r.args
    let cs ← r.clauses
    match a.positional.getLast? with
    | some last =>
        if a.positional.length ≤ 1 then return ()
        else
          let whole := last.span.upTo (lastOfClauses cs)
          refuseSpan "Generator expression must be parenthesized" whole
    | none => return ()) <|>
  (do
    let _ ← r.args
    let _ ← op ","
    let a ← r.expression
    let cs ← r.clauses
    refuseSpan "Generator expression must be parenthesized" (a.span.upTo (lastTarget cs))) <|>
  (do
    let a ← r.args
    let _ ← op ","
    let _ ← r.args
    refuseHere (if a.unpacksMapping then "positional argument follows keyword argument unpacking"
      else "positional argument follows keyword argument"))

/-- The arguments of a call up to the closing bracket. -/
def arguments : Parser Arguments :=
  (do
    let a ← r.args
    let _ ← optional (op ",")
    ahead (op ")")
    return a) <|>
  complain r.argumentMistakes

/-! ## Displays -/

/-- Mistakes in a comprehension. -/
def comprehensionMistakes : Parser Unit :=
  (do
    let _ ← opOf ["[", "(", "\x7b"]
    let a ← r.starredArgument
    let _ ← r.clauses
    refuseSpan "iterable unpacking cannot be used in comprehension" a.span) <|>
  (do
    let _ ← opOf ["[", "\x7b"]
    let a ← r.starNamedExpression
    let _ ← op ","
    let es ← r.starNamedExpressions
    let _ ← r.clauses
    refuseSpan "did you forget parentheses around the comprehension target?"
      (a.span.upTo (es.getLast?.getD a).span)) <|>
  (do
    let _ ← opOf ["[", "\x7b"]
    let a ← r.starNamedExpression
    let comma ← op ","
    let _ ← r.clauses
    refuseSpan "did you forget parentheses around the comprehension target?"
      (a.span.upTo comma.span))

/-- A generator in round brackets. -/
def generator : Parser Expr :=
  (spanned do
    let _ ← op "("
    let e ← r.plainArgument
    let cs ← r.clauses
    let _ ← op ")"
    return fun s => comprehensionOf .generator [e] s cs) <|>
  complain r.comprehensionMistakes

/-- A tuple in round brackets. -/
def tuple : Parser Expr := spanned do
  let _ ← op "("
  let items ← optional (do
    let first ← r.starNamedExpression
    let _ ← op ","
    return first :: (← optional r.starNamedExpressions).getD [])
  let _ ← op ")"
  return fun s => .sequence s .tuple (items.getD []) .load

/-- One expression in round brackets. -/
def group : Parser Expr :=
  (do
    let _ ← op "("
    let e ← r.yieldExpr <|> r.namedExpression
    let _ ← op ")"
    return e) <|>
  complain (
    (do
      let _ ← op "("
      let a ← r.starredArgument
      let _ ← op ")"
      refuseSpan "cannot use starred expression here" a.span) <|>
    (do
      let _ ← op "("
      let t ← op "**"
      let _ ← r.expression
      let _ ← op ")"
      refuseToken "cannot use double starred expression here" t))

/-- A list. -/
def list : Parser Expr := spanned do
  let _ ← op "["
  let items ← optional r.starNamedExpressions
  let _ ← op "]"
  return fun s => .sequence s .list (items.getD []) .load

/-- A list or a set that is built by a comprehension. -/
def listOrSetComprehension (kind : ComprehensionKind) (opening closing : String) : Parser Expr :=
  (spanned do
    let _ ← op opening
    let e ← r.namedExpression
    let cs ← r.clauses
    let _ ← op closing
    return fun s => comprehensionOf kind [e] s cs) <|>
  complain r.comprehensionMistakes

/-- A key with its value. -/
def entry : Parser (Expr × Expr) := do
  let k ← r.expression
  let _ ← op ":"
  let v ← r.expression
  return (k, v)

/-- An entry of a mapping, or a mapping that is unpacked into it. -/
def entryOrMapping : Parser (Option Expr × Expr) :=
  (do
    let _ ← op "**"
    return (none, ← r.bitwiseOr)) <|>
  (do
    let (k, v) ← r.entry
    return (some k, v))

/-- Mistakes behind the key of an entry. -/
def valueMistakes : Parser Unit :=
  (do
    let _ ← r.expression
    let _ ← op ":"
    let t ← op "*"
    let _ ← r.bitwiseOr
    refuseFrom "cannot use a starred expression in a dictionary value" t.span) <|>
  (do
    let _ ← r.expression
    let t ← op ":"
    ahead (opOf ["\x7d", ","])
    refuseToken "expression expected after dictionary key and ':'" t)

/-- Mistakes in the entries of a mapping. -/
def entryMistakes : Parser Unit :=
  (do
    let _ ← separated r.entryOrMapping (op ",")
    let _ ← op ","
    (do
      let a ← r.expression
      notAhead (op ":")
      let s := a.span
      refusePlace "':' expected after dictionary key" { s with column := s.endColumn - 1 }) <|>
    r.valueMistakes) <|>
  r.valueMistakes

/-- A mapping. Mistakes in its entries are refused in the first reading already. -/
def mapping : Parser Expr :=
  (spanned do
    let _ ← op "\x7b"
    let entries ← optional (do
      let es ← separated r.entryOrMapping (op ",")
      let _ ← optional (op ",")
      return es)
    let _ ← op "\x7d"
    let entries := entries.getD []
    return fun s => .operation s .mapping (entries.filterMap (·.1) ++ entries.map (·.2))) <|>
  (do
    let _ ← op "\x7b"
    r.entryMistakes
    fail)

/-- A set. -/
def set : Parser Expr := spanned do
  let _ ← op "\x7b"
  let items ← r.starNamedExpressions
  let _ ← op "\x7d"
  return fun s => .operation s .set items

/-- A mapping that is built by a comprehension. -/
def mappingComprehension : Parser Expr :=
  (spanned do
    let _ ← op "\x7b"
    let (k, v) ← r.entry
    let cs ← r.clauses
    let _ ← op "\x7d"
    return fun s => comprehensionOf .mapping [k, v] s cs) <|>
  complain (do
    let _ ← op "\x7b"
    let t ← op "**"
    let _ ← r.bitwiseOr
    let _ ← r.clauses
    let _ ← op "\x7d"
    refuseToken "dict unpacking cannot be used in dict comprehension" t)

/-! ## Named expressions -/

/-- Mistakes around `:=` and `=`. -/
def namedMistakes : Parser Unit :=
  (do
    let a ← r.expression
    let _ ← op ":="
    let _ ← r.expression
    let what := a.description
    refuseSpan s!"cannot use assignment expressions with {what}" a.span) <|>
  (do
    let t ← ident
    let _ ← op "="
    let b ← r.bitwiseOr
    notAhead (opOf ["=", ":="])
    refuseSpan "invalid syntax. Maybe you meant '==' or ':=' instead of '='?"
      (t.span.upTo b.span)) <|>
  (do
    notAhead (r.list <|> r.tuple <|> r.generator)
    notAhead (kwOf ["True", "None", "False"])
    let a ← r.bitwiseOr
    let _ ← op "="
    let _ ← r.bitwiseOr
    notAhead (opOf ["=", ":="])
    let what := a.description
    refuseSpan s!"cannot assign to {what} here. Maybe you meant '==' instead of '='?" a.span)

/-- An expression, or a name that is given a value on the way. -/
def namedExpressionRule : Parser Expr :=
  r.assignmentExpression <|>
  rememberExpr .namedMistake (complain r.namedMistakes) <|>
  (do
    let e ← r.expression
    notAhead (op ":=")
    return e)

/-! ## Atoms and what follows them -/

/-- The smallest expressions. -/
def atom : Parser Expr := do
  let t ← peek
  let constant (value : Literal) : Parser Expr := do
    let _ ← tokenWhere fun _ => true
    return .literal t.span value
  match t.kind with
  | .name => do
      let _ ← ident
      return .name t.span (identifier t) .load
  | .number => do return .literal t.span (.number (← number).text)
  | .string => textLiteral r.starExpressions
  | .keyword => match t.text with
    | "True" => constant .true
    | "False" => constant .false
    | "None" => constant .none
    | _ => fail
  | .operator => match t.text with
    | "(" => r.tuple <|> r.group <|> r.generator
    | "[" => r.list <|> r.listOrSetComprehension .list "[" "]"
    | "\x7b" =>
        r.mapping <|> r.set <|> r.mappingComprehension <|>
        r.listOrSetComprehension .set "\x7b" "\x7d"
    | "..." => constant .ellipsis
    | _ => fail
  | _ => fail

/-- One index of a subscript. -/
def slice : Parser Expr :=
  (spanned do
    let lower ← optional r.expression
    let _ ← op ":"
    let upper ← optional r.expression
    let step ← optional (do
      let _ ← op ":"
      optional r.expression)
    return fun s => .operation s .slice (lower.toList ++ upper.toList ++ (step.getD none).toList)) <|>
  r.namedExpression

/-- The indices of a subscript. -/
def slices : Parser Expr :=
  (do
    let e ← r.slice
    notAhead (op ",")
    return e) <|>
  (spanned do
    let items ← separated (r.slice <|> r.starredArgument) (op ",")
    let _ ← optional (op ",")
    return fun s => .sequence s .tuple items .load)

/-- What may follow an atom: a member, a call or a subscript. -/
inductive Trailer where
  | member (field : String)
  | call (arguments : Arguments)
  | subscript (index : Expr)

/-- Apply a trailer. -/
def Trailer.apply (object : Expr) (span : Span) : Trailer → Expr
  | member field => .member span object field .load
  | call a => .operation span .call (object :: a.positional ++ a.keywords)
  | subscript index => .subscript span object index .load

/-- A trailer. -/
def trailer : Parser Trailer :=
  (do
    let _ ← op "."
    return .member (identifier (← ident))) <|>
  (do return .call { positional := [← r.generator] }) <|>
  (do
    let _ ← op "("
    let a ← optional r.arguments
    let _ ← op ")"
    return .call (a.getD {})) <|>
  (do
    let _ ← op "["
    let index ← r.slices
    let _ ← op "]"
    return .subscript index)

/-- An atom with its trailers. -/
def primary : Parser Expr := do
  let start ← here
  let e ← r.atom
  let trailers ← many (do
    let t ← r.trailer
    return (t, ← spanFrom start))
  return trailers.foldl (fun e (t, s) => t.apply e s) e

/-! ## Operators -/

/-- Operators that group from the left. -/
def leftGrouped (ops : List String) (operand : Parser Expr) : Parser Expr := do
  let start ← here
  let first ← operand
  let more ← many (do
    let _ ← opOf ops
    let e ← operand
    return (e, ← spanFrom start))
  return more.foldl (fun left (right, s) => .operation s .binary [left, right]) first

/-- Operands joined by one keyword. -/
def joinedBy (word : String) (operand : Parser Expr) : Parser Expr := do
  let start ← here
  let first ← operand
  let more ← many (do
    let _ ← kw word
    operand)
  if more.isEmpty then return first
  else return .operation (← spanFrom start) .boolean (first :: more)

/-- A primary that may be awaited, and its power. -/
def power : Parser Expr := do
  let start ← here
  let awaited : Parser Expr := spanned do
    let _ ← kw "await"
    let e ← r.primary
    return fun s => .operation s .await [e]
  let e ← awaited <|> r.primary
  match ← optional (do
      let _ ← op "**"
      r.factor) with
  | none => return e
  | some exponent => return .operation (← spanFrom start) .binary [e, exponent]

/-- Signs. -/
def factorRule : Parser Expr :=
  (spanned do
    let _ ← opOf ["+", "-", "~"]
    let e ← r.factor
    return fun s => .operation s .unary [e]) <|>
  r.power

/-- Arithmetic and bitwise operators. -/
def bitwiseOrRule : Parser Expr :=
  rememberExpr .bitwiseOr <|
  leftGrouped ["|"] <| leftGrouped ["^"] <| leftGrouped ["&"] <| leftGrouped ["<<", ">>"] <|
  leftGrouped ["+", "-"] <| leftGrouped ["*", "/", "//", "%", "@"] r.factor

/-- A comparison operator; whether it asks for membership. -/
def comparisonOperator : Parser Bool :=
  (do
    let _ ← opOf ["==", "!=", "<=", "<", ">=", ">"]
    return false) <|>
  (do
    let _ ← kw "not"
    let _ ← kw "in"
    return false) <|>
  (do
    let _ ← kw "in"
    return true) <|>
  (do
    let _ ← kw "is"
    let _ ← optional (kw "not")
    return false)

/-- Comparisons. -/
def comparison : Parser Expr := do
  let start ← here
  let left ← r.bitwiseOr
  let pairs ← many (do
    let membership ← comparisonOperator
    return (membership, ← r.bitwiseOr))
  match pairs with
  | [] => return left
  | (membership, _) :: _ =>
      return .operation (← spanFrom start) (.comparison membership) (left :: pairs.map (·.2))

/-- Negation. -/
def inversionRule : Parser Expr :=
  (spanned do
    let _ ← kw "not"
    let e ← r.inversion
    return fun s => .operation s .unary [e]) <|>
  r.comparison

/-- Alternatives of conjunctions. -/
def disjunctionRule : Parser Expr :=
  rememberExpr .disjunction (joinedBy "or" (joinedBy "and" r.inversion))

/-! ## Expressions -/

/-- A function without a name. -/
def lambda : Parser Expr := spanned do
  let _ ← kw "lambda"
  let signature ← optional (r.parameters .lambda)
  let _ ← op ":"
  let body ← r.expression
  let signature := signature.getD {}
  return fun s => .lambda s (signature.parameters.map (·.toParameterName)) signature.defaults
    signature.keywordDefaults body

/-- An expression, as far as it is no mistake. -/
def plainExpression : Parser Expr :=
  (do
    let start ← here
    let body ← r.disjunction
    match ← optional (do
        let _ ← kw "if"
        let test ← r.disjunction
        let _ ← kw "else"
        return (test, ← r.expression)) with
    | none => return body
    | some (test, otherwise) =>
        return .operation (← spanFrom start) .conditional [test, body, otherwise]) <|>
  r.lambda

/-- Words that used to be statements. -/
def isLegacyWord (e : Expr) : Bool :=
  match e with
  | .name _ id _ => id == "print" || id == "exec"
  | _ => false

/-- Mistakes between expressions. -/
def expressionMistakes : Parser Unit :=
  (do
    notAhead (
      (do
        let _ ← ident
        let _ ← kind .string) <|>
      (do let _ ← tokenWhere fun t => t.kind = .name && beginsSoftKeyword t.text))
    let a ← r.disjunction
    let b ← quietly r.plainExpression
    let depth : Parser Nat := fun i s =>
      .ok (some (i.stream.tokens.getD (s.position - 1) default).depth, s)
    if isLegacyWord a || (← depth) = 0 then return ()
    else refuseSpan "invalid syntax. Perhaps you forgot a comma?" (a.span.upTo b.span)) <|>
  (do
    let a ← r.disjunction
    let _ ← kw "if"
    let b ← r.disjunction
    notAhead ((do let _ ← kw "else") <|> (do let _ ← op ":"))
    refuseSpan "expected 'else' after 'if' expression" (a.span.upTo b.span))

/-- Calls written as statements. -/
def legacyMistakes : Parser Unit := do
  let t ← ident
  notAhead (op "(")
  let b ← r.starExpressions
  let word := identifier t
  if word == "print" || word == "exec" then
    refuseSpan s!"Missing parentheses in call to '{word}'. Did you mean {word}(...)?"
      (t.span.upTo b.span)
  else return ()

/-- Expressions. -/
def expressionRule : Parser Expr :=
  rememberExpr .expression (
    complain r.expressionMistakes <|> complain r.legacyMistakes <|> r.plainExpression)

end Rules

end Assay.Source
