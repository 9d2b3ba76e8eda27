import Assay.Source.Parser.Pattern
import Assay.Source.Parser.Target

/-!
# The grammar of statements
-/

namespace Assay.Source

namespace Rules

open Assay.Source.Parser

variable (r : Rules)

/-! ## Simple statements -/

/-- The right side of an assignment. -/
def assignedValue : Parser Expr := r.yieldExpr <|> r.starExpressions

/-- The operators of augmented assignments. -/
def augmented : Parser Token :=
  opOf ["+=", "-=", "*=", "@=", "/=", "%=", "&=", "|=", "^=", "<<=", ">>=", "**=", "//="]

/-- The hint of an assignment and what is assigned, if anything. -/
def hinted (target : Expr) (bare : Bool) : Parser (Span → Stmt) := do
  let _ ← op ":"
  let hint ← r.expression
  let value ← optional (do
    let _ ← op "="
    r.assignedValue)
  return fun s => .annotate s target hint value bare

/-- A list or a tuple, perhaps in further round brackets. -/
def hintedDisplay : Nat → Parser Expr
  | 0 => fail
  | bound + 1 =>
      r.list <|> r.tuple <|> (do
        let _ ← op "("
        let e ← hintedDisplay bound
        let _ ← op ")"
        return e)

/-- Mistakes in assignments. -/
def assignmentMistakes : Parser Unit :=
  let targets : Parser Unit := do
    let _ ← many (do
      let _ ← r.starTargets
      let _ ← op "=")
  (do
    let a ← fun i s => r.hintedDisplay (i.stream.tokens.size + 1) i s
    let _ ← op ":"
    let _ ← r.expression
    let what := a.description
    refuseSpan s!"only single target (not {what}) can be annotated" a.span) <|>
  (do
    let a ← r.starNamedExpression
    let _ ← op ","
    let _ ← many r.starNamedExpressions
    let _ ← op ":"
    let _ ← r.expression
    refuseSpan "only single target (not tuple) can be annotated" a.span) <|>
  (do
    let a ← r.expression
    let _ ← op ":"
    let _ ← r.expression
    refuseSpan "illegal target for annotation" a.span) <|>
  (do
    targets
    let a ← r.starExpressions
    let _ ← op "="
    refuseTarget .assignment a) <|>
  (do
    targets
    let a ← r.yieldExpr
    let _ ← op "="
    refuseSpan "assignment to yield expression not possible" a.span) <|>
  (do
    let a ← r.starExpressions
    let _ ← augmented
    let _ ← r.assignedValue
    let what := a.description
    refuseSpan s!"'{what}' is an illegal expression for augmented assignment" a.span)

/-- Assignments. -/
def assignment : Parser Stmt := do
  match ← optional (
      (spanned do
        let target ← nameTarget .store
        r.hinted target true) <|>
      (spanned do
        let inBrackets : Parser Expr := do
          let _ ← op "("
          let e ← r.singleTarget
          let _ ← op ")"
          return e
        let target ← inBrackets <|> r.memberTarget .store
        r.hinted target false) <|>
      (spanned do
        let targets ← many1 (do
          let e ← r.starTargets
          let _ ← op "="
          return e)
        let value ← r.assignedValue
        notAhead (op "=")
        return fun s => .assign s targets value)) with
  | some stmt => return stmt
  | none =>
      let start ← here
      match ← optional (do
          let target ← r.singleTarget
          let _ ← augmented
          return target) with
      | some target =>
          let value ← r.assignedValue
          return .evaluate (← spanFrom start) .augment [target, value]
      | none => complain r.assignmentMistakes

/-- The names of a module between points. -/
def modulePath : Parser String := do
  let names ← separated ident (op ".")
  return ".".intercalate (names.map identifier)

/-- The alias of an imported name. -/
def asName : Parser (Option String) := optional (do
  let _ ← kw "as"
  return identifier (← ident))

/-- Names imported from a module. -/
def importedNames : Parser (List Alias) :=
  separated (spanned do
    let name ← ident
    let asName ← asName
    return fun span => { name := identifier name, asName, span }) (op ",")

/-- What is imported from a module. -/
def importTargets : Parser (List Alias) :=
  (do
    let _ ← op "("
    let names ← importedNames
    let _ ← optional (op ",")
    let _ ← op ")"
    return names) <|>
  (do
    let names ← importedNames
    notAhead (op ",")
    return names) <|>
  (do
    let t ← op "*"
    return [{ name := "*", asName := none, span := t.span }]) <|>
  complain (do
    let _ ← importedNames
    let _ ← op ","
    let _ ← newline
    refuseHere "trailing comma not allowed without surrounding parentheses")

/-- Import statements. -/
def importStmt : Parser Stmt :=
  let dots (ts : List Token) : Nat := ts.foldl (fun n t => n + t.text.length) 0
  (spanned do
    let _ ← kw "import"
    let names ← separated (spanned do
      let name ← modulePath
      let asName ← asName
      return fun span => ({ name, asName, span } : Alias)) (op ",")
    return fun s => .importModules s names) <|>
  (spanned do
    let _ ← kw "from"
    let level ← many (opOf [".", "..."])
    let origin ← modulePath
    let _ ← kw "import"
    let names ← importTargets
    return fun s => .importFrom s (some origin) (dots level) names) <|>
  (spanned do
    let _ ← kw "from"
    let level ← many1 (opOf [".", "..."])
    let _ ← kw "import"
    let names ← importTargets
    return fun s => .importFrom s none (dots level) names)

/-- Names between commas behind a keyword. -/
def nameList (word : String) (build : Span → List String → Stmt) : Parser Stmt := spanned do
  let _ ← kw word
  let names ← separated ident (op ",")
  return fun s => build s (names.map identifier)

/-- Deletions. -/
def deletion : Parser Stmt :=
  (spanned do
    let _ ← kw "del"
    let targets ← r.deleteTargets
    ahead ((do let _ ← op ";") <|> (do let _ ← newline))
    return fun s => .evaluate s .delete targets) <|>
  complain (do
    let _ ← kw "del"
    refuseTarget .deletion (← r.starExpressions))

/-- A statement that starts with a keyword and evaluates the expressions behind it. -/
def keywordStmt (word : String) (what : SimpleKind) (operands : Parser (List Expr)) :
    Parser Stmt := spanned do
  let _ ← kw word
  let es ← operands
  return fun s => .evaluate s what es

/-- Statements without blocks. -/
def simpleStmt : Parser Stmt := do
  match ← optional (r.assignment <|> (spanned do
      let e ← r.starExpressions
      return fun s => .expression s e)) with
  | some stmt => return stmt
  | none =>
      let t ← peek
      let pair (word : String) (what : SimpleKind) (separator : Parser Token) : Parser Stmt :=
        keywordStmt word what do
          let first ← r.expression
          let second ← optional (do
            let _ ← separator
            r.expression)
          return first :: second.toList
      if t.kind ≠ .keyword then fail
      else match t.text with
        | "return" => keywordStmt "return" .give (do return (← optional r.starExpressions).toList)
        | "import" | "from" => importStmt
        | "raise" => pair "raise" .raise (kw "from") <|> keywordStmt "raise" .raise (return [])
        | "pass" => keywordStmt "pass" .skip (return [])
        | "del" => r.deletion
        | "yield" => spanned do
            let e ← r.yieldExpr
            return fun s => .expression s e
        | "assert" => pair "assert" .demand (op ",")
        | "break" => keywordStmt "break" .stop (return [])
        | "continue" => keywordStmt "continue" .next (return [])
        | "global" => nameList "global" .globals
        | "nonlocal" => nameList "nonlocal" .nonlocals
        | _ => fail

/-- Simple statements in one line. -/
def simpleStmts : Parser (List Stmt) := do
  let stmts ← separated r.simpleStmt (op ";")
  let _ ← optional (op ";")
  let _ ← newline
  return stmts

/-! ## Blocks -/

/-- Refuse a header that no indented block follows. -/
def needBlock (what : String) (line : Nat) : Parser Unit := do
  let _ ← op ":"
  let _ ← newline
  notAhead (kind .indent)
  refuseHere s!"expected an indented block after {what} on line {line}" .indentation

/-- Refuse a header that ends without a colon. -/
def needColon : Parser Unit := do
  let _ ← newline
  refuseHere "expected ':'"

/-- A keyword, perhaps behind `async`. -/
def maybeAsync (word : String) : Parser Token := do
  let _ ← optional (kw "async")
  kw word

/-- The alternative branch behind `else`. -/
def elseBlock : Parser (List Stmt) :=
  complain (do
    let t ← kw "else"
    needBlock "'else' statement" t.span.line) <|>
  (do
    let _ ← kw "else"
    let _ ← needOp ":"
    r.block)

/-- A condition with its block and what follows it. -/
def conditional (word : String) (otherwise : Parser (List Stmt)) : Parser Stmt :=
  complain (
    (do
      let _ ← kw word
      let _ ← r.namedExpression
      needColon) <|>
    (do
      let t ← kw word
      let _ ← r.namedExpression
      needBlock s!"'{word}' statement" t.span.line)) <|>
  (spanned do
    let _ ← kw word
    let test ← r.namedExpression
    let _ ← op ":"
    let body ← r.block
    let rest ← optional otherwise
    let what := if word = "while" then .whileLoop else .condition
    return fun s => .flow s what [test] body (rest.getD []))

/-- What follows the block of a condition: further conditions or the alternative branch. -/
def otherwiseRule : Parser (List Stmt) :=
  (do return [← r.conditional "elif" r.otherwise]) <|> r.elseBlock

/-- Loops over the elements of something. -/
def forStmt : Parser Stmt :=
  complain (
    (do
      let _ ← maybeAsync "for"
      let _ ← r.starTargets
      let _ ← kw "in"
      let _ ← r.starExpressions
      needColon) <|>
    (do
      let t ← maybeAsync "for"
      let _ ← r.starTargets
      let _ ← kw "in"
      let _ ← r.starExpressions
      needBlock "'for' statement" t.span.line)) <|>
  (do
    let start ← here
    match ← optional (do
        let async ← optional (kw "async")
        let _ ← kw "for"
        let target ← r.starTargets
        let _ ← kw "in"
        return (async.isSome, target)) with
    | some (isAsync, target) =>
        let iterable ← r.starExpressions
        let _ ← op ":"
        let body ← r.block
        let rest ← optional r.elseBlock
        return .flow (← spanFrom start) (.forLoop isAsync) [target, iterable] body (rest.getD [])
    | none => complain (do
        let _ ← maybeAsync "for"
        refuseTarget .loop (← r.starExpressions)))

/-- A context with the target it is bound to. -/
def withItem : Parser (List Expr) :=
  (do
    let e ← r.expression
    let _ ← kw "as"
    let target ← r.starTarget
    ahead (opOf [",", ")", ":"])
    return [e, target]) <|>
  complain (do
    let _ ← r.expression
    let _ ← kw "as"
    let a ← r.expression
    ahead (opOf [",", ")", ":"])
    refuseTarget .assignment a) <|>
  (do return [← r.expression])

/-- Blocks within contexts. -/
def withStmt : Parser Stmt :=
  let item (value : Parser Expr) : Parser Unit := do
    let _ ← value
    let _ ← optional (do
      let _ ← kw "as"
      r.starTarget)
  let plainHeader : Parser Token := do
    let t ← maybeAsync "with"
    let _ ← separated (item r.expression) (op ",")
    return t
  let bracketHeader : Parser Token := do
    let t ← maybeAsync "with"
    let _ ← op "("
    let _ ← separated (item r.expressions) (op ",")
    let _ ← optional (op ",")
    let _ ← op ")"
    return t
  complain (
    (do
      let t ← plainHeader
      needBlock "'with' statement" t.span.line) <|>
    (do
      let t ← bracketHeader
      needBlock "'with' statement" t.span.line)) <|>
  (spanned do
    let async ← optional (kw "async")
    let _ ← kw "with"
    let _ ← op "("
    let items ← separated r.withItem (op ",")
    let _ ← optional (op ",")
    let _ ← op ")"
    let _ ← op ":"
    let body ← r.block
    return fun s => .flow s (.contexts async.isSome) items.flatten body []) <|>
  (spanned do
    let async ← optional (kw "async")
    let _ ← kw "with"
    let items ← separated r.withItem (op ",")
    let _ ← op ":"
    let body ← r.block
    return fun s => .flow s (.contexts async.isSome) items.flatten body []) <|>
  complain (
    (do
      let _ ← plainHeader
      needColon) <|>
    (do
      let _ ← bracketHeader
      needColon))

/-! ## Guarded blocks -/

/-- Mistakes in the header of a handler. -/
def handlerMistakes : Parser Unit :=
  (do
    let _ ← kw "except"
    let _ ← optional (op "*")
    let a ← r.expression
    let _ ← op ","
    let _ ← r.expressions
    let _ ← asName
    let _ ← op ":"
    refuseFrom "multiple exception types must be parenthesized" a.span) <|>
  (do
    let _ ← kw "except"
    let _ ← optional (op "*")
    let _ ← r.expression
    let _ ← asName
    needColon) <|>
  (do
    let _ ← kw "except"
    needColon) <|>
  (do
    let _ ← kw "except"
    let _ ← op "*"
    let stop : Parser Unit := (do let _ ← newline) <|> (do let _ ← op ":")
    stop
    refuseHere "expected one or more exception types")

/-- A handler. -/
def handler : Parser Handler :=
  complain (
    (do
      let t ← kw "except"
      let _ ← r.expression
      let _ ← asName
      needBlock "'except' statement" t.span.line) <|>
    (do
      let t ← kw "except"
      needBlock "'except' statement" t.span.line)) <|>
  (spanned do
    let _ ← kw "except"
    let e ← r.expression
    let name ← asName
    let _ ← op ":"
    let body ← r.block
    return fun s => .mk s (some e) name body) <|>
  (spanned do
    let _ ← kw "except"
    let _ ← op ":"
    let body ← r.block
    return fun s => .mk s none none body) <|>
  complain r.handlerMistakes

/-- A handler of groups. -/
def groupHandler : Parser Handler :=
  complain (do
    let t ← kw "except"
    let _ ← op "*"
    let _ ← r.expression
    let _ ← asName
    needBlock "'except*' statement" t.span.line) <|>
  (spanned do
    let _ ← kw "except"
    let _ ← op "*"
    let e ← r.expression
    let name ← asName
    let _ ← op ":"
    let body ← r.block
    return fun s => .mk s (some e) name body) <|>
  complain r.handlerMistakes

/-- The block that always runs. -/
def finallyBlock : Parser (List Stmt) :=
  complain (do
    let t ← kw "finally"
    needBlock "'finally' statement" t.span.line) <|>
  (do
    let _ ← kw "finally"
    let _ ← needOp ":"
    r.block)

/-- The mistake of handlers of both kinds in one statement. -/
def mixedHandlers : String := "cannot have both 'except' and 'except*' on the same 'try'"

/-- Mistakes in guarded blocks. -/
def tryMistakes : Parser Unit :=
  (do
    let t ← kw "try"
    needBlock "'try' statement" t.span.line) <|>
  (do
    let _ ← kw "try"
    let _ ← op ":"
    let _ ← r.block
    notAhead (kwOf ["except", "finally"])
    refuseHere "expected 'except' or 'finally' block") <|>
  (do
    let _ ← kw "try"
    let _ ← op ":"
    let _ ← many r.block
    let _ ← many1 r.handler
    let t ← kw "except"
    let star ← op "*"
    let _ ← r.expression
    let _ ← asName
    let _ ← op ":"
    refuseSpan mixedHandlers (t.span.upTo star.span)) <|>
  (do
    let _ ← kw "try"
    let _ ← op ":"
    let _ ← many r.block
    let _ ← many1 r.groupHandler
    let t ← kw "except"
    let _ ← optional (do
      let _ ← r.expression
      asName)
    let _ ← op ":"
    refuseSpan mixedHandlers t.span)

/-- Guarded blocks. -/
def tryStmt : Parser Stmt :=
  let handled (ofGroups : Bool) (handlers : Parser (List Handler)) : Parser Stmt := spanned do
    let _ ← kw "try"
    let _ ← needOp ":"
    let body ← r.block
    let handlers ← handlers
    let otherwise ← optional r.elseBlock
    let final ← optional r.finallyBlock
    return fun s => .guarded s ofGroups body handlers (otherwise.getD []) (final.getD [])
  complain r.tryMistakes <|>
  (spanned do
    let _ ← kw "try"
    let _ ← needOp ":"
    let body ← r.block
    let final ← r.finallyBlock
    return fun s => .guarded s false body [] [] final) <|>
  handled false (many1 r.handler) <|>
  handled true (many1 r.groupHandler)

/-! ## Branches on patterns -/

/-- The subject of a branch. -/
def subject : Parser Expr :=
  (spanned do
    let first ← r.starNamedExpression
    let _ ← op ","
    let more ← optional r.starNamedExpressions
    return fun s => .sequence s .tuple (first :: more.getD []) .load) <|>
  r.namedExpression

/-- The guard of a case. -/
def guard : Parser Expr := do
  let _ ← kw "if"
  r.namedExpression

/-- One case. -/
def caseBlock : Parser Case :=
  complain (
    (do
      let _ ← soft "case"
      let _ ← r.casePattern
      let _ ← optional r.guard
      needColon) <|>
    (do
      let t ← soft "case"
      let _ ← r.casePattern
      let _ ← optional r.guard
      needBlock "'case' statement" t.span.line)) <|>
  (do
    let _ ← soft "case"
    let pattern ← r.casePattern
    let guard ← optional r.guard
    let _ ← op ":"
    let body ← r.block
    return .mk pattern guard body)

/-- Branches on patterns. -/
def matchStmt : Parser Stmt :=
  (spanned do
    let _ ← soft "match"
    let e ← r.subject
    let _ ← op ":"
    let _ ← newline
    let _ ← kind .indent
    let cases ← many1 r.caseBlock
    let _ ← kind .dedent
    return fun s => .branch s e cases) <|>
  complain (
    (do
      let _ ← soft "match"
      let _ ← r.subject
      needColon) <|>
    (do
      let t ← soft "match"
      let _ ← r.subject
      needBlock "'match' statement" t.span.line))

/-! ## Definitions -/

/-- Decorators. -/
def decorators : Parser (List Expr) := many (do
  let _ ← op "@"
  let e ← r.namedExpression
  let _ ← newline
  return e)

/-- Functions, without their decorators. -/
def functionDef (decorators : List Expr) : Parser Stmt :=
  complain (do
    let t ← maybeAsync "def"
    let _ ← ident
    let _ ← op "("
    let _ ← optional (r.parameters .function)
    let _ ← op ")"
    let _ ← optional (do
      let _ ← op "->"
      r.expression)
    needBlock "function definition" t.span.line) <|>
  (spanned do
    let async ← optional (kw "async")
    let _ ← kw "def"
    let name ← ident
    let _ ← needOp "("
    let signature ← optional (r.parameters .function)
    let _ ← op ")"
    let returns ← optional (do
      let _ ← op "->"
      r.expression)
    let _ ← needOp ":"
    let body ← r.block
    return fun s => .function s async.isSome (identifier name) (signature.getD {}) returns
      decorators body)

/-- Classes, without their decorators. -/
def classDef (decorators : List Expr) : Parser Stmt :=
  let header : Parser (Token × String × Arguments) := do
    let t ← kw "class"
    let name ← ident
    let bases ← optional (do
      let _ ← op "("
      let a ← optional r.arguments
      let _ ← op ")"
      return a.getD {})
    return (t, identifier name, bases.getD {})
  complain (
    (do
      let _ ← header
      needColon) <|>
    (do
      let (t, _) ← header
      needBlock "class definition" t.span.line)) <|>
  (spanned do
    let (_, name, bases) ← header
    let _ ← op ":"
    let body ← r.block
    return fun s =>
      .classDef s name bases.positional bases.keywords decorators body)

/-- Statements with blocks. -/
def compoundStmt : Parser Stmt := do
  let t ← peek
  let function : Parser Stmt := do r.functionDef (← r.decorators)
  let classDef : Parser Stmt := do r.classDef (← r.decorators)
  match t.kind with
  | .operator => if t.text == "@" then function <|> classDef else fail
  | .keyword => match t.text with
    | "def" => function
    | "async" => function <|> r.withStmt <|> r.forStmt
    | "if" => r.conditional "if" r.otherwise
    | "class" => classDef
    | "with" => r.withStmt
    | "for" => r.forStmt
    | "try" => r.tryStmt
    | "while" => r.conditional "while" r.elseBlock
    | _ => fail
  | .name => r.matchStmt
  | _ => fail

/-- One compound statement, or a line of simple ones. -/
def statement : Parser (List Stmt) :=
  (do return [← r.compoundStmt]) <|> r.simpleStmts

/-- Statements. -/
def statements : Parser (List Stmt) := do return (← many1 r.statement).flatten

/-- A block: indented lines, or the rest of the line. -/
def blockRule : Parser (List Stmt) :=
  remember .block .stmts (fun | .stmts x => some x | _ => none) (
    (do
      let _ ← newline
      let _ ← kind .indent
      let body ← r.statements
      let _ ← kind .dedent
      return body) <|>
    r.simpleStmts <|>
    complain (do
      let _ ← newline
      notAhead (kind .indent)
      refuseHere "expected an indented block" .indentation))

/-- A whole text. -/
def moduleRule : Parser Module := do
  let body ← optional r.statements
  let _ ← kind .endOfInput
  return { body := body.getD [] }

/-- A whole text that is an expression. -/
def expressionTextRule : Parser Expr := do
  let e ← r.expressions
  let _ ← many newline
  let _ ← kind .endOfInput
  return e

end Rules

/-- The rules of the grammar, with a bound on how deeply they refer back to one another. -/
def rules : Nat → Rules
  | 0 => .nothing
  | depth + 1 =>
      let r := rules depth
      { expression := r.expressionRule
        namedExpression := r.namedExpressionRule
        disjunction := r.disjunctionRule
        bitwiseOr := r.bitwiseOrRule
        inversion := r.inversionRule
        factor := r.factorRule
        starTarget := r.starTargetRule
        starTargets := r.starTargetsRule
        starAtomTarget := r.starAtomTargetRule
        singleTarget := r.singleTargetRule
        deleteTarget := r.deleteTargetRule
        pattern := r.patternRule
        block := r.blockRule
        otherwise := r.otherwiseRule }

/-- The message for a text with a null character. -/
def nullCharacterMessage : String := "source code string cannot contain null bytes"

/-- The rules for some input. Every reference back costs a token soon, so the rules nest at most a few
times as deeply as there are tokens. -/
def ParserInput.rules (i : ParserInput) : Rules := Source.rules (8 * i.stream.tokens.size + 64)

/-- Read a module. -/
def Module.ofInput (i : ParserInput) : Except SyntaxFault Module := i.rules.moduleRule.run i

/-- Read a module from a text. -/
def Module.ofText (text : String) : Except SyntaxFault Module :=
  if text.toList.contains '\x00' then .error { message := nullCharacterMessage }
  else
    let cs := unifyLines text.toList
    Module.ofInput { stream := .ofChars cs, lines := .ofChars cs }

/-- Read an expression from a text without null characters. -/
def Expr.ofText (text : String) : Except SyntaxFault Expr :=
  let cs := unifyLines text.toList
  let i : ParserInput := { stream := .ofChars cs, lines := .ofChars cs }
  i.rules.expressionTextRule.run i

end Assay.Source
