import Assay.Source.Parser.Rules

/-!
# Parameters

The parameters of functions and of lambdas follow one grammar; they differ in the bracket or mark
that ends them and in whether they carry hints.
-/

namespace Assay.Source

/-- The two kinds of parameter lists. -/
inductive ParameterStyle where
  | function
  | lambda
  deriving DecidableEq

namespace ParameterStyle

/-- What ends the list. -/
def closing : ParameterStyle → String
  | function => ")"
  | lambda => ":"

/-- What a list in round brackets of its own is refused with. -/
def parenthesized : ParameterStyle → String
  | function => "Function parameters cannot be parenthesized"
  | lambda => "Lambda expression parameters cannot be parenthesized"

end ParameterStyle

namespace Rules

open Assay.Source.Parser

variable (r : Rules) (style : ParameterStyle)

/-- A parameter, its role still open. -/
def parameter (starHint : Bool) : Parser Parameter := do
  let start ← here
  let t ← ident
  let star : Parser Expr := spanned do
    let _ ← op "*"
    let e ← r.bitwiseOr
    return fun s => .starred s e .load
  let hint ← if style = .lambda then pure none
    else if starHint then do
      let _ ← op ":"
      some <$> (star <|> r.expression)
    else optional do
      let _ ← op ":"
      r.expression
  return { name := identifier t, span := ← spanFrom start, role := .positional, hint }

/-- The default of a parameter. -/
def parameterDefault : Parser Expr :=
  (do
    let _ ← op "="
    r.expression) <|>
  complain do
    let t ← op "="
    ahead (opOf [")", ","])
    refuseToken "expected default value expression" t

/-- What stands behind a parameter: a comma, or the end of the list. -/
def parameterEnd : Parser Unit :=
  (do let _ ← op ",") <|> ahead (op style.closing)

/-- A parameter without a default. -/
def plainParameter : Parser Parameter := do
  let p ← r.parameter style false
  parameterEnd style
  return p

/-- A parameter with a default. -/
def defaultedParameter : Parser (Parameter × Expr) := do
  let p ← r.parameter style false
  let d ← r.parameterDefault
  parameterEnd style
  return (p, d)

/-- A parameter with or without a default. -/
def anyParameter : Parser (Parameter × Option Expr) := do
  let p ← r.parameter style false
  let d ← optional (r.parameterDefault)
  parameterEnd style
  return (p, d)

/-- The slash behind positional-only parameters. -/
def slash : Parser Unit := do
  let _ ← op "/"
  parameterEnd style

/-- Parameters before a slash, none with a default. -/
def slashPlain : Parser (List Parameter) := do
  let ps ← many1 (r.plainParameter style)
  slash style
  return ps

/-- Parameters before a slash, the last of them with defaults. -/
def slashDefaulted : Parser (List Parameter × List (Parameter × Expr)) := do
  let ps ← many (r.plainParameter style)
  let ds ← many1 (r.defaultedParameter style)
  slash style
  return (ps, ds)

/-- The parameter that takes all other keywords. -/
def keywordRest : Parser Parameter :=
  complain (
    (do
      let _ ← op "**"
      let _ ← r.parameter style false
      let t ← op "="
      refuseToken "var-keyword argument cannot have default value" t) <|>
    (do
      let _ ← op "**"
      let _ ← r.parameter style false
      let _ ← op ","
      let p ← r.parameter style false
      refuseSpan "arguments cannot follow var-keyword argument" p.span) <|>
    (do
      let _ ← op "**"
      let _ ← r.parameter style false
      let _ ← op ","
      let t ← opOf ["*", "**", "/"]
      refuseToken "arguments cannot follow var-keyword argument" t)) <|>
  (do
    let _ ← op "**"
    let p ← r.plainParameter style
    return { p with role := .variadicKeyword })

/-- Parameters behind a star. -/
def afterStar (starred : List Parameter) (named : List (Parameter × Option Expr))
    (rest : Option Parameter) : Signature :=
  { parameters := starred ++ named.map (fun (p, _) => { p with role := .keywordOnly }) ++
      rest.toList,
    keywordDefaults := named.filterMap (·.2) }

/-- The part of a list from its star on. -/
def starPart : Parser Signature :=
  let variadic (starHint : Bool) : Parser Signature := do
    let _ ← op "*"
    let p ← r.parameter style starHint
    parameterEnd style
    let named ← many (r.anyParameter style)
    let rest ← optional (r.keywordRest style)
    return afterStar [{ p with role := .variadic }] named rest
  complain (
    (do
      let t ← op "*"
      let bare : Parser Unit :=
        (do let _ ← op style.closing) <|>
        (do
          let _ ← op ","
          let _ ← op style.closing <|> op "**")
      bare
      match style with
      | .function => refuseToken "named arguments must follow bare *" t
      | .lambda => refuseHere "named arguments must follow bare *") <|>
    (do
      let _ ← op "*"
      let _ ← r.parameter style false
      let t ← op "="
      refuseToken "var-positional argument cannot have default value" t) <|>
    (do
      let once : Parser Unit :=
        (do let _ ← r.plainParameter style) <|> (do let _ ← op ",")
      let _ ← op "*"
      once
      let _ ← many (r.anyParameter style)
      let t ← op "*"
      once
      refuseToken "* argument may appear only once" t)) <|>
  variadic false <|>
  (if style = .function then variadic true else fail) <|>
  (do
    let _ ← op "*"
    let _ ← op ","
    let named ← many1 (r.anyParameter style)
    let rest ← optional (r.keywordRest style)
    return afterStar [] named rest) <|>
  (do return afterStar [] [] (some (← r.keywordRest style)))

/-- Mistakes in a list of parameters. -/
def parameterMistakes : Parser Unit :=
  (do
    let _ ← many (r.plainParameter style)
    let defaulted : Parser Unit :=
      (do let _ ← r.slashDefaulted style) <|>
      (do let _ ← many1 (r.defaultedParameter style))
    defaulted
    let p ← r.plainParameter style
    refuseSpan "non-default argument follows default argument" p.span) <|>
  (do
    let _ ← many (r.plainParameter style)
    let first ← op "("
    let inner : Parser Unit :=
      if style = .function then do let _ ← many1 (r.plainParameter style)
      else do let _ ← separated (r.parameter style false) (op ",")
    inner
    let _ ← optional (op ",")
    let last ← op ")"
    refuseSpan style.parenthesized (first.span.upTo last.span)) <|>
  (do
    let t ← op "/"
    let _ ← op ","
    refuseToken "at least one argument must precede /" t) <|>
  (do
    let slashed : Parser Unit :=
      (do let _ ← r.slashPlain style) <|> (do let _ ← r.slashDefaulted style)
    slashed
    let _ ← many (r.anyParameter style)
    let t ← op "/"
    refuseToken "/ may appear only once" t) <|>
  (do
    let slashed : Parser Unit :=
      (do let _ ← r.slashPlain style) <|> (do let _ ← r.slashDefaulted style)
    let _ ← optional slashed
    let _ ← many (r.anyParameter style)
    let _ ← op "*"
    let once : Parser Unit :=
      (do let _ ← op ",") <|> (do let _ ← r.plainParameter style)
    once
    let _ ← many (r.anyParameter style)
    let t ← op "/"
    refuseToken "/ must be ahead of *" t) <|>
  (do
    let _ ← many1 (r.anyParameter style)
    let _ ← op "/"
    let t ← op "*"
    refuseToken "expected comma between / and *" t)

/-- A list of parameters that is not empty. -/
def parameters : Parser Signature :=
  let join (only : List Parameter) (onlyDefaults : List Expr) (plain : List Parameter)
      (defaulted : List (Parameter × Expr)) (rest : Option Signature) : Signature :=
    let rest := rest.getD {}
    { parameters := only.map (fun p => { p with role := .positionalOnly }) ++ plain ++
        defaulted.map (·.1) ++ rest.parameters,
      defaults := onlyDefaults ++ defaulted.map (·.2),
      keywordDefaults := rest.keywordDefaults }
  complain (r.parameterMistakes style) <|>
  (do
    let only ← r.slashPlain style
    let plain ← many (r.plainParameter style)
    let defaulted ← many (r.defaultedParameter style)
    return join only [] plain defaulted (← optional (r.starPart style))) <|>
  (do
    let (only, onlyDefaulted) ← r.slashDefaulted style
    let defaulted ← many (r.defaultedParameter style)
    return join (only ++ onlyDefaulted.map (·.1)) (onlyDefaulted.map (·.2)) [] defaulted
      (← optional (r.starPart style))) <|>
  (do
    let plain ← many1 (r.plainParameter style)
    let defaulted ← many (r.defaultedParameter style)
    return join [] [] plain defaulted (← optional (r.starPart style))) <|>
  (do
    let defaulted ← many1 (r.defaultedParameter style)
    return join [] [] [] defaulted (← optional (r.starPart style))) <|>
  r.starPart style

end Rules

end Assay.Source
