import Assay.Source.Parser.Expression

/-!
# The grammar of patterns
-/

namespace Assay.Source

namespace Rules

open Assay.Source.Parser

variable (r : Rules)

/-- Remember a rule for patterns. -/
def rememberPattern (p : Parser Pattern) : Parser Pattern :=
  remember .pattern .pattern (fun | .pattern x => some x | _ => none) p

/-- A name that a pattern binds. -/
def captureName : Parser String := do
  notAhead (soft "_")
  let t ← ident
  notAhead (opOf [".", "(", "="])
  return identifier t

/-- A number with an optional minus. -/
def signedNumber : Parser Expr :=
  let unsigned : Parser Expr := do
    let t ← number
    return .literal t.span (.number t.text)
  unsigned <|>
  (spanned do
    let _ ← op "-"
    let e ← unsigned
    return fun s => .operation s .unary [e])

/-- Whether a number, perhaps with a sign, is imaginary. -/
def isImaginary : Expr → Bool
  | .literal _ (.number text) => isImaginaryText text
  | .operation _ _ [.literal _ (.number text)] => isImaginaryText text
  | _ => false

/-- A complex number: a real part and an imaginary part. -/
def complexNumber : Parser Expr := spanned do
  let real ← signedNumber
  if isImaginary real then refuseSpan "real number required in complex literal" real.span
  else
    let _ ← opOf ["+", "-"]
    let t ← number
    if isImaginaryText t.text then
      return fun s => .operation s .binary [real, .literal t.span (.number t.text)]
    else refuseSpan "imaginary number required in complex literal" t.span

/-- A number or a text to compare with. -/
def literalValue : Parser Expr :=
  (do
    let e ← signedNumber
    notAhead (opOf ["+", "-"])
    return e) <|>
  complexNumber <|>
  (do
    ahead (kind .string)
    textLiteral r.starExpressions)

/-- A constant that there is only once. -/
def singletonValue : Parser Expr := do
  let t ← kwOf ["None", "True", "False"]
  return .literal t.span (match t.text with
    | "None" => .none
    | "True" => .true
    | _ => .false)

/-- A name with at least `least` members. -/
def dottedName (least : Nat) : Parser Expr := do
  let start ← here
  let t ← ident
  let fields ← many (do
    let _ ← op "."
    let field ← ident
    return (identifier field, ← spanFrom start))
  let root := Expr.name t.span (identifier t) .load
  if fields.length < least then fail
  else return fields.foldl (fun e (field, s) => .member s e field .load) root

/-- A pattern of a sequence that takes the rest. -/
def starPattern : Parser Pattern := spanned do
  let _ ← op "*"
  (do
    let name ← captureName
    return fun s => .mk s .rest [] [] (some name)) <|>
  (do
    let _ ← soft "_"
    return fun s => .mk s .rest [] [] none)

/-- An element of a sequence. -/
def element : Parser Pattern := starPattern <|> r.pattern

/-- Elements between commas. -/
def elements : Parser (List Pattern) := do
  let ps ← separated r.element (op ",")
  let _ ← optional (op ",")
  return ps

/-- Elements with at least one comma. -/
def openElements : Parser (List Pattern) := do
  let first ← r.element
  let _ ← op ","
  return first :: (← optional r.elements).getD []

/-- A key of a mapping with the pattern of its value. -/
def keyPattern : Parser (Expr × Pattern) := do
  let key ← r.literalValue <|> singletonValue <|> dottedName 1
  let _ ← op ":"
  return (key, ← r.pattern)

/-- The pattern of a mapping. -/
def mappingPattern : Parser Pattern := spanned do
  let _ ← op "\x7b"
  let rest : Parser String := do
    let _ ← op "**"
    captureName
  let close : Parser Unit := do
    let _ ← optional (op ",")
    let _ ← op "\x7d"
  (do
    let _ ← op "\x7d"
    return fun s => .mk s .mapping [] [] none) <|>
  (do
    let name ← rest
    close
    return fun s => .mk s .mapping [] [] (some name)) <|>
  (do
    let items ← separated r.keyPattern (op ",")
    let name ← optional (do
      let _ ← op ","
      rest)
    close
    return fun s => .mk s .mapping (items.map (·.1)) (items.map (·.2)) name)

/-- A pattern for a keyword. -/
def keywordPattern : Parser (String × Pattern) := do
  let t ← ident
  let _ ← op "="
  return (identifier t, ← r.pattern)

/-- The pattern of a class with its arguments. -/
def classPattern : Parser Pattern :=
  (spanned do
    let e ← dottedName 0
    let _ ← op "("
    let close : Parser Unit := do
      let _ ← optional (op ",")
      let _ ← op ")"
    (do
      let _ ← op ")"
      return fun s => .mk s (.ofClass []) [e] [] none) <|>
    (do
      let ps ← separated r.pattern (op ",")
      close
      return fun s => .mk s (.ofClass []) [e] ps none) <|>
    (do
      let ks ← separated r.keywordPattern (op ",")
      close
      return fun s => .mk s (.ofClass (ks.map (·.1))) [e] (ks.map (·.2)) none) <|>
    (do
      let ps ← separated r.pattern (op ",")
      let _ ← op ","
      let ks ← separated r.keywordPattern (op ",")
      close
      return fun s => .mk s (.ofClass (ks.map (·.1))) [e] (ps ++ ks.map (·.2)) none)) <|>
  complain (do
    let _ ← dottedName 0
    let _ ← op "("
    let _ ← optional (do
      let _ ← separated r.pattern (op ",")
      let _ ← op ",")
    let _ ← separated r.keywordPattern (op ",")
    let _ ← op ","
    let ps ← separated r.pattern (op ",")
    match ps.head?, ps.getLast? with
    | some first, some last =>
        refuseSpan "positional patterns follow keyword patterns" (first.span.upTo last.span)
    | _, _ => return ())

/-- A pattern that is complete by itself. -/
def closedPattern : Parser Pattern :=
  (spanned do
    let e ← r.literalValue
    return fun s => .mk s .value [e] [] none) <|>
  (spanned do
    let _ ← singletonValue
    return fun s => .mk s .singleton [] [] none) <|>
  (spanned do
    let name ← captureName
    return fun s => .mk s .capture [] [] (some name)) <|>
  (spanned do
    let _ ← soft "_"
    return fun s => .mk s .capture [] [] none) <|>
  (spanned do
    let e ← dottedName 1
    notAhead (opOf [".", "(", "="])
    return fun s => .mk s .value [e] [] none) <|>
  (do
    let _ ← op "("
    let p ← r.pattern
    let _ ← op ")"
    return p) <|>
  (spanned do
    let _ ← op "["
    let ps ← optional r.elements
    let _ ← op "]"
    return fun s => .mk s .sequence [] (ps.getD []) none) <|>
  (spanned do
    let _ ← op "("
    let ps ← optional r.openElements
    let _ ← op ")"
    return fun s => .mk s .sequence [] (ps.getD []) none) <|>
  r.mappingPattern <|> r.classPattern

/-- Alternatives of closed patterns. -/
def orPattern : Parser Pattern := do
  let start ← here
  let ps ← separated r.closedPattern (op "|")
  match ps with
  | [p] => return p
  | _ => return .mk (← spanFrom start) .alternatives [] ps none

/-- A pattern that may be given a name. -/
def patternRule : Parser Pattern :=
  rememberPattern (
    (spanned do
      let p ← r.orPattern
      let _ ← kw "as"
      let name ← captureName
      return fun s => .mk s .named [] [p] (some name)) <|>
    complain (
      (do
        let _ ← r.orPattern
        let _ ← kw "as"
        let t ← soft "_"
        refuseToken "cannot use '_' as a target" t) <|>
      (do
        let _ ← r.orPattern
        let _ ← kw "as"
        notAhead ident
        let e ← r.expression
        refuseSpan "invalid pattern target" e.span)) <|>
    r.orPattern)

/-- The pattern of a case; several between commas are a sequence. -/
def casePattern : Parser Pattern :=
  (spanned do
    let ps ← r.openElements
    return fun s => .mk s .sequence [] ps none) <|>
  r.pattern

end Rules

end Assay.Source
