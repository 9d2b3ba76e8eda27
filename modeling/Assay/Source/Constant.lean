import Assay.Decimal.Reading
import Assay.Source.Expr
import Assay.Value.Text

/-!
# Constant expressions

The values of literals, and of the numbers that can be written with a sign or as a sum.
-/

namespace Assay.Source

/-- The base that the mark in front of a number stands for. -/
def baseOf (text : String) : Nat :=
  match (text.toList.take 2).map Char.toLower with
  | ['0', 'x'] => 16
  | ['0', 'o'] => 8
  | ['0', 'b'] => 2
  | _ => 10

/-- The value of a number as it is written: a whole number, one with a point or an exponent, or an
imaginary one. -/
def numberValue (text : String) : Value :=
  match Decimal.readWhole (baseOf text) text, Decimal.readFloating text,
      Decimal.readFloating (String.ofList text.toList.dropLast) with
  | .ok n, _, _ => .int n
  | _, .ok x, _ => .float x
  | _, _, .ok x => Value.complexOf 0.0 x
  | _, _, _ => .int 0

/-- The value of a literal; the ellipsis is shown by its name. -/
def literalValue : Literal → Value
  | .text s => .text s
  | .bytes bs => .bytes bs
  | .number text => numberValue text
  | .none => .none
  | .true => .bool true
  | .false => .bool false
  | .ellipsis => .thing "ellipsis" "Ellipsis" "Ellipsis"

/-- The value of an expression that patterns can compare with as a constant: a literal, or a number
with a minus. The parts of a complex number are not put together. -/
def Expr.constant? : Expr → Option Value
  | .literal _ value => some (literalValue value)
  | .operation _ .unary [.literal _ (.number written)] => match numberValue written with
    | .int n => some (.int (-n))
    | .float x => some (.float (-x))
    | v => some v
  | _ => none

end Assay.Source
