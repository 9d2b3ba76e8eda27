import Assay.Decimal.Scaled
import Assay.Json.Writer
import Assay.Text.DecimalDigit
import Assay.Text.Quoted

/-!
# Numbers read from texts

A number may stand between white space, have a sign, and hold single low lines between its digits;
digits may be those of any script. Whole numbers can be written at other bases, with a mark of the
base in front. Only whole numbers at a base that is no power of two are limited in length.
-/

namespace Assay.Decimal

/-- Why a text is no number. -/
inductive ReadFault where
  | notWhole (base : Nat) (text : String)
  | tooLong (digits : Nat)
  | notFloating (text : String)
  deriving DecidableEq, Repr

/-- The largest number of digits that a whole number is read from or written with. -/
def digitLimit : Nat := 4300

/-- How a limit on the length of numbers can be lifted. -/
def limitHint : String := "use sys.set_int_max_str_digits() to increase the limit"

/-- The start of the message about a number that is too long. -/
def limitText : String := "Exceeds the limit (4300 digits) for integer string conversion"

/-- The message of a fault. The text that is no whole number is cut after two hundred characters. -/
def ReadFault.message : ReadFault → String
  | notWhole base text =>
      let base := Json.writeInt base
      s!"invalid literal for int() with base {base}: " ++
        String.ofList ((Text.quoted text).toList.take 200)
  | tooLong digits =>
      let digits := Json.writeInt digits
      limitText ++ s!": value has {digits} digits; " ++ limitHint
  | notFloating text => "could not convert string to float: " ++ Text.quoted text

/-- Whether a character is white space of ASCII. -/
def isSpace (c : Char) : Bool := c = ' ' || ('\t' ≤ c && c ≤ '\r')

/-- Characters without the white space around them. -/
def trimSpace (cs : List Char) : List Char :=
  ((cs.dropWhile isSpace).reverse.dropWhile isSpace).reverse

/-- Take a sign off the front: whether it is a minus, and the rest. -/
def takeSign : List Char → Bool × List Char
  | '-' :: cs => (true, cs)
  | '+' :: cs => (false, cs)
  | cs => (false, cs)

/-- The number that a letter or an ASCII digit stands for. -/
def digitValue (c : Char) : Nat :=
  if c.isDigit then c.toNat - '0'.toNat
  else if c.isAlpha then c.toLower.toNat - 'a'.toNat + 10
  else 36

/-- The number that digits stand for at a base. -/
def natOf (base : Nat) (cs : List Char) : Nat := cs.foldl (fun n c => n * base + digitValue c) 0

/-- Whether low lines stand only between digits: `isOpen` says that one may come next. -/
def lowLinesFit (isOpen : Bool) : List Char → Bool
  | [] => isOpen
  | '_' :: cs => isOpen && lowLinesFit false cs
  | _ :: cs => lowLinesFit true cs

/-- Drop the mark of a base, and a low line behind it. -/
def dropMark (base : Nat) : List Char → List Char
  | '0' :: mark :: cs =>
      let mark := mark.toLower
      if (base = 16 && mark = 'x') || (base = 8 && mark = 'o') || (base = 2 && mark = 'b') then
        match cs with
        | '_' :: cs => cs
        | cs => cs
      else '0' :: mark :: cs
  | cs => cs

/-- Read a whole number at a base. Its length is looked at before what stands behind its digits. -/
def readWhole (base : Nat) (text : String) : Except ReadFault Int :=
  let fault : Except ReadFault Int := .error (.notWhole base text)
  let (negative, cs) := takeSign ((Text.numberChars text).dropWhile isSpace)
  let cs := dropMark base cs
  let body := cs.takeWhile fun c => digitValue c < base || c = '_'
  let digits := body.filter (· ≠ '_')
  if digits.isEmpty || !lowLinesFit false body then fault
  else if base = 10 && digitLimit < digits.length then .error (.tooLong digits.length)
  else if !((cs.drop body.length).all isSpace) then fault
  else
    let n : Int := natOf base digits
    .ok (if negative then -n else n)

/-- Digits with a point and an exponent as a number. -/
def unsigned? (cs : List Char) : Option Float := do
  let mantissa := cs.takeWhile fun c => c ≠ 'e' && c ≠ 'E'
  let power : Int ← match cs.drop mantissa.length with
    | [] => some 0
    | _ :: exponent =>
        let (negative, digits) := takeSign exponent
        if digits.isEmpty || !digits.all Char.isDigit then none
        else some (if negative then -(natOf 10 digits : Int) else natOf 10 digits)
  let front := mantissa.takeWhile (· ≠ '.')
  let places := (mantissa.drop front.length).drop 1
  if (front.isEmpty && places.isEmpty) || !(front ++ places).all Char.isDigit then none
  return scaled (natOf 10 (front ++ places)) (power - places.length)

/-- Whether every low line stands between two digits. -/
def lowLinesBetweenDigits (before : Option Char) : List Char → Bool
  | [] => true
  | c :: cs =>
      let fits := c ≠ '_' ||
        ((before.map Char.isDigit).getD false && (cs.head?.map Char.isDigit).getD false)
      fits && lowLinesBetweenDigits (some c) cs

/-- Read a floating-point number. -/
def readFloating (text : String) : Except ReadFault Float :=
  let cs := Text.numberChars text
  let plain := trimSpace (cs.filter (· ≠ '_'))
  let (negative, body) := takeSign plain
  let magnitude := match (String.ofList body).toLower with
    | "inf" | "infinity" => some (1.0 / 0.0)
    | "nan" => some (0.0 / 0.0)
    | _ => unsigned? body
  match magnitude with
  | some x =>
      if lowLinesBetweenDigits none cs then .ok (if negative then -x else x)
      else .error (.notFloating text)
  | none => .error (.notFloating text)

end Assay.Decimal
