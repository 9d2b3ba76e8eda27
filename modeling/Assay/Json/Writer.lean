import Assay.Decimal.Shortest
import Assay.Json.Basic
import Assay.Text.Quoted

/-!
# Writing JSON

The canonical form of a value has its fields in the order of their names. An indentation gives each
item a line of its own; without one the text is a single line.
-/

namespace Assay.Json

/-- How one character of a text is written. -/
def escapeChar (c : Char) : String :=
  if c = '"' then "\\\""
  else if c = '\\' then "\\\\"
  else if c = '\n' then "\\n"
  else if c = '\r' then "\\r"
  else if c = '\t' then "\\t"
  else if c = '\x08' then "\\b"
  else if c = '\x0c' then "\\f"
  else if c.toNat < 0x20 then "\\u" ++ Text.hexPadded 4 c.toNat
  else c.toString

/-- A text between double quotes. -/
def quote (s : String) : String := "\"" ++ String.join (s.toList.map escapeChar) ++ "\""

/-- A floating-point number. -/
def writeFloat (x : Float) : String :=
  if x.isNaN then "NaN"
  else if x.isInf then (if x < 0.0 then "-Infinity" else "Infinity")
  else Decimal.showFloat x

/-- An integer. -/
def writeInt (n : Int) : String :=
  if n < 0 then "-" ++ String.ofList (Nat.toDigits 10 n.natAbs)
  else String.ofList (Nat.toDigits 10 n.natAbs)

/-- How items are set apart: on one line, or each on a line of its own behind some blanks. -/
inductive Indent where
  | oneLine
  | lines (blanks : Nat)
  deriving DecidableEq, Repr

/-- The indentation that a number stands for; a negative one counts as zero. -/
def Indent.ofInt (n : Int) : Indent := .lines n.toNat

namespace Indent

/-- What stands between a bracket and the items inside it, `depth` brackets deep. -/
def breakLine (i : Indent) (depth : Nat) : String :=
  match i with
  | oneLine => ""
  | lines blanks => "\n" ++ String.ofList (List.replicate (blanks * depth) ' ')

/-- What stands between two items. -/
def separator (i : Indent) (depth : Nat) : String :=
  match i with
  | oneLine => ", "
  | lines _ => "," ++ i.breakLine depth

/-- Put items between brackets. -/
def enclose (i : Indent) (depth : Nat) (opening closing : String) (items : List String) : String :=
  if items.isEmpty then opening ++ closing
  else opening ++ i.breakLine (depth + 1) ++ (i.separator (depth + 1)).intercalate items ++
    i.breakLine depth ++ closing

end Indent

mutual

/-- Write a value with its fields in their order. -/
def render (i : Indent) (depth : Nat) : Json → String
  | null => "null"
  | bool b => if b then "true" else "false"
  | int n => writeInt n
  | float x => writeFloat x
  | text s => quote s
  | array items => i.enclose depth "[" "]" (renderItems i (depth + 1) items)
  | object fields => i.enclose depth "\x7b" "\x7d" (renderFields i (depth + 1) fields)

/-- Write the items of an array. -/
def renderItems (i : Indent) (depth : Nat) : List Json → List String
  | [] => []
  | j :: rest => render i depth j :: renderItems i depth rest

/-- Write the fields of an object. -/
def renderFields (i : Indent) (depth : Nat) : List (String × Json) → List String
  | [] => []
  | (name, j) :: rest => (quote name ++ ": " ++ render i depth j) :: renderFields i depth rest

end

/-- Insert a field before the first one with a greater name. -/
def insertField (f : String × Json) : List (String × Json) → List (String × Json)
  | [] => [f]
  | g :: rest => if f.1 < g.1 then f :: g :: rest else g :: insertField f rest

/-- Sort fields by their names. -/
def sortFields (fields : List (String × Json)) : List (String × Json) :=
  fields.foldr insertField []

mutual

/-- Sort the fields of all objects in a value. -/
def canonical : Json → Json
  | array items => array (canonicalItems items)
  | object fields => object (sortFields (canonicalFields fields))
  | j => j

/-- Sort the fields of all objects in an array. -/
def canonicalItems : List Json → List Json
  | [] => []
  | j :: rest => canonical j :: canonicalItems rest

/-- Sort the fields of all objects in fields. -/
def canonicalFields : List (String × Json) → List (String × Json)
  | [] => []
  | (name, j) :: rest => (name, canonical j) :: canonicalFields rest

end

/-- The canonical text of a value, with a line end. -/
def canonicalText (i : Indent) (j : Json) : String := render i 0 j.canonical ++ "\n"

end Assay.Json
