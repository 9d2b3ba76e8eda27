import Assay.Decimal.Reading
import Assay.Decimal.Shortest
import Assay.Json.Writer
import Assay.Text.Quoted
import Assay.Value.Basic

/-!
# Values as texts and as JSON

Values are shown in messages and logs: texts between quotes, except where the text itself is meant.
-/

namespace Assay.Value

/-- Texts between commas. -/
def commaed (items : List String) : String := ", ".intercalate items

mutual

/-- How a value is shown. -/
def shown : Value → String
  | none => "None"
  | bool b => if b then "True" else "False"
  | int n => Json.writeInt n
  | float x => Decimal.showFloat x
  | text s => Text.quoted s
  | bytes bs => Text.quotedBytes bs
  | list items => "[" ++ commaed (shownItems items) ++ "]"
  | tuple items => match shownItems items with
    | [one] => "(" ++ one ++ ",)"
    | all => "(" ++ commaed all ++ ")"
  | set frozen items =>
      let name := if frozen then "frozenset" else "set"
      if items.isEmpty then name ++ "()"
      else
        let inner := "\x7b" ++ commaed (shownItems items) ++ "\x7d"
        if frozen then name ++ "(" ++ inner ++ ")" else inner
  | mapping entries => "\x7b" ++ commaed (shownEntries entries) ++ "\x7d"
  | path p => "PosixPath(" ++ Text.quoted p.toString ++ ")"
  | member enumeration name _ value =>
      "<" ++ enumeration ++ "." ++ name ++ ": " ++ shown value ++ ">"
  | record _ s _ => s
  | thing _ s _ => s

/-- How values are shown. -/
def shownItems : List Value → List String
  | [] => []
  | v :: vs => shown v :: shownItems vs

/-- How the entries of a mapping are shown. -/
def shownEntries : List (Value × Value) → List String
  | [] => []
  | (k, v) :: rest => (shown k ++ ": " ++ shown v) :: shownEntries rest

end

/-- A record: a value with named fields, written as a mapping and shown with its type. -/
def recordOf (type : String) (fields : List (String × Value)) : Value :=
  let shownFields := fields.map fun f => f.1 ++ "=" ++ shown f.2
  record type (type ++ "(" ++ commaed shownFields ++ ")")
    (mapping (fields.map fun f => (text f.1, f.2)))

/-- A complex number. Its first part is left out if it is zero. -/
def complexOf (first second : Float) : Value :=
  let layout : Decimal.Layout := { keepPoint := false }
  let part := layout.show second ++ "j"
  let sign := if part.startsWith "-" then "" else "+"
  let whole :=
    if first.toBits = (0.0 : Float).toBits then part
    else "(" ++ layout.show first ++ sign ++ part ++ ")"
  thing "complex" whole whole

/-- Set an entry of a mapping: an old one in its place, a new one at the end. -/
def setEntry (key value : Value) : List (Value × Value) → List (Value × Value)
  | [] => [(key, value)]
  | e :: rest => if e.1.same key then (e.1, value) :: rest else e :: setEntry key value rest

/-- The text of a value: a text is itself, a member is told by its name unless it is written like what
it stands for, and all else is as it is shown. -/
def str : Value → String
  | text s => s
  | path p => p.toString
  | thing _ _ s => s
  | member enumeration name kind v => if kind = .written then str v else enumeration ++ "." ++ name
  | v => v.shown

mutual

/-- The JSON form of a value: keys become texts, and things without a form of their own are the text
that shows them. -/
def toJson : Value → Json
  | none => .null
  | bool b => .bool b
  | int n => .int n
  | float x => .float x
  | text s => .text s
  | bytes bs => .text (Text.quotedBytes bs)
  | list items | tuple items | set _ items => .array (toJsonItems items)
  | mapping entries => .object (toJsonFields [] entries)
  | path p => .text p.toString
  | member _ _ _ value => toJson value
  | record _ _ written => toJson written
  | thing _ _ s => .text s

/-- The JSON forms of values. -/
def toJsonItems : List Value → List Json
  | [] => []
  | v :: vs => toJson v :: toJsonItems vs

/-- The fields of the entries of a mapping behind earlier ones; of equal names the last one counts. -/
def toJsonFields (done : List (String × Json)) : List (Value × Value) → List (String × Json)
  | [] => done
  | (k, v) :: rest => toJsonFields (Json.setField k.str (toJson v) done) rest

end

end Assay.Value
