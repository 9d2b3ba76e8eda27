import Assay.Message.Basic

/-!
# Descriptions of messages

A message can be described by a JSON object. Every field can be left out. A range is four numbers in
the file at hand, or a file and four numbers; anything else is kept as the value it is, and the
message that is built from it is refused.
-/

namespace Assay

namespace Json

/-- The value of a field, or another one if it is missing. -/
def valueOr (j : Json) (name : String) (default : Value) : Value :=
  match j.field? name with
  | some v => Value.ofJson v
  | none => default

/-- The items of a field; none if it is missing. -/
def itemsOf (j : Json) (name : String) : List Json := ((j.field? name).bind array?).getD []

/-- The text of a field, or another one if it is missing. -/
def textOr (j : Json) (name default : String) : String :=
  ((j.field? name).bind text?).getD default

/-- Whether a field holds something true. -/
def flag (j : Json) (name : String) : Bool := (j.valueOr name .none).isTrue

end Json

namespace Range

/-- The range that stands where nothing else is given. -/
def first (file : String) : Range := ⟨file, 1, 0, 1, 0⟩

/-- The range that a JSON value describes, or the value that is none. -/
def ofJson (file : String) : Json → Except Value Range
  | .array [.text f, .int a, .int b, .int c, .int d] => .ok ⟨f, a, b, c, d⟩
  | .array [.int a, .int b, .int c, .int d] => .ok ⟨file, a, b, c, d⟩
  | j => .error (Value.ofJson ((j.field? "raw").getD j))

/-- The range in a field. -/
def ofField (file : String) (j : Json) : Except Value Range :=
  match j.field? "range" with
  | some r => ofJson file r
  | none => .ok (first file)

end Range

/-- The fix that a JSON object describes. -/
def Fix.ofJson (file : String) (j : Json) : Fix :=
  { range := match Range.ofField file j with
      | .ok r => r
      | .error _ => .first file
    before := j.valueOr "from" (.text "")
    after := j.valueOr "to" (.text "") }

/-- The draft that a JSON object describes. -/
def Message.Draft.ofJson (file : String) (j : Json) : Message.Draft :=
  { type := j.valueOr "type" (.text "t")
    text := j.valueOr "message" (.text "m")
    code := j.valueOr "code" (.text "C1")
    severity := j.valueOr "severity" (.text "warning")
    range := Range.ofField file j
    fixes := (j.itemsOf "fixes").map (Fix.ofJson file) }

/-- The message that a JSON object describes. -/
def Message.ofJson (file : String) (j : Json) : Except Failure Message :=
  Message.ofDraft (Message.Draft.ofJson file j)

end Assay
