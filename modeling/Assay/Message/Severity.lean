import Assay.Failure

/-!
# Severities
-/

namespace Assay

/-- How severe a message is. There is no ranking: the order is the one in which remappings are
tried. -/
inductive Severity where
  | info
  | hint
  | warning
  | error
  deriving DecidableEq, Repr, Inhabited

namespace Severity

/-- All severities in the order of remapping. -/
def all : List Severity := [.info, .hint, .warning, .error]

/-- The word for a severity. -/
def word : Severity → String
  | info => "info"
  | hint => "hint"
  | warning => "warning"
  | error => "error"

/-- The label of a severity. -/
def label : Severity → String
  | info => "Info"
  | hint => "Hint"
  | warning => "Warning"
  | error => "Error"

/-- A severity as a value. -/
def toValue (s : Severity) : Value := .member "Severity" s.word.toUpper .mixed (.text s.word)

/-- The severity that a value stands for. -/
def ofValue (v : Value) : Except Failure Severity :=
  match all.find? fun s => v.same (.text s.word) with
  | some s => .ok s
  | none => .error (.value (v.shown ++ " is not a valid Severity"))

end Severity

end Assay
