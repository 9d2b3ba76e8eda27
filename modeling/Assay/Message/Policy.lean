import Assay.Message.Basic
import Assay.Value.Items
import Assay.Value.Order

/-!
# Severity policy and exit codes

Codes can be given another severity. A code may be listed for one severity only; if it is listed for
several, the first in the order of severities counts. Codes are usually texts, but any value that can
be looked up may be one.
-/

namespace Assay

/-- The codes that are given each severity. -/
structure SeverityMappings where
  info : List Value := []
  hint : List Value := []
  warning : List Value := []
  error : List Value := []
  deriving Inhabited

namespace SeverityMappings

/-- The mappings of four lists, in which codes may be repeated. -/
def ofLists (info hint warning error : List Value) : SeverityMappings :=
  { info := info.eraseDups, hint := hint.eraseDups, warning := warning.eraseDups,
    error := error.eraseDups }

/-- The codes for a severity. -/
def codes (m : SeverityMappings) : Severity → List Value
  | .info => m.info
  | .hint => m.hint
  | .warning => m.warning
  | .error => m.error

/-- All codes, each as often as severities list it. -/
def listed (m : SeverityMappings) : List Value := Severity.all.flatMap m.codes

/-- Whether no code is listed for two severities. -/
def isValid (m : SeverityMappings) : Bool := m.listed.length = m.listed.eraseDups.length

/-- The codes that are listed for several severities, in order; all of them must have one. -/
def conflictingCodes (m : SeverityMappings) : Except Failure (List Value) :=
  (Value.sorted
    (m.listed.eraseDups.filter fun code => 1 < (m.listed.filter (· == code)).length)).mapError
      Failure.type

/-- The severity that a code is given. -/
def targetFor (m : SeverityMappings) (code : Value) : Option Severity :=
  Severity.all.find? fun s => (m.codes s).contains code

/-- The severity that any value is given as a code; values that cannot be looked up are refused. -/
def targetOf (m : SeverityMappings) (code : Value) : Except Failure (Option Severity) := do
  code.requireSearchable
  return m.targetFor code

/-- Refuse mappings that list a code twice. -/
def ensureValid (m : SeverityMappings) : Except Failure Unit := do
  if !m.isValid then
    let codes ← Value.joinTexts (← m.conflictingCodes)
    throw (.config ("An analyzer code may only be listed once in the treat-as-severity " ++
      s!"options (conflicting: {codes})."))

/-- Give a message the severity that its code is mapped to. -/
def apply (m : SeverityMappings) (message : AnalyzerMessage) : Except Failure AnalyzerMessage := do
  match ← m.targetOf message.code with
  | some s => return message.withSeverity s
  | none => return message

/-- Give a plain message the severity that its code is mapped to. -/
def applyPlain (m : SeverityMappings) (message : Message) : Except Failure Message := do
  match ← m.targetOf message.code with
  | some s => return message.withSeverity s
  | none => return message

end SeverityMappings

/-- How a run ends. -/
inductive ExitCode where
  | success
  | violation
  | error
  deriving DecidableEq, Repr, Inhabited

namespace ExitCode

/-- The number of an exit code. -/
def number : ExitCode → Nat
  | success => 0
  | violation => 1
  | error => 2

/-- The name of an exit code. -/
def name : ExitCode → String
  | success => "SUCCESS"
  | violation => "VIOLATION"
  | error => "ERROR"

/-- The exit code for messages: an error if there was no analysis, a violation if any message is an
error. -/
def ofMessages : Option (List AnalyzerMessage) → ExitCode
  | none => .error
  | some messages =>
      if messages.any fun m => m.severity = .error then .violation else .success

end ExitCode

end Assay
