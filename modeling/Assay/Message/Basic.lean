import Assay.Message.Range
import Assay.Message.Severity

/-!
# Messages

The diagnostics that analyzers give. Only the severity and the range of a message are checked; its
other fields hold whatever the analyzer put there.
-/

namespace Assay

namespace Range

/-- How a range is written. -/
def toValue (r : Range) : Value :=
  .mapping [(.text "file_name", .text r.file), (.text "start_line", .int r.startLine),
    (.text "start_column", .int r.startColumn), (.text "end_line", .int r.endLine),
    (.text "end_column", .int r.endColumn)]

/-- How a range is shown. -/
def shown (r : Range) : String :=
  "Range(file_name=" ++ Text.quoted r.file ++ ", start_line=" ++ Json.writeInt r.startLine ++
    ", start_column=" ++ Json.writeInt r.startColumn ++ ", end_line=" ++ Json.writeInt r.endLine ++
    ", end_column=" ++ Json.writeInt r.endColumn ++ ")"

end Range

/-- An edit: replace the text in a range. -/
structure Fix where
  range : Range
  before : Value
  after : Value
  deriving Inhabited

namespace Fix

/-- How a fix is written. -/
def toValue (f : Fix) : Value :=
  .mapping [(.text "from_range", f.range.toValue), (.text "from_text", f.before),
    (.text "to_text", f.after)]

/-- How a fix is shown. -/
def shown (f : Fix) : String :=
  "Fix(from_range=" ++ f.range.shown ++ ", from_text=" ++ f.before.shown ++ ", to_text=" ++
    f.after.shown ++ ")"

/-- Whether two fixes are the same. -/
def same (f g : Fix) : Bool := f.range = g.range && f.before.same g.before && f.after.same g.after

end Fix

/-- A diagnostic. -/
structure Message where
  type : Value
  text : Value
  code : Value
  severity : Severity
  range : Range
  fixes : List Fix := []
  deriving Inhabited

namespace Message

/-- A message that is being built: nothing is checked yet. A range that is none is kept as the value
it is. -/
structure Draft where
  type : Value := .text "t"
  text : Value := .text "m"
  code : Value := .text "C1"
  severity : Value := .text "warning"
  range : Except Value Range
  fixes : List Fix := []

/-- Check a draft: first its severity, then its range. -/
def ofDraft (d : Draft) : Except Failure Message := do
  let severity ← Severity.ofValue d.severity
  match d.range with
  | .ok range =>
      return { type := d.type, text := d.text, code := d.code, severity, range, fixes := d.fixes }
  | .error v => throw (.type ("Message.range must be a Range, not " ++ v.typeName))

/-- The message with another severity. -/
def withSeverity (m : Message) (s : Severity) : Message := { m with severity := s }

/-- How a message is written; fixes only if there are any. -/
def toValue (m : Message) : Value :=
  .mapping ([(.text "type", m.type), (.text "message", m.text), (.text "code", m.code),
    (.text "severity", .text m.severity.word), (.text "range", m.range.toValue)] ++
    (if m.fixes.isEmpty then [] else [(.text "fixes", .list (m.fixes.map Fix.toValue))]))

/-- How a message is shown. -/
def shown (m : Message) : String :=
  let fixes := match m.fixes.map Fix.shown with
    | [one] => "(" ++ one ++ ",)"
    | all => "(" ++ Value.commaed all ++ ")"
  "Message(type=" ++ m.type.shown ++ ", message=" ++ m.text.shown ++ ", code=" ++ m.code.shown ++
    ", severity=" ++ m.severity.toValue.shown ++ ", range=" ++ m.range.shown ++ ", fixes=" ++
    fixes ++ ")"

/-- Whether two lists of fixes are the same. -/
def sameFixes : List Fix → List Fix → Bool
  | [], [] => true
  | f :: fs, g :: gs => f.same g && sameFixes fs gs
  | _, _ => false

/-- Whether two messages are the same. -/
def same (m n : Message) : Bool :=
  m.type.same n.type && m.text.same n.text && m.code.same n.code && m.severity = n.severity &&
    m.range = n.range && sameFixes m.fixes n.fixes

end Message

/-- A message with the analyzer that gave it. The descriptions only matter for reports. -/
structure AnalyzerMessage where
  message : Message
  name : Value
  shortDescription : Value := .none
  helpUri : Value := .none
  deriving Inhabited

namespace AnalyzerMessage

/-- The code of the message. -/
def code (m : AnalyzerMessage) : Value := m.message.code

/-- The severity of the message. -/
def severity (m : AnalyzerMessage) : Severity := m.message.severity

/-- The message with another severity. -/
def withSeverity (m : AnalyzerMessage) (s : Severity) : AnalyzerMessage :=
  { m with message := m.message.withSeverity s }

/-- How a message of an analyzer is written: the analyzer first, the descriptions only if they are
not empty. -/
def toValue (m : AnalyzerMessage) : Value :=
  let own := match m.message.toValue with
    | .mapping entries => entries
    | _ => []
  let described (name : String) (v : Value) : List (Value × Value) :=
    if v.isTrue then [(.text name, v)] else []
  .mapping ((.text "analyzer", m.name) :: own ++
    described "short_description" m.shortDescription ++ described "help_uri" m.helpUri)

/-- How a message of an analyzer is shown. -/
def shown (m : AnalyzerMessage) : String :=
  "AnalyzerMessage(message=" ++ m.message.shown ++ ", name=" ++ m.name.shown ++
    ", short_description=" ++ m.shortDescription.shown ++ ", help_uri=" ++ m.helpUri.shown ++ ")"

end AnalyzerMessage

end Assay
