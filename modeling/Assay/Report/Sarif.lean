import Assay.File.Tree
import Assay.File.Uri
import Assay.Message.Basic
import Assay.Report.Schema
import Assay.Value.Canonical
import Assay.Value.Items
import Assay.Value.Order

/-!
# The SARIF report

One rule for each code that occurs and one result for each message, sorted by place, code and
analyzer. Columns count from zero in messages and from one in the report. Files are named relative
to the code root.
-/

namespace Assay.Report.Sarif

/-- The name of the program in reports. -/
def toolName : String := "analyzer-host"

/-- The version of the program. -/
def toolVersion : String := "0.1.0"

/-- The name that the code root has in the report. -/
def rootName : String := "%SRCROOT%"

/-- A region of a file; lines and columns count from one. -/
structure Region where
  startLine : Int
  startColumn : Int
  endLine : Int
  endColumn : Int
  deriving DecidableEq, Repr

/-- The region of a range. What lies before the file is moved to its front. -/
def Region.ofRange (r : Range) : Region :=
  { startLine := max r.startLine 1, startColumn := max r.startColumn 0 + 1,
    endLine := max r.endLine 1, endColumn := max r.endColumn 0 + 1 }

/-- A region in a file, named relative to the code root. -/
structure Location where
  uri : String
  region : Region
  deriving DecidableEq, Repr

/-- A rule: the first message with its code describes it. -/
structure Rule where
  id : Value
  name : Value
  shortDescription : Value
  helpUri : Value

/-- A fix: the text that a region is replaced by. -/
structure Replacement where
  location : Location
  text : Value

/-- A result: a message with the number of its rule. -/
structure Result where
  ruleId : Value
  ruleIndex : Nat
  level : String
  text : Value
  location : Location
  fixes : List Replacement

/-- A report. -/
structure Log where
  root : Path
  rules : List Rule
  results : List Result

/-- The level of a severity. -/
def levelOf : Severity → String
  | .info | .hint => "note"
  | .warning => "warning"
  | .error => "error"

/-! ## Building -/

/-- The order of messages in a report: by file, line, column, code and analyzer. -/
def before (m n : AnalyzerMessage) : Except String Bool :=
  let r := m.message.range
  let s := n.message.range
  Value.lessItems
    [.text r.file, .int r.startLine, .int r.startColumn, m.code, m.name]
    [.text s.file, .int s.startLine, .int s.startColumn, n.code, n.name]

/-- The messages in the order of the report. -/
def sortMessages (messages : List AnalyzerMessage) : Except Failure (List AnalyzerMessage) :=
  match Value.sortIfOrdered before messages with
  | .ok sorted => .ok sorted
  | .error message => .error (.type message)

/-- How a file is named in the report: relative to the root if its path is absolute. -/
def artifactUri {π : Type} (tree : FileTree π) (root : Path) (file : String) :
    Except Failure String :=
  let p := Path.ofString file
  if !p.isAbsolute then .ok p.toString
  else match tree.resolve p with
    | .ok resolved => .ok (resolved.relativeTo root).toString
    | .error f => if f.kind == "ValueError" then .ok p.toUri else .error f

/-- Where a range lies. -/
def locate {π : Type} (tree : FileTree π) (root : Path) (r : Range) : Except Failure Location := do
  return { uri := ← artifactUri tree root r.file, region := Region.ofRange r }

/-- The rule that the first message with a code describes. -/
def Rule.ofMessage (m : AnalyzerMessage) : Rule :=
  { id := m.code, name := m.name, shortDescription := m.shortDescription, helpUri := m.helpUri }

/-- The number of the rule for a code. -/
def ruleIndex? (rules : List Rule) (code : Value) : Option Nat :=
  rules.findIdx? fun rule => rule.id.same code

/-- Add the rule of a message, unless there is one for its code. -/
def addRule (rules : List Rule) (m : AnalyzerMessage) : List Rule :=
  if (ruleIndex? rules m.code).isSome then rules else rules ++ [Rule.ofMessage m]

/-- The result of a message. -/
def Result.ofMessage {π : Type} (tree : FileTree π) (root : Path) (rules : List Rule)
    (m : AnalyzerMessage) : Except Failure Result := do
  return { ruleId := m.code, ruleIndex := (ruleIndex? rules m.code).getD 0,
           level := levelOf m.severity, text := m.message.text,
           location := ← locate tree root m.message.range,
           fixes := ← m.message.fixes.mapM fun f => do
             return { location := ← locate tree root f.range, text := f.after } }

/-- The rules and results of sorted messages behind those of earlier ones. -/
def collect {π : Type} (tree : FileTree π) (root : Path) (rules : List Rule) :
    List AnalyzerMessage → Except Failure (List Rule × List Result)
  | [] => .ok (rules, [])
  | m :: rest => do
      m.code.requireKey
      let rules := addRule rules m
      let result ← Result.ofMessage tree root rules m
      let (rules, results) ← collect tree root rules rest
      return (rules, result :: results)

/-- The code root: the working directory unless another one is named. -/
def codeRoot {π : Type} (tree : FileTree π) : Option String → Except Failure Path
  | none => .ok tree.workingDirectory
  | some root => if root = "" then .ok tree.workingDirectory else tree.resolve (Path.ofString root)

/-- The report of messages. -/
def Log.ofMessages {π : Type} (tree : FileTree π) (root : Option String)
    (messages : List AnalyzerMessage) : Except Failure Log := do
  let root ← codeRoot tree root
  let sorted ← sortMessages messages
  let (rules, results) ← collect tree root [] sorted
  return { root, rules, results }

/-! ## Writing -/

/-- A mapping with texts as keys. -/
def mappingOf (fields : List (String × Value)) : Value :=
  .mapping (fields.map fun f => (.text f.1, f.2))

/-- How a region is written. -/
def Region.toValue (r : Region) : Value :=
  mappingOf [("startLine", .int r.startLine), ("startColumn", .int r.startColumn),
    ("endLine", .int r.endLine), ("endColumn", .int r.endColumn)]

/-- How a file is written. -/
def artifactValue (uri : String) : Value :=
  mappingOf [("uri", .text uri), ("uriBaseId", .text rootName)]

/-- How a rule is written; descriptions that are empty are left out. -/
def Rule.toValue (r : Rule) : Value :=
  mappingOf ([("id", r.id), ("name", r.name)] ++
    (if r.shortDescription.isTrue then
      [("shortDescription", mappingOf [("text", r.shortDescription)])] else []) ++
    (if r.helpUri.isTrue then [("helpUri", r.helpUri)] else []))

/-- How a fix is written. -/
def Replacement.toValue (r : Replacement) : Value :=
  mappingOf [("artifactChanges", .list [mappingOf [
    ("artifactLocation", artifactValue r.location.uri),
    ("replacements", .list [mappingOf [("deletedRegion", r.location.region.toValue),
      ("insertedContent", mappingOf [("text", r.text)])]])]])]

/-- How a location is written. -/
def Location.toValue (l : Location) : Value :=
  mappingOf [("physicalLocation", mappingOf [("artifactLocation", artifactValue l.uri),
    ("region", l.region.toValue)])]

/-- How a result is written; fixes only if there are any. -/
def Result.toValue (r : Result) : Value :=
  mappingOf ([("ruleId", r.ruleId), ("ruleIndex", .int r.ruleIndex), ("level", .text r.level),
    ("message", mappingOf [("text", r.text)]), ("locations", .list [r.location.toValue])] ++
    (if r.fixes.isEmpty then [] else [("fixes", .list (r.fixes.map Replacement.toValue))]))

/-- How a report is written. -/
def Log.toValue (l : Log) : Value :=
  mappingOf [("$schema", .text "https://json.schemastore.org/sarif-2.1.0.json"),
    ("version", .text "2.1.0"),
    ("runs", .list [mappingOf [
      ("tool", mappingOf [("driver", mappingOf [("name", .text toolName),
        ("version", .text toolVersion),
        ("informationUri", .text "https://pypi.org/project/analyzer-host/"),
        ("rules", .list (l.rules.map Rule.toValue))])]),
      ("originalUriBaseIds", mappingOf [(rootName, mappingOf [("uri", .text (l.root.toUri ++ "/"))])]),
      ("results", .list (l.results.map Result.toValue))]])]

/-! ## The schema of reports -/

/-- Any text. -/
def anyText : Schema := .text 0

/-- The schema of regions. -/
def regionSchema : Schema :=
  .object ["startLine", "startColumn", "endLine", "endColumn"]
    [("startLine", .integer (some 1)), ("startColumn", .integer (some 1)),
     ("endLine", .integer (some 1)), ("endColumn", .integer (some 1))]

/-- The schema of names of files. -/
def artifactSchema : Schema := .object ["uri"] [("uri", anyText), ("uriBaseId", anyText)]

/-- The schema of texts of messages. -/
def messageSchema : Schema := .object ["text"] [("text", anyText)]

/-- The schema of rules. -/
def ruleSchema : Schema :=
  .object ["id"] [("id", .text 1), ("name", anyText), ("shortDescription", messageSchema),
    ("fullDescription", messageSchema), ("helpUri", anyText)]

/-- The schema of fixes. -/
def fixSchema : Schema :=
  .object ["artifactChanges"] [("artifactChanges", .array 0
    (.object ["artifactLocation", "replacements"]
      [("artifactLocation", artifactSchema),
       ("replacements", .array 0 (.object ["deletedRegion"]
         [("deletedRegion", regionSchema),
          ("insertedContent", .object [] [("text", anyText)])]))]))]

/-- The schema of locations. -/
def locationSchema : Schema :=
  .object ["physicalLocation"] [("physicalLocation",
    .object ["artifactLocation", "region"]
      [("artifactLocation", artifactSchema), ("region", regionSchema)])]

/-- The schema of results. -/
def resultSchema : Schema :=
  .object ["ruleId", "level", "message", "locations"]
    [("ruleId", anyText), ("ruleIndex", .integer (some 0)),
     ("level", .oneOf ["none", "note", "warning", "error"]), ("message", messageSchema),
     ("locations", .array 1 locationSchema), ("fixes", .array 0 fixSchema)]

/-- The schema of runs. -/
def runSchema : Schema :=
  .object ["tool", "results"]
    [("tool", .object ["driver"] [("driver", .object ["name", "rules"]
      [("name", anyText), ("version", anyText), ("informationUri", anyText),
       ("rules", .array 0 ruleSchema)])]),
     ("originalUriBaseIds", .object [] []), ("results", .array 0 resultSchema)]

/-- The schema of reports. -/
def schema : Schema :=
  .object ["version", "runs"]
    [("$schema", anyText), ("version", .constant "2.1.0"), ("runs", .array 1 runSchema)]

/-- The name of the schema. -/
def schemaName : String := "sarif_subset.schema.json"

/-- The title of the schema. -/
def schemaTitle : String := "SARIF 2.1.0 subset written by analyzer-host"

/-! ## Files -/

/-- Why a report was not written: it does not fit the schema, or something failed. -/
inductive WriteFault where
  | invalid (fault : SchemaFault)
  | failed (failure : Failure)

/-- A write fault as a failure. -/
def WriteFault.toFailure : WriteFault → Failure
  | invalid fault => fault.toFailure
  | failed f => f

/-- Something that can fail while a report is written. -/
def orFailed {α : Type} : Except Failure α → Except WriteFault α
  | .ok a => .ok a
  | .error f => .error (.failed f)

/-- The report of messages as it is written. It must fit the schema. -/
def checkedValue {π : Type} (tree : FileTree π) (root : Option String)
    (messages : List AnalyzerMessage) : Except WriteFault Value := do
  let log := (← orFailed (Log.ofMessages tree root messages)).toValue
  match schema.check log with
  | some fault => throw (.invalid fault)
  | none => return log

/-- Open a file for a report: it is empty then, and missing directories are made. These stay if the
file cannot be opened. -/
def openFile {π : Type} (tree : FileTree π) (report : String) :
    Except Failure Path × FileTree π :=
  match tree.resolve (Path.ofString report) with
  | .error f => (.error f, tree)
  | .ok path => match tree.makeDirectory path.parent with
    | (.error f, made) => (.error f, made)
    | (.ok (), made) => match made.writeText path "" with
      | .error f => (.error f, made)
      | .ok opened => (.ok path, opened)

/-- Write the report of messages to a file, which is given back, and what becomes of the tree. It is
not touched unless the report fits the schema. A report that turns out not to have a text leaves an
empty file. -/
def writeIn {π : Type} (tree : FileTree π) (report : String) (root : Option String)
    (messages : List AnalyzerMessage) : Except WriteFault Path × FileTree π :=
  match checkedValue tree root messages with
  | .error fault => (.error fault, tree)
  | .ok log => match openFile tree report with
    | (.error f, made) => (.error (.failed f), made)
    | (.ok path, opened) =>
        match log.canonicalText (.lines 2) >>= opened.writeText path with
        | .error f => (.error (.failed f), opened)
        | .ok written => (.ok path, written)

/-- Write the report of messages to a file, which is given back with the tree. -/
def write {π : Type} (tree : FileTree π) (report : String) (root : Option String)
    (messages : List AnalyzerMessage) : Except WriteFault (Path × FileTree π) :=
  let (path, tree) := writeIn tree report root messages
  path.map fun path => (path, tree)

end Assay.Report.Sarif
