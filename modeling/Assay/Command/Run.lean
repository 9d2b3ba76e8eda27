import Assay.Command.Arguments
import Assay.Project.Analysis
import Assay.Report.Console
import Assay.Report.Sarif

/-!
# Running the command

The command loads its configuration, lets the arguments override it, analyzes, prints the messages
and writes a report if one is asked for. A report that cannot be written is mentioned and changes
nothing else.
-/

namespace Assay.Command

open Plugin

/-- How the command ends: with an exit code, before it began because of its arguments, or with a
failure that nothing takes care of. -/
inductive Ending where
  | exit (code : ExitCode)
  | stopped (code : Nat)
  | failed (failure : Failure)

/-- What the command prints, how it ends, and the files it leaves. -/
structure Outcome where
  output : String := ""
  errors : String := ""
  ending : Ending
  tree : FileTree Program

/-- The name of the program. -/
def programName : String := "analyzer-host"

/-- The version line. -/
def versionText : String := programName ++ " " ++ Report.Sarif.toolVersion ++ "\n"

/-- How the program is used. -/
def usageText : String :=
  "usage: " ++ programName ++ " " ++ " ".intercalate (OptionKey.all.map fun key =>
    "[" ++ key.title ++ (match key.arity with
      | .none => ""
      | .one => " VALUE"
      | .some => " VALUE ...") ++ "]") ++ "\n"

/-- The lines of a log entry. Without details only alarming entries have any. -/
def logLines (verbose : Bool) (e : LogEntry) : String :=
  if verbose || e.level.isAlarming then
    e.level.word ++ " : " ++ e.text ++ "\n" ++
      (match e.failure with
        | some f => f.attached ++ "\n"
        | none => "")
  else ""

/-- The lines of a log. -/
def logText (verbose : Bool) (log : List LogEntry) : String :=
  String.join (log.map (logLines verbose))

/-- The overrides that arguments give. -/
def overrides (a : Arguments) : List (String × Value) :=
  let list (key : ConfigKey) (values : Option (List String)) : String × Value :=
    (key.name, match values with
      | some texts => .list (texts.map .text)
      | none => .none)
  let single (key : ConfigKey) (value : Option String) : String × Value :=
    (key.name, match value with
      | some s => .text s
      | none => .none)
  [list .analyzersPath a.analyzersPath, list .excludeAnalyzers a.excludeAnalyzer,
    list .ignoreFiles a.ignoreFiles] ++
    Severity.all.map (fun s => list (.treatAs s) (a.treatAs s)) ++
    [single .report a.report, single .codeRoot a.codeRoot,
      (ConfigKey.verbose.name, if a.verbose then .bool true else .none)]

/-- The configuration of a run: the file that the arguments name or the one in the working directory,
overridden by the arguments. -/
def configOf (tree : FileTree Program) (a : Arguments) : Except Failure Config := do
  let file ← match a.config with
    | some path => Config.ofFile tree (Path.ofString path)
    | none => Config.discover tree tree.workingDirectory
  file.merge (overrides a)

/-- Log the configuration of a run. -/
def logConfig (config : Config) : Attempt Unit := do
  Attempt.note .debug "Running in verbose mode"
  let source := config.get .source
  if source.isTrue then Attempt.note .debug ("Configuration loaded from " ++ source.str)
  for severity in Severity.all do
    let label := severity.label
    let codes := Value.commaed (← Attempt.ofExcept (config.texts (.treatAs severity)))
    Attempt.note .debug s!"Treat as {label}: [{codes}]"
  let globs := Value.commaed (← Attempt.ofExcept (config.texts .ignoreFiles))
  Attempt.note .debug s!"Ignore Files: [{globs}]"

/-- The text of a field that is set. -/
def textOf (config : Config) (key : ConfigKey) : Option String :=
  if (config.get key).isTrue then some (config.get key).str else none

/-- Whether a report that could not be written is only mentioned. -/
def isMentioned : Report.Sarif.WriteFault → Bool
  | .invalid _ => true
  | .failed f => f.isSystemFailure

/-- Write the report that is configured behind what was printed before. -/
def writeReport (config : Config) (messages : List AnalyzerMessage) (o : Outcome) : Outcome :=
  match textOf config .report with
  | none => o
  | some report =>
      let verbose := (config.get .verbose).isTrue
      let (written, tree) := Report.Sarif.writeIn o.tree report (textOf config .codeRoot) messages
      match written with
      | .ok path =>
          let entry : LogEntry := { level := .debug, text := "SARIF report written to " ++ path.toString }
          { o with errors := o.errors ++ logLines verbose entry, tree }
      | .error fault =>
          if isMentioned fault then
            let details := if verbose then " " ++ fault.toFailure.shown else ""
            { o with errors := o.errors ++ s!"Could not write sarif to {report}{details}\n", tree }
          else { o with ending := .failed fault.toFailure, tree }

/-- The outcome of a failure: the host's own failures are printed and end the command with an error,
others end it as they are. -/
def failWith (console : Report.Console) (o : Outcome) (f : Failure) : Outcome :=
  if f.isHostFailure then
    { o with errors := o.errors ++ console.printError f.text, ending := .exit .error }
  else { o with ending := .failed f }

/-- Analyze with a configuration. -/
def runWith (console : Report.Console) (tree : FileTree Program) (a : Arguments) (config : Config) :
    Outcome :=
  let verbose := (config.get .verbose).isTrue
  let run : Logged (Except Failure Analysis) := ExceptT.run do
    logConfig config
    analyze tree (a.projects.getD []) a.sources config tree.workingDirectory
  let errors := logText verbose run.log
  match run.value with
  | .error f => failWith console { errors, ending := .exit .error, tree } f
  | .ok analysis =>
      let (output, printed) := console.tryMessages verbose analysis.messages
      match printed with
      | .error f => { output, errors, ending := .failed f, tree }
      | .ok () => writeReport config analysis.messages
          { output, errors, ending := .exit analysis.exitCode, tree }

/-- Run the command. -/
def run (console : Report.Console) (tree : FileTree Program) (arguments : List String) : Outcome :=
  match Arguments.parse arguments with
  | .error (.mistake text) =>
      { errors := programName ++ ": error: " ++ text ++ "\n", ending := .stopped 2, tree }
  | .error .help => { output := usageText, ending := .stopped 0, tree }
  | .error .version => { output := versionText, ending := .stopped 0, tree }
  | .ok a =>
      match configOf tree a with
      | .error f => failWith console { ending := .exit .error, tree } f
      | .ok config => runWith console tree a config

end Assay.Command
