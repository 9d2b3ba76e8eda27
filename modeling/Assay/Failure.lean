import Assay.Value.Text

/-!
# Failures

What went wrong: the kind of failure, its text, and how it is shown in logs. Plugins fail with kinds
of their own, so the kind is a name.
-/

namespace Assay

/-- A failure. -/
structure Failure where
  kind : String
  text : String
  shown : String
  deriving DecidableEq, Repr, Inhabited

namespace Failure

/-- A failure that was raised with some arguments. The text of one argument is the argument, except
that a missing key is shown. -/
def ofArguments (kind : String) (arguments : List Value) : Failure :=
  let text := match arguments with
    | [] => ""
    | [a] => if kind == "KeyError" then a.shown else a.str
    | many => (Value.tuple many).shown
  { kind, text, shown := kind ++ "(" ++ Value.commaed (Value.shownItems arguments) ++ ")" }

/-- How many arguments a failure of a kind needs, if it cannot be made from one. -/
def neededArguments : String → Option Nat
  | "UnicodeDecodeError" | "UnicodeEncodeError" => some 5
  | "UnicodeTranslateError" => some 4
  | "ExceptionGroup" | "BaseExceptionGroup" => some 2
  | _ => none

/-- Make a failure from one argument. Some kinds go by an older name too, and some cannot be made so,
which is a failure in turn. -/
def make (kind : String) (argument : Value) : Except Failure Failure :=
  match neededArguments kind with
  | some count =>
      let count := Json.writeInt count
      let maker := if kind.endsWith "Group" then "BaseExceptionGroup.__new__()" else "function"
      .error (ofArguments "TypeError"
        [.text (s!"{maker} takes exactly {count} arguments (1 given)")])
  | none =>
      let kind := if ["IOError", "EnvironmentError"].contains kind then "OSError" else kind
      .ok (ofArguments kind [argument])

/-- A failure with a text. -/
def of (kind text : String) : Failure := ofArguments kind [.text text]

/-- A failure without arguments. -/
def bare (kind : String) : Failure := ofArguments kind []

/-- A value of the wrong type. -/
def type (text : String) : Failure := of "TypeError" text

/-- A value that does not fit. -/
def value (text : String) : Failure := of "ValueError" text

/-- A configuration that cannot be used. -/
def config (text : String) : Failure := of "ConfigError" text

/-- A project that cannot be loaded. -/
def project (text : String) : Failure := of "ProjectLoadError" text

/-- A context that cannot be built. -/
def context (text : String) : Failure := of "ContextCreationError" text

/-- A failure of the operating system with its number. -/
def system (kind : String) (number : Nat) (reason path : String) : Failure :=
  { kind, text := s!"[Errno {number}] {reason}: " ++ Text.quoted path,
    shown := kind ++ s!"({number}, " ++ Text.quoted reason ++ ")" }

/-- Whether a failure is one of the host's own: of configuration, project or context. -/
def isHostFailure (f : Failure) : Bool :=
  ["AnalyzerHostError", "ConfigError", "ProjectLoadError", "ContextCreationError"].contains f.kind

/-- Whether a failure is one of the operating system. -/
def isSystemFailure (f : Failure) : Bool :=
  ["OSError", "FileNotFoundError", "FileExistsError", "NotADirectoryError", "IsADirectoryError",
    "PermissionError"].contains f.kind

/-- Whether a failure is what reading a file is expected to fail with: the system refuses the file, or
its bytes are no text. -/
def isReadFailure (f : Failure) : Bool := f.isSystemFailure || f.kind == "UnicodeDecodeError"

/-- The kinds of failures that end a program and are no ordinary exceptions. -/
def isExit (f : Failure) : Bool :=
  ["SystemExit", "KeyboardInterrupt", "GeneratorExit", "CancelledError", "BaseException",
    "BaseExceptionGroup"].contains f.kind

/-- A failure as an attachment of a log entry. -/
def attached (f : Failure) : String := f.kind ++ ": " ++ f.text

end Failure

end Assay
