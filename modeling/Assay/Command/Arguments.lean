import Assay.Message.Severity
import Assay.Text.DecimalDigit
import Assay.Text.Quoted

/-!
# The arguments of the command line

Options have long names, which can be shortened as long as one option is meant, and take no value,
one value, or one value and more. A value can also stand behind an equals sign. Behind two hyphens
nothing is an option. All arguments that belong to no option are refused together.
-/

namespace Assay.Command

/-- The options of the command line. -/
inductive OptionKey where
  | help
  | project
  | sources
  | analyzersPath
  | treatAs (severity : Severity)
  | ignoreFiles
  | excludeAnalyzer
  | report
  | codeRoot
  | config
  | verbose
  | version
  deriving DecidableEq, Repr

/-- How many values an option takes. -/
inductive Arity where
  | none
  | one
  | some
  deriving DecidableEq, Repr

namespace OptionKey

/-- All options in the order in which they are tried. -/
def all : List OptionKey :=
  [.help, .project, .sources, .analyzersPath, .treatAs .info, .treatAs .hint, .treatAs .warning,
    .treatAs .error, .ignoreFiles, .excludeAnalyzer, .report, .codeRoot, .config, .verbose, .version]

/-- The names of an option. -/
def names : OptionKey → List String
  | help => ["-h", "--help"]
  | project => ["--project"]
  | sources => ["--sources"]
  | analyzersPath => ["--analyzers-path"]
  | treatAs severity => ["--treat-as-" ++ severity.word]
  | ignoreFiles => ["--ignore-files"]
  | excludeAnalyzer => ["--exclude-analyzer"]
  | report => ["--report"]
  | codeRoot => ["--code-root"]
  | config => ["--config"]
  | verbose => ["-v", "--verbose"]
  | version => ["--version"]

/-- How many values an option takes. -/
def arity : OptionKey → Arity
  | help | verbose | version => .none
  | report | codeRoot | config => .one
  | _ => .some

/-- How an option is called in error messages. -/
def title (key : OptionKey) : String := "/".intercalate key.names

end OptionKey

/-- All names of options. -/
def optionNames : List (String × OptionKey) :=
  OptionKey.all.flatMap fun key => key.names.map fun name => (name, key)

/-- The option with a name. -/
def optionOf? (name : String) : Option OptionKey := optionNames.lookup name

/-- Why reading the arguments ends early: a mistake, or an option that asks for it. -/
inductive Stop where
  | mistake (text : String)
  | help
  | version
  deriving DecidableEq, Repr

/-- What one argument is: an option, perhaps with a value; a short option with letters behind it; the
look of an option that there is none of; two hyphens; or a value. -/
inductive Piece where
  | option (key : OptionKey) (value : Option String)
  | letters (key : OptionKey) (behind : List Char)
  | unknown (argument : String)
  | divider
  | plain (argument : String)
  deriving DecidableEq, Repr

namespace Piece

/-- The value that a piece is. -/
def plain? : Piece → Option String
  | plain s => some s
  | _ => none

/-- Whether a piece is a value. -/
def isPlain (p : Piece) : Bool := p.plain?.isSome

/-- Whether an argument is a negative number, with digits of any script; a line may end behind it. -/
def isNegativeNumber (argument : String) : Bool :=
  let isDigit (c : Char) : Bool := (Text.decimalDigit? c).isSome
  let cs := argument.toList
  match if argument.endsWith "\n" then cs.dropLast else cs with
  | '-' :: rest =>
      let front := rest.takeWhile isDigit
      match rest.drop front.length with
      | [] => !front.isEmpty
      | c :: places => c = '.' && !places.isEmpty && places.all isDigit
  | _ => false

/-- Cut an argument at its first equals sign. -/
def splitValue (argument : String) : String × Option String :=
  let front := argument.toList.takeWhile (· ≠ '=')
  match argument.toList.drop front.length with
  | [] => (argument, none)
  | _ :: value => (String.ofList front, some (String.ofList value))

/-- The options that an argument can mean by the beginning of their names, or by the letter of a
short option that more letters stand behind. -/
def meanings (argument : String) : List (String × Piece) :=
  if argument.startsWith "--" then
    let (start, value) := splitValue argument
    (optionNames.filter fun o => o.1.startsWith start).map fun o => (o.1, .option o.2 value)
  else
    let letter := String.ofList (argument.toList.take 2)
    optionNames.filterMap fun o =>
      if o.1 = letter then some (o.1, .letters o.2 (argument.toList.drop 2))
      else if o.1.startsWith argument then some (o.1, .option o.2 none)
      else none

/-- Whether a name is that of a short option: a letter behind one hyphen. -/
def isShort (name : String) : Bool := !name.startsWith "--"

/-- The option that an argument names in full, perhaps with a value; that of a short one is taken for
letters behind it. -/
def named? (argument : String) : Option Piece :=
  match optionOf? argument with
  | some key => some (.option key none)
  | none =>
      let (name, value) := splitValue argument
      match value, optionOf? name with
      | some value, some key =>
          if isShort name then some (.letters key value.toList) else some (.option key (some value))
      | _, _ => none

/-- What an argument before two hyphens is. -/
def ofArgument (argument : String) : Except Stop Piece :=
  if !argument.startsWith "-" || argument.length = 1 then .ok (.plain argument)
  else match named? argument with
    | some piece => .ok piece
    | none => match meanings argument with
      | [(_, piece)] => .ok piece
      | [] =>
          if isNegativeNumber argument || argument.toList.contains ' ' then
            .ok (.plain argument)
          else .ok (.unknown argument)
      | many =>
          let names := ", ".intercalate (many.map (·.1))
          .error (.mistake s!"ambiguous option: {argument} could match {names}")

/-- What the arguments are, one after the other. -/
def ofArguments : List String → Except Stop (List Piece)
  | [] => .ok []
  | argument :: rest =>
      if argument = "--" then .ok (.divider :: rest.map .plain)
      else do
        let piece ← ofArgument argument
        return piece :: (← ofArguments rest)

end Piece

/-- What the command line asks for. -/
structure Arguments where
  projects : Option (List String) := none
  sources : Option (List String) := none
  analyzersPath : Option (List String) := none
  treatAs : Severity → Option (List String) := fun _ => none
  ignoreFiles : Option (List String) := none
  excludeAnalyzer : Option (List String) := none
  report : Option String := none
  codeRoot : Option String := none
  config : Option String := none
  verbose : Bool := false

namespace Arguments

/-- Take an option with its values. Projects and places of analyzers add up; of other options the
last one counts. -/
def take (a : Arguments) (key : OptionKey) (values : List String) : Except Stop Arguments :=
  match key with
  | .help => .error .help
  | .version => .error .version
  | .verbose => .ok { a with verbose := true }
  | .project => .ok { a with projects := some (a.projects.getD [] ++ values) }
  | .analyzersPath => .ok { a with analyzersPath := some (a.analyzersPath.getD [] ++ values) }
  | .sources => .ok { a with sources := some values }
  | .ignoreFiles => .ok { a with ignoreFiles := some values }
  | .excludeAnalyzer => .ok { a with excludeAnalyzer := some values }
  | .treatAs severity =>
      .ok { a with treatAs := fun s => if s = severity then some values else a.treatAs s }
  | .report => .ok { a with report := values.head? }
  | .codeRoot => .ok { a with codeRoot := values.head? }
  | .config => .ok { a with config := values.head? }

/-- The mistake of an option. -/
def mistake (key : OptionKey) (text : String) : Stop :=
  .mistake ("argument " ++ key.title ++ ": " ++ text)

/-- The mistake of a value for an option that takes none. -/
def ignoredValue (key : OptionKey) (value : String) : Stop :=
  mistake key ("ignored explicit argument " ++ Text.quoted value)

/-- The options that a short option and the letters behind it stand for; a letter that is no short
option is a mistake, together with those behind it. -/
def cluster (key : OptionKey) : List Char → Except Stop (List OptionKey)
  | [] => .ok [key]
  | c :: cs =>
      match optionOf? (String.ofList ['-', c]) with
      | none => .error (ignoredValue key (String.ofList (c :: cs)))
      | some next => do return key :: (← cluster next cs)

/-- Take an option that has a value of its own. -/
def takeWith (a : Arguments) (key : OptionKey) (value : String) : Except Stop Arguments :=
  match key.arity with
  | .none => .error (ignoredValue key value)
  | _ => a.take key [value]

/-- Take an option with values from the pieces that follow; what it leaves is given back. -/
def takeFrom (a : Arguments) (key : OptionKey) (rest : List Piece) :
    Except Stop (Arguments × List Piece) := do
  match key.arity with
  | .none => return (← a.take key [], rest)
  | .one => match rest with
    | .plain value :: more => return (← a.take key [value], more)
    | _ => throw (mistake key "expected one argument")
  | .some =>
      let values := (rest.takeWhile Piece.isPlain).filterMap Piece.plain?
      if values.isEmpty then throw (mistake key "expected at least one argument")
      return (← a.take key values, rest.dropWhile Piece.isPlain)

/-- Read pieces; arguments that belong to no option are collected. -/
def readPieces : Nat → Arguments → List Piece → Except Stop (Arguments × List String)
  | 0, a, _ => .ok (a, [])
  | _ + 1, a, [] => .ok (a, [])
  | fuel + 1, a, piece :: rest => do
      match piece with
      | .option key (some value) => readPieces fuel (← a.takeWith key value) rest
      | .option key none =>
          let (a, rest) ← a.takeFrom key rest
          readPieces fuel a rest
      | .letters key behind =>
          if behind.isEmpty then throw (ignoredValue key "")
          let a ← (← cluster key behind).foldlM (fun a key => a.take key []) a
          readPieces fuel a rest
      | .unknown s | .plain s =>
          let (a, extra) ← readPieces fuel a rest
          return (a, s :: extra)
      | .divider =>
          let (a, extra) ← readPieces fuel a rest
          return (a, "--" :: extra)

/-- Read the arguments of the command line. -/
def parse (arguments : List String) : Except Stop Arguments := do
  let pieces ← Piece.ofArguments arguments
  let (a, extra) ← readPieces (pieces.length + 1) {} pieces
  if extra.isEmpty then return a
  else throw (.mistake ("unrecognized arguments: " ++ " ".intercalate extra))

end Arguments

end Assay.Command
