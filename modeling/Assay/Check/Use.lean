import Assay.Message.Range
import Assay.Source.Scope.Resolve

/-!
# Uses of symbols

Every occurrence of a name in a module is recorded with its range and with what it refers to. The
statements are visited in the order of the text, side by side with the scopes of the module: where a
construct opens a scope, the walk goes on in the first scope of that name and line among the
children of the current one that was not entered yet, or in the first of that name.
-/

namespace Assay.Check

open Source

/-- What an occurrence of a name refers to. -/
inductive UseScope where
  | local
  | global
  | free
  | parameter
  | imported
  | builtin
  | unknown
  deriving DecidableEq, Repr, Inhabited

/-- The word for what a name refers to. -/
def UseScope.word : UseScope → String
  | .local => "local"
  | .global => "global"
  | .free => "free"
  | .parameter => "parameter"
  | .imported => "imported"
  | .builtin => "builtin"
  | .unknown => "unknown"

/-- One occurrence of a name in a file. -/
structure SymbolUse where
  name : String
  file : String
  range : Range
  scope : UseScope
  isDefinition : Bool
  deriving DecidableEq, Repr, Inhabited

/-- Names that are known everywhere. -/
def builtinNames : List String :=
  ["ArithmeticError", "AssertionError", "AttributeError", "BaseException", "BaseExceptionGroup",
   "BlockingIOError", "BrokenPipeError", "BufferError", "BytesWarning", "ChildProcessError",
   "ConnectionAbortedError", "ConnectionError", "ConnectionRefusedError", "ConnectionResetError",
   "DeprecationWarning", "EOFError", "Ellipsis", "EncodingWarning", "EnvironmentError", "Exception",
   "ExceptionGroup", "False", "FileExistsError", "FileNotFoundError", "FloatingPointError",
   "FutureWarning", "GeneratorExit", "IOError", "ImportError", "ImportWarning", "IndentationError",
   "IndexError", "InterruptedError", "IsADirectoryError", "KeyError", "KeyboardInterrupt",
   "LookupError", "MemoryError", "ModuleNotFoundError", "NameError", "None", "NotADirectoryError",
   "NotImplemented", "NotImplementedError", "OSError", "OverflowError", "PendingDeprecationWarning",
   "PermissionError", "ProcessLookupError", "RecursionError", "ReferenceError", "ResourceWarning",
   "RuntimeError", "RuntimeWarning", "StopAsyncIteration", "StopIteration", "SyntaxError",
   "SyntaxWarning", "SystemError", "SystemExit", "TabError", "TimeoutError", "True", "TypeError",
   "UnboundLocalError", "UnicodeDecodeError", "UnicodeEncodeError", "UnicodeError",
   "UnicodeTranslateError", "UnicodeWarning", "UserWarning", "ValueError", "Warning",
   "ZeroDivisionError", "__build_class__", "__debug__", "__doc__", "__import__", "__loader__",
   "__name__", "__package__", "__spec__", "abs", "aiter", "all", "anext", "any", "ascii", "bin",
   "bool", "breakpoint", "bytearray", "bytes", "callable", "chr", "classmethod", "compile",
   "complex", "copyright", "credits", "delattr", "dict", "dir", "divmod", "enumerate", "eval",
   "exec", "exit", "filter", "float", "format", "frozenset", "getattr", "globals", "hasattr",
   "hash", "help", "hex", "id", "input", "int", "isinstance", "issubclass", "iter", "len",
   "license", "list", "locals", "map", "max", "memoryview", "min", "next", "object", "oct", "open",
   "ord", "pow", "print", "property", "quit", "range", "repr", "reversed", "round", "set",
   "setattr", "slice", "sorted", "staticmethod", "str", "sum", "super", "tuple", "type", "vars",
   "zip", "__annotations__", "__class__", "__delattr__", "__dict__", "__dir__", "__eq__",
   "__format__", "__ge__", "__getattribute__", "__getstate__", "__gt__", "__hash__", "__init__",
   "__init_subclass__", "__le__", "__lt__", "__ne__", "__new__", "__reduce__", "__reduce_ex__",
   "__repr__", "__setattr__", "__sizeof__", "__str__", "__subclasshook__"]

/-- The range of a span. -/
def rangeOf (file : String) (s : Span) : Range :=
  Range.ofNode file { line := some s.line, column := some s.column, endLine := some s.endLine,
                      endColumn := some s.endColumn }

/-- The range of the name behind the keyword of a definition. -/
def nameRange (file : String) (s : Span) (keyword name : String) : Range :=
  let column := s.column + keyword.length + 1
  { file, startLine := s.line, startColumn := column, endLine := s.line,
    endColumn := column + name.length }

/-- Where the walk is: the file, the scope of the module, and the scopes that were entered,
innermost first. -/
structure Site where
  file : String
  top : Scope
  inner : List Scope := []

namespace Site

/-- The innermost scope. -/
def current (s : Site) : Scope := s.inner.head?.getD s.top

/-- Whether a symbol is local to a function or a class. The name of the module's scope makes every
bound name local. -/
def isLocal (table : Scope) (symbol : Symbol) : Bool :=
  symbol.binding = .local || symbol.binding = .cell ||
    (table.frame.name == "top" && symbol.isBound)

/-- What a name that belongs to the module refers to. -/
def classifyGlobal (s : Site) (name : String) : UseScope :=
  match s.top.lookup? name with
  | some symbol =>
      if symbol.has .imported then .imported
      else if !symbol.has .assigned && builtinNames.contains name then .builtin
      else .global
  | none => if builtinNames.contains name then .builtin else .global

/-- What a name refers to. -/
def classify (s : Site) (name : String) : UseScope :=
  match s.current.lookup? name with
  | none => .unknown
  | some symbol =>
      if symbol.has .parameter then .parameter
      else if symbol.has .imported then .imported
      else if symbol.binding = .free then .free
      else if s.current.frame.kind ≠ .module && isLocal s.current symbol then .local
      else s.classifyGlobal name

end Site

/-- What the walk has recorded, the newest use first, and the numbers of the scopes it entered. -/
structure Walk where
  recorded : List SymbolUse := []
  claimed : List Nat := []

namespace Walk

/-- Record a use. -/
def record (w : Walk) (file name : String) (range : Range) (isDefinition : Bool)
    (scope : UseScope) : Walk :=
  { w with recorded := { name, file, range, scope, isDefinition } :: w.recorded }

/-- The first scope among some that has a name, was not entered yet, and begins in a line if one is
asked for. -/
def unclaimed? (w : Walk) (name : String) (line : Option Nat) (scopes : List Scope) :
    Option Scope :=
  scopes.find? fun s =>
    !w.claimed.contains s.frame.id && s.frame.name == name &&
      (match line with
        | some n => s.frame.line = n
        | none => true)

/-- Enter the scope of a construct, if there is one. -/
def enter (w : Walk) (site : Site) (name : String) (line : Nat) : Site × Walk :=
  let children := site.current.children
  match (w.unclaimed? name (some line) children).or (w.unclaimed? name none children) with
  | some s => ({ site with inner := s :: site.inner }, { w with claimed := s.frame.id :: w.claimed })
  | none => (site, w)

/-- Record a name that is read or bound. -/
def name (site : Site) (span : Span) (id : String) (access : Access) (w : Walk) : Walk :=
  w.record site.file id (rangeOf site.file span) (access ≠ .load) (site.classify id)

/-- Record the parameters of a function. -/
def parameters (site : Site) (ps : List ParameterName) (w : Walk) : Walk :=
  ps.foldl (fun w p => w.record site.file p.name (rangeOf site.file p.span) true .parameter) w

mutual

/-- Visit an expression. -/
def expr (site : Site) : Expr → Walk → Walk
  | .name span id access, w => name site span id access w
  | .literal .., w => w
  | .member _ object _ _, w => expr site object w
  | .subscript _ object index _, w => expr site index (expr site object w)
  | .starred _ value _, w => expr site value w
  | .sequence _ _ items _, w => exprs site items w
  | .operation _ _ operands, w => exprs site operands w
  | .walrus _ target value, w => expr site value (expr site target w)
  | .lambda span ps defaults keywordDefaults body, w =>
      let w := exprs site keywordDefaults (exprs site defaults w)
      let (inside, w) := w.enter site "lambda" span.line
      expr inside body (parameters inside ps w)
  | .comprehension span kind results _ target iterable conditions further, w =>
      let w := expr site iterable w
      let (inside, w) := w.enter site (Collect.scopeName kind) span.line
      let w := exprs inside conditions (expr inside target w)
      exprs inside results (clauses inside further w)

/-- Visit expressions in order. -/
def exprs (site : Site) : List Expr → Walk → Walk
  | [], w => w
  | e :: es, w => exprs site es (expr site e w)

/-- Visit the further clauses of a comprehension. -/
def clauses (site : Site) : List Clause → Walk → Walk
  | [], w => w
  | .mk _ target iterable conditions :: rest, w =>
      let w := exprs site conditions (expr site iterable (expr site target w))
      clauses site rest w

end

mutual

/-- Visit a pattern. The names it binds are no uses. -/
def pattern (site : Site) : Pattern → Walk → Walk
  | .mk _ _ expressions parts _, w => patterns site parts (exprs site expressions w)

/-- Visit patterns in order. -/
def patterns (site : Site) : List Pattern → Walk → Walk
  | [], w => w
  | p :: ps, w => patterns site ps (pattern site p w)

end

/-- The hints of a signature, those of variadic parameters last. -/
def hintsOf (s : Signature) : List Expr :=
  let of (roles : List ParameterRole) : List Expr :=
    (s.parameters.filter fun p => roles.contains p.role).filterMap (·.hint)
  of [.positionalOnly] ++ of [.positional] ++ of [.keywordOnly] ++ of [.variadic] ++
    of [.variadicKeyword]

/-- Record the names that an import binds. -/
def imports (site : Site) (bound : Alias → String) (names : List Alias) (w : Walk) : Walk :=
  names.foldl
    (fun w a => w.record site.file (bound a) (rangeOf site.file a.span) true .imported) w

mutual

/-- Visit a statement. -/
def stmt (site : Site) : Stmt → Walk → Walk
  | .function span isAsync name signature returns decorators body, w =>
      let keyword := if isAsync then "async def" else "def"
      let w := w.record site.file name (nameRange site.file span keyword name) true
        (site.classify name)
      let w := exprs site decorators w
      let w := exprs site signature.keywordDefaults (exprs site signature.defaults w)
      let w := exprs site returns.toList (exprs site (hintsOf signature) w)
      let (inside, w) := w.enter site name span.line
      let w := parameters inside (signature.parameters.map (·.toParameterName)) w
      stmts inside body w
  | .classDef span name bases keywords decorators body, w =>
      let w := w.record site.file name (nameRange site.file span "class" name) true
        (site.classify name)
      let w := exprs site keywords (exprs site bases (exprs site decorators w))
      let (inside, w) := w.enter site name span.line
      stmts inside body w
  | .assign _ targets value, w => expr site value (exprs site targets w)
  | .annotate _ target hint value _, w =>
      exprs site value.toList (expr site hint (expr site target w))
  | .expression _ value, w => expr site value w
  | .evaluate _ _ es, w => exprs site es w
  | .flow _ _ header body otherwise, w =>
      stmts site otherwise (stmts site body (exprs site header w))
  | .guarded _ _ body handlers otherwise final, w =>
      stmts site final (stmts site otherwise (handlersOf site handlers (stmts site body w)))
  | .branch _ subject cases, w => casesOf site cases (expr site subject w)
  | .importModules _ names, w => imports site Alias.boundByImport names w
  | .importFrom _ _ _ names, w =>
      imports site Alias.boundByFrom (names.filter fun a => !a.isStar) w
  | .globals .., w => w
  | .nonlocals .., w => w

/-- Visit statements in order. -/
def stmts (site : Site) : List Stmt → Walk → Walk
  | [], w => w
  | s :: rest, w => stmts site rest (stmt site s w)

/-- Visit handlers in order. -/
def handlersOf (site : Site) : List Handler → Walk → Walk
  | [], w => w
  | .mk span type? bound body :: rest, w =>
      let w := match bound with
        | some name =>
            w.record site.file name (rangeOf site.file span) true (site.classify name)
        | none => w
      handlersOf site rest (stmts site body (exprs site type?.toList w))

/-- Visit cases in order. -/
def casesOf (site : Site) : List Case → Walk → Walk
  | [], w => w
  | .mk p guard? body :: rest, w =>
      casesOf site rest (stmts site body (exprs site guard?.toList (pattern site p w)))

end

end Walk

/-- All uses of symbols in a module, in the order of the walk. -/
def usesOf (file : String) (top : Scope) (m : Module) : List SymbolUse :=
  (Walk.stmts { file, top } m.body {}).recorded.reverse

end Assay.Check
