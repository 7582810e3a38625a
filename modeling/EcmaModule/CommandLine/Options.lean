import EcmaModule.Configuration
import EcmaModule.Problem

/-! The options of the command.

Options are read from left to right, the last grammar option wins, and the first
argument that is refused is the one named. -/
namespace EcmaModule.CommandLine

structure Options where
  inputFile : Option Text := none
  dialect : Dialect := .typescript
  deps : Bool := false
  dynamic : Bool := true
  json : Bool := false
  verbose : Bool := false
  help : Bool := false
  deriving DecidableEq, Repr

/-- The name of the environment variable that sets the default grammar. -/
def environmentName : Text := "ECMAPARSE_SYNTAX"

def usageText : Text :=
  String.intercalate "\n" [
    "Usage: ecmaparse <input> [options]",
    "",
    "Options:",
    "  --ts                 Parse as TypeScript (default)",
    "  --js                 Parse as JavaScript",
    "  -d, --deps           Print the module dependencies instead of the AST",
    "  --no-dynamic         Leave import() targets out of --deps, reject import() otherwise",
    "  --json               Print diagnostics as JSON on stdout",
    "  -v, --verbose        Show context statistics on stderr",
    "  -h, --help           Show this help message",
    "",
    "Environment:",
    "  ECMAPARSE_SYNTAX     Default grammar: js or ts"]

/-- What one argument says. -/
inductive Argument where
  | dialect (d : Dialect)
  | deps
  | noDynamic
  | json
  | verbose
  | help
  | file (name : Text)
  | unknown (text : Text)
  deriving DecidableEq, Repr

/-- The options with their spellings. -/
def spellings : List (Text × Argument) :=
  [("--ts", .dialect .typescript), ("--js", .dialect .javascript), ("--deps", .deps), ("-d", .deps),
    ("--no-dynamic", .noDynamic), ("--json", .json), ("--verbose", .verbose), ("-v", .verbose),
    ("--help", .help), ("-h", .help)]

/-- An argument that starts with a dash and is no option is unknown; any other is a file. -/
def Argument.ofText (t : Text) : Argument :=
  match spellings.find? fun s => s.1 == t with
  | some (_, a) => a
  | none => if t.startsWith "-" then .unknown t else .file t

/-- The grammar an environment asks for. -/
def dialectOf (setting : Option Text) : Except Problem Dialect :=
  match setting with
  | none => .ok .typescript
  | some v =>
    if v == [] || v == Text.ofString "ts" then .ok .typescript
    else if v == Text.ofString "js" then .ok .javascript
    else
      .error (.usage (Text.ofString "ECMAPARSE_SYNTAX must be 'js' or 'ts', got '" ++ v ++ Text.ofString "'"))

/-- The options after one more argument. -/
def step (o : Options) (arg : Text) : Except Problem Options :=
  match Argument.ofText arg with
  | .dialect d => .ok { o with dialect := d }
  | .deps => .ok { o with deps := true }
  | .noDynamic => .ok { o with dynamic := false }
  | .json => .ok { o with json := true }
  | .verbose => .ok { o with verbose := true }
  | .help => .ok { o with help := true }
  | .file name =>
    if o.inputFile.isSome then .error (.usage (Text.ofString "Unexpected extra argument: " ++ name))
    else .ok { o with inputFile := some name }
  | .unknown t => .error (.usage (Text.ofString "Unknown option: " ++ t))

/-- The options of an argument list and of the environment variable. -/
def parseArguments (args : List Text) (setting : Option Text) : Except Problem Options := do
  let dialect ← dialectOf setting
  let o ← args.foldlM step { dialect }
  if !o.help && o.inputFile.isNone then throw (.usage "No input file specified")
  return o

/-- The configuration of a run. When dependencies are listed, `import()` stays
allowed and is left out of the list instead. -/
def Options.configuration (o : Options) : Configuration :=
  { dialect := o.dialect, dynamicImport := o.deps || o.dynamic }

def Options.toValue (o : Options) : Value :=
  .object [("inputFile", match o.inputFile with | none => .null | some f => .string f),
    ("syntax", .string o.dialect.name), ("deps", .bool o.deps), ("dynamic", .bool o.dynamic),
    ("json", .bool o.json), ("verbose", .bool o.verbose), ("help", .bool o.help)]

end EcmaModule.CommandLine
