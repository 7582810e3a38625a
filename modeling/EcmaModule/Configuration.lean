import EcmaModule.Value

/-! The configuration of a parse: the dialect and whether `import()` is allowed. -/
namespace EcmaModule

inductive Dialect where
  | javascript
  | typescript
  deriving DecidableEq, Repr

def Dialect.name : Dialect → String
  | .javascript => "javascript"
  | .typescript => "typescript"

structure Configuration where
  dialect : Dialect := .typescript
  /-- When off, every `import()` expression is reported. -/
  dynamicImport : Bool := true
  deriving DecidableEq, Repr

namespace Configuration

/-- The edition every configuration is parsed against. -/
def target : String := "es2022"

/-- The year of that edition. -/
def edition : Nat := 2022

def toValue (c : Configuration) : Value :=
  .object [("syntax", .string c.dialect.name), ("dynamicImport", .bool c.dynamicImport),
    ("target", .string target)]

/-- The options both grammars share: the edition, that sources are modules, that
positions carry lines, and that a first line may start with a hash and a bang. -/
def grammarOptions (_ : Configuration) : Value :=
  .object [("ecmaVersion", .number (.ofNat edition)), ("sourceType", .string "module"),
    ("locations", .bool true), ("allowHashBang", .bool true)]

end Configuration

end EcmaModule
