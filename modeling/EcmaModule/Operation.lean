import EcmaModule.Engine
import EcmaModule.Json.Printer
import EcmaModule.Json.Reader
import EcmaModule.Problem

/-! The operations on byte buffers.

A request is the UTF-8 text of a JSON object. A response is the JSON encoding of a
string that itself holds JSON text, so a reader decodes twice. A request that
cannot be decoded is answered, not refused. -/
namespace EcmaModule.Operation

open Utf8 (Bytes)

/-! ### Serialization -/

mutual

/-- Whether a value holds a reference to something that encloses it. -/
def isCyclic : Value → Bool
  | .enclosing => true
  | .array items => anyCyclic items
  | .object fields => anyFieldCyclic fields
  | _ => false

def anyCyclic : List Value → Bool
  | [] => false
  | v :: rest => isCyclic v || anyCyclic rest

def anyFieldCyclic : List (Text × Value) → Bool
  | [] => false
  | f :: rest => isCyclic f.2 || anyFieldCyclic rest

end

/-- The gap of an indent width: an integer part of at most ten, nothing below one. -/
def gapOf (space : Number) : Text := Text.replicate (min space.toIndex.toNat 10) 0x20

/-- The JSON text of a value; there is none for `undefined`. -/
def serialize (v : Value) (gap : Text) : Except Problem (Option Text) :=
  if isCyclic v then .error .cyclicValue
  else
    match v with
    | .undefined => .ok none
    | v => .ok (some (Json.print gap v))

/-! ### Envelopes -/

/-- A response that carries a JSON text. -/
def encodeResult (json : Text) : Bytes := Utf8.encode (Json.quote json)

/-- Why a response cannot be decoded. -/
inductive ResponseFault where
  | malformedBytes
  | malformedJson
  | notString
  deriving DecidableEq, Repr

/-- The JSON text that a response carries. -/
def decodeResult (bytes : Bytes) : Except ResponseFault Text :=
  match Utf8.decode? bytes with
  | none => .error .malformedBytes
  | some t =>
    match Json.read? t with
    | none => .error .malformedJson
    | some (.string s) => .ok s
    | some _ => .error .notString

/-- The value of a request, which must be an object. -/
def decodeObject (payload : Bytes) : Except Problem Value :=
  match Utf8.decode? payload with
  | none => .error .malformedBytes
  | some t =>
    match Json.read? t with
    | none => .error .malformedJson
    | some v => if v.isRecord then .ok v else .error .payloadNotObject

def stringField (request : Value) (field : Text) : Except Problem Text :=
  match request.get field with
  | .string t => .ok t
  | _ => .error (.fieldNotString field)

def booleanField (request : Value) (field : Text) : Except Problem Bool :=
  match request.get field with
  | .bool b => .ok b
  | _ => .error (.fieldNotBoolean field)

/-- The source of a parse request. -/
def decodeParseArguments (payload : Bytes) : Except Problem Text := do
  let request ← decodeObject payload
  stringField request "src"

/-- The source of an analysis request, and whether `import()` counts. -/
def decodeAnalyzerArguments (payload : Bytes) : Except Problem (Text × Bool) := do
  let request ← decodeObject payload
  let source ← stringField request "src"
  let dynamic ← booleanField request "dynamic"
  return (source, dynamic)

/-! ### Operations -/

/-- Answers with the JSON text of a body. Problems of decoding and of serialization
become results; any other comes out. -/
def runOperation (body : Except Problem Text) : Except Problem Bytes :=
  match body with
  | .ok json => .ok (encodeResult json)
  | .error (.decoding m) => .ok (encodeResult (Json.quote (Text.ofString "decode_error: " ++ m)))
  | .error (.serialization m) => .ok (encodeResult (Json.quote (Text.ofString "serialize_error: " ++ m)))
  | .error p => .error p

/-- The JSON text of an outcome: the module, or the message of the failure. -/
def outcomeText : Outcome → Except Problem Text
  | .ok module => (serialize module []).map (·.getD [])
  | .failed f => .ok (Json.quote f.message)

/-- The result of an analysis whose source does not parse. -/
def parseErrorSentinel : Text := "parse_error"

/-- The JSON text of a listing. -/
def listingText : Engine.Listing → Text
  | .ok dependencies => Json.compact (.array (dependencies.map Value.string))
  | .failed _ => Json.quote parseErrorSentinel

inductive Name where
  | parse
  | parseTypeScript
  | extractDependencies
  deriving DecidableEq, Repr

/-- All operations. -/
def Name.all : List Name := [.parse, .parseTypeScript, .extractDependencies]

def Name.text : Name → Text
  | .parse => "parse"
  | .parseTypeScript => "parse_ts"
  | .extractDependencies => "extract_dependencies"

/-- The operation of a name. -/
def Name.ofText? (t : Text) : Option Name := Name.all.find? fun n => n.text == t

/-- The JSON text an operation answers a payload with. -/
def body (grammar : Grammar) (operation : Name) (payload : Bytes) : Except Problem Text :=
  match operation with
  | .parse => do
    let source ← decodeParseArguments payload
    outcomeText (Engine.parseJavaScript grammar source)
  | .parseTypeScript => do
    let source ← decodeParseArguments payload
    outcomeText (Engine.parseTypeScript grammar source)
  | .extractDependencies => do
    let (source, dynamic) ← decodeAnalyzerArguments payload
    return listingText (Engine.analyze grammar {} dynamic source {}).1

/-- Runs the operation of a name on a payload. -/
def dispatch (grammar : Grammar) (name : Text) (payload : Bytes) : Except Problem Bytes :=
  match Name.ofText? name with
  | none => .error (.unknownOperation name)
  | some operation => runOperation (body grammar operation payload)

end EcmaModule.Operation
