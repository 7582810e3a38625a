import EcmaModule.Text.Basic

/-! Errors of the library that are no diagnostics of a source.

Each has a name, a code and a message; a cause that is known by its parts has its
wording here. -/
namespace EcmaModule

inductive Problem where
  /-- A request or a response that cannot be decoded. -/
  | decoding (message : Text)
  /-- A result that cannot be written as JSON. -/
  | serialization (message : Text)
  /-- Interning outside an open scope. -/
  | scope (message : Text)
  | unknownOperation (operation : Text)
  /-- A command line that is refused. -/
  | usage (message : Text)
  /-- A parse failure used as an error. -/
  | parse (message : Text)
  /-- A number that a primitive of the engine refuses. -/
  | range (message : Text)
  /-- An error of the caller, passed through. -/
  | foreign (message : Text)
  deriving DecidableEq, Repr

namespace Problem

def name : Problem → String
  | decoding _ => "DecodingError"
  | serialization _ => "SerializationError"
  | scope _ => "ScopeError"
  | unknownOperation _ => "UnknownOperationError"
  | usage _ => "CliUsageError"
  | parse _ => "ParseDiagnosticsError"
  | range _ => "RangeError"
  | foreign _ => "Error"

def code? : Problem → Option String
  | decoding _ => some "E_DECODE"
  | serialization _ => some "E_SERIALIZE"
  | scope _ => some "E_SCOPE"
  | unknownOperation _ => some "E_UNKNOWN_OP"
  | usage _ => some "E_USAGE"
  | parse _ => some "E_PARSE"
  | range _ => none
  | foreign _ => none

def message : Problem → Text
  | decoding m => m
  | serialization m => m
  | scope m => m
  | unknownOperation o => Text.ofString "Unknown operation: " ++ o
  | usage m => m
  | parse m => m
  | range m => m
  | foreign m => m

/-! ### Causes -/

def outsideScope (name : Text) : Problem :=
  scope (Text.ofString "Cannot intern '" ++ name ++ Text.ofString "' outside an active parse scope")

/-- The payload is no UTF-8, or its text is no JSON, for a reason that the decoder or the reader gives. -/
def invalidPayload (reason : Text) : Problem := decoding (Text.ofString "Invalid JSON payload: " ++ reason)

/-- The decoder's reason, whatever the bytes. -/
def malformedBytes : Problem := invalidPayload "The encoded data was not valid for encoding utf-8"

/-- The reader words its reason by what it stops at. That is left to the engine, and one text stands
for all of them. -/
def malformedJson : Problem := invalidPayload "the text is not JSON"

def payloadNotObject : Problem := decoding "Payload must be a JSON object"

def fieldNotString (field : Text) : Problem :=
  decoding (Text.ofString "Field '" ++ field ++ Text.ofString "' must be a string")

def fieldNotBoolean (field : Text) : Problem :=
  decoding (Text.ofString "Field '" ++ field ++ Text.ofString "' must be a boolean")

/-- A text cannot be repeated a negative number of times. -/
def invalidCount (n : Int) : Problem := range (Text.ofString "Invalid count value: " ++ Text.ofInt n)

def responseNotString : Problem := decoding "Response must be a JSON string"

/-- The printer of the engine tells the way around the cycle. One text stands for all of them. -/
def cyclicValue : Problem := serialization "Failed to serialize result: the value holds itself"

end Problem

end EcmaModule
