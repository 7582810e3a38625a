import EcmaModule.Grammar.Rule.Function

/-! Objects, object patterns and templates. -/
namespace EcmaModule.Grammar.Parse

variable [Descent]

/-! ### Property names -/

/-- The name of a property, a computed one in brackets. -/
def propertyName (n : Node) : Parse Node := do
  if ← eat .bracketL then
    let n := (n.set "computed" (.bool true)).set "key" (.node (← assign))
    expect .bracketR
    return n
  else
    let n := n.set "computed" (.bool false)
    let k ← kind
    return n.set "key" (.node (← if k == .num || k == .string then atom else anyName))

/-- The property is named by this word, without brackets. -/
def isPlainKey (n : Node) (word : String) : Bool :=
  !n.isTrue "computed" && (n.child? "key").elim false fun k => k.isNamed word

/-- The property's name is an identifier, without brackets. -/
def hasNameKey (n : Node) : Bool := !n.isTrue "computed" && (n.child? "key").elim false fun k => k.is .identifier

def keyStart (n : Node) : Nat := (n.child? "key").elim n.start Node.start

/-- A property's name can start at the current token. -/
def startsPropertyName : Parse Bool := do
  let k ← kind
  return k == .bracketL || k.isPropertyName

/-- The word `async` that was read as a name stands before a method. -/
def isAsyncMark (n : Node) : Parse Bool := do
  unless isPlainKey n "async" do return false
  return ((← startsPropertyName) || (← at_ .star)) && !(← newlineBefore)

/-! ### Accessors -/

/-- What is wrong with the parameters of an accessor. -/
def checkAccessor (kind : String) (value : Node) : Parse Unit := do
  let params := value.children "params"
  if kind == "get" then
    unless params.isEmpty do complain value.start .getterParameters
  else
    match params with
    | [p] => if p.is .restElement then complain p.start .setterRest
    | _ => complain value.start .setterParameters

/-- Sets kind and value. In typed sources the kind comes first, unless the value follows
a colon. -/
def setKindAndValue (n : Node) (kind : String) (value : Parse Node) : Parse Node := do
  if ← isTyped then
    let n := n.set "kind" (.word kind)
    return n.set "value" (.node (← value))
  else return (n.set "value" (.node (← value))).set "kind" (.word kind)

/-- A getter or setter after the word that marks it. -/
def accessor (n : Node) : Parse Node := do
  let kind := ((n.child? "key").bind Node.name?).getD "get"
  let n ← propertyName n
  let n ← setKindAndValue n kind (method false false)
  if let some v := n.child? "value" then checkAccessor kind v
  return n

/-! ### Properties -/

/-- The value of a property that is named only. -/
def shorthandValue (n : Node) (isPattern : Bool) (at_ : Reader) (notes : Option NotePage) : Parse Node := do
  let some key := n.child? "key" | unexpected
  checkUnreserved key
  if key.isNamed "await" && (isPattern || notes.isSome) then noteAwaitName at_.start
  let n ← setKindAndValue n "init" do
    if isPattern then withDefault at_.start at_.startLoc key
    else if (← kind) == .eq && notes.isSome then
      let pos ← start
      note notes fun p => { p with shorthandAssign := p.shorthandAssign.or (some pos) }
      withDefault at_.start at_.startLoc key
    else return key
  return n.set "shorthand" (.bool true)

/-- What follows the name of a property. -/
def propertyValue (n : Node) (isPattern generator isAsync : Bool) (at_ : Reader) (notes : Option NotePage)
    (escaped : Bool) : Parse Node := do
  let k ← kind
  if (generator || isAsync) && k == .colon then unexpected
  if ← eat .colon then
    let value ← if isPattern then bindingWithDefault else assign .none notes
    return (n.set "value" (.node value)).set "kind" (.word "init")
  else if k == .parenL then
    if isPattern then unexpected
    setKindAndValue (n.set "method" (.bool true)) "init" (method generator isAsync)
  else if !isPattern && !escaped && (isPlainKey n "get" || isPlainKey n "set")
      && k != .comma && k != .braceR && k != .eq then
    if generator || isAsync then unexpected
    accessor n
  else if hasNameKey n then
    if generator || isAsync then unexpected
    shorthandValue n isPattern at_ notes
  else unexpected

/-- A rest or a spread after its dots. -/
def spreadProperty (n : Node) (isPattern : Bool) (notes : Option NotePage) : Parse Node := do
  if isPattern then
    let n := n.set "argument" (.node (← identifier))
    if ← at_ .comma then complain (← start) .commaAfterRest
    finish n .restElement
  else
    let n := n.set "argument" (.node (← assign .none notes))
    if ← at_ .comma then
      let pos ← start
      note notes fun p => { p with trailingComma := p.trailingComma.or (some pos) }
    finish n .spreadElement

/-- What follows the name of a property: whether it belongs to a pattern, a generator or an
async function, the reader at the property's start, the notes, and whether its first word
was escaped. -/
abbrev ReadValue := Node → Bool → Bool → Bool → Reader → Option NotePage → Bool → Parse Node

def property (value : ReadValue) (n : Node) (isPattern : Bool) (notes : Option NotePage) : Parse Node := do
  if ← eat .ellipsis then spreadProperty n isPattern notes
  else
    let n := (n.set "method" (.bool false)).set "shorthand" (.bool false)
    let first ← reader
    let generator ← if isPattern then pure false else eat .star
    let escaped := (← reader).escaped
    let n ← propertyName n
    if !isPattern && !escaped && !generator && (← isAsyncMark n) then
      let generator ← eat .star
      let n ← propertyName n
      finish (← value n isPattern generator true first notes escaped) .property
    else finish (← value n isPattern generator false first notes escaped) .property

/-! ### Objects -/

/-- The property sets the prototype of an object. -/
def setsPrototype (n : Node) : Bool :=
  !n.is .spreadElement && !n.isTrue "computed" && !n.isTrue "method" && !n.isTrue "shorthand"
    && n.word? "kind" == some "init"
    && (n.child? "key").elim false fun k =>
      k.isNamed "__proto__" || (k.is .literal && k.word? "value" == some "__proto__")

/-- Notes a second property that sets the prototype. -/
def notePrototype (n : Node) (notes : Option NotePage) : Parse Unit := do
  let pos := keyStart n
  match notes with
  | some _ => note notes fun p => { p with repeatedProto := p.repeatedProto.or (some pos) }
  | none => complain pos .repeatedProto

/-- An object, or a pattern of one; each property is read by `readProperty`. -/
def objectWith (readProperty : Parse Node) (isPattern : Bool) (notes : Option NotePage) : Parse Node := do
  let n ← startNode
  next
  let mut items : Array Node := #[]
  let mut sawPrototype := false
  for _ in [0 : ← steps] do
    if ← eat .braceR then break
    unless items.isEmpty do
      expect .comma
      if ← eatAfterComma .braceR then break
    let p ← readProperty
    if !isPattern && setsPrototype p then
      if sawPrototype then notePrototype p notes
      sawPrototype := true
    items := items.push p
  finish (n.set "properties" (.nodes items.toList)) (if isPattern then .objectPattern else .objectExpression)

def plainObject (isPattern : Bool) (notes : Option NotePage) : Parse Node :=
  objectWith (do property propertyValue (← startNode) isPattern notes) isPattern notes

/-! ### Templates -/

/-- The text with every line end written as one line feed. -/
def normalizeNewlines : Text → Text
  | [] => []
  | 13 :: 10 :: rest => 10 :: normalizeNewlines rest
  | 13 :: rest => 10 :: normalizeNewlines rest
  | u :: rest => u :: normalizeNewlines rest

/-- A stretch of text in a template. -/
def templateElement (isTagged : Bool) : Parse Node := do
  let n ← startNode
  let r ← reader
  let raw := (← source).slice r.start r.stop
  let cooked ←
    if r.kind == .invalidTemplate then do
      unless isTagged do complain r.start .badTemplateEscape
      pure Value.null
    else tokenValue
  let n := n.set "value"
    (.value (.object [("raw", .string (normalizeNewlines raw)), ("cooked", cooked)]))
  next
  finish (n.set "tail" (.bool (← at_ .backQuote))) .templateElement

/-- A template at its opening quote. -/
def template (isTagged : Bool) : Parse Node := do
  let n ← startNode
  next
  let mut expressions : Array Node := #[]
  let mut quasi ← templateElement isTagged
  let mut quasis : Array Node := #[quasi]
  for _ in [0 : ← steps] do
    if quasi.isTrue "tail" then break
    if ← at_ .eof then raise (← pos) .unterminatedTemplateLiteral
    expect .dollarBraceL
    expressions := expressions.push (← if (← types).inType then descend .type else expression)
    expect .braceR
    quasi ← templateElement isTagged
    quasis := quasis.push quasi
  next
  finish ((n.set "expressions" (.nodes expressions.toList)).set "quasis" (.nodes quasis.toList)) .templateLiteral

end EcmaModule.Grammar.Parse
