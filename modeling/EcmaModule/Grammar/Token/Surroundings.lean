import EcmaModule.Grammar.State

/-! What a token changes in its surroundings.

Reading a token decides whether a slash after it would start a regular expression, and
which brackets and functions are open. -/
namespace EcmaModule.Grammar.State

def kind (s : State) : TokenKind := s.reader.kind

/-- The innermost open bracket or function. -/
def context (s : State) : TokenContext := s.reader.contexts.headD .blockStatement

def allowing (s : State) (allowed : Bool) : State := { s with exprAllowed := allowed }

def withContexts (s : State) (contexts : List TokenContext) : State :=
  { s with reader := { s.reader with contexts := contexts } }

def pushContext (s : State) (c : TokenContext) : State := s.withContexts (c :: s.reader.contexts)

def popContext (s : State) : State := s.withContexts (s.reader.contexts.drop 1)

/-- A line ends between the token before this one and this one. -/
def newlineBefore (s : State) : Bool := s.input.hasNewline s.reader.lastStop s.reader.start

/-- A brace opens a block rather than an object. -/
def braceIsBlock (s : State) (previous : TokenKind) : Bool :=
  let parent := s.context
  if parent == .functionExpression || parent == .functionStatement then true
  else if previous == .colon && (parent == .blockStatement || parent == .blockExpression) then
    parent == .blockStatement
  else if previous == .keyword .returnK || (previous == .name && s.exprAllowed) then s.newlineBefore
  else if previous == .keyword .elseK || previous == .semi || previous == .eof || previous == .parenR
      || previous == .arrow then true
  else if previous == .braceL then parent == .blockStatement
  else if previous == .keyword .varK || previous == .keyword .constK || previous == .name then false
  else !s.exprAllowed

/-- The innermost open function is a generator. -/
def inGenerator (s : State) : Bool :=
  match s.reader.contexts.dropLast.find? TokenContext.isFunction with
  | some c => c.isGenerator
  | none => false

/-- A closing bracket closes the innermost context, and with a function's block the
function. -/
def closeContext (s : State) : State :=
  match s.reader.contexts with
  | c :: f :: rest =>
    if c == .blockStatement && f.isFunction then (s.withContexts rest).allowing (!f.isExpression)
    else (s.withContexts (f :: rest)).allowing (!c.isExpression)
  | _ => s.allowing true

/-- A function or class in the place of an expression, rather than a statement. -/
def functionIsExpression (s : State) (previous : TokenKind) : Bool :=
  previous.beforeExpr && previous != .keyword .elseK
    && !(previous == .semi && s.context != .parenStatement)
    && !(previous == .keyword .returnK && s.newlineBefore)
    && !((previous == .colon || previous == .braceL) && s.context == .blockStatement)

/-- The parentheses of a statement's head. -/
def isStatementParen (previous : TokenKind) : Bool :=
  previous == .keyword .ifK || previous == .keyword .forK || previous == .keyword .withK
    || previous == .keyword .whileK

/-- A star after `function` makes it a generator. -/
def starContext (s : State) : State :=
  match s.reader.contexts with
  | .functionExpression :: rest => s.withContexts (.generatorExpression :: rest)
  | _ :: rest => s.withContexts (.generatorStatement :: rest)
  | [] => s

/-- The change made by the current token, which follows one of kind `previous`. -/
def updated (s : State) (previous : TokenKind) : State :=
  match s.kind with
  | .parenR => s.closeContext
  | .braceR => s.closeContext
  | .braceL =>
    (s.pushContext (if s.braceIsBlock previous then .blockStatement else .blockExpression)).allowing true
  | .dollarBraceL => (s.pushContext .templatePart).allowing true
  | .parenL =>
    (s.pushContext (if isStatementParen previous then .parenStatement else .parenExpression)).allowing true
  | .incDec => s
  | .colon => (if s.context.isFunction then s.popContext else s).allowing true
  | .backQuote =>
    (if s.context == .templateText then s.popContext else s.pushContext .templateText).allowing false
  | .star => (if previous == .keyword .functionK then s.starContext else s).allowing true
  | .name =>
    s.allowing (previous != .dot
      && ((s.reader.value.isWord "of" && !s.exprAllowed) || (s.reader.value.isWord "yield" && s.inGenerator)))
  | .keyword k =>
    if previous == .dot then s.allowing false
    else if k == .functionK || k == .classK then
      (s.pushContext (if s.functionIsExpression previous then .functionExpression else .functionStatement)).allowing
        false
    else s.allowing k.beforeExpr
  | k => s.allowing k.beforeExpr

/-- The current token is of this kind and value, and ends where the scanner stands. -/
def withToken (s : State) (kind : TokenKind) (value : TokenValue) : State :=
  let previous := s.kind
  let r := s.reader
  let s := { s with reader := { r with
    kind := kind, value := value, stop := r.pos, stopLoc := ⟨r.line, r.pos - r.lineStart⟩ } }
  if s.types.lookingAhead then s else s.updated previous

end EcmaModule.Grammar.State
