import EcmaModule.Diagnostic.Snippet
import EcmaModule.Engine
import EcmaModule.Problem

/-! Sessions: sequences of steps on one context.

A step answers or fails, and either way the session goes on from the context it
leaves. Bodies and continuations hold steps of their own, which run while the scope
is open. A list of comments, once a file has some, is one list for the whole session:
an answer that shows it shows it as it is when the session ends. -/
namespace EcmaModule.Session

/-- The grammar of a step: the library's own, or one that throws at once, after the
comment of a leading `#!` line. -/
inductive Origin where
  | library
  | fault (what : Grammar.Thrown)

/-- What follows a parse within its scope: steps, or an error of the caller. -/
inductive Step where
  | parse (file source : Text) (config : Configuration) (origin : Origin)
  | parseThen (file source : Text) (config : Configuration) (origin : Origin) (steps : List Step)
  | parseThrow (file source : Text) (config : Configuration) (origin : Origin) (message : Text)
  | analyze (source : Text) (config : Configuration) (dynamic : Bool) (origin : Origin)
  | emit (r : Record)
  | push (r : Record)
  | flush
  | flags
  | snapshot (start : Int)
  | hasErrors (start : Int)
  | newFile (name source : Text)
  | files
  | lookup (pos : Int)
  | byteOffset (file : Nat) (index : Int)
  | position (file : Nat) (index : Int)
  | lineText (file : Nat) (line : Int)
  | intern (name : Text)
  | symbol (name : Text)
  | symbols
  | enter (steps : List Step) (throwing : Option Text)
  | addComment (file : Nat) (c : Comment)
  | comments (file : Nat)
  | format (start : Int) (file : Option Nat)
  deriving Inhabited

/-- Why a step fails. -/
inductive Fault where
  | problem (p : Problem)
  /-- A record, or a file, that does not exist was asked for. -/
  | missing
  /-- A caret would stand left of its line. -/
  | outOfRange

/-- What can be seen of a context after a step. -/
structure Summary where
  files : Nat
  comments : Nat
  symbols : Nat
  active : Bool
  buffer : Nat
  pending : Nat

def summary (c : Context) : Summary where
  files := c.sources.files.length
  comments := c.comments.size
  symbols := c.atoms.count
  active := c.atoms.active
  buffer := c.pipeline.buffer.length
  pending := c.pipeline.pending.length

/-- What a step answers. -/
inductive Answer where
  | nothing
  | undefined
  | bool (b : Bool)
  | number (n : Int)
  | text (t : Text)
  | names (ts : List Text)
  | records (rs : List Record)
  | flags (f : HandlerFlags)
  | outcome (o : Outcome)
  | listing (l : Engine.Listing)
  | file (f : SourceFile)
  | files (fs : List SourceFile)
  | place (p : SourceLookup)
  | position (p : Position)
  /-- The comments of a file; one that is not registered has no number. -/
  | comments (file : Option Nat) (cs : List Comment)
  /-- The outcome a continuation saw, and the answers of its steps. -/
  | continued (active : Bool) (o : Outcome) (answers : List (Except Fault Answer × Summary))
  | steps (answers : List (Except Fault Answer × Summary))

abbrev Reply := Except Fault Answer

/-- The grammar of a step. -/
def Origin.grammar (own : Grammar) : Origin → Grammar
  | .library => own
  | .fault what => fun _ source =>
    let comment :=
      if source.startsWith "#!" then
        let rest := (source.drop 2).takeWhile fun u => !Text.isTerminator u
        [Grammar.Event.comment false rest 0 (rest.length + 2)]
      else []
    ⟨comment, .thrown what⟩

/-- A step that reads a file. -/
def withFile (c : Context) (file : Nat) (answer : SourceFile → Answer × Context) : Reply × Context :=
  match c.sources.files[file]? with
  | none => (.error .missing, c)
  | some f => let (a, c) := answer f; (.ok a, c)

/-- The number of a file, provided it is registered. -/
def registered? (c : Context) (file : Nat) : Option Nat :=
  if file < c.sources.files.length then some file else none

/-- Steps without steps of their own. -/
def simple (own : Grammar) (c : Context) : Step → Reply × Context
  | .parse file source config origin =>
    let (o, c) := Engine.parseModule (origin.grammar own) config file source c
    (.ok (.outcome o), c)
  | .parseThrow file source config origin message =>
    Engine.parseThen (origin.grammar own) config file source
      (fun _ c => (.error (.problem (.foreign message)), c)) c
  | .analyze source config dynamic origin =>
    let (l, c) := Engine.analyze (origin.grammar own) config dynamic source c
    (.ok (.listing l), c)
  | .emit r => (.ok .nothing, { c with pipeline := c.pipeline.emit r })
  | .push r => (.ok .nothing, { c with pipeline := c.pipeline.push r })
  | .flush => (.ok .nothing, { c with pipeline := c.pipeline.flush })
  | .flags => (.ok (.flags c.pipeline.flags), c)
  | .snapshot start => (.ok (.records (c.pipeline.snapshot start)), c)
  | .hasErrors start =>
    match c.pipeline.hasErrors? start with
    | none => (.error .missing, c)
    | some b => (.ok (.bool b), c)
  | .newFile name source =>
    let c := { c with sources := c.sources.newFile name source }
    (.ok (.file (c.sources.files.getLastD default)), c)
  | .files => (.ok (.files c.sources.files), c)
  | .lookup pos =>
    match c.sources.lookup pos with
    | none => (.ok .undefined, c)
    | some p => (.ok (.place p), c)
  | .byteOffset file index =>
    withFile c file fun _ =>
      let (byte, c) := Engine.resolve c file index
      (.number byte, c)
  | .position file index => withFile c file fun f => (.position (f.position index), c)
  | .lineText file line =>
    withFile c file fun f =>
      match f.lineText? line with
      | none => (.undefined, c)
      | some t => (.text t, c)
  | .intern name =>
    match c.atoms.intern? name with
    | none => (.error (.problem (.outsideScope name)), c)
    | some (n, atoms) => (.ok (.number n), { c with atoms })
  | .symbol name =>
    match c.atoms.lookup name with
    | none => (.ok .undefined, c)
    | some n => (.ok (.number n), c)
  | .symbols => (.ok (.names c.atoms.names), c)
  | .addComment file comment => (.ok .nothing, { c with comments := c.comments.add (registered? c file) comment })
  | .comments file =>
    let file := registered? c file
    (.ok (.comments file (c.comments.ofFile file)), c)
  | .format start file =>
    match Snippet.formatAll? (c.pipeline.snapshot start) (file.bind fun i => c.sources.files[i]?) with
    | none => (.error .outOfRange, c)
    | some t => (.ok (.text t), c)
  | .parseThen _ _ _ _ _ => (.error .missing, c)
  | .enter _ _ => (.error .missing, c)

mutual

/-- One step on a context. -/
def step (own : Grammar) (c : Context) : Step → Reply × Context
  | .parseThen file source config origin steps =>
    Engine.parseThen (origin.grammar own) config file source
      (fun o c =>
        let (answers, c') := run own c steps
        (.ok (.continued c.atoms.active o answers), c')) c
  | .enter steps throwing =>
    Engine.enter
      (fun c =>
        let (answers, c) := run own c steps
        match throwing with
        | none => (.ok (.steps answers), c)
        | some message => (.error (.problem (.foreign message)), c)) c
  | s => simple own c s

/-- The steps of a session, each with what can be seen after it. -/
def run (own : Grammar) (c : Context) : List Step → List (Reply × Summary) × Context
  | [] => ([], c)
  | s :: rest =>
    let (reply, c) := step own c s
    let (replies, c') := run own c rest
    ((reply, summary c) :: replies, c')

end

mutual

/-- An answer as the end of the session leaves it: a list that held comments holds those
of its file in the last context, an empty one stays empty. -/
def Answer.settle (final : Context) : Answer → Answer
  | .comments file cs => .comments file (if cs.isEmpty then [] else final.comments.ofFile file)
  | .continued active o answers => .continued active o (settleAll final answers)
  | .steps answers => .steps (settleAll final answers)
  | a => a

def settleAll (final : Context) : List (Except Fault Answer × Summary) → List (Except Fault Answer × Summary)
  | [] => []
  | reply :: rest => settleReply final reply :: settleAll final rest

def settleReply (final : Context) : Except Fault Answer × Summary → Except Fault Answer × Summary
  | (reply, s) => (settleOutcome final reply, s)

def settleOutcome (final : Context) : Except Fault Answer → Except Fault Answer
  | .ok a => .ok (a.settle final)
  | .error f => .error f

end

/-- What a whole session answers, step by step. -/
def answers (own : Grammar) (c : Context) (steps : List Step) : List (Reply × Summary) :=
  let (replies, final) := run own c steps
  settleAll final replies

end EcmaModule.Session
