import EcmaModule.Proofs.Engine.Outcome
import EcmaModule.Session

/-! Programs of a client.

A client parses on one context, hands continuations to its parses, opens scopes, and goes
on from what it is answered: it may throw anywhere, and it may catch what a body or a
continuation has thrown. Whatever it does, a run is a sequence of parses, with scopes
opened and closed and names interned in between (`run_ran`). So what every parse keeps
holds after a run, and `parses` lists the parses of a run with the failures they came to,
in the order in which these were determined. -/
namespace EcmaModule.Session

open Engine

/-- What a parse is asked for. The grammar may behave differently from one to the next. -/
structure Request where
  grammar : Grammar
  config : Configuration
  name : Text
  source : Text

/-- A program that throws `ε` or returns `α`. A step goes on from its answer; where a body
or a continuation has ended, from what it threw or returned. -/
inductive Client (ε α : Type) where
  | done (result : Except ε α)
  | parse (request : Request) (next : Outcome → Client ε α)
  | parseThen (request : Request) (continuation : Outcome → Client ε α)
    (next : Except ε α → Client ε α)
  | analyze (grammar : Grammar) (config : Configuration) (dynamic : Bool) (source : Text)
    (next : Listing → Client ε α)
  | enter (body : Client ε α) (next : Except ε α → Client ε α)
  /-- Interns a name; there is no number for it outside a scope. -/
  | intern (name : Text) (next : Option Nat → Client ε α)

/-- A parse that took place: the number of its file, and the failure it came to, if any. -/
structure Parse where
  request : Request
  number : Nat
  failure? : Option Failure

def failureOf? : Outcome → Option Failure
  | .ok _ => none
  | .failed f => some f

def failureOfListing? : Listing → Option Failure
  | .ok _ => none
  | .failed f => some f

namespace Request

/-- The parse of a request, its scope being open. -/
def register (r : Request) (c : Context) : Outcome × Context :=
  Engine.register r.grammar r.config r.name r.source c

/-- The grammar's run on the source. -/
def run (r : Request) : Grammar.Run := r.grammar r.config.dialect r.source

/-- What the parse of a request leaves behind. -/
def transcript (r : Request) : Transcript := .ofRun r.name r.source r.config.dynamicImport r.run

/-- The parse of a request in a context, and what it comes to. -/
def parseIn (r : Request) (c : Context) : Parse :=
  ⟨r, c.sources.files.length, failureOf? (r.register c).1⟩

theorem transcript_error (r : Request) : ∀ d ∈ r.transcript.records, d.severity = .error :=
  Transcript.ofRun_error _ _ _ _

/-- A parse behind which nothing is held, read off its transcript. -/
theorem register_eq_parsed (r : Request) {c : Context} (hheld : c.pipeline.pending = []) :
    r.register c = (verdict r.transcript.records r.run.ending, parsed r.transcript r.name r.source c) := by
  have h := register_eq r.grammar r.config r.name r.source (Pipeline.orderly_of_empty hheld)
  rwa [hheld] at h

end Request

namespace Client
variable {ε α : Type}

/-- What a client throws or returns, and the context it leaves. -/
def run : Client ε α → Context → Except ε α × Context
  | done result, c => (result, c)
  | parse r next, c =>
    let (o, c) := parseModule r.grammar r.config r.name r.source c
    (next o).run c
  | parseThen r continuation next, c =>
    let (result, c) := Engine.parseThen r.grammar r.config r.name r.source
      (fun o c => (continuation o).run c) c
    (next result).run c
  | analyze grammar config dynamic source next, c =>
    let (l, c) := Engine.analyze grammar config dynamic source c
    (next l).run c
  | enter body next, c =>
    let (result, c) := Engine.enter (fun c => body.run c) c
    (next result).run c
  | intern name next, c =>
    match c.atoms.intern? name with
    | none => (next none).run c
    | some (n, atoms) => (next (some n)).run {c with atoms := atoms}

/-- The parses of a run, in the order in which it was determined what they come to: a parse
stands before those of its continuation. -/
def parses : Client ε α → Context → List Parse
  | done _, _ => []
  | parse r next, c =>
    let (o, c') := parseModule r.grammar r.config r.name r.source c
    ⟨r, c.sources.files.length, failureOf? o⟩ :: (next o).parses c'
  | parseThen r continuation next, c =>
    let (o, within) := r.register {c with atoms := c.atoms.opened}
    let (result, c') := Engine.parseThen r.grammar r.config r.name r.source
      (fun o c => (continuation o).run c) c
    ⟨r, c.sources.files.length, failureOf? o⟩ ::
      ((continuation o).parses within ++ (next result).parses c')
  | analyze grammar config dynamic source next, c =>
    let (l, c') := Engine.analyze grammar config dynamic source c
    ⟨⟨grammar, config, analysisName config.dialect, source⟩, c.sources.files.length,
      failureOfListing? l⟩ :: (next l).parses c'
  | enter body next, c =>
    let (result, c') := Engine.enter (fun c => body.run c) c
    body.parses {c with atoms := c.atoms.opened} ++ (next result).parses c'
  | intern name next, c =>
    match c.atoms.intern? name with
    | none => (next none).parses c
    | some (n, atoms) => (next (some n)).parses {c with atoms := atoms}

end Client

/-! ### Runs as sequences of parses -/

/-- A context comes from another by parses, in order; names and scopes may change between
them. -/
inductive Ran (first : Context) : List Parse → Context → Prop where
  | start : Ran first [] first
  | atoms {ps : List Parse} {c : Context} (a : Atoms) (h : Ran first ps c) :
    Ran first ps {c with atoms := a}
  | parse {ps : List Parse} {c : Context} (r : Request) (h : Ran first ps c) :
    Ran first (ps ++ [r.parseIn c]) (r.register c).2

variable {ε α : Type} {first : Context}

theorem failureOfListing_listing (dynamic : Bool) (o : Outcome) :
    failureOfListing? (listing dynamic o) = failureOf? o := by
  cases o <;> rfl

/-- A parse without continuation opens and closes its scope. -/
theorem Ran.parseModule {ps : List Parse} {c : Context} (h : Ran first ps c) (r : Request) :
    Ran first (ps ++ [⟨r, c.sources.files.length,
        failureOf? (Engine.parseModule r.grammar r.config r.name r.source c).1⟩])
      (Engine.parseModule r.grammar r.config r.name r.source c).2 :=
  ((h.atoms c.atoms.opened).parse r).atoms _

/-- **A run is a sequence of parses**, however bodies and continuations are nested, and
whatever they throw. -/
theorem run_ran (client : Client ε α) {ps : List Parse} {c : Context} (h : Ran first ps c) :
    Ran first (ps ++ client.parses c) (client.run c).2 := by
  induction client generalizing ps c with
  | done result =>
    rw [Client.parses, List.append_nil]
    exact h
  | parse r next ih =>
    have hnext := ih (Engine.parseModule r.grammar r.config r.name r.source c).1 (h.parseModule r)
    rwa [List.append_assoc] at hnext
  | parseThen r continuation next ihwithin ihnext =>
    -- The continuation runs right behind its parse, in the same scope.
    have hwithin := ihwithin (r.register {c with atoms := c.atoms.opened}).1
      ((h.atoms c.atoms.opened).parse r)
    have hclosed : Ran first _ (Engine.parseThen r.grammar r.config r.name r.source
      (fun o c => (continuation o).run c) c).2 := hwithin.atoms _
    have hnext := ihnext (Engine.parseThen r.grammar r.config r.name r.source
      (fun o c => (continuation o).run c) c).1 hclosed
    rwa [List.append_assoc, List.append_assoc] at hnext
  | analyze grammar config dynamic source next ih =>
    have hparse := h.parseModule ⟨grammar, config, analysisName config.dialect, source⟩
    have hnext := ih (Engine.analyze grammar config dynamic source c).1 hparse
    rw [List.append_assoc] at hnext
    rw [Client.parses]
    simp only [Engine.analyze, failureOfListing_listing]
    exact hnext
  | enter body next ihwithin ihnext =>
    have hwithin := ihwithin (h.atoms c.atoms.opened)
    have hclosed : Ran first _ (Engine.enter (fun c => body.run c) c).2 := hwithin.atoms _
    have hnext := ihnext (Engine.enter (fun c => body.run c) c).1 hclosed
    rwa [List.append_assoc] at hnext
  | intern name next ih =>
    rw [Client.parses, Client.run]
    cases c.atoms.intern? name with
    | none => exact ih none h
    | some answer => exact ih (some answer.1) (h.atoms answer.2)

end EcmaModule.Session
