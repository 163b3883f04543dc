import PolicyGate.Policy.Engine

/-!
# Engines in service

An engine serves requests one after the other. The files that its reloads read are not its own: they may
become others between any two requests. Each request is answered, and a request that fails is answered with
the failure.
-/

namespace PolicyGate

/-- What a reload reports. -/
structure ReloadReport where
  ruleCount : Nat
  warnings : List String
deriving DecidableEq, Repr

/-- What an engine says about the rule set in force. -/
structure Description where
  ruleCount : Nat
  sources : List String
  warnings : List String
  isLoaded : Bool
deriving DecidableEq, Repr

namespace RuleSet

/-- The report of a reload that gave the rule set. -/
def report (set : RuleSet) : ReloadReport := ⟨set.rules.length, set.warnings⟩

/-- The rule set in numbers, with where it came from. -/
def description (set : RuleSet) : Description :=
  ⟨set.rules.length, set.sources, set.warnings, set.isLoaded⟩

/-- The rules in their written form. -/
def written (set : RuleSet) : List Value := set.rules.map Rule.toValue

end RuleSet

/-- What an engine can be asked, and the change of the files, which asks nothing of it. -/
inductive Request where
  | files (tree : FileTree)
  | reload (paths : List Path)
  | build (paths : List Path)
  | publish (set : RuleSet)
  | evaluate (action : String) (args : Value) (context : Context)
  | resolveAction (name : String)
  | describe
  | dumpRules

/-- What the requests are answered with. -/
inductive Answer where
  /-- Nothing was asked. -/
  | noted
  | reloaded (result : Except EngineError ReloadReport)
  | built (result : Except EngineError RuleSet)
  /-- Another rule set is in force now; this is the one that was. -/
  | replaced (set : RuleSet)
  | decision (result : Except RenderError Decision)
  | action (name : String)
  | description (d : Description)
  | rules (written : List Value)

/-- Is the answer that a rule set could not be built? -/
def Answer.isFailure : Answer → Bool
  | .reloaded (.error _) | .built (.error _) => true
  | _ => false

/-- An engine and the files that it would read now. -/
structure Service where
  engine : Engine
  files : FileTree := {}

namespace Service

/-- The service after a request, and the answer. -/
def serve (s : Service) : Request → Service × Answer
  | .files tree => ({ s with files := tree }, .noted)
  | .reload paths =>
    let (engine, result) := s.engine.reload s.files paths
    ({ s with engine }, .reloaded (result.map RuleSet.report))
  | .build paths => (s, .built (s.engine.build s.files paths))
  | .publish set => ({ s with engine := s.engine.publish set }, .replaced s.engine.active)
  | .evaluate action args context => (s, .decision (s.engine.evaluate action args context))
  | .resolveAction name => (s, .action (s.engine.resolveAction name))
  | .describe => (s, .description s.engine.active.description)
  | .dumpRules => (s, .rules s.engine.active.written)

/-- The service after some requests. -/
def after (s : Service) (requests : List Request) : Service :=
  requests.foldl (fun s r => (s.serve r).1) s

/-- The answers to some requests. -/
def answers (s : Service) : List Request → List Answer
  | [] => []
  | r :: rest => (s.serve r).2 :: (s.serve r).1.answers rest

end Service
end PolicyGate
