import PolicyGate.Policy.RuleSet
import PolicyGate.Settings.Basic
import PolicyGate.Source.Loading

/-!
# Engines

An engine answers with the rule set that was published last. A reload builds a rule set from files and
publishes it; if anything goes wrong on the way, the engine goes on with the one it has.
-/

namespace PolicyGate

/-- Why no rule set can be built. -/
inductive EngineError where
  | load (cause : LoadError)
  | document (cause : DocumentError)

/-- The rules that are in force, and the advisory profile that rule sets are built for. -/
structure Engine where
  profile : String := ""
  active : RuleSet := {}

namespace Engine

/-- The rule set of what was loaded. -/
def ruleSetOf (profile : String) (loaded : LoadedPolicy) : Except DocumentError RuleSet :=
  (RuleSet.ofDocument loaded.raw profile).map fun set =>
    { set with warnings := loaded.warnings ++ set.warnings, sources := loaded.sources.map Path.text }

/-- The rule set that some paths give. A conflict between documents counts against the document. -/
def build (engine : Engine) (tree : FileTree) (paths : List Path) : Except EngineError RuleSet :=
  match LoadedPolicy.ofPaths tree paths with
  | .error (.merge (.conflict cause)) => .error (.document (.conflict cause))
  | .error cause => .error (.load cause)
  | .ok loaded => (ruleSetOf engine.profile loaded).mapError .document

/-- The engine with another rule set in force. -/
def publish (engine : Engine) (set : RuleSet) : Engine := { engine with active := set }

/-- The engine after a reload, and what the reload came to. -/
def reload (engine : Engine) (tree : FileTree) (paths : List Path) :
    Engine × Except EngineError RuleSet :=
  match engine.build tree paths with
  | .ok set => (engine.publish set, .ok set)
  | .error e => (engine, .error e)

/-- A new engine with the rules that the settings name. -/
def ofSettings (settings : Settings) (tree : FileTree) : Except EngineError Engine :=
  let engine : Engine := { profile := settings.profile }
  (engine.build tree settings.rulePaths).map engine.publish

/-- The engine's answer about an action. -/
def evaluate (engine : Engine) (action : String) (args : Value) (context : Context) :
    Except RenderError Decision :=
  engine.active.evaluate action args context

/-- The action that a name stands for. -/
def resolveAction (engine : Engine) (name : String) : String := engine.active.resolveAction name

end Engine
end PolicyGate
