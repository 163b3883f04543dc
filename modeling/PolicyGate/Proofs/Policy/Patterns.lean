import PolicyGate.Policy.Intent
import PolicyGate.Proofs.Attempt
import PolicyGate.Proofs.Regex.Framing
import PolicyGate.Proofs.Regex.Joining

/-!
# Patterns in policies

A policy can deny names by a pattern and ask for targets by several patterns. The check for this is a single pattern
that is put together from the given ones. A denied pattern is negated exactly. Targets pass when one of the patterns is
found, unless the patterns get in each other's way: the number of a group means another group behind other patterns.
-/

namespace PolicyGate

open Attempt Regex

/-! ## Checks of a pattern -/

theorem acceptPattern_eq_ok {text : String} {cause : Fault → Unusable} {u : Unit} :
    acceptPattern text cause = .ok u ↔ ∃ p, Pattern.compile text false = .ok p := by
  unfold acceptPattern
  cases Pattern.compile text false with
  | ok p => simp
  | error fault => simp

namespace Check

variable {check : Check} {pattern : Option String} {ignoreCase : Bool}

theorem violation_of_resolve {args : Value} {found : Option Value} (h : check.resolve args = .ok found) :
    check.violation args = check.violationOf found := by
  unfold violation
  rw [h]
  rfl

/-- The value under a key is found by its path, if the key has no dots. -/
theorem resolve_record {key : String} {v : Value} (hkey : check.path = key) (hne : key.isEmpty = false)
    (hpath : FieldPath.segments key = [key]) (hv : v ≠ .null) :
    check.resolve (.record [(key, v)]) = .ok (some v) := by
  subst hkey
  have hfield : Value.field? [(.str check.path, v)] check.path = some v := by
    simp [Value.field?, Value.get?, Value.same]
  have hwalk : FieldPath.resolve (.record [(check.path, v)]) check.path = .ok (some v) := by
    unfold FieldPath.resolve
    rw [hne, hpath]
    simp [FieldPath.walk, FieldPath.step, Value.record, hfield]
  have hfind : resolve.find (.record [(check.path, v)]) check.path = .ok (some v) := by
    rw [resolve.find, hwalk]
    rfl
  show (resolve.find (.record [(check.path, v)]) check.path).bind _ = _
  rw [hfind]
  show check.fallbacks.foldlM _ (some v) = _
  -- no fallback takes the place of a value that was found
  refine foldlM_of_stays (fun path => ?_) _
  cases v with
  | null => exact absurd rfl hv
  | _ => rfl

end Check

/-! ## Denied patterns -/

namespace Intent

variable {pattern name : String} {check : Check}

variable {path message : String} {fallbacks patterns : List String}

/-- Patterns that both capture something. The second one asks for a repetition of what its own group has captured. -/
def repeated : List String := ["(a)", "(b)\\1"]

end Intent

end PolicyGate
