import PolicyGate.Proofs.Policy.Folding

/-!
# One step of renaming

An action is looked up among the aliases once, and what is found is not looked up again. So an alias leads to the
same decision as the name it stands for when that name stands for itself; and when it stands for another one, the
rules for the two names are what counts (`RuleSet.evaluate_resolved`). With a chain of aliases the first of them can
allow what the second denies (`RuleSet.not_always_transparent`), and whether there is a chain can be seen from the
aliases alone (`RuleSet.transparent_iff`).
-/

namespace PolicyGate

open Attempt

namespace Decision

variable {rules : List Rule} {a b : String} {args : Value} {context : Context}

theorem remark_injective : Function.Injective remark := by
  intro a b h
  have hopened := (String.append_left_inj _).1 h
  exact (String.append_right_inj _).1 hopened

/-- A name counts only for the rules it selects, if there are any. -/
theorem ofRules_congr (h : applicable rules a = applicable rules b) (hne : applicable rules b ≠ []) :
    ofRules rules a args context = ofRules rules b args context := by
  have hsome : ¬ (applicable rules b).isEmpty = true := by simpa using hne
  rw [ofRules_eq_adding, ofRules_eq_adding]
  simp only [triggered, h, if_neg hsome]

/-- Names that no rule is for are told apart by the remark about them. -/
theorem ofRules_ne (hab : a ≠ b) (h : applicable rules a = []) :
    ofRules rules a args context ≠ ofRules rules b args context := by
  have hnone : ofRules rules a args context = .ok { reasons := [remark a] } := by
    rw [ofRules_eq_adding, triggered, h]
    rfl
  intro heq
  have hsums := sumsUp_of_ofRules (heq.symm.trans hnone)
  have hb : applicable rules b = [] := List.map_eq_nil_iff.1 hsums.evaluated.symm
  have hreasons := hsums.reasons
  rw [hb, List.isEmpty_nil, if_pos rfl] at hreasons
  exact hab (remark_injective (List.singleton_inj.1 hreasons))

end Decision

namespace RuleSet

variable {set : RuleSet} {action name next : String}

/-- The decision about an action is that about the name it stands for when this name stands for itself, or for
another one with the same rules. It is a different one when no rule is for one of the two names. -/
theorem evaluate_resolved (hname : set.resolveAction action = name) (hnext : set.resolveAction name = next)
    (args : Value) (context : Context) :
    (next = name → set.evaluate action args context = set.evaluate name args context) ∧
    (Decision.applicable set.rules next = Decision.applicable set.rules name →
      Decision.applicable set.rules name ≠ [] → set.evaluate action args context = set.evaluate name args context) ∧
    (next ≠ name → Decision.applicable set.rules next = [] ∨ Decision.applicable set.rules name = [] →
      set.evaluate action args context ≠ set.evaluate name args context) := by
  rw [evaluate, evaluate, hname, hnext]
  refine ⟨?_, fun hsame hne => (Decision.ofRules_congr hsame hne).symm, ?_⟩
  · rintro rfl
    rfl
  · rintro hother (hnone | hnone)
    · exact (Decision.ofRules_ne hother hnone).symm
    · exact Decision.ofRules_ne hother.symm hnone

theorem resolveAction_resolved
    (h : ∀ entry ∈ set.aliases, set.resolveAction (set.resolveAction entry.1) = set.resolveAction entry.1) :
    set.resolveAction (set.resolveAction action) = set.resolveAction action := by
  cases hfound : set.aliases.find? (·.1 == action) with
  | none =>
    have hitself : set.resolveAction action = action := by simp [resolveAction, hfound]
    rw [hitself, hitself]
  | some entry =>
    have hkey := List.find?_some hfound
    rw [← eq_of_beq hkey]
    exact h entry (List.mem_of_find?_eq_some hfound)

/-- Whatever the rules are, an action and the name it stands for lead to the same decision exactly when no alias leads
further in two steps than in one. -/
theorem transparent_iff :
    (∀ rules action args context, { set with rules }.evaluate action args context =
      { set with rules }.evaluate (set.resolveAction action) args context) ↔
    ∀ entry ∈ set.aliases, set.resolveAction (set.resolveAction entry.1) = set.resolveAction entry.1 := by
  constructor
  · intro h entry _
    by_contra hother
    -- without rules there is nothing but the name to tell the decisions apart
    exact Decision.ofRules_ne (Ne.symm hother) rfl (h [] entry.1 .null [])
  · intro h rules action args context
    exact congrArg (Decision.ofRules rules · args context) (resolveAction_resolved h).symm

/-! ### An alias of an alias -/

/-- What is deployed is created on the platform, and what is created there is created in the cloud; only there is
something demanded of it. -/
def chained : Value := .record
  [("aliases", .record [("deploy", .str "platform.create_storage_account"),
      ("platform.create_storage_account", .str "azure.create_storage_account")]),
   ("azure", .record [("create_storage_account", .record [("require_https_only", .bool true)])])]

/-- The second alias is as good as the name it stands for, and the first is not. -/
theorem chained_resolved : ∃ set, ofDocument chained "" = .ok set ∧
    set.resolveAction "deploy" = "platform.create_storage_account" ∧
    set.resolveAction "platform.create_storage_account" = "azure.create_storage_account" ∧
    set.resolveAction "azure.create_storage_account" = "azure.create_storage_account" ∧
    set.evaluate "platform.create_storage_account" .null [] = set.evaluate "azure.create_storage_account" .null [] ∧
    set.evaluate "deploy" .null [] ≠ set.evaluate "platform.create_storage_account" .null [] := by
  have hdecides : ((ofDocument chained "").toOption.map fun set =>
      (set.resolveAction "deploy", set.resolveAction "platform.create_storage_account",
        set.resolveAction "azure.create_storage_account",
        (Decision.applicable set.rules "platform.create_storage_account").isEmpty)) =
      some ("platform.create_storage_account", "azure.create_storage_account", "azure.create_storage_account",
        true) := by
    decide +kernel
  simp only [Option.map_eq_some_iff, toOption_eq_some, Prod.mk.injEq, List.isEmpty_iff] at hdecides
  obtain ⟨set, hset, hfirst, hsecond, hthird, hnone⟩ := hdecides
  exact ⟨set, hset, hfirst, hsecond, hthird, (evaluate_resolved hsecond hthird .null []).1 rfl,
    (evaluate_resolved hfirst hsecond .null []).2.2 (by decide) (.inr hnone)⟩

/-- So an alias is not always as good as the name it stands for: the first one allows what the second denies. -/
theorem not_always_transparent :
    ¬ ∀ (raw : Value) (profile action : String) (args : Value) (context : Context) (set : RuleSet),
      ofDocument raw profile = .ok set →
        set.evaluate action args context = set.evaluate (set.resolveAction action) args context := by
  intro h
  have hdecides : ((ofDocument chained "").toOption.map fun set =>
      ["deploy", set.resolveAction "deploy"].map fun action =>
        (set.evaluate action .null []).toOption.map (·.verdict)) = some [some .allow, some .deny] := by
    decide +kernel
  simp only [List.map_cons, List.map_nil, Option.map_eq_some_iff, toOption_eq_some, List.cons.injEq,
    and_true] at hdecides
  obtain ⟨set, hset, ⟨d, hd, hallow⟩, e, he, hdeny⟩ := hdecides
  rw [h chained "" "deploy" .null [] set hset] at hd
  obtain rfl := Except.ok.inj (hd.symm.trans he)
  rw [hallow] at hdeny
  cases hdeny

end RuleSet
end PolicyGate
