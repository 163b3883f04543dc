import PolicyGate.Proofs.Document.Removal
import PolicyGate.Proofs.Policy.Compilation
import PolicyGate.Proofs.Policy.Folding

/-!
# What advice can do

The advisory section adds rules behind those of the rest of the document (`Document.compile_withoutAdvisory`),
all of them to the effect of a warning and all of them with checks (`Advisory.IsAdvice`). So there is one way
only in which advice comes to a denial: a check of it gives no answer, and what cannot be evaluated is denied
(`RuleSet.advice_denies_only_when_stuck`).
-/

namespace PolicyGate

open Attempt

/-- The advisory section adds advice behind the rules of the rest, and changes nothing else about them. -/
theorem Document.compile_withoutAdvisory {doc : Document} {profile : String} {c : Compiled}
    (h : doc.compile profile = .ok c) :
    ∃ base advice, c.rules = base ++ advice ∧ (∀ rule ∈ advice, Advisory.IsAdvice rule) ∧
      { doc with advisory := none }.compile profile = .ok ⟨base, []⟩ := by
  obtain ⟨ofSections, ofPolicies, ofAdvisory, hs, hp, ha, rfl⟩ := compile_eq_ok.1 h
  refine ⟨ofSections.flatten ++ ofPolicies, ofAdvisory.rules, rfl, ?_, ?_⟩
  · cases hadvisory : doc.advisory with
    | none =>
      rw [hadvisory] at ha
      simp [ha]
    | some advisory =>
      rw [hadvisory] at ha
      exact fun rule => Advisory.isAdvice_of_rules ha
  · exact compile_eq_ok.2 ⟨ofSections, ofPolicies, ⟨[], []⟩, hs, hp, rfl, by simp⟩

/-! ## Rule sets with and without advice -/

namespace RuleSet

variable {raw args : Value} {profile action : String} {set : RuleSet} {context : Context} {d : Decision}

/-- A rule set is that of its document without the advisory section, with some advice more. -/
theorem ofDocument_withoutAdvisory (h : ofDocument raw profile = .ok set) :
    ∃ bare advice, ofDocument (Document.withoutAdvisory raw) profile = .ok bare ∧
      bare.aliases = set.aliases ∧ set.rules = bare.rules ++ advice ∧
      ∀ rule ∈ advice, Advisory.IsAdvice rule := by
  obtain ⟨texts, htexts, h⟩ := bind_eq_ok.1 h
  obtain ⟨v, hv, h⟩ := bind_eq_ok.1 h
  obtain ⟨compiled, hcompiled, h⟩ := bind_eq_ok.1 h
  obtain rfl := pure_eq_ok.1 h
  obtain ⟨base, advice, hrules, hadvice, hbare⟩ :=
    Document.compile_withoutAdvisory (mapError_eq_ok.1 hcompiled)
  obtain ⟨entries, _, _, rfl, -, -, -⟩ := Shape.read_record_eq_value.1 (Document.read_eq_ok.1 hv)
  -- each stage still succeeds on the shorter document
  obtain ⟨texts', htexts'⟩ :=
    Document.exists_strictWarnings_withoutAdvisory ⟨entries, rfl⟩ (mapError_eq_ok.1 htexts)
  rw [← Document.ofValue_withoutAdvisory hv] at hbare
  refine ⟨_, advice, bind_eq_ok.2 ⟨texts', mapError_eq_ok.2 htexts', bind_eq_ok.2 ⟨_,
    Document.read_withoutAdvisory hv, bind_eq_ok.2 ⟨_, mapError_eq_ok.2 hbare, rfl⟩⟩⟩, ?_, hrules, hadvice⟩
  rw [Document.ofValue_withoutAdvisory hv]

/-- Whatever a document decides, it decides the same without its advisory section, but for one case: a piece
of advice for the action has a check that gives no answer. Then the action is denied. -/
theorem advice_denies_only_when_stuck (hset : ofDocument raw profile = .ok set)
    (hd : set.evaluate action args context = .ok d) :
    ∃ bare e advice, ofDocument (Document.withoutAdvisory raw) profile = .ok bare ∧
      bare.evaluate action args context = .ok e ∧
      set.rules = bare.rules ++ advice ∧ (∀ rule ∈ advice, rule.effect = .warn) ∧
      (d.verdict = .deny ↔ e.verdict = .deny ∨
        ∃ rule ∈ advice, rule.target.covers (set.resolveAction action) = true ∧
          rule.HasStuckCheck args) := by
  obtain ⟨bare, advice, hbare, haliases, hrules, hadvice⟩ := ofDocument_withoutAdvisory hset
  have hresolve : bare.resolveAction action = set.resolveAction action := by
    rw [resolveAction, resolveAction, haliases]
  obtain ⟨e, he⟩ : ∃ e, bare.evaluate action args context = .ok e := by
    refine Decision.exists_ofRules.2 fun rule hrule => ?_
    rw [hresolve]
    refine Decision.exists_ofRules.1 ⟨d, hd⟩ rule ?_
    rw [hrules]
    exact List.mem_append_left _ hrule
  refine ⟨bare, e, advice, hbare, he, hrules, fun rule hr => (hadvice rule hr).warns, ?_⟩
  rw [Decision.verdict_of_ofRules hd, Decision.verdict_of_ofRules he, hresolve, hrules]
  simp only [List.mem_append, or_and_right, exists_or]
  -- The rules of the rest are the same; advice denies exactly when it is stuck.
  refine or_congr_right (exists_congr fun rule => and_congr_right fun hr => and_congr_right fun _ => ?_)
  rw [Decision.denies_iff_isStuck (hadvice rule hr).warns, Rule.isStuck_iff (hadvice rule hr).looks]

/-! ### Advice that cannot be evaluated -/

/-- What comes of a document and a call of it can be read off the verdict. -/
theorem exists_of_verdict {v : Verdict}
    (h : ((ofDocument raw profile).toOption.bind fun set =>
      (set.evaluate action args context).toOption.map (·.verdict)) = some v) :
    ∃ set d, ofDocument raw profile = .ok set ∧ set.evaluate action args context = .ok d ∧
      d.verdict = v := by
  obtain ⟨set, hset, h⟩ := Option.bind_eq_some_iff.1 h
  obtain ⟨d, hd, hv⟩ := Option.map_eq_some_iff.1 h
  exact ⟨set, d, toOption_eq_some.1 hset, toOption_eq_some.1 hd, hv⟩

/-- A document with nothing but an advisory policy. The one value it allows has too many digits to be
written, so nothing can be compared with it. -/
def longAdvice : Value := .record [("ato", .record [("policies", .list [.record
  [("id", .str "a"), ("target", .record [("prefix", .str "azure")]), ("checks", .list [.record
    [("type", .str "allowedValues"), ("path", .str "sku"), ("values", .list [.int (.ofNat (Nat.pow 16 3600))])]])]])])]

/-- Arguments with a value at the place the advice looks at. -/
def standardSku : Value := .record [("sku", .str "standard")]

theorem longAdvice_denies : ∃ set d, ofDocument longAdvice "" = .ok set ∧
    set.evaluate "azure.create_key_vault" standardSku [] = .ok d ∧ d.verdict = .deny :=
  exists_of_verdict (by decide +kernel)

theorem longAdvice_allows_without : ∃ bare e,
    ofDocument (Document.withoutAdvisory longAdvice) "" = .ok bare ∧
    bare.evaluate "azure.create_key_vault" standardSku [] = .ok e ∧ e.verdict = .allow :=
  exists_of_verdict (by decide +kernel)

/-- The action is denied, and it is so by a piece of advice that cannot be evaluated. -/
theorem longAdvice_denies_only_when_stuck :
    ∃ set d bare advice, ofDocument longAdvice "" = .ok set ∧
      set.evaluate "azure.create_key_vault" standardSku [] = .ok d ∧ d.verdict = .deny ∧
      ofDocument (Document.withoutAdvisory longAdvice) "" = .ok bare ∧
      set.rules = bare.rules ++ advice ∧ (∀ rule ∈ advice, rule.effect = .warn) ∧
      ∃ rule ∈ advice, rule.target.covers (set.resolveAction "azure.create_key_vault") = true ∧
        rule.HasStuckCheck standardSku := by
  obtain ⟨set, d, hset, hd, hdeny⟩ := longAdvice_denies
  obtain ⟨bare, e, advice, hbare, he, hrules, hwarn, hiff⟩ := advice_denies_only_when_stuck hset hd
  obtain ⟨bare', e', hbare', he', hallow⟩ := longAdvice_allows_without
  obtain rfl : bare = bare' := Except.ok.inj (hbare.symm.trans hbare')
  obtain rfl : e = e' := Except.ok.inj (he.symm.trans he')
  have hstuck := (hiff.1 hdeny).resolve_left (by simp [hallow])
  exact ⟨set, d, bare, advice, hset, hd, hdeny, hbare, hrules, hwarn, hstuck⟩

/-- Without that advice the action is allowed: the advisory section alone makes it a denial. -/
theorem advice_can_deny :
    ¬ ∀ (raw : Value) (profile action : String) (set bare : RuleSet) (d e : Decision),
      ofDocument raw profile = .ok set → ofDocument (Document.withoutAdvisory raw) profile = .ok bare →
      set.evaluate action standardSku [] = .ok d → bare.evaluate action standardSku [] = .ok e →
      (d.verdict = .deny ↔ e.verdict = .deny) := by
  intro h
  obtain ⟨set, d, hset, hd, hdeny⟩ := longAdvice_denies
  obtain ⟨bare, e, hbare, he, hallow⟩ := longAdvice_allows_without
  have hiff := h _ _ _ _ _ _ _ hset hbare hd he
  rw [hdeny, hallow] at hiff
  cases hiff.1 rfl

end RuleSet
end PolicyGate
