import PolicyGate.Policy.Rule
import PolicyGate.Proofs.Attempt
import PolicyGate.Proofs.Value.Holding

/-!
# When templates can be rendered

Rendering asks the context for the keys of the placeholders and for nothing else, and only one thing can go
wrong with a key: the context has a value for it that is too long to be written. So a template can be rendered
exactly when the context can write all of its keys (`exists_render`), a value exactly when it can write those
of all texts inside (`exists_renderValue`), and a suggestion needs a text for its text besides
(`exists_rendered`).
-/

namespace PolicyGate

/-- The context has nothing for the key, or something that has a text. -/
def Context.Writes (context : Context) (key : String) : Prop :=
  ∃ cs, Template.valueText context key = .ok cs

namespace Template

open Attempt

variable {context : Context} {key : String} {cs : List Char}

theorem not_writes_iff :
    ¬ context.Writes key ↔ ∃ v, Value.field? context key = some v ∧ v.Holds Value.IsLong := by
  simp only [← Value.text?_eq_none_iff]
  unfold Context.Writes valueText
  split
  · rename_i h
    simp [h]
  · rename_i h
    simp [h, Value.text?, Value.literal?]
  · rename_i v hnull h
    cases ht : v.text? with
    | some s => simp [h, ht]
    | none => simp [h, ht]

/-- The keys of the placeholders of a text. -/
def keys (cs : List Char) : List String :=
  match _found : placeholder? cs with
  | some (key, rest) => key :: keys rest
  | none =>
    match cs with
    | [] => []
    | _ :: rest => keys rest
termination_by cs.length
decreasing_by
  · exact length_of_placeholder? _found
  · simp

theorem renderChars_of_placeholder {rest : List Char} (h : placeholder? cs = some (key, rest)) :
    renderChars context cs =
      (do return (← valueText context key) ++ (← renderChars context rest)) := by
  rw [renderChars]
  split
  · rename_i key' rest' h'
    rw [h] at h'
    simp only [Option.some.injEq, Prod.mk.injEq] at h'
    obtain ⟨rfl, rfl⟩ := h'
    rfl
  · rename_i h'
    rw [h] at h'
    cases h'

theorem renderChars_cons {c : Char} {rest : List Char} (h : placeholder? (c :: rest) = none) :
    renderChars context (c :: rest) = (do return c :: (← renderChars context rest)) := by
  rw [renderChars]
  split
  · rename_i h'
    rw [h] at h'
    cases h'
  · rfl

theorem keys_of_placeholder {rest : List Char} (h : placeholder? cs = some (key, rest)) :
    keys cs = key :: keys rest := by
  rw [keys]
  split
  · rename_i key' rest' h'
    rw [h] at h'
    simp only [Option.some.injEq, Prod.mk.injEq] at h'
    obtain ⟨rfl, rfl⟩ := h'
    rfl
  · rename_i h'
    rw [h] at h'
    cases h'

theorem keys_cons {c : Char} {rest : List Char} (h : placeholder? (c :: rest) = none) :
    keys (c :: rest) = keys rest := by
  rw [keys]
  split
  · rename_i h'
    rw [h] at h'
    cases h'
  · rfl

theorem exists_renderChars :
    (∃ out, renderChars context cs = .ok out) ↔ ∀ key ∈ keys cs, context.Writes key := by
  -- both functions look for the next placeholder, so the cases are those of the search
  induction cs using keys.induct with
  | case1 cs key rest found ih =>
    rw [renderChars_of_placeholder found, keys_of_placeholder found, List.forall_mem_cons, ← ih]
    simp only [bind_eq_ok, pure_eq_ok]
    constructor
    · rintro ⟨out, v, hv, others, hothers, -⟩
      exact ⟨⟨v, hv⟩, ⟨others, hothers⟩⟩
    · rintro ⟨⟨v, hv⟩, ⟨others, hothers⟩⟩
      exact ⟨_, v, hv, others, hothers, rfl⟩
  | case2 found =>
    have hrender : renderChars context [] = .ok [] := by
      rw [renderChars]
      rfl
    have hkeys : keys [] = [] := by
      rw [keys]
      rfl
    simp [hrender, hkeys]
  | case3 c rest found ih =>
    rw [renderChars_cons found, keys_cons found, ← ih]
    simp only [bind_eq_ok, pure_eq_ok]
    constructor
    · rintro ⟨out, others, hothers, -⟩
      exact ⟨others, hothers⟩
    · rintro ⟨others, hothers⟩
      exact ⟨_, others, hothers, rfl⟩

theorem exists_render {template : String} :
    (∃ text, render context template = .ok text) ↔
      ∀ key ∈ keys template.toList, context.Writes key := by
  rw [← exists_renderChars]
  constructor
  · rintro ⟨text, h⟩
    obtain ⟨out, hout, -⟩ := map_eq_ok.1 h
    exact ⟨out, hout⟩
  · rintro ⟨out, hout⟩
    exact ⟨_, map_eq_ok.2 ⟨out, hout, rfl⟩⟩

mutual

/-- The keys of the placeholders of all texts in a value; the keys of mappings are no templates. -/
def valueKeys : Value → List String
  | .str s => keys s.toList
  | .list items => itemKeys items
  | .map entries => entryKeys entries
  | _ => []

/-- The keys of the placeholders in a list of values. -/
def itemKeys : List Value → List String
  | [] => []
  | v :: rest => valueKeys v ++ itemKeys rest

/-- The keys of the placeholders in the values of some entries. -/
def entryKeys : List (Value × Value) → List String
  | [] => []
  | (_, v) :: rest => valueKeys v ++ entryKeys rest

end

mutual

theorem exists_renderValue (context : Context) (v : Value) :
    (∃ w, renderValue context v = .ok w) ↔ ∀ key ∈ valueKeys v, context.Writes key := by
  cases v with
  | str s =>
    simp only [renderValue, valueKeys, map_eq_ok]
    rw [← exists_render]
    exact ⟨fun ⟨_, text, h, _⟩ => ⟨text, h⟩, fun ⟨text, h⟩ => ⟨_, text, h, rfl⟩⟩
  | list items =>
    simp only [renderValue, valueKeys, map_eq_ok]
    rw [← exists_renderItems context items]
    exact ⟨fun ⟨_, items, h, _⟩ => ⟨items, h⟩, fun ⟨items, h⟩ => ⟨_, items, h, rfl⟩⟩
  | map entries =>
    simp only [renderValue, valueKeys, map_eq_ok]
    rw [← exists_renderEntries context entries]
    exact ⟨fun ⟨_, entries, h, _⟩ => ⟨entries, h⟩, fun ⟨entries, h⟩ => ⟨_, entries, h, rfl⟩⟩
  | _ => simp [renderValue, valueKeys]

theorem exists_renderItems (context : Context) (items : List Value) :
    (∃ ws, renderItems context items = .ok ws) ↔ ∀ key ∈ itemKeys items, context.Writes key := by
  cases items with
  | nil => simp [renderItems, itemKeys]
  | cons v rest =>
    simp only [renderItems, itemKeys, List.forall_mem_append, bind_eq_ok, pure_eq_ok]
    rw [← exists_renderValue context v, ← exists_renderItems context rest]
    constructor
    · rintro ⟨_, first, hfirst, others, hothers, -⟩
      exact ⟨⟨first, hfirst⟩, ⟨others, hothers⟩⟩
    · rintro ⟨⟨first, hfirst⟩, ⟨others, hothers⟩⟩
      exact ⟨_, first, hfirst, others, hothers, rfl⟩

theorem exists_renderEntries (context : Context) (entries : List (Value × Value)) :
    (∃ es, renderEntries context entries = .ok es) ↔
      ∀ key ∈ entryKeys entries, context.Writes key := by
  cases entries with
  | nil => simp [renderEntries, entryKeys]
  | cons e rest =>
    obtain ⟨k, v⟩ := e
    simp only [renderEntries, entryKeys, List.forall_mem_append, bind_eq_ok, pure_eq_ok]
    rw [← exists_renderValue context v, ← exists_renderEntries context rest]
    constructor
    · rintro ⟨_, first, hfirst, others, hothers, -⟩
      exact ⟨⟨first, hfirst⟩, ⟨others, hothers⟩⟩
    · rintro ⟨⟨first, hfirst⟩, ⟨others, hothers⟩⟩
      exact ⟨_, first, hfirst, others, hothers, rfl⟩

end

end Template

namespace Suggestion

open Attempt

/-- The keys of the placeholders of a suggestion, in its text and in its fix. -/
def keys (s : Suggestion) : List String :=
  Template.valueKeys s.text ++ (s.fix.map Template.valueKeys).getD []

/-- A suggestion can be rendered when its text is a text and the context can write all keys. -/
theorem exists_rendered {context : Context} {s : Suggestion} :
    (∃ t, s.rendered context = .ok t) ↔
      (∃ template, s.text = .str template) ∧ ∀ key ∈ s.keys, context.Writes key := by
  obtain ⟨text, title, fix⟩ := s
  cases text with
  | str template =>
    have htext : (∃ t, Template.render context template = .ok t) ↔
        ∀ key ∈ Template.keys template.toList, context.Writes key := Template.exists_render
    cases fix with
    | none =>
      simp only [rendered, keys, Template.valueKeys, bind_eq_ok, pure_eq_ok]
      simp [← htext]
    | some fix =>
      have hfix := Template.exists_renderValue context fix
      simp only [rendered, keys, Template.valueKeys, Option.map_some, Option.getD_some,
        List.forall_mem_append, bind_eq_ok, map_eq_ok, pure_eq_ok]
      rw [← htext, ← hfix]
      constructor
      · rintro ⟨_, text, ht, _, ⟨w, hw, -⟩, -⟩
        exact ⟨⟨template, rfl⟩, ⟨text, ht⟩, ⟨w, hw⟩⟩
      · rintro ⟨-, ⟨text, ht⟩, ⟨w, hw⟩⟩
        exact ⟨_, text, ht, _, ⟨w, hw, rfl⟩, rfl⟩
  | _ => simp [rendered, bind, Except.bind, throw, throwThe, MonadExceptOf.throw]

end Suggestion
end PolicyGate
