import Mathlib.Data.List.Basic
import PolicyGate.Value.Text

/-!
# What values hold

A value holds itself and whatever its elements, its keys and its values hold. It has a text unless it holds a
whole number that is too long to be written (`Value.text?_eq_none_iff`).
-/

namespace PolicyGate.Value

/-- Something with a property is part of the value, at any depth. -/
inductive Holds (P : Value → Prop) : Value → Prop where
  | here {v : Value} (h : P v) : Holds P v
  | item {items : List Value} {v : Value} (hv : v ∈ items) (h : Holds P v) : Holds P (.list items)
  | member {members : List Value} {v : Value} (hv : v ∈ members) (h : Holds P v) :
      Holds P (.set members)
  | key {entries : List (Value × Value)} {k v : Value} (he : (k, v) ∈ entries) (h : Holds P k) :
      Holds P (.map entries)
  | value {entries : List (Value × Value)} {k v : Value} (he : (k, v) ∈ entries) (h : Holds P v) :
      Holds P (.map entries)

/-- A whole number with more digits than may be written. -/
def IsLong (v : Value) : Prop := ∃ n, v = .int n ∧ exceedsDigitLimit n = true

/-- A mapping with a key that is no text, no flag and no whole number. -/
def HasOddKey (v : Value) : Prop :=
  ∃ entries k w, v = .map entries ∧ (k, w) ∈ entries ∧ (∀ s, k ≠ .str s) ∧ (∀ b, k ≠ .bool b) ∧
    ∀ n, k ≠ .int n

/-- What holds something holds whatever that is, besides. -/
theorem Holds.mono {P Q : Value → Prop} {v : Value} (h : v.Holds P) (hPQ : ∀ w, P w → Q w) : v.Holds Q := by
  induction h with
  | here h => exact .here (hPQ _ h)
  | item hv _ ih => exact .item hv ih
  | member hv _ ih => exact .member hv ih
  | key he _ ih => exact .key he ih
  | value he _ ih => exact .value he ih

section

variable {P : Value → Prop} {items : List Value} {entries : List (Value × Value)}

theorem holds_list_iff (hP : ¬ P (.list items)) : Holds P (.list items) ↔ ∃ v ∈ items, Holds P v := by
  constructor
  · rintro (h | ⟨hv, h⟩)
    · exact absurd h hP
    · exact ⟨_, hv, h⟩
  · rintro ⟨v, hv, h⟩
    exact .item hv h

theorem holds_set_iff (hP : ¬ P (.set items)) : Holds P (.set items) ↔ ∃ v ∈ items, Holds P v := by
  constructor
  · rintro (h | _ | ⟨hv, h⟩)
    · exact absurd h hP
    · exact ⟨_, hv, h⟩
  · rintro ⟨v, hv, h⟩
    exact .member hv h

theorem holds_map_iff (hP : ¬ P (.map entries)) :
    Holds P (.map entries) ↔ ∃ e ∈ entries, Holds P e.1 ∨ Holds P e.2 := by
  constructor
  · rintro (h | _ | _ | ⟨he, h⟩ | ⟨he, h⟩)
    · exact absurd h hP
    · exact ⟨_, he, .inl h⟩
    · exact ⟨_, he, .inr h⟩
  · rintro ⟨e, he, h | h⟩
    · exact .key he h
    · exact .value he h

end

theorem holds_int_iff {n : Int} : Holds IsLong (.int n) ↔ exceedsDigitLimit n = true := by
  constructor
  · rintro (⟨m, h, hlong⟩ | _)
    cases h
    exact hlong
  · exact fun hlong => .here ⟨n, rfl, hlong⟩

mutual

/-- A value has a literal unless it holds a whole number that is too long. -/
theorem literal?_eq_none_iff : (v : Value) → (v.literal? = none ↔ v.Holds IsLong)
  | .int n => by
    rw [holds_int_iff, literal?, intText?]
    split <;> simp [*]
  | .list items => by
    rw [holds_list_iff (by simp [IsLong]), ← literals?_eq_none_iff items, literal?]
    cases literals? items <;> simp
  | .set items => by
    rw [holds_set_iff (by simp [IsLong]), ← literals?_eq_none_iff items, literal?]
    cases literals? items <;> simp
  | .map entries => by
    rw [holds_map_iff (by simp [IsLong]), ← entryLiterals?_eq_none_iff entries, literal?]
    cases entryLiterals? entries <;> simp
  | .null | .bool _ | .float _ | .str _ | .day _ | .moment _ | .bytes _ => by
    simp only [literal?, reduceCtorEq, false_iff]
    rintro (h | _)
    simp [IsLong] at h

theorem literals?_eq_none_iff : (vs : List Value) → (literals? vs = none ↔ ∃ v ∈ vs, v.Holds IsLong)
  | [] => by simp [literals?]
  | v :: rest => by
    rw [List.exists_mem_cons_iff, ← literal?_eq_none_iff v, ← literals?_eq_none_iff rest, literals?]
    cases literal? v <;> cases literals? rest <;> simp

theorem entryLiterals?_eq_none_iff : (es : List (Value × Value)) →
    (entryLiterals? es = none ↔ ∃ e ∈ es, e.1.Holds IsLong ∨ e.2.Holds IsLong)
  | [] => by simp [entryLiterals?]
  | (k, v) :: rest => by
    rw [List.exists_mem_cons_iff, ← literal?_eq_none_iff k, ← literal?_eq_none_iff v,
      ← entryLiterals?_eq_none_iff rest, entryLiterals?]
    cases literal? k <;> cases literal? v <;> cases entryLiterals? rest <;> simp

end

/-- A value has a text unless it holds a whole number that is too long. -/
theorem text?_eq_none_iff {v : Value} : v.text? = none ↔ v.Holds IsLong := by
  rw [← literal?_eq_none_iff]
  cases v <;> simp [text?, literal?]

end PolicyGate.Value
