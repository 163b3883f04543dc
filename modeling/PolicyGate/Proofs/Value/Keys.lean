import Mathlib.Algebra.Order.Ring.Rat
import Mathlib.Tactic.FieldSimp
import PolicyGate.Value.Basic

/-!
# Keys

Keys are compared by what they count as: a flag and a number by their numerical value, a moment by its instant. So
comparing keys is an equivalence (`Value.sameKey_refl`, `Value.sameKey_symm`, `Value.sameKey_trans`), and an entry
that is put into a mapping is found under exactly the keys that count as its own (`Value.get?_put`). A number that
is none compares equal to nothing, but it counts as a key.
-/

namespace PolicyGate

/-- What a key counts as. -/
inductive KeyIdentity where
  | null
  | number (value : ℚ)
  | infinity (negative : Bool)
  | notANumber
  | text (s : String)
  | day (d : Day)
  | moment (hasZone : Bool) (instant : Int)
  | bytes (bs : List UInt8)

namespace Binary64

theorem ratio?_den_pos {x : Binary64} {a : Int} {b : Nat} (h : x.ratio? = some (a, b)) : 0 < b := by
  cases x with
  | nan => cases h
  | inf negative => cases h
  | finite negative m e =>
    have hden : b = (magnitude m e).2 := by
      simp only [ratio?, Option.some.injEq, Prod.mk.injEq] at h
      exact h.2.symm
    rw [hden, magnitude]
    split
    · exact Nat.one_pos
    · exact Nat.pow_pos (by decide)

/-- The exact value of a finite number. -/
def value? (x : Binary64) : Option ℚ := x.ratio?.map fun r => (r.1 : ℚ) / r.2

theorem eqInt_iff {x : Binary64} {n : Int} : x.eqInt n = true ↔ x.value? = some (n : ℚ) := by
  unfold eqInt value?
  cases h : x.ratio? with
  | none => simp
  | some r =>
    obtain ⟨a, b⟩ := r
    have hb : (b : ℚ) ≠ 0 := by exact_mod_cast (ratio?_den_pos h).ne'
    simp only [beq_iff_eq, Option.map_some, Option.some.injEq, div_eq_iff hb]
    exact_mod_cast Iff.rfl

/-- Finite numbers are equal when their values are. -/
theorem numEq_finite_iff {s t : Bool} {m n : Nat} {e f : Int} :
    numEq (.finite s m e) (.finite t n f) = true ↔
      ∃ q, (Binary64.finite s m e).value? = some q ∧ (Binary64.finite t n f).value? = some q := by
  obtain ⟨⟨a, b⟩, hx⟩ : ∃ r, ratio? (.finite s m e) = some r := ⟨_, rfl⟩
  obtain ⟨⟨c, d⟩, hy⟩ : ∃ r, ratio? (.finite t n f) = some r := ⟨_, rfl⟩
  have hb : (b : ℚ) ≠ 0 := by exact_mod_cast (ratio?_den_pos hx).ne'
  have hd : (d : ℚ) ≠ 0 := by exact_mod_cast (ratio?_den_pos hy).ne'
  have hvalues : (∃ q, (Binary64.finite s m e).value? = some q ∧ (Binary64.finite t n f).value? = some q) ↔
      (c : ℚ) / d = (a : ℚ) / b := by
    simp [value?, hx, hy]
  rw [hvalues, div_eq_div_iff hd hb, numEq, hx, hy, beq_iff_eq]
  · constructor
    · intro h
      exact_mod_cast h.symm
    · intro h
      exact_mod_cast h.symm
  · simp

/-- What a number counts as when it is compared. -/
def identity? : Binary64 → Option KeyIdentity
  | .inf negative => some (.infinity negative)
  | x => x.value?.map .number

theorem some_eq_identity?_iff {x : Binary64} {i : KeyIdentity} :
    some i = x.identity? ↔
      (∃ negative, x = .inf negative ∧ i = .infinity negative) ∨ ∃ q, x.value? = some q ∧ i = .number q := by
  cases x with
  | nan => simp [identity?, value?, ratio?]
  | inf negative => simp [identity?, value?, ratio?]
  | finite negative m e => simp [identity?, eq_comm]

theorem some_number_eq_identity?_iff {x : Binary64} {q : ℚ} :
    some (.number q) = x.identity? ↔ x.value? = some q := by
  simp [some_eq_identity?_iff]

/-- Numbers are equal when they count as the same, and as anything at all. -/
theorem numEq_iff {x y : Binary64} : x.numEq y = true ↔ ∃ i, some i = x.identity? ∧ some i = y.identity? := by
  have hnan : identity? .nan = none := rfl
  cases x with
  | nan => simp [numEq, ratio?, hnan]
  | inf a =>
    cases y with
    | nan => simp [numEq, ratio?, hnan]
    | inf b => simp [numEq, identity?]
    | finite t n f => simp [numEq, ratio?, identity?]
  | finite s m e =>
    cases y with
    | nan => simp [numEq, ratio?, hnan]
    | inf b => simp [numEq, ratio?, identity?]
    | finite t n f =>
      rw [numEq_finite_iff]
      constructor
      · rintro ⟨q, hx, hy⟩
        exact ⟨.number q, some_number_eq_identity?_iff.2 hx, some_number_eq_identity?_iff.2 hy⟩
      · rintro ⟨i, hx, hy⟩
        obtain ⟨_, ⟨⟩, -⟩ | ⟨q, hq, rfl⟩ := some_eq_identity?_iff.1 hx
        exact ⟨q, hq, some_number_eq_identity?_iff.1 hy⟩

end Binary64

namespace Value

/-- Can the value be a key? What has parts cannot. -/
def isKey : Value → Bool
  | .list _ | .map _ | .set _ => false
  | _ => true

/-- What a value counts as when it is compared; nothing if it compares equal to no key. -/
def identity? : Value → Option KeyIdentity
  | .null => some .null
  | .bool b => some (.number (ofFlag b))
  | .int n => some (.number n)
  | .float x => x.identity?
  | .str s => some (.text s)
  | .day d => some (.day d)
  | .moment t => some (.moment t.zone.isSome t.instant)
  | .bytes bs => some (.bytes bs)
  | .list _ | .map _ | .set _ => none

theorem same_int_iff {n : Int} {b : Value} :
    same (.int n) b = true ↔ some (.number n) = b.identity? := by
  cases b with
  | float x => rw [same, Binary64.eqInt_iff, identity?, Binary64.some_number_eq_identity?_iff]
  | _ => simp [same, identity?]

/-- A flag is the same as the number it stands for. -/
theorem same_bool {x : Bool} {b : Value} : same (.bool x) b = same (.int (ofFlag x)) b := by
  cases b with
  | bool y => cases x <;> cases y <;> simp [same, ofFlag]
  | _ => simp only [same]

/-- Keys are the same when they count as the same, and as anything at all. -/
theorem same_iff {a b : Value} (ha : a.isKey = true) :
    same a b = true ↔ ∃ i, some i = a.identity? ∧ some i = b.identity? := by
  cases a with
  | list items => cases ha
  | map entries => cases ha
  | set members => cases ha
  | bool x => simp [same_bool, same_int_iff, identity?]
  | int m => simp [same_int_iff, identity?]
  | float x =>
    cases b with
    | bool y => simp [same, identity?, Binary64.eqInt_iff, Binary64.some_number_eq_identity?_iff]
    | int n => simp [same, identity?, Binary64.eqInt_iff, Binary64.some_number_eq_identity?_iff]
    | float y => rw [same, Binary64.numEq_iff, identity?, identity?]
    | _ => simp [same, identity?, Binary64.some_eq_identity?_iff]
  | null => cases b <;> simp [same, identity?, Binary64.some_eq_identity?_iff]
  | str s => cases b <;> simp [same, identity?, Binary64.some_eq_identity?_iff]
  | day c => cases b <;> simp [same, identity?, Binary64.some_eq_identity?_iff]
  | moment s => cases b <;> simp [same, identity?, Binary64.some_eq_identity?_iff, Moment.same]
  | bytes xs => cases b <;> simp [same, identity?, Binary64.some_eq_identity?_iff]

/-- What a value counts as when it is a key. -/
def keyIdentity? : Value → Option KeyIdentity
  | .float .nan => some .notANumber
  | v => v.identity?

section

variable {a b c : Value}

theorem keyIdentity?_of_ne_nan (h : a ≠ .float .nan) : a.keyIdentity? = a.identity? := by
  unfold keyIdentity?
  split
  · exact absurd rfl h
  · rfl

theorem sameKey_of_ne_nan (h : a ≠ .float .nan ∨ b ≠ .float .nan) : sameKey a b = same a b := by
  unfold sameKey
  split
  · simp at h
  · rfl

theorem identity?_ne_notANumber : a.identity? ≠ some .notANumber := by
  cases a with
  | float x =>
    intro h
    obtain ⟨_, -, h⟩ | ⟨_, -, h⟩ := Binary64.some_eq_identity?_iff.1 h.symm <;> cases h
  | _ => simp [identity?]

/-- A NaN is the same key as a NaN, though it compares equal to nothing. -/
theorem sameKey_iff (ha : a.isKey = true) :
    sameKey a b = true ↔ ∃ i, some i = a.keyIdentity? ∧ some i = b.keyIdentity? := by
  have hnan : (Value.float .nan).identity? = none := rfl
  by_cases hab : a ≠ .float .nan ∨ b ≠ .float .nan
  · rw [sameKey_of_ne_nan hab, same_iff ha]
    by_cases hane : a = .float .nan
    · subst hane
      have hbne : b ≠ .float .nan := hab.resolve_left fun h => h rfl
      rw [keyIdentity?_of_ne_nan hbne, hnan]
      simp [keyIdentity?, identity?_ne_notANumber.symm]
    · rw [keyIdentity?_of_ne_nan hane]
      by_cases hbne : b = .float .nan
      · subst hbne
        rw [hnan]
        simp [keyIdentity?, identity?_ne_notANumber.symm]
      · rw [keyIdentity?_of_ne_nan hbne]
  · obtain ⟨rfl, rfl⟩ : a = .float .nan ∧ b = .float .nan := by simpa using hab
    exact ⟨fun _ => ⟨.notANumber, rfl, rfl⟩, fun _ => rfl⟩

/-- Each key counts as something. -/
theorem exists_keyIdentity (ha : a.isKey = true) : ∃ i, some i = a.keyIdentity? := by
  cases a with
  | float x => cases x <;> exact ⟨_, rfl⟩
  | list items => cases ha
  | map entries => cases ha
  | set members => cases ha
  | _ => exact ⟨_, rfl⟩

theorem sameKey_refl (ha : a.isKey = true) : sameKey a a = true := by
  obtain ⟨i, hi⟩ := exists_keyIdentity ha
  exact (sameKey_iff ha).2 ⟨i, hi, hi⟩

theorem isKey_of_sameKey (ha : a.isKey = true) (h : sameKey a b = true) : b.isKey = true := by
  obtain ⟨i, -, hb⟩ := (sameKey_iff ha).1 h
  cases b with
  | list items => cases hb
  | map entries => cases hb
  | set members => cases hb
  | _ => rfl

theorem sameKey_symm (ha : a.isKey = true) (h : sameKey a b = true) : sameKey b a = true := by
  obtain ⟨i, hi, hb⟩ := (sameKey_iff ha).1 h
  exact (sameKey_iff (isKey_of_sameKey ha h)).2 ⟨i, hb, hi⟩

theorem sameKey_trans (ha : a.isKey = true) (hab : sameKey a b = true) (hbc : sameKey b c = true) :
    sameKey a c = true := by
  obtain ⟨i, hi, hb⟩ := (sameKey_iff ha).1 hab
  obtain ⟨j, hj, hc⟩ := (sameKey_iff (isKey_of_sameKey ha hab)).1 hbc
  obtain rfl := Option.some.inj (hb.trans hj.symm)
  exact (sameKey_iff ha).2 ⟨i, hi, hc⟩

/-- The same keys are the same as any other key, or both are not. -/
theorem sameKey_congr (ha : a.isKey = true) (h : sameKey a b = true) : sameKey a c = sameKey b c := by
  rw [Bool.eq_iff_iff]
  constructor
  · intro hac
    exact sameKey_trans (isKey_of_sameKey ha h) (sameKey_symm ha h) hac
  · intro hbc
    exact sameKey_trans ha h hbc

end

/-! ## Entries under a key -/

section

variable {entries : List (Value × Value)} {key k v : Value}

theorem get?_cons {rest : List (Value × Value)} :
    get? ((k, v) :: rest) key = if sameKey k key then some v else get? rest key := by
  unfold get?
  rw [List.find?_cons]
  cases sameKey k key <;> rfl

theorem get?_eq_none_iff : get? entries key = none ↔ ∀ e ∈ entries, sameKey e.1 key ≠ true := by
  simp [get?]

theorem mem_of_get? (h : get? entries key = some v) : ∃ k, (k, v) ∈ entries ∧ sameKey k key = true := by
  unfold get? at h
  obtain ⟨e, hfound, rfl⟩ := Option.map_eq_some_iff.1 h
  have hsame : sameKey e.1 key = true := by
    simpa using List.find?_some hfound
  exact ⟨e.1, List.mem_of_find?_eq_some hfound, hsame⟩

/-- What is put into a mapping is found under the keys that are the same, and nothing changes under the others. -/
theorem get?_put (hkeys : ∀ e ∈ entries, e.1.isKey = true) (hk : k.isKey = true) :
    get? (put entries k v) key = if sameKey k key then some v else get? entries key := by
  induction entries with
  | nil => rw [put, get?_cons]
  | cons e rest ih =>
    obtain ⟨j, w⟩ := e
    have hj : j.isKey = true := hkeys _ List.mem_cons_self
    by_cases hjk : sameKey j k = true
    · rw [put, if_pos hjk, get?_cons, get?_cons, sameKey_congr hj hjk]
      cases sameKey k key <;> rfl
    · rw [put, if_neg hjk, get?_cons, get?_cons, ih fun e he => hkeys e (List.mem_cons_of_mem _ he)]
      by_cases hkey : sameKey k key = true
      · have hother : ¬ sameKey j key = true := fun h => hjk (sameKey_trans hj h (sameKey_symm hk hkey))
        rw [if_pos hkey, if_pos hkey, if_neg hother]
      · rw [if_neg hkey, if_neg hkey]

/-- A key is appended to those of a mapping unless it is one of them. -/
theorem keys_put :
    (put entries k v).map (·.1) = entries.map (·.1) ++ if hasKey entries k then [] else [k] := by
  induction entries with
  | nil => rfl
  | cons e rest ih =>
    obtain ⟨j, w⟩ := e
    by_cases hjk : sameKey j k = true
    · simp [put, hasKey, hjk]
    · have hhas : hasKey ((j, w) :: rest) k = hasKey rest k := by simp [hasKey, hjk]
      rw [put, if_neg hjk, List.map_cons, List.map_cons, ih, hhas, List.cons_append]

/-- A mapping has the same under keys that are the same. -/
theorem get?_congr (hkeys : ∀ e ∈ entries, e.1.isKey = true) (hk : k.isKey = true) (h : sameKey k key = true) :
    get? entries k = get? entries key := by
  induction entries with
  | nil => rfl
  | cons e rest ih =>
    obtain ⟨hj, hrest⟩ := List.forall_mem_cons.1 hkeys
    have hsame : sameKey e.1 k = sameKey e.1 key := by
      rw [Bool.eq_iff_iff]
      constructor
      · intro hek
        exact sameKey_trans hj hek h
      · intro hekey
        exact sameKey_trans hj hekey (sameKey_symm hk h)
    rw [get?_cons, get?_cons, ih hrest, hsame]

theorem hasKey_eq_isSome : hasKey entries key = (get? entries key).isSome := by
  rw [Bool.eq_iff_iff]
  simp [hasKey, get?]

theorem hasKey_put (hkeys : ∀ e ∈ entries, e.1.isKey = true) (hk : k.isKey = true) :
    hasKey (put entries k v) key = (sameKey k key || hasKey entries key) := by
  rw [hasKey_eq_isSome, get?_put hkeys hk, hasKey_eq_isSome]
  cases sameKey k key <;> rfl

theorem isKey_of_mem_put {e : Value × Value} (hkeys : ∀ e ∈ entries, e.1.isKey = true) (hk : k.isKey = true)
    (he : e ∈ put entries k v) : e.1.isKey = true := by
  have hmem : e.1 ∈ (put entries k v).map (·.1) := List.mem_map_of_mem he
  rw [keys_put, List.mem_append] at hmem
  rcases hmem with hold | hnew
  · obtain ⟨f, hf, hfe⟩ := List.mem_map.1 hold
    exact hfe ▸ hkeys f hf
  · split at hnew
    · cases hnew
    · exact List.mem_singleton.1 hnew ▸ hk

end

end Value
end PolicyGate
