import PolicyGate.Json.Printer
import PolicyGate.Proofs.Attempt
import PolicyGate.Proofs.Value.Holding

/-!
# What has a JSON text

A value with a JSON text, in whatever layout, can be written in every other way, too: it holds no whole number that
is too long (`Json.not_holds_long_of_write`).
-/

namespace PolicyGate.Json

open Attempt Value

variable {layout : Layout} {depth : Nat} {text : String}

theorem not_holds_long_of_number {n : Int} (h : number n = .ok text) : ¬ (Value.int n).Holds IsLong := by
  rw [← literal?_eq_none_iff, literal?]
  unfold number at h
  split at h
  · rename_i s hs
    rw [hs]
    exact Option.some_ne_none s
  · cases h

theorem not_holds_long_of_key {k : Value} (h : key k = .ok text) : ¬ k.Holds IsLong := by
  unfold key at h
  split at h
  case h_4 n => exact not_holds_long_of_number h
  case h_6 => cases h
  all_goals
    rintro (hlong | _)
    simp [IsLong] at hlong

theorem sortEntries_perm {α : Type} {entries sorted : List (Value × α)} (h : sortEntries entries = .ok sorted) :
    sorted.Perm entries := by
  unfold sortEntries at h
  split at h
  · obtain rfl := Except.ok.inj h
    exact List.mergeSort_perm _ _
  · cases h

/-- A mapping is written when its values and its keys are. -/
theorem map_eq_ok_of_value {entries : List (Value × Value)} (h : value layout depth (.map entries) = .ok text) :
    ∃ written, members layout (depth + 1) entries = .ok written ∧ ∀ e ∈ written, ∃ name, key e.1 = .ok name := by
  rw [value] at h
  split at h
  · cases h
  obtain ⟨written, hwritten, h⟩ := bind_eq_ok.1 h
  -- with or without sorting, the same entries are written
  obtain ⟨sorted, hperm, h⟩ : ∃ sorted : List (Value × String), sorted.Perm written ∧
      (do
        let texts ← sorted.mapM fun (k, text) => do
          let name ← key k
          return string name ++ ": " ++ text
        return layout.enclose depth "\x7b" "\x7d" texts) = .ok text := by
    dsimp only at h
    split at h
    · obtain ⟨sorted, hsorted, h⟩ := bind_eq_ok.1 h
      exact ⟨sorted, sortEntries_perm hsorted, h⟩
    · exact ⟨written, .refl _, h⟩
  obtain ⟨texts, htexts, -⟩ := bind_eq_ok.1 h
  refine ⟨written, hwritten, fun e he => ?_⟩
  obtain ⟨_, hentry⟩ := exists_mapM_ok.1 ⟨texts, htexts⟩ e (hperm.mem_iff.2 he)
  obtain ⟨name, hname, -⟩ := bind_eq_ok.1 hentry
  exact ⟨name, hname⟩

mutual

theorem not_holds_long_of_value : (v : Value) →
    ∀ {depth : Nat} {text : String}, value layout depth v = .ok text → ¬ v.Holds IsLong
  | .int n => by
    intro h
    rw [value] at h
    exact not_holds_long_of_number h
  | .list items => by
    intro h
    rw [value] at h
    obtain ⟨texts, htexts, -⟩ := bind_eq_ok.1 h
    rw [holds_list_iff (by simp [IsLong])]
    rintro ⟨v, hv, hlong⟩
    exact not_holds_long_of_values items htexts v hv hlong
  | .map entries => by
    intro h
    obtain ⟨written, hwritten, hkeys⟩ := map_eq_ok_of_value h
    obtain ⟨hsame, hvalues⟩ := not_holds_long_of_members entries hwritten
    rw [holds_map_iff (by simp [IsLong])]
    rintro ⟨e, he, hlong | hlong⟩
    · -- the keys stand in what is written as they are
      have hmem : e.1 ∈ written.map (·.1) := hsame ▸ List.mem_map_of_mem he
      obtain ⟨w, hw, hkey⟩ := List.mem_map.1 hmem
      obtain ⟨name, hname⟩ := hkeys w hw
      exact not_holds_long_of_key hname (hkey ▸ hlong)
    · exact hvalues e he hlong
  | .set members => by
    intro h
    rw [← text?_eq_none_iff]
    intro hnone
    rw [value] at h
    · rw [hnone] at h
      cases h
    all_goals simp
  | .null | .bool _ | .float _ | .str _ | .day _ | .moment _ | .bytes _ => by
    rintro - (hlong | _)
    simp [IsLong] at hlong

theorem not_holds_long_of_values : (vs : List Value) →
    ∀ {depth : Nat} {texts : List String}, values layout depth vs = .ok texts → ∀ v ∈ vs, ¬ v.Holds IsLong
  | [] => fun _ _ hv => absurd hv List.not_mem_nil
  | v :: rest => by
    intro h
    obtain ⟨first, hfirst, h⟩ := bind_eq_ok.1 h
    obtain ⟨others, hothers, -⟩ := bind_eq_ok.1 h
    exact List.forall_mem_cons.2 ⟨not_holds_long_of_value v hfirst, not_holds_long_of_values rest hothers⟩

theorem not_holds_long_of_members : (entries : List (Value × Value)) →
    ∀ {depth : Nat} {written : List (Value × String)}, members layout depth entries = .ok written →
      written.map (·.1) = entries.map (·.1) ∧ ∀ e ∈ entries, ¬ e.2.Holds IsLong
  | [] => by
    intro h
    obtain rfl := Except.ok.inj h
    exact ⟨rfl, fun _ he => absurd he List.not_mem_nil⟩
  | (k, v) :: rest => by
    intro h
    obtain ⟨first, hfirst, h⟩ := bind_eq_ok.1 h
    obtain ⟨others, hothers, h⟩ := bind_eq_ok.1 h
    obtain rfl := pure_eq_ok.1 h
    obtain ⟨hsame, hvalues⟩ := not_holds_long_of_members rest hothers
    refine ⟨?_, List.forall_mem_cons.2 ⟨not_holds_long_of_value v hfirst, hvalues⟩⟩
    rw [List.map_cons, List.map_cons, hsame]

end

/-- What has a JSON text holds no whole number that is too long. -/
theorem not_holds_long_of_write {v : Value} (h : write layout v = .ok text) : ¬ v.Holds IsLong :=
  not_holds_long_of_value v h

end PolicyGate.Json
