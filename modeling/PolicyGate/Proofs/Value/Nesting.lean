import PolicyGate.Proofs.Document.Layering

/-!
# Mappings in mappings

A value is built up from what is no mapping by putting values under keys, so what is to be shown of all values is
shown along their mappings (`Value.nesting`). Two mappings that have the same keys in the same order, and the same
under each of them, are the same (`Value.eq_of_get?`). The paths to everything in a value are its key paths, each in
front of those that go on from it; every path that leads to something is one of them, up to keys that count as the
same (`Value.exists_keyPath`).
-/

namespace PolicyGate.Value

variable {entries others : List (Value × Value)} {keys path : List Value} {key k v : Value}

/-- What holds of all that is no mapping, and of each mapping of whose values it holds, holds of all values. -/
@[elab_as_elim]
theorem nesting {P : Value → Prop} (other : ∀ v, v.entries? = none → P v)
    (map : ∀ entries, (∀ e ∈ entries, P e.2) → P (.map entries)) (v : Value) : P v :=
  match v with
  | .map entries => map entries fun e _ => nesting other map e.2
  | .null | .bool _ | .int _ | .float _ | .str _ | .list _ | .day _ | .moment _ | .bytes _ | .set _ => other _ rfl
termination_by sizeOf v
decreasing_by
  rename_i hmem
  have hlist := List.sizeOf_lt_of_mem hmem
  obtain ⟨k, w⟩ := e
  simp only [Value.map.sizeOf_spec, Prod.mk.sizeOf_spec] at hlist ⊢
  omega

/-! ## Keys without repetition -/

/-- The keys can be those of a mapping: they have no parts, and no two are the same. -/
structure KeysSound (keys : List Value) : Prop where
  areKeys : ∀ k ∈ keys, k.isKey = true
  distinct : keys.Pairwise fun j k => sameKey j k ≠ true

theorem keysSound_of_isSound (h : (Value.map entries).isSound = true) : KeysSound (entries.map (·.1)) := by
  obtain ⟨hkeys, hdistinct, -⟩ := isSound_map_iff.1 h
  exact ⟨List.forall_mem_map.2 hkeys, List.pairwise_map.2 hdistinct⟩

theorem keysSound_nil : KeysSound (([] : List (Value × Value)).map (·.1)) := ⟨by simp, List.Pairwise.nil⟩

theorem KeysSound.tail (h : KeysSound (k :: keys)) : KeysSound keys :=
  ⟨fun j hj => h.areKeys j (List.mem_cons_of_mem _ hj), (List.pairwise_cons.1 h.distinct).2⟩

theorem KeysSound.pairwise (h : KeysSound (entries.map (·.1))) :
    entries.Pairwise fun e f => sameKey e.1 f.1 ≠ true :=
  List.pairwise_map.1 h.distinct

theorem KeysSound.isKey_of_mem (h : KeysSound (entries.map (·.1))) {e : Value × Value} (he : e ∈ entries) :
    e.1.isKey = true :=
  h.areKeys _ (List.mem_map_of_mem he)

/-- What has been put under one key is not found under the others. -/
theorem KeysSound.get?_put {done : List (Value × Value)} (h : KeysSound (k :: entries.map (·.1)))
    (hdone : ∀ e ∈ done, e.1.isKey = true) {e : Value × Value} (he : e ∈ entries) :
    get? (put done k v) e.1 = get? done e.1 := by
  have hother : sameKey k e.1 ≠ true := (List.pairwise_cons.1 h.distinct).1 e.1 (List.mem_map_of_mem he)
  rw [Value.get?_put hdone (h.areKeys k List.mem_cons_self), if_neg hother]

theorem get?_of_mem (h : KeysSound (entries.map (·.1))) (hmem : (k, v) ∈ entries) : get? entries k = some v := by
  induction entries with
  | nil => cases hmem
  | cons e rest ih =>
    obtain ⟨j, w⟩ := e
    have hj : j.isKey = true := h.isKey_of_mem List.mem_cons_self
    rw [get?_cons]
    rcases List.mem_cons.1 hmem with heq | hmem
    · cases heq
      rw [if_pos (sameKey_refl hj)]
    · have hother : sameKey j k ≠ true := (List.pairwise_cons.1 h.distinct).1 k (List.mem_map_of_mem hmem)
      rw [if_neg hother]
      exact ih h.tail hmem

/-- Mappings are the same if they have the same keys in the same order and the same under each of them. -/
theorem eq_of_get? (h : KeysSound (entries.map (·.1))) (hkeys : entries.map (·.1) = others.map (·.1))
    (hget : ∀ k ∈ entries.map (·.1), get? entries k = get? others k) : entries = others := by
  induction entries generalizing others with
  | nil => exact (List.map_eq_nil_iff.1 hkeys.symm).symm
  | cons e rest ih =>
    obtain ⟨k, v⟩ := e
    cases others with
    | nil => cases hkeys
    | cons f others =>
      obtain ⟨j, w⟩ := f
      obtain ⟨rfl, hrest⟩ := List.cons.inj hkeys
      have hk : k.isKey = true := h.isKey_of_mem List.mem_cons_self
      have hvalue : v = w := by
        have hhere := hget k List.mem_cons_self
        rw [get?_cons, get?_cons, if_pos (sameKey_refl hk), if_pos (sameKey_refl hk)] at hhere
        exact Option.some.inj hhere
      have htail : rest = others := by
        refine ih h.tail hrest fun j hj => ?_
        have hother : sameKey k j ≠ true := (List.pairwise_cons.1 h.distinct).1 j hj
        have hthere := hget j (List.mem_cons_of_mem _ hj)
        rwa [get?_cons, get?_cons, if_neg hother, if_neg hother] at hthere
      rw [hvalue, htail]

theorem entriesSound_iff : entriesSound entries = true ↔ ∀ e ∈ entries, e.2.isSound = true := by
  induction entries with
  | nil => simp [entriesSound]
  | cons e rest ih => rw [entriesSound, Bool.and_eq_true, ih, List.forall_mem_cons]

/-- Whatever a sound mapping has under a key is sound, and so is null, which stands for nothing. -/
theorem isSound_getD (h : (Value.map entries).isSound = true) : ((get? entries key).getD .null).isSound = true := by
  cases hget : get? entries key with
  | none => rfl
  | some v => exact isSound_of_get? h hget

/-! ## Key paths -/

mutual

/-- The paths to all that is in the value, in its own order: each in front of those that go on from it. -/
def keyPaths : Value → List (List Value)
  | .map entries => entryPaths entries
  | _ => []

/-- The paths to all that is in a mapping with these entries. -/
def entryPaths : List (Value × Value) → List (List Value)
  | [] => []
  | (key, v) :: rest => ([] :: keyPaths v).map (key :: ·) ++ entryPaths rest

end

/-- Can the keys of all mappings in the value be written? -/
def IsWritable (v : Value) : Prop := ∀ path ∈ v.keyPaths, ∀ key ∈ path, key.text? ≠ none

instance (v : Value) : Decidable v.IsWritable :=
  inferInstanceAs (Decidable (∀ path ∈ v.keyPaths, ∀ key ∈ path, key.text? ≠ none))

theorem keyPaths_of_not_map (h : v.entries? = none) : v.keyPaths = [] := by
  cases v with
  | map entries => cases h
  | _ => rfl

theorem mem_entryPaths_iff : path ∈ entryPaths entries ↔
    ∃ e ∈ entries, ∃ rest, path = e.1 :: rest ∧ (rest = [] ∨ rest ∈ e.2.keyPaths) := by
  induction entries with
  | nil => simp [entryPaths]
  | cons e others ih =>
    rw [entryPaths, List.mem_append, ih, List.exists_mem_cons_iff]
    refine or_congr ?_ Iff.rfl
    simp only [List.mem_map, List.mem_cons]
    constructor
    · rintro ⟨rest, hrest, rfl⟩
      exact ⟨rest, rfl, hrest⟩
    · rintro ⟨rest, rfl, hrest⟩
      exact ⟨rest, hrest, rfl⟩

theorem isWritable_map_iff :
    (Value.map entries).IsWritable ↔ ∀ e ∈ entries, e.1.text? ≠ none ∧ e.2.IsWritable := by
  simp only [IsWritable, keyPaths, mem_entryPaths_iff]
  constructor
  · intro h e he
    refine ⟨h [e.1] ⟨e, he, [], rfl, .inl rfl⟩ _ List.mem_cons_self, fun path hpath key hkey => ?_⟩
    exact h (e.1 :: path) ⟨e, he, path, rfl, .inr hpath⟩ key (List.mem_cons_of_mem _ hkey)
  · rintro h path ⟨e, he, rest, rfl, hrest⟩ key hkey
    rcases List.mem_cons.1 hkey with rfl | hkey
    · exact (h e he).1
    · rcases hrest with rfl | hrest
      · cases hkey
      · exact (h e he).2 rest hrest key hkey

/-- Keys that count as the same lead to the same place. -/
theorem valueAt?_congr (h : v.isSound = true) (hkeys : ∀ k ∈ keys, k.isKey = true)
    (hsame : List.Forall₂ (fun j k => sameKey j k = true) keys path) : v.valueAt? keys = v.valueAt? path := by
  induction hsame generalizing v with
  | nil => rfl
  | @cons j k keys path hjk _ ih =>
    obtain ⟨hj, hrest⟩ := List.forall_mem_cons.1 hkeys
    cases hmap : v.entries? with
    | none => rw [valueAt?_cons_of_not_map hmap, valueAt?_cons_of_not_map hmap]
    | some entries =>
      obtain rfl := eq_map_of_entries? hmap
      have hfirst : get? entries j = get? entries k := get?_congr (isSound_map_iff.1 h).1 hj hjk
      rw [valueAt?_map_cons, valueAt?_map_cons, ← hfirst]
      cases hget : get? entries j with
      | none => rfl
      | some w => exact ih (isSound_of_get? h hget) hrest

/-- A path that leads to something is a key path, but for keys that count as the same. -/
theorem exists_keyPath (h : v.isSound = true) {w : Value} (hpath : v.valueAt? path = some w) :
    path = [] ∨ ∃ keys ∈ v.keyPaths, (∀ k ∈ keys, k.isKey = true) ∧
      List.Forall₂ (fun j k => sameKey j k = true) keys path := by
  induction path generalizing v with
  | nil => exact .inl rfl
  | cons key path ih =>
    right
    cases hmap : v.entries? with
    | none =>
      rw [valueAt?_cons_of_not_map hmap] at hpath
      cases hpath
    | some entries =>
      obtain rfl := eq_map_of_entries? hmap
      rw [valueAt?_map_cons, Option.bind_eq_some_iff] at hpath
      obtain ⟨v, hget, hpath⟩ := hpath
      obtain ⟨k, hmem, hsame⟩ := mem_of_get? hget
      have hk : k.isKey = true := (isSound_map_iff.1 h).1 _ hmem
      rcases ih (isSound_of_get? h hget) hpath with rfl | ⟨keys, hkeys, hare, hsames⟩
      · exact ⟨[k], mem_entryPaths_iff.2 ⟨_, hmem, [], rfl, .inl rfl⟩, by simpa using hk, .cons hsame .nil⟩
      · exact ⟨k :: keys, mem_entryPaths_iff.2 ⟨_, hmem, keys, rfl, .inr hkeys⟩, List.forall_mem_cons.2 ⟨hk, hare⟩,
          .cons hsame hsames⟩

end PolicyGate.Value
