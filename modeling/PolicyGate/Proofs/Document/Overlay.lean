import PolicyGate.Proofs.Document.Clashes

/-!
# What merging comes to

Where in a document a value is merged makes no difference to what comes of it, so merging that succeeds is a relation
between three values (`Document.Merges`). It is given by one rule for each kind of later value; two mappings are merged
by merging what they have under each key, null standing for nothing (`Document.merges_maps`,
`Document.EntriesMerge.under`). What comes of values that documents can have is a value that a document can have
(`Document.Merges.isSound`).
-/

namespace PolicyGate.Document

open Attempt Value

/-- The later value can be merged into the earlier one, and that is what comes of it. -/
def Merges (earlier later merged : Value) : Prop := ∃ path, mergeAt earlier path later = .ok merged

/-- The entries of one mapping merged into those of another. -/
structure EntriesMerge (known entries done : List (Value × Value)) : Prop where
  /-- The keys of the earlier mapping are in front. -/
  keys : done.map (·.1) = known.map (·.1) ++ (entries.map (·.1)).filter fun k => !hasKey known k
  /-- What only the earlier mapping has stays. -/
  kept : ∀ key, get? entries key = none → get? done key = get? known key
  /-- What the later mapping has is merged into what the earlier one has. -/
  laid : ∀ key v, get? entries key = some v →
    ∃ merged, Merges ((get? known key).getD .null) v merged ∧ get? done key = some merged
  /-- The keys of the later mapping can be written. -/
  written : ∀ e ∈ entries, e.1.text? ≠ none

variable {earlier later merged other : Value} {known entries done : List (Value × Value)} {path : String}
  {key v : Value}

theorem exists_childPath_iff : (∃ child, childPath path key = .ok child) ↔ key.text? ≠ none := by
  rw [childPath_eq]
  cases key.text? <;> simp

theorem mergeEntries_elsewhere
    (hvalues : ∀ e ∈ entries, ∀ earlier path merged, mergeAt earlier path e.2 = .ok merged →
      ∀ path', mergeAt earlier path' e.2 = .ok merged)
    (path' : String) (h : mergeEntries known path entries = .ok done) : mergeEntries known path' entries = .ok done := by
  induction entries generalizing known with
  | nil => exact h
  | cons e rest ih =>
    obtain ⟨key, value⟩ := e
    obtain ⟨hvalue, hvalues⟩ := List.forall_mem_cons.1 hvalues
    obtain ⟨child, hchild, merged, hmerged, hrest⟩ := mergeEntries_cons_eq_ok.1 h
    obtain ⟨child', hchild'⟩ := exists_childPath_iff.2 (exists_childPath_iff.1 ⟨child, hchild⟩)
    exact mergeEntries_cons_eq_ok.2 ⟨child', hchild', merged, hvalue _ _ _ hmerged child', ih hvalues hrest⟩

/-- What comes of merging is the same wherever it is done. -/
theorem mergeAt_elsewhere (h : mergeAt earlier path later = .ok merged) (path' : String) :
    mergeAt earlier path' later = .ok merged := by
  induction later using nesting generalizing earlier path merged path' with
  | other later hmap =>
    by_cases hnull : later = .null
    · rw [hnull, mergeAt_null] at h ⊢
      exact h
    by_cases hlist : ∃ items, later = .list items
    · obtain ⟨items, rfl⟩ := hlist
      rw [mergeAt_list] at h ⊢
      split at h
      · exact h
      · exact h
      · cases h
    · rw [mergeAt_scalar hmap hnull (not_exists.1 hlist)] at h ⊢
      exact h
  | map entries ih =>
    cases hmap : earlier.entries? with
    | none =>
      rw [mergeAt_map_of_not_map hmap] at h ⊢
      exact h
    | some known =>
      obtain rfl := eq_map_of_entries? hmap
      obtain ⟨done, hdone, rfl⟩ := mergeAt_maps h
      rw [mergeAt_map_map]
      exact map_eq_ok.2 ⟨done, mergeEntries_elsewhere (fun e he _ _ _ h => ih e he h) path' hdone, rfl⟩

theorem Merges.mergeAt (h : Merges earlier later merged) : mergeAt earlier path later = .ok merged := by
  obtain ⟨_, h⟩ := h
  exact mergeAt_elsewhere h path

theorem merges_iff : Merges earlier later merged ↔ merge earlier later = .ok merged :=
  ⟨Merges.mergeAt, fun h => ⟨"", h⟩⟩

theorem Merges.unique (h : Merges earlier later merged) (h' : Merges earlier later other) : merged = other :=
  Except.ok.inj ((merges_iff.1 h).symm.trans (merges_iff.1 h'))

/-! ## One rule for each kind of later value -/

theorem merges_null : Merges earlier .null merged ↔ merged = earlier := by
  rw [merges_iff, merge, mergeAt_null, Except.ok.injEq, eq_comm]

theorem merges_list {items : List Value} : Merges earlier (.list items) merged ↔
    (earlier = .null ∨ ∃ others, earlier = .list others) ∧ merged = .list items := by
  rw [merges_iff, merge, mergeAt_list]
  cases earlier <;> simp [eq_comm]

theorem merges_of_not_map (h : earlier.entries? = none) :
    Merges earlier (.map entries) merged ↔ merged = .map entries := by
  rw [merges_iff, merge, mergeAt_map_of_not_map h, Except.ok.injEq, eq_comm]

theorem merges_scalar (hmap : later.entries? = none) (hnull : later ≠ .null) (hlist : ∀ items, later ≠ .list items) :
    Merges earlier later merged ↔ merged = later := by
  rw [merges_iff, merge, mergeAt_scalar hmap hnull hlist, Except.ok.injEq, eq_comm]

/-- Any value can be merged into nothing. -/
theorem null_merges : Merges .null later merged ↔ merged = later := by
  cases later with
  | null => exact merges_null
  | list items => simp [merges_list]
  | map entries => exact merges_of_not_map rfl
  | _ => exact merges_scalar rfl nofun nofun

/-! ## One mapping into another -/

theorem EntriesMerge.keysSound (h : EntriesMerge known entries done) (hknown : KeysSound (known.map (·.1)))
    (hentries : KeysSound (entries.map (·.1))) : KeysSound (done.map (·.1)) where
  areKeys := by
    intro k hk
    rw [h.keys, List.mem_append] at hk
    rcases hk with hk | hk
    · exact hknown.areKeys k hk
    · exact hentries.areKeys k (List.mem_of_mem_filter hk)
  distinct := by
    rw [h.keys, List.pairwise_append]
    refine ⟨hknown.distinct, hentries.distinct.filter _, fun j hj k hk => ?_⟩
    obtain ⟨e, he, rfl⟩ := List.mem_map.1 hj
    have hnew : hasKey known k = false := by simpa using (List.mem_filter.1 hk).2
    intro hsame
    rw [hasKey_eq_isSome, Option.isSome_eq_false_iff, Option.isNone_iff_eq_none, get?_eq_none_iff] at hnew
    exact hnew e he hsame

/-- Under each key what the later mapping has is merged into what the earlier one has, null standing for nothing. -/
theorem EntriesMerge.under (h : EntriesMerge known entries done) (key : Value) :
    Merges ((get? known key).getD .null) ((get? entries key).getD .null) ((get? done key).getD .null) := by
  cases hlater : get? entries key with
  | none =>
    rw [h.kept key hlater]
    exact merges_null.2 rfl
  | some v =>
    obtain ⟨merged, hmerged, hdone⟩ := h.laid key v hlater
    rw [hdone]
    exact hmerged

theorem EntriesMerge.hasKey (h : EntriesMerge known entries done) (key : Value) :
    hasKey done key = (hasKey known key || hasKey entries key) := by
  rw [hasKey_eq_isSome, hasKey_eq_isSome, hasKey_eq_isSome]
  cases hlater : get? entries key with
  | none => rw [h.kept key hlater, Option.isSome_none, Bool.or_false]
  | some v =>
    obtain ⟨merged, -, hdone⟩ := h.laid key v hlater
    rw [hdone, Option.isSome_some, Option.isSome_some, Bool.or_true]

/-- The entries that come of merging are determined by those that are merged. -/
theorem EntriesMerge.unique {done' : List (Value × Value)} (hknown : KeysSound (known.map (·.1)))
    (hentries : KeysSound (entries.map (·.1))) (h : EntriesMerge known entries done)
    (h' : EntriesMerge known entries done') : done = done' := by
  refine eq_of_get? (h.keysSound hknown hentries) (h.keys.trans h'.keys.symm) fun k _ => ?_
  cases hlater : get? entries k with
  | none => rw [h.kept k hlater, h'.kept k hlater]
  | some v =>
    obtain ⟨merged, hmerged, hdone⟩ := h.laid k v hlater
    obtain ⟨merged', hmerged', hdone'⟩ := h'.laid k v hlater
    rw [hdone, hdone', hmerged.unique hmerged']

theorem written_of_mergeEntries (h : mergeEntries known path entries = .ok done) :
    ∀ e ∈ entries, e.1.text? ≠ none := by
  induction entries generalizing known with
  | nil =>
    intro e he
    cases he
  | cons e rest ih =>
    obtain ⟨key, value⟩ := e
    obtain ⟨child, hchild, merged, -, hrest⟩ := mergeEntries_cons_eq_ok.1 h
    exact List.forall_mem_cons.2 ⟨exists_childPath_iff.1 ⟨child, hchild⟩, ih hrest⟩

theorem entriesMerge_of_mergeEntries (hknown : KeysSound (known.map (·.1)))
    (hentries : KeysSound (entries.map (·.1))) (h : mergeEntries known path entries = .ok done) :
    EntriesMerge known entries done where
  keys := keys_mergeEntries (fun _ he => hknown.isKey_of_mem he) (fun _ he => hentries.isKey_of_mem he)
    hentries.pairwise h
  kept := fun key => (get?_mergeEntries (fun _ he => hknown.isKey_of_mem he) (fun _ he => hentries.isKey_of_mem he)
    hentries.pairwise h).1
  laid := by
    intro key v hlater
    obtain ⟨child, merged, hmerged, hdone⟩ := (get?_mergeEntries (fun _ he => hknown.isKey_of_mem he)
      (fun _ he => hentries.isKey_of_mem he) hentries.pairwise h).2 v hlater
    exact ⟨merged, ⟨child, hmerged⟩, hdone⟩
  written := written_of_mergeEntries h

/-- Entries can be merged if their keys can be written and the value of each can be merged. -/
theorem exists_mergeEntries (path : String) (hdone : ∀ e ∈ done, e.1.isKey = true)
    (hentries : KeysSound (entries.map (·.1)))
    (hknown : ∀ e ∈ entries, get? done e.1 = get? known e.1) (hwritten : ∀ e ∈ entries, e.1.text? ≠ none)
    (hvalues : ∀ e ∈ entries, ∃ merged, Merges ((get? known e.1).getD .null) e.2 merged) :
    ∃ all, mergeEntries done path entries = .ok all := by
  induction entries generalizing done with
  | nil => exact ⟨done, rfl⟩
  | cons e rest ih =>
    obtain ⟨key, value⟩ := e
    obtain ⟨hhere, hknown⟩ := List.forall_mem_cons.1 hknown
    obtain ⟨hkey, hwritten⟩ := List.forall_mem_cons.1 hwritten
    obtain ⟨⟨merged, hmerged⟩, hvalues⟩ := List.forall_mem_cons.1 hvalues
    obtain ⟨child, hchild⟩ := exists_childPath_iff.2 hkey
    have hiskey : key.isKey = true := hentries.isKey_of_mem List.mem_cons_self
    have hput : ∀ e ∈ rest, get? (put done key merged) e.1 = get? known e.1 := fun e he =>
      (hentries.get?_put hdone he).trans (hknown e he)
    obtain ⟨all, hall⟩ := ih (fun e he => isKey_of_mem_put hdone hiskey he) hentries.tail hput hwritten hvalues
    exact ⟨all, mergeEntries_cons_eq_ok.2 ⟨child, hchild, merged, by rw [hhere]; exact hmerged.mergeAt, hall⟩⟩

/-- Entries can be merged if their keys can be written and what they have under each key can be merged. -/
theorem exists_entriesMerge (hknown : KeysSound (known.map (·.1))) (hentries : KeysSound (entries.map (·.1)))
    (hwritten : ∀ e ∈ entries, e.1.text? ≠ none)
    (hvalues : ∀ key v, get? entries key = some v → ∃ merged, Merges ((get? known key).getD .null) v merged) :
    ∃ done, EntriesMerge known entries done := by
  obtain ⟨done, hdone⟩ := exists_mergeEntries "" (fun _ he => hknown.isKey_of_mem he) hentries
    (fun _ _ => rfl) hwritten fun e he => hvalues e.1 e.2 (get?_of_mem hentries he)
  exact ⟨done, entriesMerge_of_mergeEntries hknown hentries hdone⟩

theorem merges_maps (hknown : KeysSound (known.map (·.1))) (hentries : KeysSound (entries.map (·.1))) :
    Merges (.map known) (.map entries) merged ↔ ∃ done, EntriesMerge known entries done ∧ merged = .map done := by
  constructor
  · rintro ⟨path, h⟩
    obtain ⟨done, hdone, rfl⟩ := mergeAt_maps h
    exact ⟨done, entriesMerge_of_mergeEntries hknown hentries hdone, rfl⟩
  · rintro ⟨done, hdone, rfl⟩
    obtain ⟨all, hall⟩ := exists_mergeEntries "" (fun _ he => hknown.isKey_of_mem he) hentries
      (fun _ _ => rfl) hdone.written fun e he => by
        obtain ⟨merged, hmerged, -⟩ := hdone.laid e.1 e.2 (get?_of_mem hentries he)
        exact ⟨merged, hmerged⟩
    -- the entries that do come of it have the same properties, and these leave no choice
    rw [hdone.unique hknown hentries (entriesMerge_of_mergeEntries hknown hentries hall)]
    refine ⟨"", ?_⟩
    unfold Document.mergeAt
    exact map_eq_ok.2 ⟨all, hall, rfl⟩

theorem EntriesMerge.text?_ne_none {k : Value} (h : EntriesMerge known entries done)
    (hk : k ∈ entries.map (·.1)) : k.text? ≠ none := by
  obtain ⟨e, he, rfl⟩ := List.mem_map.1 hk
  exact h.written e he

/-- A mapping that has the keys of two others in their order has what is under any key of theirs. -/
theorem hasKey_of_keys (hentries : KeysSound (entries.map (·.1)))
    (hkeys : done.map (·.1) = known.map (·.1) ++ (entries.map (·.1)).filter fun k => !Value.hasKey known k)
    (hknown : KeysSound (known.map (·.1))) (key : Value) :
    Value.hasKey done key = (Value.hasKey known key || Value.hasKey entries key) := by
  have hany : ∀ es : List (Value × Value), Value.hasKey es key = (es.map (·.1)).any fun k => sameKey k key := by
    intro es
    rw [Value.hasKey, List.any_map]
    rfl
  rw [hany done, hkeys, List.any_append, ← hany known, List.any_filter, hany entries]
  cases hhas : Value.hasKey known key with
  | true => rfl
  | false =>
    rw [Bool.false_or, Bool.false_or, Bool.eq_iff_iff, List.any_eq_true, List.any_eq_true]
    refine exists_congr fun k => and_congr_right fun hk => ?_
    rw [Bool.and_eq_true]
    refine and_iff_right_of_imp fun hsame => ?_
    have hsameHas : Value.hasKey known k = Value.hasKey known key := by
      rw [hasKey_eq_isSome, hasKey_eq_isSome,
        get?_congr (fun _ he => hknown.isKey_of_mem he) (hentries.areKeys k hk) hsame]
    rw [hsameHas, hhas]
    rfl

/-- Entries are merged if their keys are in order and what is under each key is merged, null standing for nothing. -/
theorem entriesMerge_of_under (hknown : KeysSound (known.map (·.1))) (hentries : KeysSound (entries.map (·.1)))
    (hkeys : done.map (·.1) = known.map (·.1) ++ (entries.map (·.1)).filter fun k => !Value.hasKey known k)
    (hunder : ∀ key, Merges ((get? known key).getD .null) ((get? entries key).getD .null) ((get? done key).getD .null))
    (hwritten : ∀ k ∈ entries.map (·.1), k.text? ≠ none) : EntriesMerge known entries done where
  keys := hkeys
  kept := by
    intro key hlater
    have hhas := hasKey_of_keys hentries hkeys hknown key
    have hvalue := hunder key
    rw [hlater, Option.getD_none, merges_null] at hvalue
    rw [hasKey_eq_isSome, hasKey_eq_isSome, hasKey_eq_isSome, hlater, Option.isSome_none, Bool.or_false] at hhas
    -- there is something under the key on both sides, or on none of them
    cases hdone : get? done key <;> cases hbefore : get? known key <;> simp_all
  laid := by
    intro key v hlater
    have hhas := hasKey_of_keys hentries hkeys hknown key
    have hvalue := hunder key
    rw [hasKey_eq_isSome, hasKey_eq_isSome, hasKey_eq_isSome, hlater, Option.isSome_some, Bool.or_true,
      Option.isSome_iff_exists] at hhas
    obtain ⟨merged, hmerged⟩ := hhas
    rw [hlater, hmerged, Option.getD_some, Option.getD_some] at hvalue
    exact ⟨merged, hvalue, hmerged⟩
  written := fun e he => hwritten e.1 (List.mem_map_of_mem he)

/-- What comes of two values that documents can have is one that a document can have. -/
theorem Merges.isSound (h : Merges earlier later merged) (hearlier : earlier.isSound = true)
    (hlater : later.isSound = true) : merged.isSound = true := by
  induction later using nesting generalizing earlier merged with
  | other later hmap =>
    by_cases hnull : later = .null
    · subst hnull
      rw [merges_null.1 h]
      exact hearlier
    · rw [mergeAt_leaf ⟨hnull, hmap⟩ (merges_iff.1 h)]
      exact hlater
  | map entries ih =>
    cases hmap : earlier.entries? with
    | none =>
      rw [(merges_of_not_map hmap).1 h]
      exact hlater
    | some known =>
      obtain rfl := eq_map_of_entries? hmap
      have hknown := keysSound_of_isSound hearlier
      have hentries := keysSound_of_isSound hlater
      obtain ⟨done, hdone, rfl⟩ := (merges_maps hknown hentries).1 h
      have hkeys := hdone.keysSound hknown hentries
      refine isSound_map_iff.2 ⟨fun e he => hkeys.isKey_of_mem he, hkeys.pairwise, ?_⟩
      refine entriesSound_iff.2 fun e he => ?_
      have hget : get? done e.1 = some e.2 := get?_of_mem hkeys he
      -- a value under a key is that of the earlier mapping, or it was merged there
      cases hkey : get? entries e.1 with
      | none =>
        rw [hdone.kept e.1 hkey] at hget
        exact isSound_of_get? hearlier hget
      | some v =>
        obtain ⟨merged, hmerged, hthere⟩ := hdone.laid e.1 v hkey
        obtain rfl := Option.some.inj (hthere.symm.trans hget)
        obtain ⟨k, hmem, -⟩ := mem_of_get? hkey
        exact ih (k, v) hmem hmerged (isSound_getD hearlier) (isSound_of_get? hlater hkey)

end PolicyGate.Document
