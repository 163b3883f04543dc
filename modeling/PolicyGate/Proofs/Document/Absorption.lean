import PolicyGate.Proofs.Document.Overlay

/-!
# Merging a document again

The empty document and null leave a document as it is, on either side, and a document that has been merged once
makes no difference when it is merged again: whatever there was to replace has been replaced, so the second pass
meets no clash and puts everything where it is already (`Document.Merges.again_iff`). The second pass looks at more
keys than the first one, though, as there are mappings on both sides now wherever the later document has one. So it
may come across a key that is too long to be written (`Document.absorption_not_always`).
-/

namespace PolicyGate.Document

open Attempt Value

/-- The attempt comes to the value if keys can be written, and otherwise it fails because of that. -/
def YieldsWhen (written : Prop) (attempt : Except MergeError Value) (v : Value) : Prop :=
  (written → attempt = .ok v) ∧ (¬ written → attempt = .error .tooManyDigits)

variable {earlier later merged other : Value} {known entries done : List (Value × Value)}

theorem isWritable_of_not_map (h : later.entries? = none) : later.IsWritable := by
  rw [IsWritable, keyPaths_of_not_map h]
  intro path hpath
  cases hpath

/-- What has been replaced once stays when it is replaced by the same again. -/
theorem merges_self_of_leaf (hleaf : later.IsLeaf) : Merges later later other ↔ other = later := by
  by_cases hlist : ∃ items, later = .list items
  · obtain ⟨items, rfl⟩ := hlist
    rw [merges_list]
    exact and_iff_right (.inr ⟨items, rfl⟩)
  · exact merges_scalar hleaf.2 hleaf.1 (not_exists.1 hlist)

/-- A mapping into which the entries have been merged under each key takes them in once more as it is. -/
theorem entriesMerge_again_iff {all : List (Value × Value)} (hdone : KeysSound (done.map (·.1)))
    (hentries : KeysSound (entries.map (·.1)))
    (hagain : ∀ key v, get? entries key = some v → ∃ merged, get? done key = some merged ∧
      ∀ other, Merges merged v other ↔ other = merged ∧ v.IsWritable) :
    EntriesMerge done entries all ↔ all = done ∧ (Value.map entries).IsWritable := by
  -- there are no new keys
  have hknown : (entries.map (·.1)).filter (fun k => !hasKey done k) = [] := by
    refine List.filter_eq_nil_iff.2 fun k hk => ?_
    obtain ⟨e, he, rfl⟩ := List.mem_map.1 hk
    obtain ⟨merged, hmerged, -⟩ := hagain _ _ (get?_of_mem hentries he)
    simp [hasKey_eq_isSome, hmerged]
  constructor
  · intro h
    constructor
    · -- so the keys are the same, and so is the value under each
      refine eq_of_get? (h.keysSound hdone hentries) (by rw [h.keys, hknown, List.append_nil]) fun k _ => ?_
      cases hlater : get? entries k with
      | none => exact h.kept k hlater
      | some v =>
        obtain ⟨merged, hmerged, hstays⟩ := hagain k v hlater
        obtain ⟨other, hother, hthere⟩ := h.laid k v hlater
        rw [hmerged, Option.getD_some] at hother
        rw [hthere, hmerged, ((hstays other).1 hother).1]
    · refine isWritable_map_iff.2 fun e he => ⟨h.written e he, ?_⟩
      have hlater := get?_of_mem hentries he
      obtain ⟨merged, hmerged, hstays⟩ := hagain _ _ hlater
      obtain ⟨other, hother, -⟩ := h.laid _ _ hlater
      rw [hmerged, Option.getD_some] at hother
      exact ((hstays other).1 hother).2
  · rintro ⟨rfl, hwritable⟩
    rw [isWritable_map_iff] at hwritable
    refine ⟨by rw [hknown, List.append_nil], fun _ _ => rfl, fun key v hlater => ?_, fun e he => (hwritable e he).1⟩
    obtain ⟨merged, hmerged, hstays⟩ := hagain key v hlater
    obtain ⟨k, hmem, -⟩ := mem_of_get? hlater
    rw [hmerged, Option.getD_some]
    exact ⟨merged, (hstays merged).2 ⟨rfl, (hwritable _ hmem).2⟩, rfl⟩

/-- Merging the same value again changes nothing, and succeeds exactly if all of its keys can be written. -/
theorem Merges.again_iff (h : Merges earlier later merged) (hearlier : earlier.isSound = true)
    (hlater : later.isSound = true) : Merges merged later other ↔ other = merged ∧ later.IsWritable := by
  induction later using nesting generalizing earlier merged other with
  | other later hmap =>
    rw [and_iff_left (isWritable_of_not_map hmap)]
    by_cases hnull : later = .null
    · subst hnull
      exact merges_null
    · rw [mergeAt_leaf ⟨hnull, hmap⟩ (merges_iff.1 h)]
      exact merges_self_of_leaf ⟨hnull, hmap⟩
  | map entries ih =>
    have hentries := keysSound_of_isSound hlater
    have hsound := h.isSound hearlier hlater
    -- whether there was a mapping before or not, each value has been merged into something
    obtain ⟨done, rfl, hlaid⟩ : ∃ done, merged = .map done ∧ ∀ key v, get? entries key = some v →
        ∃ before there, before.isSound = true ∧ Merges before v there ∧ get? done key = some there := by
      cases hmap : earlier.entries? with
      | none =>
        refine ⟨entries, (merges_of_not_map hmap).1 h, fun key v hv => ⟨.null, v, rfl, null_merges.2 rfl, hv⟩⟩
      | some known =>
        obtain rfl := eq_map_of_entries? hmap
        obtain ⟨done, hdone, rfl⟩ := (merges_maps (keysSound_of_isSound hearlier) hentries).1 h
        refine ⟨done, rfl, fun key v hv => ?_⟩
        obtain ⟨there, hthere, hget⟩ := hdone.laid key v hv
        exact ⟨_, there, isSound_getD hearlier, hthere, hget⟩
    have hagain : ∀ key v, get? entries key = some v → ∃ there, get? done key = some there ∧
        ∀ other, Merges there v other ↔ other = there ∧ v.IsWritable := by
      intro key v hv
      obtain ⟨before, there, hbefore, hthere, hget⟩ := hlaid key v hv
      obtain ⟨k, hmem, -⟩ := mem_of_get? hv
      exact ⟨there, hget, fun other => ih (k, v) hmem hthere hbefore (isSound_of_get? hlater hv)⟩
    rw [merges_maps (keysSound_of_isSound hsound) hentries]
    simp only [entriesMerge_again_iff (keysSound_of_isSound hsound) hentries hagain]
    constructor
    · rintro ⟨all, ⟨rfl, hwritable⟩, rfl⟩
      exact ⟨rfl, hwritable⟩
    · rintro ⟨rfl, hwritable⟩
      exact ⟨done, ⟨rfl, hwritable⟩, rfl⟩

/-! ## Units -/

/-- What is merged into the empty mapping is kept as it is; its own keys have to be written for that. -/
theorem entriesMerge_nil_iff (hentries : KeysSound (entries.map (·.1))) :
    EntriesMerge [] entries done ↔ done = entries ∧ ∀ e ∈ entries, e.1.text? ≠ none := by
  have hself : (∀ e ∈ entries, e.1.text? ≠ none) → EntriesMerge [] entries entries := fun hwritten => {
    keys := by simp [Value.hasKey]
    kept := fun key hkey => hkey
    laid := fun key v hv => ⟨v, null_merges.2 rfl, hv⟩
    written := hwritten }
  constructor
  · intro h
    exact ⟨h.unique keysSound_nil hentries (hself h.written), h.written⟩
  · rintro ⟨rfl, hwritten⟩
    exact hself hwritten

theorem empty_merges_iff (hentries : (Value.map entries).isSound = true) :
    Merges (.map []) (.map entries) merged ↔ merged = .map entries ∧ ∀ e ∈ entries, e.1.text? ≠ none := by
  have hkeys := keysSound_of_isSound hentries
  rw [merges_maps keysSound_nil hkeys]
  simp only [entriesMerge_nil_iff hkeys]
  constructor
  · rintro ⟨done, ⟨rfl, hwritten⟩, rfl⟩
    exact ⟨rfl, hwritten⟩
  · rintro ⟨rfl, hwritten⟩
    exact ⟨entries, ⟨rfl, hwritten⟩, rfl⟩

/-! ## The laws -/

theorem not_clash_empty {keys : List Value} {there : Value} : ¬ Clash (.map []) (.map entries) keys there := by
  intro h
  cases keys with
  | nil =>
    obtain ⟨⟨items, hlist⟩, -⟩ := clash_nil.1 h
    cases hlist
  | cons key keys => cases h.found

/-- There are no clashes the second time: each list is there already. -/
theorem Merges.not_clash {keys : List Value} {there : Value} (h : Merges earlier later merged)
    (hearlier : earlier.isSound = true) (hlater : later.isSound = true) : ¬ Clash merged later keys there := by
  rintro ⟨⟨items, hlist⟩, hfound, -, hother⟩
  have hthere := (laidOver hearlier hlater (merges_iff.1 h) keys).leaf _ hlist ⟨by simp, rfl⟩
  exact hother items (Option.some.inj (hfound.symm.trans hthere))

/-- Without clashes merging yields what it can come to, and it fails only because of keys. -/
theorem yieldsWhen_of_merges {written : Prop} (hearlier : earlier.isSound = true) (hlater : later.isSound = true)
    (hmerges : ∀ other, Merges earlier later other ↔ other = merged ∧ written)
    (hclash : ∀ keys there, ¬ Clash earlier later keys there) : YieldsWhen written (merge earlier later) merged := by
  refine ⟨fun hwritten => merges_iff.1 ((hmerges merged).2 ⟨rfl, hwritten⟩), fun hnot => ?_⟩
  rcases exists_ok_or_error (merge earlier later) with ⟨other, hok⟩ | ⟨e, he⟩
  · exact absurd ((hmerges other).1 (merges_iff.2 hok)).2 hnot
  · rcases of_mergeAt_eq_error hearlier hlater he with ⟨_, keys, there, -, h⟩ | ⟨rfl, -⟩
    · exact absurd h (hclash keys there)
    · exact he

/-- The empty document and null are units, and a document absorbs what has been merged into it: where the keys that
are looked at can be written, merging a document into the empty one, into itself or into what it has been merged into
already comes to what is there; otherwise merging fails because of a key, and never by a conflict. -/
theorem merge_absorbs (hknown : (Value.map known).isSound = true) (hentries : (Value.map entries).isSound = true) :
    merge (.map known) (.map []) = .ok (.map known) ∧
    merge (.map known) .null = .ok (.map known) ∧
    YieldsWhen (∀ e ∈ entries, e.1.text? ≠ none) (merge (.map []) (.map entries)) (.map entries) ∧
    YieldsWhen (Value.map known).IsWritable (merge (.map known) (.map known)) (.map known) ∧
    ∀ merged, merge (.map known) (.map entries) = .ok merged →
      YieldsWhen (Value.map entries).IsWritable (merge merged (.map entries)) merged := by
  refine ⟨rfl, rfl, ?_, ?_, fun merged h => ?_⟩
  · exact yieldsWhen_of_merges rfl hentries (fun _ => empty_merges_iff hentries) fun _ _ => not_clash_empty
  · have hself : Merges .null (.map known) (.map known) := null_merges.2 rfl
    exact yieldsWhen_of_merges hknown hknown (fun _ => hself.again_iff rfl hknown) fun _ _ =>
      hself.not_clash rfl hknown
  · have hmerges := merges_iff.2 h
    exact yieldsWhen_of_merges (hmerges.isSound hknown hentries) hentries
      (fun _ => hmerges.again_iff hknown hentries) fun _ _ => hmerges.not_clash hknown hentries

/-! ### A document of every kind of change -/

/-- Names to deny, a mapping, a text, and a place that is left open. -/
def former : List (Value × Value) :=
  [(.str "names", .list [.str "tmp"]), (.str "tags", .list [.str "owner"]),
   (.str "subnet", .record [("nsg", .bool true)]), (.str "version", .str "1.2"), (.str "site", .record [("https", .null)])]

/-- Other names to deny, a mapping in place of a list, a text in place of a mapping, null, and something for the
place that was left open. -/
def latter : List (Value × Value) :=
  [(.str "site", .record [("https", .record [("only", .bool true)]), ("owner", .null)]), (.str "version", .null),
   (.str "subnet", .str "later"), (.str "tags", .record [("all", .list [])]), (.str "names", .list [.str "test"])]

/-- What comes of the two. -/
def combined : Value := .record
  [("names", .list [.str "test"]), ("tags", .record [("all", .list [])]), ("subnet", .str "later"),
   ("version", .str "1.2"), ("site", .record [("https", .record [("only", .bool true)]), ("owner", .null)])]

/-- The second of the documents changes nothing any more when it is merged again. -/
theorem latter_absorbed : (Value.map former).isSound = true ∧ (Value.map latter).isSound = true ∧
    merge (.map former) (.map latter) = .ok combined ∧ (Value.map latter).IsWritable ∧
    merge combined (.map latter) = .ok combined := by
  have hformer : (Value.map former).isSound = true := by decide +kernel
  have hlatter : (Value.map latter).isSound = true := by decide +kernel
  have hmerge : merge (.map former) (.map latter) = .ok combined := by
    simp [merge, former, latter, combined, record, mergeAt, mergeEntries, get?, put, same, childPath, text?,
      Except.map, bind, Except.bind]
  have hwritable : (Value.map latter).IsWritable := by decide +kernel
  obtain ⟨-, -, -, -, habsorbs⟩ := merge_absorbs hformer hlatter
  exact ⟨hformer, hlatter, hmerge, hwritable, (habsorbs combined hmerge).1 hwritable⟩

/-- A mapping that is put in place of nothing is not looked into. When it is merged again it is, and a key that is
too long is found in it. -/
theorem absorption_not_always :
    ¬ ∀ (known entries : List (Value × Value)) (merged : Value), (Value.map known).isSound = true →
      (Value.map entries).isSound = true → merge (.map known) (.map entries) = .ok merged →
        merge merged (.map entries) = .ok merged := by
  intro h
  have hagain := h [] _ _ rfl (by decide +kernel) merge_empty_longKeyed
  cases merge_longKeyed.symm.trans hagain

end PolicyGate.Document
