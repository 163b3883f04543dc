import PolicyGate.Document.Merge
import PolicyGate.Proofs.Attempt
import PolicyGate.Proofs.Value.Keys

/-!
# What a merged document has at a path

A path leads from key to key through nested mappings. What the later document has at a path decides what the merged
one has there (`Document.LaidOver`): a list or a scalar is taken over as it is and nothing is below it, a mapping
keeps the keys of the earlier document in front of its own new ones, and where there is null or nothing the earlier
document shows through.
-/

namespace PolicyGate

open Attempt

namespace Value

mutual

/-- Is every mapping in the value one that a document can have? Its keys have no parts, and no two are the same. -/
def isSound : Value → Bool
  | .map entries =>
    entries.all (·.1.isKey) && decide (entries.Pairwise fun e f => sameKey e.1 f.1 ≠ true) && entriesSound entries
  | .list items => itemsSound items
  | _ => true

/-- Is every mapping in the values of the entries one that a document can have? -/
def entriesSound : List (Value × Value) → Bool
  | [] => true
  | (_, v) :: rest => isSound v && entriesSound rest

/-- Is every mapping in the items one that a document can have? -/
def itemsSound : List Value → Bool
  | [] => true
  | v :: rest => isSound v && itemsSound rest

end

/-- The value at the end of a path of keys through nested mappings. -/
def valueAt? : Value → List Value → Option Value
  | v, [] => some v
  | .map entries, key :: path => (get? entries key).bind (·.valueAt? path)
  | _, _ :: _ => none

/-- A value that hides everything that an earlier document has at and below its place. -/
def IsLeaf (v : Value) : Prop := v ≠ .null ∧ v.entries? = none

/-- Is there a leaf on the way to the end of the path? -/
def LeafBefore (v : Value) (path : List Value) : Prop :=
  ∃ start leaf, start <+: path ∧ start ≠ path ∧ v.valueAt? start = some leaf ∧ leaf.IsLeaf

/-- The entries of the mapping at the end of a path; none if there is no mapping. -/
def entriesAt (v : Value) (path : List Value) : List (Value × Value) := ((v.valueAt? path).bind entries?).getD []

variable {entries : List (Value × Value)} {k v : Value} {key : Value} {path : List Value}

theorem isSound_map_iff : (Value.map entries).isSound = true ↔
    (∀ e ∈ entries, e.1.isKey = true) ∧ (entries.Pairwise fun e f => sameKey e.1 f.1 ≠ true) ∧
      entriesSound entries = true := by
  simp only [isSound, Bool.and_eq_true, List.all_eq_true, decide_eq_true_iff, and_assoc]

theorem isSound_of_mem (h : entriesSound entries = true) (he : (k, v) ∈ entries) : v.isSound = true := by
  induction entries with
  | nil => cases he
  | cons e rest ih =>
    rw [entriesSound, Bool.and_eq_true] at h
    rcases List.mem_cons.1 he with rfl | he
    · exact h.1
    · exact ih h.2 he

theorem isSound_of_get? (h : (Value.map entries).isSound = true) (hget : get? entries key = some v) :
    v.isSound = true := by
  obtain ⟨k, hmem, -⟩ := mem_of_get? hget
  exact isSound_of_mem (isSound_map_iff.1 h).2.2 hmem

theorem valueAt?_nil : v.valueAt? [] = some v := by
  cases v <;> rfl

theorem valueAt?_map_cons : (Value.map entries).valueAt? (key :: path) = (get? entries key).bind (·.valueAt? path) :=
  rfl

theorem valueAt?_cons_of_not_map (h : v.entries? = none) : v.valueAt? (key :: path) = none := by
  cases v with
  | map entries => cases h
  | _ => rfl

theorem eq_map_of_entries? (h : v.entries? = some entries) : v = .map entries := by
  cases v with
  | map es => rw [Option.some.inj h]
  | _ => cases h

theorem valueAt?_append {more : List Value} :
    v.valueAt? (path ++ more) = (v.valueAt? path).bind (·.valueAt? more) := by
  induction path generalizing v with
  | nil => rw [List.nil_append, valueAt?_nil, Option.bind_some]
  | cons key path ih =>
    cases hmap : v.entries? with
    | none => rw [List.cons_append, valueAt?_cons_of_not_map hmap, valueAt?_cons_of_not_map hmap, Option.bind_none]
    | some entries =>
      obtain rfl := eq_map_of_entries? hmap
      rw [List.cons_append, valueAt?_map_cons, valueAt?_map_cons, Option.bind_assoc]
      exact congrArg _ (funext fun _ => ih)

/-- There is nothing below a leaf. -/
theorem LeafBefore.valueAt? (h : v.LeafBefore path) : v.valueAt? path = none := by
  obtain ⟨start, leaf, ⟨more, rfl⟩, hne, hleaf, -, hnot⟩ := h
  cases more with
  | nil => exact absurd (List.append_nil start).symm hne
  | cons key more => rw [valueAt?_append, hleaf, Option.bind_some, valueAt?_cons_of_not_map hnot]

theorem not_leafBefore_nil : ¬ v.LeafBefore [] := by
  rintro ⟨start, leaf, hprefix, hne, -⟩
  exact hne (List.prefix_nil.1 hprefix)

theorem IsLeaf.leafBefore (h : v.IsLeaf) : v.LeafBefore (key :: path) :=
  ⟨[], v, List.nil_prefix, by simp, valueAt?_nil, h⟩

/-- What is before the end of a path through a mapping is before it in the value under its first key. -/
theorem leafBefore_map_cons :
    (Value.map entries).LeafBefore (key :: path) ↔ ∃ v, get? entries key = some v ∧ v.LeafBefore path := by
  constructor
  · rintro ⟨start, leaf, hprefix, hne, hat, hleaf⟩
    cases start with
    | nil =>
      obtain rfl := Option.some.inj hat
      cases hleaf.2
    | cons k start =>
      obtain ⟨rfl, hrest⟩ := List.cons_prefix_cons.1 hprefix
      rw [valueAt?_map_cons, Option.bind_eq_some_iff] at hat
      obtain ⟨v, hv, hat⟩ := hat
      exact ⟨v, hv, start, leaf, hrest, fun h => hne (by rw [h]), hat, hleaf⟩
  · rintro ⟨v, hv, start, leaf, hprefix, hne, hat, hleaf⟩
    refine ⟨key :: start, leaf, List.cons_prefix_cons.2 ⟨rfl, hprefix⟩, fun h => hne (List.cons.inj h).2, ?_, hleaf⟩
    rw [valueAt?_map_cons, hv, Option.bind_some, hat]

end Value

namespace Document

open Value

variable {base merged : Value} {entries done : List (Value × Value)} {path : String} {key : Value}

/-- Nothing but null gives way to null. -/
theorem mergeAt_null : mergeAt base path .null = .ok base := by
  unfold mergeAt
  rfl

/-- A list takes the place of nothing, or of another list. -/
theorem mergeAt_list {items : List Value} : mergeAt base path (.list items) = match base with
    | .null | .list _ => .ok (.list items)
    | other => .error (.conflict ⟨shownPath path, other.kindName⟩) := by
  unfold mergeAt
  rfl

/-- What is neither a mapping nor a list takes the place of anything. -/
theorem mergeAt_scalar {later : Value} (hmap : later.entries? = none) (hnull : later ≠ .null)
    (hlist : ∀ items, later ≠ .list items) : mergeAt base path later = .ok later := by
  cases later with
  | map later => cases hmap
  | null => exact absurd rfl hnull
  | list items => exact absurd rfl (hlist items)
  | _ =>
    unfold mergeAt
    rfl

theorem mergeAt_leaf {leaf : Value} (hleaf : leaf.IsLeaf) (h : mergeAt base path leaf = .ok merged) :
    merged = leaf := by
  by_cases hlist : ∃ items, leaf = .list items
  · obtain ⟨items, rfl⟩ := hlist
    rw [mergeAt_list] at h
    split at h <;> cases h <;> rfl
  · rw [mergeAt_scalar hleaf.2 hleaf.1 (not_exists.1 hlist)] at h
    exact (Except.ok.inj h).symm

/-- A mapping takes the place of what is not a mapping. -/
theorem mergeAt_map_of_not_map {later : List (Value × Value)} (hbase : base.entries? = none) :
    mergeAt base path (.map later) = .ok (.map later) := by
  cases base with
  | map entries => cases hbase
  | _ =>
    unfold mergeAt
    rfl

theorem mergeAt_map_map {later : List (Value × Value)} :
    mergeAt (.map entries) path (.map later) = (mergeEntries entries path later).map .map := by
  unfold mergeAt
  rfl

theorem mergeAt_maps {later : List (Value × Value)} (h : mergeAt (.map entries) path (.map later) = .ok merged) :
    ∃ done, mergeEntries entries path later = .ok done ∧ merged = .map done := by
  rw [mergeAt_map_map] at h
  obtain ⟨done, hdone, rfl⟩ := map_eq_ok.1 h
  exact ⟨done, hdone, rfl⟩

/-! ## One mapping over another -/

theorem mergeEntries_cons_eq_ok {value : Value} {rest : List (Value × Value)} :
    mergeEntries entries path ((key, value) :: rest) = .ok done ↔
      ∃ child, childPath path key = .ok child ∧ ∃ r, mergeAt ((get? entries key).getD .null) child value = .ok r ∧
        mergeEntries (put entries key r) path rest = .ok done := by
  rw [mergeEntries]
  simp only [bind_eq_ok]

/-- The keys of the earlier mapping stay in front, and the new ones of the later mapping follow. -/
theorem keys_mergeEntries {later : List (Value × Value)} (hkeys : ∀ e ∈ entries, e.1.isKey = true)
    (hlater : ∀ e ∈ later, e.1.isKey = true) (hdistinct : later.Pairwise fun e f => sameKey e.1 f.1 ≠ true)
    (h : mergeEntries entries path later = .ok done) :
    done.map (·.1) = entries.map (·.1) ++ (later.map (·.1)).filter fun k => !hasKey entries k := by
  induction later generalizing entries with
  | nil =>
    cases h
    simp
  | cons e rest ih =>
    obtain ⟨key, value⟩ := e
    obtain ⟨child, -, r, -, hrest⟩ := mergeEntries_cons_eq_ok.1 h
    obtain ⟨hkey, hrestKeys⟩ := List.forall_mem_cons.1 hlater
    obtain ⟨hother, hrestDistinct⟩ := List.pairwise_cons.1 hdistinct
    have hput : ∀ e ∈ put entries key r, e.1.isKey = true := fun e he => isKey_of_mem_put hkeys hkey he
    -- what has just been put there is none of the keys to come
    have hnew : ∀ k ∈ rest.map (·.1), (!hasKey (put entries key r) k) = !hasKey entries k := by
      intro k hk
      obtain ⟨f, hf, rfl⟩ := List.mem_map.1 hk
      have hne : sameKey key f.1 = false := by simpa using hother f hf
      rw [hasKey_put hkeys hkey, hne, Bool.false_or]
    rw [ih hput hrestKeys hrestDistinct hrest, keys_put, List.filter_congr hnew, List.map_cons, List.append_assoc]
    cases hhas : hasKey entries key with
    | true => simp [hhas]
    | false => simp [hhas]

/-- What only one of the mappings has stays as it is, and what both have is merged. -/
theorem get?_mergeEntries {later : List (Value × Value)} (hkeys : ∀ e ∈ entries, e.1.isKey = true)
    (hlater : ∀ e ∈ later, e.1.isKey = true) (hdistinct : later.Pairwise fun e f => sameKey e.1 f.1 ≠ true)
    (h : mergeEntries entries path later = .ok done) :
    (get? later key = none → get? done key = get? entries key) ∧
    ∀ v, get? later key = some v →
      ∃ child r, mergeAt ((get? entries key).getD .null) child v = .ok r ∧ get? done key = some r := by
  -- on the entries of the later mapping, while the earlier one takes in those before
  induction later generalizing entries with
  | nil =>
    cases h
    exact ⟨fun _ => rfl, fun v hv => by cases hv⟩
  | cons e rest ih =>
    obtain ⟨k, value⟩ := e
    obtain ⟨child, -, r, hr, hrest⟩ := mergeEntries_cons_eq_ok.1 h
    obtain ⟨hk, hrestKeys⟩ := List.forall_mem_cons.1 hlater
    obtain ⟨hother, hrestDistinct⟩ := List.pairwise_cons.1 hdistinct
    have hput : ∀ e ∈ put entries k r, e.1.isKey = true := fun e he => isKey_of_mem_put hkeys hk he
    obtain ⟨hnone, hsome⟩ := ih hput hrestKeys hrestDistinct hrest
    rw [get?_put hkeys hk] at hnone hsome
    rw [get?_cons]
    by_cases hsame : sameKey k key = true
    · -- no entry that follows has this key, so what has been put there stays
      have hlast : get? rest key = none := by
        rw [get?_eq_none_iff]
        intro f hf hfkey
        exact hother f hf (sameKey_trans hk hsame (sameKey_symm (hrestKeys f hf) hfkey))
      have hfound : get? entries k = get? entries key := get?_congr hkeys hk hsame
      rw [if_pos hsame] at hnone ⊢
      refine ⟨fun h => (by cases h), ?_⟩
      rintro v hv
      obtain rfl := Option.some.inj hv
      exact ⟨child, r, hfound ▸ hr, hnone hlast⟩
    · rw [if_neg hsame] at hnone hsome ⊢
      exact ⟨hnone, hsome⟩

/-! ## At the end of a path -/

/-- What laying a later value over an earlier one leaves at the end of a path. -/
structure LaidOver (earlier later merged : Value) (path : List Value) : Prop where
  /-- A list or a scalar of the later value is there as it is. -/
  leaf : ∀ leaf, later.valueAt? path = some leaf → leaf.IsLeaf → merged.valueAt? path = some leaf
  /-- A mapping of the later value has the keys of the earlier one in front, and then its own new ones. -/
  mapping : ∀ entries, later.valueAt? path = some (.map entries) →
    ∃ done, merged.valueAt? path = some (.map done) ∧
      done.map (·.1) = (earlier.entriesAt path).map (·.1) ++
        (entries.map (·.1)).filter fun key => !hasKey (earlier.entriesAt path) key
  /-- Where the later value has null or nothing, the earlier one shows. -/
  shown : later.valueAt? path = none ∨ later.valueAt? path = some .null → ¬ later.LeafBefore path →
    merged.valueAt? path = (earlier.valueAt? path).or (later.valueAt? path)
  /-- Below a list or a scalar of the later value there is nothing. -/
  hidden : later.LeafBefore path → merged.valueAt? path = none

variable {earlier later : Value} {keys : List Value}

theorem laidOver_nil (hearlier : earlier.isSound = true) (hlater : later.isSound = true)
    (h : mergeAt earlier path later = .ok merged) : LaidOver earlier later merged [] where
  leaf := by
    intro leaf hat hleaf
    obtain rfl := Option.some.inj (valueAt?_nil.symm.trans hat)
    rw [valueAt?_nil, mergeAt_leaf hleaf h]
  mapping := by
    intro entries hat
    obtain rfl := Option.some.inj (valueAt?_nil.symm.trans hat)
    cases earlier with
    | map known =>
      obtain ⟨done, hdone, rfl⟩ := mergeAt_maps h
      obtain ⟨hkeys, hdistinct, -⟩ := isSound_map_iff.1 hlater
      exact ⟨done, valueAt?_nil, keys_mergeEntries (isSound_map_iff.1 hearlier).1 hkeys hdistinct hdone⟩
    | _ =>
      obtain rfl := Except.ok.inj ((mergeAt_map_of_not_map rfl).symm.trans h)
      exact ⟨entries, valueAt?_nil, by simp [entriesAt, Value.valueAt?, entries?, hasKey]⟩
  shown := by
    rintro (hat | hat) -
    · rw [valueAt?_nil] at hat
      cases hat
    · obtain rfl := Option.some.inj (valueAt?_nil.symm.trans hat)
      obtain rfl := Except.ok.inj (mergeAt_null.symm.trans h)
      rw [valueAt?_nil, Option.some_or]
  hidden := fun hbefore => absurd hbefore not_leafBefore_nil

/-- Nothing of the later value is below null. -/
theorem laidOver_null : LaidOver earlier .null earlier (key :: keys) where
  leaf := fun leaf hat => by cases hat
  mapping := fun entries hat => by cases hat
  shown := fun _ _ => Option.or_none.symm
  hidden := by
    rintro ⟨start, leaf, -, -, hat, hleaf⟩
    cases start with
    | nil => exact absurd (Option.some.inj hat).symm hleaf.1
    | cons k start => cases hat

theorem laidOver_leaf {leaf : Value} (hleaf : leaf.IsLeaf) : LaidOver earlier leaf leaf (key :: keys) where
  leaf := fun _ hat _ => hat
  mapping := by
    intro entries hat
    rw [valueAt?_cons_of_not_map hleaf.2] at hat
    cases hat
  shown := fun _ hbefore => absurd hleaf.leafBefore hbefore
  hidden := LeafBefore.valueAt?

/-- A mapping that is laid over something else than a mapping is there as it is. -/
theorem laidOver_of_not_map (hearlier : earlier.entries? = none) : LaidOver earlier later later (key :: keys) := by
  have hnone : earlier.valueAt? (key :: keys) = none := valueAt?_cons_of_not_map hearlier
  exact {
    leaf := fun _ hat _ => hat
    mapping := fun entries hat => ⟨entries, hat, by simp [entriesAt, hnone, hasKey]⟩
    shown := fun _ _ => by rw [hnone, Option.none_or]
    hidden := LeafBefore.valueAt? }

/-- A key that the later mapping does not have leads to what the earlier one has under it. -/
theorem laidOver_of_absent {known : List (Value × Value)} (hlater : get? entries key = none)
    (hdone : get? done key = get? known key) :
    LaidOver (.map known) (.map entries) (.map done) (key :: keys) := by
  have hnone : (Value.map entries).valueAt? (key :: keys) = none := by rw [valueAt?_map_cons, hlater, Option.bind_none]
  exact {
    leaf := fun leaf hat => by rw [hnone] at hat; cases hat
    mapping := fun entries hat => by rw [hnone] at hat; cases hat
    shown := fun _ _ => by rw [hnone, Option.or_none, valueAt?_map_cons, valueAt?_map_cons, hdone]
    hidden := by
      intro hbefore
      obtain ⟨v, hv, -⟩ := leafBefore_map_cons.1 hbefore
      rw [hlater] at hv
      cases hv }

/-- A key of both mappings leads to what the values under it have; nothing counts as null. -/
theorem laidOver_of_present {known : List (Value × Value)} {v r : Value} (hlater : get? entries key = some v)
    (hdone : get? done key = some r) (h : LaidOver ((get? known key).getD .null) v r keys) :
    LaidOver (.map known) (.map entries) (.map done) (key :: keys) := by
  have hbelow : (Value.map entries).valueAt? (key :: keys) = v.valueAt? keys := by
    rw [valueAt?_map_cons, hlater, Option.bind_some]
  have hthere : (Value.map done).valueAt? (key :: keys) = r.valueAt? keys := by
    rw [valueAt?_map_cons, hdone, Option.bind_some]
  have hentries : (Value.map known).entriesAt (key :: keys) = ((get? known key).getD .null).entriesAt keys := by
    unfold entriesAt
    rw [valueAt?_map_cons]
    cases get? known key with
    | some w => rfl
    | none => cases keys <;> rfl
  exact {
    leaf := by rw [hbelow, hthere]; exact h.leaf
    mapping := by rw [hbelow, hthere, hentries]; exact h.mapping
    shown := by
      rw [hbelow, hthere, leafBefore_map_cons, hlater]
      intro hat hbefore
      have hshown := h.shown hat fun hv => hbefore ⟨v, rfl, hv⟩
      rw [hshown, valueAt?_map_cons]
      cases get? known key with
      | some w => rfl
      | none =>
        cases keys with
        | cons k keys => rfl
        | nil =>
          -- null stands for nothing here, and the later value is null itself
          rw [valueAt?_nil] at hat ⊢
          rcases hat with hat | hat
          · cases hat
          · obtain rfl := Option.some.inj hat
            rfl
    hidden := by
      rw [hthere, leafBefore_map_cons, hlater]
      rintro ⟨w, hw, hbefore⟩
      obtain rfl := Option.some.inj hw
      exact h.hidden hbefore }

theorem laidOver (hearlier : earlier.isSound = true) (hlater : later.isSound = true)
    (h : mergeAt earlier path later = .ok merged) (keys : List Value) : LaidOver earlier later merged keys := by
  induction keys generalizing earlier later merged path with
  | nil => exact laidOver_nil hearlier hlater h
  | cons key keys ih =>
    cases hmap : later.entries? with
    | none =>
      by_cases hnull : later = .null
      · subst hnull
        obtain rfl := Except.ok.inj (mergeAt_null.symm.trans h)
        exact laidOver_null
      · have hleaf : later.IsLeaf := ⟨hnull, hmap⟩
        rw [mergeAt_leaf hleaf h]
        exact laidOver_leaf hleaf
    | some entries =>
      obtain rfl := eq_map_of_entries? hmap
      cases hknown : earlier.entries? with
      | none =>
        obtain rfl := Except.ok.inj ((mergeAt_map_of_not_map hknown).symm.trans h)
        exact laidOver_of_not_map hknown
      | some known =>
        obtain rfl := eq_map_of_entries? hknown
        obtain ⟨done, hdone, rfl⟩ := mergeAt_maps h
        obtain ⟨hkeys, hdistinct, -⟩ := isSound_map_iff.1 hlater
        obtain ⟨habsent, hpresent⟩ :=
          get?_mergeEntries (isSound_map_iff.1 hearlier).1 hkeys hdistinct hdone
        cases hget : get? entries key with
        | none => exact laidOver_of_absent hget (habsent hget)
        | some v =>
          obtain ⟨child, r, hr, hthere⟩ := hpresent v hget
          -- both have a value under the key, so the rest of the path is about these two
          refine laidOver_of_present hget hthere (ih ?_ (isSound_of_get? hlater hget) hr)
          cases hfirst : get? known key with
          | none => rfl
          | some w => exact isSound_of_get? hearlier hfirst

/-- The document that results from laying one over another has at the end of each path what the two have there. -/
theorem merge_laidOver (hearlier : earlier.isSound = true) (hlater : later.isSound = true)
    (h : merge earlier later = .ok merged) (keys : List Value) : LaidOver earlier later merged keys :=
  laidOver hearlier hlater h keys

/-! ### An amendment -/

/-- A document that demands something of storage accounts and subnets. -/
def standing : Value := .record
  [("azure", .record
    [("create_storage_account", .record [("deny_names", .list [.str "tmp"]), ("min_tls_version", .str "1.2")]),
     ("create_subnet", .record [("require_nsg", .bool true)])])]

/-- A document that has other names to deny, says nothing new about versions, demands one thing more, and no longer
has a mapping for subnets. -/
def amendment : Value := .record
  [("azure", .record
    [("create_storage_account", .record
      [("require_https_only", .bool true), ("deny_names", .list [.str "test"]), ("min_tls_version", .null)]),
     ("create_subnet", .str "later")])]

/-- The amended document: the new names, the old version, the old keys in front of the new one, and nothing of what
was demanded of subnets. -/
def amended : Value := .record
  [("azure", .record
    [("create_storage_account", .record
      [("deny_names", .list [.str "test"]), ("min_tls_version", .str "1.2"), ("require_https_only", .bool true)]),
     ("create_subnet", .str "later")])]

theorem amended_laidOver : standing.isSound = true ∧ amendment.isSound = true ∧
    merge standing amendment = .ok amended ∧ ∀ keys, LaidOver standing amendment amended keys := by
  have hstanding : standing.isSound = true := by decide +kernel
  have hamendment : amendment.isSound = true := by decide +kernel
  have hmerge : merge standing amendment = .ok amended := by
    simp [merge, standing, amendment, amended, record, mergeAt, mergeEntries, get?, put, same, childPath, text?,
      Except.map, bind, Except.bind]
  exact ⟨hstanding, hamendment, hmerge, merge_laidOver hstanding hamendment hmerge⟩

end Document
end PolicyGate
