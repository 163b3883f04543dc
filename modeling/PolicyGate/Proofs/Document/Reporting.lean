import PolicyGate.Document.Drift
import PolicyGate.Proofs.Document.Layering
import PolicyGate.Proofs.Document.Record
import PolicyGate.Proofs.Value.Holding

/-!
# What cannot be reported

Documents are written about while they are merged and looked at strictly: the paths to their places, and the
values that stray. Both go wrong only because of something that a document holds: a whole number that is too
long to be written, or a key that has no place in a path. What is kept through all shapes is that every
deviation has a path that can be written unless the document holds such a thing (`Shape.Looks`).
-/

namespace PolicyGate

open Attempt Value

/-! ## Merging -/

namespace Document

variable {base later : Value} {entries laterEntries : List (Value × Value)} {path : String}

theorem childPath_eq_error {key : Value} {e : MergeError} (h : childPath path key = .error e) :
    e = .tooManyDigits ∧ key.Holds IsLong := by
  unfold childPath at h
  split at h
  · rename_i hkey
    cases h
    exact ⟨rfl, text?_eq_none_iff.1 hkey⟩
  · cases h

mutual

/-- A document that cannot be merged for another reason than a conflict holds a number that is too long. -/
theorem mergeAt_tooManyDigits : {base : Value} → {path : String} → (later : Value) →
    mergeAt base path later = .error .tooManyDigits → later.Holds IsLong
  | base, path, .null, h => by cases h
  | base, path, .map later, h => by
    cases hmap : base.entries? with
    | none =>
      rw [mergeAt_map_of_not_map hmap] at h
      cases h
    | some entries =>
      rw [eq_map_of_entries? hmap, mergeAt_map_map] at h
      obtain ⟨e, he, hlong⟩ := mergeEntries_tooManyDigits later (map_eq_error.1 h)
      rcases hlong with hlong | hlong
      · exact .key he hlong
      · exact .value he hlong
  | base, path, .list items, h => by
    rw [mergeAt_list] at h
    split at h <;> cases h
  | base, path, .bool _, h | base, path, .int _, h | base, path, .float _, h | base, path, .str _, h
  | base, path, .day _, h | base, path, .moment _, h | base, path, .bytes _, h
  | base, path, .set _, h => by
    rw [mergeAt_scalar rfl (by simp) (by simp)] at h
    cases h

theorem mergeEntries_tooManyDigits : {entries : List (Value × Value)} → {path : String} →
    (later : List (Value × Value)) → mergeEntries entries path later = .error .tooManyDigits →
    ∃ e ∈ later, e.1.Holds IsLong ∨ e.2.Holds IsLong
  | entries, path, [], h => by cases h
  | entries, path, (key, value) :: rest, h => by
    rw [mergeEntries] at h
    rcases bind_eq_error.1 h with hpath | ⟨child, -, h⟩
    · exact ⟨_, List.mem_cons_self, .inl (childPath_eq_error hpath).2⟩
    rcases bind_eq_error.1 h with hvalue | ⟨merged, -, h⟩
    · exact ⟨_, List.mem_cons_self, .inr (mergeAt_tooManyDigits value hvalue)⟩
    · obtain ⟨e, he, hlong⟩ := mergeEntries_tooManyDigits rest h
      exact ⟨e, List.mem_cons_of_mem _ he, hlong⟩

end

end Document

/-! ## The strict look -/

/-- What something is that cannot be reported. -/
def DriftError.Cause : DriftError → Value → Prop
  | .tooManyDigits => IsLong
  | .keyKind => HasOddKey

/-- Each path that the deviation is reported with can be written if the path to the value can, unless the value
holds what cannot. -/
def Deviation.Placed (path : DriftPath) (v : Value) (d : Deviation) : Prop :=
  ∀ leaf ∈ d.leaves, ∀ e, leaf.1 = .error e → path = .error e ∨ v.Holds e.Cause

namespace Deviation

variable {path : DriftPath} {v : Value} {ds : List Deviation} {message : String}

theorem placed_kind : (Deviation.kind path message).Placed path v := by
  intro leaf hleaf e he
  rw [leaves, List.mem_singleton] at hleaf
  subst hleaf
  exact .inl he

theorem placed_other : (Deviation.other path message).Placed path v := by
  intro leaf hleaf e he
  rw [leaves, List.mem_singleton] at hleaf
  subst hleaf
  exact .inl he

/-- What is reported of several deviations is reported of one of them, and where those of the kind of a value are left
out, of another one. -/
theorem mem_leavesOf {withoutKinds : Bool} {leaf : DriftPath × String} (h : leaf ∈ leavesOf withoutKinds ds) :
    ∃ d ∈ ds, (withoutKinds = true → d.isKind = false) ∧ leaf ∈ d.leaves := by
  induction ds with
  | nil =>
    rw [leavesOf] at h
    cases h
  | cons d rest ih =>
    rw [leavesOf] at h
    rcases List.mem_append.1 h with h | h
    · split at h
      · cases h
      · rename_i hkept
        exact ⟨d, List.mem_cons_self, by simpa using hkept, h⟩
    · obtain ⟨d', hd', hkept, hleaf⟩ := ih h
      exact ⟨d', List.mem_cons_of_mem _ hd', hkept, hleaf⟩

theorem placed_alternatives (h : ∀ d ∈ ds, d.Placed path v) :
    (Deviation.alternatives ds).Placed path v := by
  intro leaf hleaf e he
  rw [leaves] at hleaf
  obtain ⟨d, hd, -, hleaf⟩ := mem_leavesOf hleaf
  exact h d hd leaf hleaf e he

end Deviation

namespace Shape

/-- What came of looking at a value at a path: it failed because of what the value holds, or each deviation has
its place. -/
structure Looks (path : DriftPath) (v : Value) (found : Except DriftError (List Deviation)) : Prop where
  fails : ∀ e, found = .error e → v.Holds e.Cause
  places : ∀ ds, found = .ok ds → ∀ d ∈ ds, d.Placed path v

variable {path inner : DriftPath} {v w : Value} {entries : List (Value × Value)} {allowed : List String}
  {found others : Except DriftError (List Deviation)} {α : Type} {e : DriftError}

/-! ### Ways to look -/

theorem shown_eq_error (h : shown v = .error e) : v.Holds e.Cause := by
  unfold shown at h
  split at h
  · cases h
  · rename_i hv
    cases h
    exact (literal?_eq_none_iff v).1 hv

theorem looks_nothing : Looks path v (.ok []) where
  fails e h := by cases h
  places ds h d hd := by
    cases h
    cases hd

theorem looks_error (h : v.Holds e.Cause) : Looks path v (.error e) where
  fails e' he := by
    cases he
    exact h
  places ds hds := by cases hds

theorem looks_single {d : Deviation} (h : d.Placed path v) : Looks path v (.ok [d]) where
  fails e h := by cases h
  places ds hds d' hd' := by
    cases hds
    rw [List.mem_singleton.1 hd']
    exact h

/-- Deviations of two looks, one after the other. -/
theorem Looks.append (h : Looks path v found) (h' : Looks path v others) :
    Looks path v (do return (← found) ++ (← others)) where
  fails e he := by
    rcases bind_eq_error.1 he with he | ⟨ds, -, he⟩
    · exact h.fails e he
    rcases bind_eq_error.1 he with he | ⟨ds', -, he⟩
    · exact h'.fails e he
    · cases he
  places ds hds d hd := by
    obtain ⟨first, hfirst, hds⟩ := bind_eq_ok.1 hds
    obtain ⟨rest, hrest, hds⟩ := bind_eq_ok.1 hds
    obtain rfl := pure_eq_ok.1 hds
    rcases List.mem_append.1 hd with hd | hd
    · exact h.places first hfirst d hd
    · exact h'.places rest hrest d hd

/-- Deviations of one look for each element of a list. -/
theorem looks_all {f : α → Except DriftError (List Deviation)} {xs : List α}
    (h : ∀ x ∈ xs, Looks path v (f x)) :
    Looks path v (do return (← xs.mapM f).flatten) where
  fails e he := by
    rcases bind_eq_error.1 he with he | ⟨parts, -, he⟩
    · obtain ⟨x, hx, hfx⟩ := mapM_eq_error he
      exact (h x hx).fails e hfx
    · cases he
  places ds hds d hd := by
    obtain ⟨parts, hparts, hds⟩ := bind_eq_ok.1 hds
    obtain rfl := pure_eq_ok.1 hds
    obtain ⟨part, hpart, hd⟩ := List.mem_flatten.1 hd
    obtain ⟨x, hx, hfx⟩ := exists_of_mem_mapM hparts hpart
    exact (h x hx).places part hfx d hd

/-- A look at a part is a look at the whole. -/
theorem Looks.of_part (h : Looks inner w found)
    (hpath : ∀ e, inner = .error e → path = .error e ∨ v.Holds e.Cause)
    (hpart : ∀ P : Value → Prop, w.Holds P → v.Holds P) : Looks path v found where
  fails e he := hpart _ (h.fails e he)
  places ds hds d hd leaf hleaf e he := by
    rcases h.places ds hds d hd leaf hleaf e he with hinner | hw
    · exact hpath e hinner
    · exact .inr (hpart _ hw)

theorem looks_ofKind {kind : String} {holds : Bool} : Looks path v (ofKind kind holds path v) := by
  unfold ofKind
  split
  · exact looks_nothing
  · cases hv : shown v with
    | ok s => exact looks_single Deviation.placed_kind
    | error e => exact looks_error (shown_eq_error hv)

theorem looks_wordDrift : Looks path v (wordDrift allowed path v) := by
  -- whether the word is listed, and how the list is written, does not matter
  have hlisted : ∀ (listed : Bool) words, Looks path v (if listed then
      pure [] >>= fun first => do return first ++ (← ofKind "string" (isText v) path v)
    else do
      let first ← pure [.other path ((← shown v) ++ " is not one of [" ++ words ++ "]")]
      return first ++ (← ofKind "string" (isText v) path v)) := by
    intro listed words
    split
    · exact looks_nothing.append looks_ofKind
    · cases hv : shown v with
      | ok s => exact (looks_single Deviation.placed_other).append looks_ofKind
      | error e => exact looks_error (shown_eq_error hv)
  exact hlisted _ _

theorem looks_fromAlternatives {attempts : List (Unit → Except DriftError (List Deviation))}
    (h : ∀ attempt ∈ attempts, Looks path v (attempt ())) :
    Looks path v (fromAlternatives v attempts) := by
  -- the search hands on what it has collected, so the induction is about any such list
  have hgo : ∀ collected, (∀ d ∈ collected, d.Placed path v) →
      Looks path v (fromAlternatives.go v collected attempts) := by
    induction attempts with
    | nil =>
      intro collected hcollected
      rw [fromAlternatives.go]
      cases hv : shown v with
      | ok s => exact looks_single (Deviation.placed_alternatives hcollected)
      | error e => exact looks_error (shown_eq_error hv)
    | cons attempt rest ih =>
      intro collected hcollected
      have hattempt := h attempt List.mem_cons_self
      rw [fromAlternatives.go]
      cases ha : attempt () with
      | error e => exact looks_error (hattempt.fails e ha)
      | ok ds =>
        cases ds with
        | nil => exact looks_nothing
        | cons d tail =>
          refine ih (fun attempt' hmem => h attempt' (List.mem_cons_of_mem _ hmem)) _ fun d' hd' => ?_
          rcases List.mem_append.1 hd' with hd' | hd'
          · exact hcollected d' hd'
          · exact hattempt.places _ ha d' hd'
  exact hgo [] (by simp)

theorem furtherKeys_eq_error {names : List String} (h : furtherKeys names entries = .error e) :
    (Value.map entries).Holds e.Cause := by
  rcases bind_eq_error.1 h with h | ⟨_, _, h⟩
  · obtain ⟨k, hk, hkey⟩ := mapM_eq_error h
    obtain ⟨⟨k', w⟩, hentry, rfl⟩ := List.mem_map.1 (List.mem_of_mem_filter hk)
    split at hkey
    · cases hkey
    · rename_i hnone
      cases hkey
      exact .key hentry (text?_eq_none_iff.1 hnone)
  · cases h

theorem mem_of_furtherKeys {names : List String} {keys : List Value}
    (h : furtherKeys names entries = .ok keys) {k : Value} (hk : k ∈ keys) : ∃ w, (k, w) ∈ entries := by
  obtain ⟨texts, htexts, h⟩ := bind_eq_ok.1 h
  obtain rfl := pure_eq_ok.1 h
  obtain ⟨⟨s, k'⟩, hmem, rfl⟩ := List.mem_map.1 hk
  obtain ⟨k'', hk'', hkey⟩ := exists_of_mem_mapM htexts (List.mem_mergeSort.1 hmem)
  split at hkey
  · cases hkey
    obtain ⟨⟨_, w⟩, hentry, rfl⟩ := List.mem_map.1 (List.mem_of_mem_filter hk'')
    exact ⟨w, hentry⟩
  · cases hkey

theorem looks_furtherDrift {names : List String} :
    Looks path (.map entries) (furtherDrift names path entries) := by
  unfold furtherDrift
  cases hkeys : furtherKeys names entries with
  | error e => exact looks_error (furtherKeys_eq_error hkeys)
  | ok keys =>
    cases keys with
    | nil => exact looks_nothing
    | cons k rest =>
      cases htexts : (k :: rest).mapM shown with
      | ok texts =>
        simp only [htexts, bind, Except.bind]
        exact looks_single Deviation.placed_other
      | error e =>
        simp only [htexts, bind, Except.bind]
        obtain ⟨k', hk', hshown⟩ := mapM_eq_error htexts
        obtain ⟨w, hentry⟩ := mem_of_furtherKeys hkeys hk'
        exact looks_error (.key hentry (shown_eq_error hshown))

/-! ### The paths to parts -/

theorem element_eq_error {i : Nat} (h : path.element i = .error e) : path = .error e :=
  map_eq_error.1 h

theorem entry_str_eq_error {s : String} (h : path.entry (.str s) = .error e) : path = .error e := by
  rcases bind_eq_error.1 h with h | ⟨outer, _, h⟩
  · exact h
  · cases h

theorem entry_eq_error {k : Value} (h : path.entry k = .error e) (he : (k, w) ∈ entries) :
    path = .error e ∨ (Value.map entries).Holds e.Cause := by
  rcases bind_eq_error.1 h with h | ⟨outer, _, h⟩
  · exact .inl h
  · right
    have hodd : (∀ s, k ≠ .str s) → (∀ b, k ≠ .bool b) → (∀ n, k ≠ .int n) → e = .keyKind →
        (Value.map entries).Holds e.Cause := by
      rintro hs hb hn rfl
      exact .here ⟨entries, k, w, rfl, he, hs, hb, hn⟩
    cases k with
    | str s => cases h
    | bool b => cases h
    | int n =>
      cases hlong : (Value.int n).literal? with
      | some s =>
        simp only [hlong] at h
        cases h
      | none =>
        simp only [hlong] at h
        cases h
        exact .key he ((literal?_eq_none_iff _).1 hlong)
    | _ =>
      cases h
      exact hodd (by simp) (by simp) (by simp) rfl

/-! ### All shapes -/

mutual

/-- Looking at a value by a shape. -/
theorem looks_drift : (shape : Shape) → (path : DriftPath) → (v : Value) →
    Looks path v (shape.drift path v)
  | .anything, path, v => by
    rw [drift]
    exact looks_nothing
  | .text, path, v => by
    rw [drift]
    exact looks_ofKind
  | .flag, path, v => by
    rw [drift]
    exact looks_ofKind
  | .whole, path, v => by
    rw [drift]
    exact looks_ofKind
  | .word allowed, path, v => by
    rw [drift]
    exact looks_wordDrift
  | .version allowed, path, v => by
    rw [drift]
    refine looks_fromAlternatives fun attempt h => ?_
    simp only [List.mem_cons, List.not_mem_nil, or_false] at h
    rcases h with rfl | rfl
    · exact looks_wordDrift
    · exact looks_ofKind
  | .list item, path, v => by
    unfold drift
    split
    · rename_i vs
      refine looks_all fun ⟨x, i⟩ hx => ?_
      refine (looks_drift item (path.element i) x).of_part (fun e he => .inl (element_eq_error he)) ?_
      exact fun P h => .item (List.fst_mem_of_mem_zipIdx hx) h
    · exact looks_ofKind
  | .dictionary item, path, v => by
    unfold drift
    split
    · rename_i entries
      refine looks_all fun ⟨k, x⟩ hx => ?_
      refine (looks_drift item (path.entry k) x).of_part (fun e he => entry_eq_error he hx) ?_
      exact fun P h => .value hx h
    · exact looks_ofKind
  | .record name fields, path, v => by
    unfold drift
    split
    · rename_i entries
      exact looks_furtherDrift.append (looks_fieldsDrift fields path entries)
    · exact looks_ofKind
  | .nullable (.version allowed), path, v => by
    rw [drift]
    refine looks_fromAlternatives fun attempt h => ?_
    simp only [List.mem_cons, List.not_mem_nil, or_false] at h
    rcases h with rfl | rfl | rfl
    · exact looks_wordDrift
    · exact looks_ofKind
    · exact looks_ofKind
  | .nullable (.textOr shape), path, v => by
    rw [drift]
    refine looks_fromAlternatives fun attempt h => ?_
    simp only [List.mem_cons, List.not_mem_nil, or_false] at h
    rcases h with rfl | rfl | rfl
    · exact looks_ofKind
    · exact looks_drift shape path v
    · exact looks_ofKind
  | .textOr shape, path, v => by
    rw [drift]
    refine looks_fromAlternatives fun attempt h => ?_
    simp only [List.mem_cons, List.not_mem_nil, or_false] at h
    rcases h with rfl | rfl
    · exact looks_ofKind
    · exact looks_drift shape path v
  | .nullable .anything, path, v | .nullable .text, path, v | .nullable .flag, path, v
  | .nullable .whole, path, v | .nullable (.word _), path, v | .nullable (.list _), path, v
  | .nullable (.dictionary _), path, v | .nullable (.record _ _), path, v
  | .nullable (.nullable _), path, v => by
    rw [drift]
    · refine looks_fromAlternatives fun attempt h => ?_
      simp only [List.mem_cons, List.not_mem_nil, or_false] at h
      rcases h with rfl | rfl
      · exact looks_drift _ path v
      · exact looks_ofKind
    · simp
    · simp

/-- Looking at the fields of a mapping. -/
theorem looks_fieldsDrift : (fields : Fields) → (path : DriftPath) → (entries : List (Value × Value)) →
    Looks path (.map entries) (fieldsDrift fields path entries)
  | .none, path, entries => by
    rw [fieldsDrift]
    exact looks_nothing
  | .field name required shape others, path, entries => by
    rw [fieldsDrift]
    cases hx : field? entries name with
    | none =>
      refine Looks.append ?_ (looks_fieldsDrift others path entries)
      split
      · exact looks_single Deviation.placed_other
      · exact looks_nothing
    | some x =>
      have hfirst := looks_drift shape (path.entry (.str name)) x
      refine Looks.append (hfirst.of_part (fun e he => .inl (entry_str_eq_error he)) ?_)
        (looks_fieldsDrift others path entries)
      exact fun P h => .value (mem_of_field? hx) h

end

/-- Looking at a whole document goes wrong only because of what it holds. -/
theorem warnings_eq_error {shape : Shape} (h : shape.warnings v = .error e) : v.Holds e.Cause := by
  have hlooks := looks_drift shape DriftPath.root v
  rcases bind_eq_error.1 h with h | ⟨ds, hds, h⟩
  · exact hlooks.fails e h
  rcases bind_eq_error.1 h with h | ⟨_, -, h⟩
  · obtain ⟨leaf, hleaf, h⟩ := mapM_eq_error h
    obtain ⟨d, hd, hleaf⟩ := List.mem_flatMap.1 hleaf
    have hpath : leaf.1 = .error e := by
      rcases bind_eq_error.1 h with h | ⟨_, _, h⟩
      · exact h
      · cases h
    exact (hlooks.places ds hds d hd leaf hleaf e hpath).resolve_left (by simp [DriftPath.root])
  · cases h

end Shape
end PolicyGate
