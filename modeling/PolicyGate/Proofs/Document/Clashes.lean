import PolicyGate.Proofs.Value.Holding
import PolicyGate.Proofs.Value.Nesting

/-!
# When documents cannot be merged

Merging goes through the later document in its own order, and it fails at the first key path that is an obstacle
(`Document.failure?_mergeAt`). There are two kinds of them. At a clash the later document has a list where the
earlier one has something that is neither a list nor null. A key is untold when it stands in two mappings that are
merged and is too long to be written, so that no path to what is under it can be given. A conflict is reported for
the first clash, unless an untold key comes before it (`Document.merge_conflicts_iff`).
-/

namespace PolicyGate

open Attempt

/-- What went wrong, if anything did. -/
def Attempt.failure? {ε α : Type} : Except ε α → Option ε
  | .error e => some e
  | .ok _ => none

theorem Attempt.failure?_eq_some {ε α : Type} {x : Except ε α} {e : ε} : failure? x = some e ↔ x = .error e := by
  cases x with
  | ok a => simp [failure?]
  | error e' => simp [failure?]

theorem Attempt.failure?_map {ε α β : Type} {x : Except ε α} {f : α → β} : failure? (x.map f) = failure? x := by
  cases x <;> rfl

namespace Document

open Value

/-- At the end of the path the later value has a list, and the earlier one something that is neither a list nor
null. -/
structure Clash (earlier later : Value) (path : List Value) (there : Value) : Prop where
  list : ∃ items, later.valueAt? path = some (.list items)
  found : earlier.valueAt? path = some there
  notNull : there ≠ .null
  notList : ∀ items, there ≠ .list items

/-- The path leads through a key that both values have mappings for, and that is too long to be written. -/
def Untold (earlier later : Value) (path : List Value) : Prop :=
  ∃ start key, start ++ [key] <+: path ∧ (∃ entries, earlier.valueAt? start = some (.map entries)) ∧
    (∃ entries, later.valueAt? start = some (.map entries)) ∧ key.text? = none

/-- The path one text further. -/
def extend (path name : String) : String := if path.isEmpty then name else path ++ "." ++ name

/-- What fails at the end of a path of keys when the later value is merged into the earlier one. -/
def obstacle? : Value → Value → String → List Value → Option MergeError
  | .null, .list _, _, [] | .list _, .list _, _, [] => none
  | there, .list _, path, [] => some (.conflict ⟨shownPath path, there.kindName⟩)
  | .map known, .map entries, path, key :: keys =>
    match key.text? with
    | none => some .tooManyDigits
    | some name => (get? entries key).bind fun v =>
      obstacle? ((get? known key).getD .null) v (extend path name) keys
  | _, _, _, _ => none

variable {earlier later : Value} {known entries rest : List (Value × Value)} {path : String} {key v : Value}
  {keys : List Value}

theorem childPath_eq : childPath path key = match key.text? with
    | none => .error .tooManyDigits
    | some name => .ok (extend path name) := rfl

/-! ## Merging fails at the first obstacle -/

/-- What is not a mapping has no place but its own. -/
theorem failure?_mergeAt_of_not_map (h : later.entries? = none) :
    failure? (mergeAt earlier path later) = obstacle? earlier later path [] := by
  cases later with
  | map entries => cases h
  | list items =>
    rw [mergeAt_list]
    cases earlier <;> rfl
  | null =>
    rw [mergeAt_null]
    cases earlier <;> rfl
  | _ =>
    rw [mergeAt_scalar h (by simp) (by simp)]
    cases earlier <;> rfl

theorem obstacle?_map_nil : obstacle? earlier (.map entries) path [] = none := by
  cases earlier <;> rfl

theorem obstacle?_of_not_map (h : earlier.entries? = none) : obstacle? earlier (.map entries) path keys = none := by
  cases earlier with
  | map known => cases h
  | _ => cases keys <;> rfl

/-- The entries of the later mapping are gone through one after the other. What has been put into the earlier one
on the way is not looked at again. -/
theorem failure?_mergeEntries {done : List (Value × Value)} (hdone : ∀ e ∈ done, e.1.isKey = true)
    (hrest : KeysSound (rest.map (·.1))) (hlater : ∀ e ∈ rest, get? entries e.1 = some e.2)
    (hknown : ∀ e ∈ rest, get? done e.1 = get? known e.1)
    (hvalues : ∀ e ∈ rest, ∀ path, failure? (mergeAt ((get? known e.1).getD .null) path e.2) =
      ([] :: e.2.keyPaths).findSome? (obstacle? ((get? known e.1).getD .null) e.2 path)) :
    failure? (mergeEntries done path rest) =
      (entryPaths rest).findSome? (obstacle? (.map known) (.map entries) path) := by
  -- on the entries that are left, while the earlier mapping takes in those before
  induction rest generalizing done with
  | nil => rfl
  | cons e rest ih =>
    obtain ⟨key, value⟩ := e
    obtain ⟨hfound, hlater⟩ := List.forall_mem_cons.1 hlater
    obtain ⟨hhere, hknown⟩ := List.forall_mem_cons.1 hknown
    obtain ⟨hvalue, hvalues⟩ := List.forall_mem_cons.1 hvalues
    have hkey : key.isKey = true := hrest.isKey_of_mem List.mem_cons_self
    have hbelow : ∀ keys, obstacle? (.map known) (.map entries) path (key :: keys) = match key.text? with
        | none => some .tooManyDigits
        | some name => obstacle? ((get? known key).getD .null) value (extend path name) keys := by
      intro keys
      rw [obstacle?, hfound]
      rfl
    rw [mergeEntries, entryPaths, List.findSome?_append, List.findSome?_map, childPath_eq, hhere]
    cases htext : key.text? with
    | none => simp [Function.comp_def, hbelow, htext, failure?, bind, Except.bind]
    | some name =>
      -- what is below the first entry fails as its value does
      have hfirst : ([] :: value.keyPaths).findSome? (obstacle? (.map known) (.map entries) path ∘ (key :: ·)) =
          failure? (mergeAt ((get? known key).getD .null) (extend path name) value) := by
        rw [hvalue]
        refine congrArg (fun f => ([] :: value.keyPaths).findSome? f) (funext fun keys => ?_)
        rw [Function.comp_apply, hbelow, htext]
      rw [hfirst]
      cases hmerge : mergeAt ((get? known key).getD .null) (extend path name) value with
      | error e => simp [hmerge, failure?, bind, Except.bind]
      | ok merged =>
        -- the keys are different, so what comes next finds what was there in the beginning
        have hput : ∀ e ∈ rest, get? (put done key merged) e.1 = get? known e.1 := fun e he =>
          (hrest.get?_put hdone he).trans (hknown e he)
        have hkeys : ∀ e ∈ put done key merged, e.1.isKey = true := fun e he => isKey_of_mem_put hdone hkey he
        have hstep := ih hkeys hrest.tail hlater hput hvalues
        simpa [hmerge, failure?, bind, Except.bind] using hstep

/-- Merging fails at the first obstacle on the key paths of the later value, and only there. -/
theorem failure?_mergeAt (hearlier : earlier.isSound = true) (hlater : later.isSound = true) :
    failure? (mergeAt earlier path later) = ([] :: later.keyPaths).findSome? (obstacle? earlier later path) := by
  induction later using nesting generalizing earlier path with
  | other later hmap =>
    rw [failure?_mergeAt_of_not_map hmap, keyPaths_of_not_map hmap, List.findSome?_singleton]
  | map entries ih =>
    rw [List.findSome?_cons, obstacle?_map_nil]
    change _ = (entryPaths entries).findSome? (obstacle? earlier (.map entries) path)
    cases hmap : earlier.entries? with
    | none =>
      -- a mapping takes the place of what is none, whatever it holds
      have hquiet : (entryPaths entries).findSome? (obstacle? earlier (.map entries) path) = none :=
        List.findSome?_eq_none_iff.2 fun keys _ => obstacle?_of_not_map hmap
      rw [hquiet, mergeAt_map_of_not_map hmap]
      rfl
    | some known =>
      obtain rfl := eq_map_of_entries? hmap
      have hkeys := keysSound_of_isSound hlater
      have hvalues : ∀ e ∈ entries, ∀ path, failure? (mergeAt ((get? known e.1).getD .null) path e.2) =
          ([] :: e.2.keyPaths).findSome? (obstacle? ((get? known e.1).getD .null) e.2 path) := fun e he path =>
        ih e he (isSound_getD hearlier) (entriesSound_iff.1 (isSound_map_iff.1 hlater).2.2 e he)
      rw [mergeAt_map_map, failure?_map]
      exact failure?_mergeEntries (isSound_map_iff.1 hearlier).1 hkeys (fun e he => get?_of_mem hkeys he)
        (fun _ _ => rfl) hvalues

/-! ## What an obstacle is -/

theorem clash_nil {there : Value} : Clash earlier later [] there ↔
    (∃ items, later = .list items) ∧ earlier = there ∧ there ≠ .null ∧ ∀ items, there ≠ .list items := by
  constructor
  · rintro ⟨hlist, hfound, hnull, hother⟩
    rw [valueAt?_nil, Option.some.injEq] at hfound
    simp only [valueAt?_nil, Option.some.injEq] at hlist
    exact ⟨hlist, hfound, hnull, hother⟩
  · rintro ⟨hlist, hfound, hnull, hother⟩
    exact ⟨by simpa only [valueAt?_nil, Option.some.injEq] using hlist, by rw [valueAt?_nil, hfound], hnull, hother⟩

theorem clash_cons {there : Value} : Clash (.map known) (.map entries) (key :: keys) there ↔
    ∃ v, get? entries key = some v ∧ Clash ((get? known key).getD .null) v keys there := by
  constructor
  · rintro ⟨⟨items, hlist⟩, hfound, hnull, hother⟩
    rw [valueAt?_map_cons, Option.bind_eq_some_iff] at hlist hfound
    obtain ⟨v, hv, hlist⟩ := hlist
    obtain ⟨w, hw, hfound⟩ := hfound
    exact ⟨v, hv, ⟨items, hlist⟩, by rw [hw]; exact hfound, hnull, hother⟩
  · rintro ⟨v, hv, ⟨items, hlist⟩, hfound, hnull, hother⟩
    refine ⟨⟨items, by rw [valueAt?_map_cons, hv]; exact hlist⟩, ?_, hnull, hother⟩
    rw [valueAt?_map_cons]
    cases hw : get? known key with
    | some w =>
      rw [hw] at hfound
      exact hfound
    | none =>
      -- null stands for nothing here, and there is no clash with null
      rw [hw] at hfound
      cases keys with
      | nil => exact absurd (Option.some.inj hfound).symm hnull
      | cons k keys => cases hfound

theorem not_clash_of_not_map {there : Value} (h : earlier.entries? = none ∨ later.entries? = none) :
    ¬ Clash earlier later (key :: keys) there := by
  rintro ⟨⟨items, hlist⟩, hfound, -⟩
  rcases h with h | h
  · rw [valueAt?_cons_of_not_map h] at hfound
    cases hfound
  · rw [valueAt?_cons_of_not_map h] at hlist
    cases hlist

theorem not_untold_nil : ¬ Untold earlier later [] := by
  rintro ⟨start, key, hprefix, -⟩
  simp at hprefix

theorem untold_cons : Untold (.map known) (.map entries) (key :: keys) ↔
    key.text? = none ∨ ∃ v, get? entries key = some v ∧ Untold ((get? known key).getD .null) v keys := by
  constructor
  · rintro ⟨start, k, hprefix, ⟨es, hes⟩, ⟨fs, hfs⟩, htext⟩
    -- the key may be the first of the path, or one below it
    cases start with
    | nil =>
      obtain ⟨rfl, -⟩ := List.cons_prefix_cons.1 hprefix
      exact .inl htext
    | cons j start =>
      obtain ⟨rfl, hbelow⟩ := List.cons_prefix_cons.1 hprefix
      rw [valueAt?_map_cons, Option.bind_eq_some_iff] at hes hfs
      obtain ⟨w, hw, hes⟩ := hes
      obtain ⟨v, hv, hfs⟩ := hfs
      exact .inr ⟨v, hv, start, k, hbelow, ⟨es, by rw [hw]; exact hes⟩, ⟨fs, hfs⟩, htext⟩
  · rintro (htext | ⟨v, hv, start, k, hprefix, ⟨es, hes⟩, ⟨fs, hfs⟩, htext⟩)
    · exact ⟨[], key, by simp, ⟨known, valueAt?_nil⟩, ⟨entries, valueAt?_nil⟩, htext⟩
    · refine ⟨key :: start, k, List.cons_prefix_cons.2 ⟨rfl, hprefix⟩, ?_,
        ⟨fs, by rw [valueAt?_map_cons, hv]; exact hfs⟩, htext⟩
      cases hw : get? known key with
      | some w =>
        rw [hw] at hes
        exact ⟨es, by rw [valueAt?_map_cons, hw]; exact hes⟩
      | none =>
        rw [hw] at hes
        cases start <;> cases hes

theorem not_untold_of_not_map (h : earlier.entries? = none ∨ later.entries? = none) :
    ¬ Untold earlier later keys := by
  rintro ⟨start, key, -, ⟨es, hes⟩, ⟨fs, hfs⟩, -⟩
  cases start with
  | nil =>
    obtain rfl := Option.some.inj (valueAt?_nil.symm.trans hes)
    obtain rfl := Option.some.inj (valueAt?_nil.symm.trans hfs)
    rcases h with h | h <;> cases h
  | cons k start =>
    rcases h with h | h
    · rw [valueAt?_cons_of_not_map h] at hes
      cases hes
    · rw [valueAt?_cons_of_not_map h] at hfs
      cases hfs

theorem maps_or_not (earlier later : Value) :
    (∃ known entries, earlier = .map known ∧ later = .map entries) ∨ earlier.entries? = none ∨
      later.entries? = none := by
  cases hknown : earlier.entries? with
  | none => exact .inr (.inl rfl)
  | some known =>
    cases hentries : later.entries? with
    | none => exact .inr (.inr rfl)
    | some entries => exact .inl ⟨known, entries, eq_map_of_entries? hknown, eq_map_of_entries? hentries⟩

theorem obstacle?_cons_of_not_map (h : earlier.entries? = none ∨ later.entries? = none) :
    obstacle? earlier later path (key :: keys) = none := by
  rcases h with h | h
  · cases earlier with
    | map known => cases h
    | _ => cases later <;> rfl
  · cases later with
    | map entries => cases h
    | _ => cases earlier <;> rfl

/-- An obstacle on the way to the end of a path is an untold key. -/
theorem obstacle?_tooManyDigits : obstacle? earlier later path keys = some .tooManyDigits ↔
    Untold earlier later keys := by
  induction keys generalizing earlier later path with
  | nil =>
    refine iff_of_false ?_ not_untold_nil
    cases later with
    | list items => cases earlier <;> simp [obstacle?]
    | _ => simp [obstacle?]
  | cons key keys ih =>
    rcases maps_or_not earlier later with ⟨known, entries, rfl, rfl⟩ | hnot
    · rw [untold_cons, obstacle?]
      cases key.text? with
      | none => simp
      | some name => simp [Option.bind_eq_some_iff, ih]
    · rw [obstacle?_cons_of_not_map hnot]
      exact iff_of_false (by simp) (not_untold_of_not_map hnot)

theorem obstacle?_nil_conflict {c : MergeConflict} : obstacle? earlier later path [] = some (.conflict c) ↔
    ∃ there, Clash earlier later [] there ∧ c = ⟨shownPath path, there.kindName⟩ := by
  simp only [clash_nil]
  cases later with
  | list items => cases earlier <;> simp [obstacle?, eq_comm]
  | _ => simp [obstacle?]

/-- The obstacle at the end of a path is a clash, and the keys that lead there can be written. -/
theorem obstacle?_conflict {c : MergeConflict} : obstacle? earlier later path keys = some (.conflict c) ↔
    ∃ (there : Value) (names : List String), Clash earlier later keys there ∧ keys.map text? = names.map some ∧
      c = ⟨shownPath (names.foldl extend path), there.kindName⟩ := by
  induction keys generalizing earlier later path with
  | nil =>
    rw [obstacle?_nil_conflict]
    constructor
    · rintro ⟨there, hclash, rfl⟩
      exact ⟨there, [], hclash, rfl, rfl⟩
    · rintro ⟨there, names, hclash, hnames, rfl⟩
      obtain rfl : names = [] := List.map_eq_nil_iff.1 hnames.symm
      exact ⟨there, hclash, rfl⟩
  | cons key keys ih =>
    rcases maps_or_not earlier later with ⟨known, entries, rfl, rfl⟩ | hnot
    · rw [obstacle?]
      cases hname : key.text? with
      | none =>
        -- what is behind a key that cannot be written is not told of
        refine iff_of_false (by simp) ?_
        rintro ⟨there, names, -, hnames, -⟩
        cases names <;> simp [hname] at hnames
      | some name =>
        simp only [Option.bind_eq_some_iff, ih]
        constructor
        · rintro ⟨v, hv, there, names, hclash, hnames, rfl⟩
          refine ⟨there, name :: names, clash_cons.2 ⟨v, hv, hclash⟩, ?_, rfl⟩
          rw [List.map_cons, List.map_cons, hname, hnames]
        · rintro ⟨there, names, hclash, hnames, rfl⟩
          obtain ⟨v, hv, hclash⟩ := clash_cons.1 hclash
          cases names with
          | nil => cases hnames
          | cons n names =>
            rw [List.map_cons, List.map_cons, hname, List.cons.injEq, Option.some.injEq] at hnames
            obtain ⟨rfl, hnames⟩ := hnames
            exact ⟨v, hv, there, names, hclash, hnames, rfl⟩
    · -- a path goes on only where both are mappings
      rw [obstacle?_cons_of_not_map hnot]
      refine iff_of_false (by simp) ?_
      rintro ⟨there, names, hclash, -⟩
      exact not_clash_of_not_map hnot hclash

/-- The keys that lead to a clash can be written if none of them is untold. -/
theorem exists_names {there : Value} (hclash : Clash earlier later keys there) (htold : ¬ Untold earlier later keys) :
    ∃ names : List String, keys.map text? = names.map some := by
  induction keys generalizing earlier later with
  | nil => exact ⟨[], rfl⟩
  | cons key keys ih =>
    rcases maps_or_not earlier later with ⟨known, entries, rfl, rfl⟩ | hnot
    · obtain ⟨v, hv, hclash⟩ := clash_cons.1 hclash
      rw [untold_cons, not_or] at htold
      obtain ⟨name, hname⟩ := Option.ne_none_iff_exists'.1 htold.1
      obtain ⟨names, hnames⟩ := ih hclash fun h => htold.2 ⟨v, hv, h⟩
      exact ⟨name :: names, by rw [List.map_cons, List.map_cons, hname, hnames]⟩
    · exact absurd hclash (not_clash_of_not_map hnot)

/-- Where there is no obstacle, there is neither a clash nor an untold key. -/
theorem obstacle?_eq_none_iff : obstacle? earlier later path keys = none ↔
    (∀ there, ¬ Clash earlier later keys there) ∧ ¬ Untold earlier later keys := by
  rw [← not_iff_not, ← ne_eq, Option.ne_none_iff_exists', not_and_or, not_forall_not, not_not]
  constructor
  · rintro ⟨e | _, he⟩
    · obtain ⟨there, _, hclash, -⟩ := obstacle?_conflict.1 he
      exact .inl ⟨there, hclash⟩
    · exact .inr (obstacle?_tooManyDigits.1 he)
  · intro h
    by_cases htold : Untold earlier later keys
    · exact ⟨_, obstacle?_tooManyDigits.2 htold⟩
    · obtain ⟨there, hclash⟩ := h.resolve_right htold
      obtain ⟨names, hnames⟩ := exists_names hclash htold
      exact ⟨_, obstacle?_conflict.2 ⟨there, names, hclash, hnames, rfl⟩⟩

/-! ## What is reported -/

/-- Texts of keys joined by dots, as a path is reported. Empty texts in front leave nothing to join. -/
def dotted (names : List String) : String := shownPath (".".intercalate (names.dropWhile (·.isEmpty)))

theorem foldl_extend_of_ne {names : List String} (h : path.isEmpty = false) :
    names.foldl extend path = ".".intercalate (path :: names) := by
  induction names generalizing path with
  | nil => rw [List.foldl_nil, String.intercalate_singleton]
  | cons name names ih =>
    have hlonger : (path ++ "." ++ name).isEmpty = false := by simp
    rw [List.foldl_cons, extend, if_neg (by simp [h]), ih hlonger, String.intercalate_cons_append,
      String.intercalate_cons_cons]

theorem foldl_extend (names : List String) :
    names.foldl extend "" = ".".intercalate (names.dropWhile (·.isEmpty)) := by
  induction names with
  | nil => rfl
  | cons name names ih =>
    have hfirst : extend "" name = name := rfl
    rw [List.foldl_cons, hfirst, List.dropWhile_cons]
    cases hname : name.isEmpty with
    | true =>
      obtain rfl := String.isEmpty_iff.1 hname
      rw [ih, if_pos rfl]
    | false => rw [foldl_extend_of_ne hname, if_neg (by simp)]

/-- Texts of which none is empty are all there, joined by dots. -/
theorem dotted_of_ne {names : List String} (hne : names ≠ []) (h : ∀ name ∈ names, name ≠ "") :
    dotted names = ".".intercalate names := by
  cases names with
  | nil => exact absurd rfl hne
  | cons name names =>
    have hname : name ≠ "" := h name List.mem_cons_self
    have hkept : (name :: names).dropWhile (·.isEmpty) = name :: names := by simp [hname]
    have hshown : (".".intercalate (name :: names)).isEmpty = false := by
      cases names <;> simp [String.intercalate_cons_cons, hname]
    rw [dotted, hkept, shownPath, if_neg (by simp [hshown])]

/-- The first clash in the order of the later value, with no untold key in front of it. -/
structure FirstClash (earlier later : Value) (path : List Value) (there : Value) : Prop where
  clash : Clash earlier later path there
  first : ∃ before after, later.keyPaths = before ++ path :: after ∧
    ∀ other ∈ before, (∀ w, ¬ Clash earlier later other w) ∧ ¬ Untold earlier later other

/-- The conflict tells which keys lead to its place, and what kind of value the earlier document has there. -/
structure TellsOf (c : MergeConflict) (path : List Value) (there : Value) : Prop where
  kind : c.existingKind = there.kindName
  names : ∃ names : List String, path.map text? = names.map some ∧ c.keyPath = dotted names ∧
    ((∀ name ∈ names, name ≠ "") → c.keyPath = ".".intercalate names)

theorem Untold.exists_key (h : Untold earlier later keys) : ∃ key ∈ keys, key.text? = none := by
  obtain ⟨start, key, hprefix, -, -, htext⟩ := h
  exact ⟨key, hprefix.subset (by simp), htext⟩

/-- What goes wrong is a clash, or a key that cannot be written. -/
theorem of_mergeAt_eq_error {e : MergeError} (hearlier : earlier.isSound = true) (hlater : later.isSound = true)
    (h : mergeAt earlier path later = .error e) :
    (∃ c keys there, e = .conflict c ∧ Clash earlier later keys there) ∨ e = .tooManyDigits ∧ ¬ later.IsWritable := by
  rw [← failure?_eq_some, failure?_mergeAt hearlier hlater] at h
  obtain ⟨keys, hkeys, hobstacle⟩ := List.exists_of_findSome?_eq_some h
  cases e with
  | conflict c =>
    obtain ⟨there, _, hclash, -⟩ := obstacle?_conflict.1 hobstacle
    exact .inl ⟨c, keys, there, rfl, hclash⟩
  | tooManyDigits =>
    obtain ⟨key, hkey, htext⟩ := (obstacle?_tooManyDigits.1 hobstacle).exists_key
    rcases List.mem_cons.1 hkeys with rfl | hkeys
    · cases hkey
    · exact .inr ⟨rfl, fun hwritable => hwritable keys hkeys key hkey htext⟩

/-- At a clash something goes wrong. -/
theorem not_mergeAt_eq_ok {merged there : Value} (hearlier : earlier.isSound = true) (hlater : later.isSound = true)
    (hkeys : keys ∈ later.keyPaths) (hclash : Clash earlier later keys there) :
    mergeAt earlier path later ≠ .ok merged := by
  intro h
  have hquiet : failure? (mergeAt earlier path later) = none := by rw [h, failure?]
  rw [failure?_mergeAt hearlier hlater, List.findSome?_eq_none_iff] at hquiet
  exact (obstacle?_eq_none_iff.1 (hquiet keys (List.mem_cons_of_mem _ hkeys))).1 there hclash

/-- What goes wrong with two mappings is the first obstacle on the key paths of the later one. -/
theorem merge_eq_error_iff {e : MergeError} (hknown : (Value.map known).isSound = true)
    (hentries : (Value.map entries).isSound = true) : merge (.map known) (.map entries) = .error e ↔
      ∃ before path after, (Value.map entries).keyPaths = before ++ path :: after ∧
        obstacle? (.map known) (.map entries) "" path = some e ∧
        ∀ other ∈ before, obstacle? (.map known) (.map entries) "" other = none := by
  rw [← failure?_eq_some, merge, failure?_mergeAt hknown hentries, List.findSome?_cons, obstacle?_map_nil]
  exact List.findSome?_eq_some_iff

/-- Two paths of keys that count as the same lead to the same clash. -/
theorem Clash.congr {path : List Value} {there : Value} (hearlier : earlier.isSound = true)
    (hlater : later.isSound = true) (hkeys : ∀ k ∈ keys, k.isKey = true)
    (hsame : List.Forall₂ (fun j k => sameKey j k = true) keys path) (h : Clash earlier later path there) :
    Clash earlier later keys there where
  list := by
    rw [valueAt?_congr hlater hkeys hsame]
    exact h.list
  found := by
    rw [valueAt?_congr hearlier hkeys hsame]
    exact h.found
  notNull := h.notNull
  notList := h.notList

/-- A conflict is reported exactly for the first clash, as long as no untold key comes before it, with the kind of
value that the earlier document has there and the keys that lead there. If the keys of the later document can be
written, there is a conflict exactly if there is a clash. -/
theorem merge_conflicts_iff (hknown : (Value.map known).isSound = true)
    (hentries : (Value.map entries).isSound = true) :
    (∀ c, merge (.map known) (.map entries) = .error (.conflict c) ↔
      ∃ path there, FirstClash (.map known) (.map entries) path there ∧ TellsOf c path there) ∧
    ((Value.map entries).IsWritable →
      ((∃ c, merge (.map known) (.map entries) = .error (.conflict c)) ↔
        ∃ path there, Clash (.map known) (.map entries) path there)) := by
  have hreported : ∀ c, merge (.map known) (.map entries) = .error (.conflict c) ↔
      ∃ path there, FirstClash (.map known) (.map entries) path there ∧ TellsOf c path there := by
    intro c
    rw [merge_eq_error_iff hknown hentries]
    constructor
    · rintro ⟨before, path, after, hpaths, hhere, hbefore⟩
      obtain ⟨there, names, hclash, hnames, rfl⟩ := obstacle?_conflict.1 hhere
      -- there is no clash at the root, where both are mappings
      have hne : names ≠ [] := by
        rintro rfl
        obtain rfl : path = [] := List.map_eq_nil_iff.1 hnames
        obtain ⟨⟨items, hlist⟩, -⟩ := clash_nil.1 hclash
        cases hlist
      refine ⟨path, there, ⟨hclash, before, after, hpaths, fun other hother => ?_⟩, rfl, names, hnames, ?_,
        fun hnonempty => ?_⟩
      · exact obstacle?_eq_none_iff.1 (hbefore other hother)
      · rw [foldl_extend, dotted]
      · rw [foldl_extend, ← dotted, dotted_of_ne hne hnonempty]
    · rintro ⟨path, there, ⟨hclash, before, after, hpaths, hbefore⟩, hkind, names, hnames, hpath, -⟩
      refine ⟨before, path, after, hpaths, obstacle?_conflict.2 ⟨there, names, hclash, hnames, ?_⟩, fun other hother =>
        obstacle?_eq_none_iff.2 (hbefore other hother)⟩
      cases c
      rw [foldl_extend, ← dotted]
      exact congrArg₂ MergeConflict.mk hpath hkind
  refine ⟨hreported, fun hwritable => ⟨?_, ?_⟩⟩
  · rintro ⟨c, hc⟩
    obtain ⟨path, there, hfirst, -⟩ := (hreported c).1 hc
    exact ⟨path, there, hfirst.clash⟩
  · rintro ⟨path, there, hclash⟩
    obtain ⟨items, hlist⟩ := hclash.list
    rcases exists_keyPath hentries hlist with rfl | ⟨keys, hkeys, hare, hsame⟩
    · obtain ⟨⟨items, hroot⟩, -⟩ := clash_nil.1 hclash
      cases hroot
    · -- where there is a clash merging fails, and with keys that can be written only for a conflict
      rcases exists_ok_or_error (merge (.map known) (.map entries)) with ⟨merged, hok⟩ | ⟨e, he⟩
      · exact absurd hok (not_mergeAt_eq_ok hknown hentries hkeys (hclash.congr hknown hentries hare hsame))
      · rcases of_mergeAt_eq_error hknown hentries he with ⟨c, _, _, rfl, -⟩ | ⟨-, hnot⟩
        · exact ⟨c, he⟩
        · exact absurd hwritable hnot

/-! ### A list instead of a mapping -/

/-- Demands of subnets and of resource groups. -/
def demanding : List (Value × Value) :=
  [(.str "azure", .record
    [("create_subnet", .record [("require_nsg", .bool true)]),
     ("create_resource_group", .record [("deny_names", .str "tmp")])])]

/-- A list for what the demands do not mention, and then two lists in place of a mapping and of a text. -/
def mistaken : List (Value × Value) :=
  [(.str "azure", .record
    [("create_storage_account", .record [("deny_names", .list [])]),
     ("create_subnet", .list [.str "oops"]),
     ("create_resource_group", .record [("deny_names", .list [.str "tmp"])])])]

/-- The conflict is reported for the subnets, which come first. -/
theorem mistaken_conflicts : (Value.map demanding).isSound = true ∧ (Value.map mistaken).isSound = true ∧
    merge (.map demanding) (.map mistaken) = .error (.conflict ⟨"azure.create_subnet", "dict"⟩) ∧
    ∃ path there, FirstClash (.map demanding) (.map mistaken) path there ∧
      TellsOf ⟨"azure.create_subnet", "dict"⟩ path there := by
  have hdemanding : (Value.map demanding).isSound = true := by decide +kernel
  have hmistaken : (Value.map mistaken).isSound = true := by decide +kernel
  have hmerge : merge (.map demanding) (.map mistaken) = .error (.conflict ⟨"azure.create_subnet", "dict"⟩) := by
    simp [merge, demanding, mistaken, record, mergeAt, mergeEntries, get?, put, same, childPath, text?, shownPath,
      kindName, Except.map, bind, Except.bind]
  exact ⟨hdemanding, hmistaken, hmerge, ((merge_conflicts_iff hdemanding hmistaken).1 _).1 hmerge⟩

/-! ### A key that is too long -/

/-- A whole number of more than four thousand digits. -/
def longKey : Value := .int (.ofNat (Nat.pow 16 3600))

theorem text?_longKey : longKey.text? = none := by
  have hlong : exceedsDigitLimit (.ofNat (Nat.pow 16 3600)) = true := by decide +kernel
  exact text?_eq_none_iff.2 (.here ⟨_, rfl, hlong⟩)

/-- A mapping with such a key, under a key that can be written. -/
def longKeyed : Value := .map [(.str "a", .map [(longKey, .int 1)])]

/-- Nothing is looked into when the mapping is put in place of nothing. -/
theorem merge_empty_longKeyed : merge (.map []) longKeyed = .ok longKeyed := rfl

theorem merge_longKeyed : merge longKeyed longKeyed = .error .tooManyDigits := by
  have hname : childPath "" (.str "a") = .ok "a" := rfl
  have hhere : get? [(.str "a", .map [(longKey, .int 1)])] (.str "a") = some (.map [(longKey, .int 1)]) := by
    rw [get?_cons, if_pos (sameKey_refl rfl)]
  have hlong : mergeAt (.map [(longKey, .int 1)]) "a" (.map [(longKey, .int 1)]) = .error .tooManyDigits := by
    rw [mergeAt, mergeEntries, childPath_eq, text?_longKey]
    rfl
  rw [merge, longKeyed, mergeAt, mergeEntries, hname, hhere, Option.getD_some]
  simp only [bind, Except.bind, hlong, Except.map]

/-- A clash that is not reported, because a key that is too long comes before it. -/
theorem not_always_conflicts :
    ¬ ∀ known entries : List (Value × Value), (Value.map known).isSound = true → (Value.map entries).isSound = true →
      (∃ path there, Clash (.map known) (.map entries) path there) →
        ∃ c, merge (.map known) (.map entries) = .error (.conflict c) := by
  intro h
  have hother : ∀ n, sameKey (.int n) (.str "a") = false := by simp [same]
  have hknown : get? [(.str "a", .int 1)] (.str "a") = some (.int 1) := by simp [get?_cons, same]
  have hfound : get? [(longKey, .int 1), (.str "a", .list [.int 1])] (.str "a") = some (.list [.int 1]) := by
    rw [longKey, get?_cons, hother, get?_cons, sameKey_refl rfl]
    rfl
  have hclash : Clash (.map [(.str "a", .int 1)]) (.map [(longKey, .int 1), (.str "a", .list [.int 1])]) [.str "a"]
      (.int 1) :=
    clash_cons.2 ⟨_, hfound, clash_nil.2 ⟨⟨_, rfl⟩, by rw [hknown, Option.getD_some], by simp, by simp⟩⟩
  obtain ⟨c, hc⟩ := h _ _ (by decide +kernel) (by decide +kernel) ⟨_, _, hclash⟩
  rw [merge, mergeAt, mergeEntries, childPath_eq, text?_longKey] at hc
  cases hc

end Document
end PolicyGate
