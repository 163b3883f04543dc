import PolicyGate.Proofs.Document.Overlay

/-!
# Merging in groups

Three documents can be merged by merging the first two first, or the last two. In general that makes a difference: a
scalar in the middle wipes out a mapping of the first document, but not one of the last. When the documents agree in
the form of what they have at each place, it makes none (`Document.regroups`), and both ways succeed or both meet a key
that is too long to be written (`Document.merge_regroups`).
-/

namespace PolicyGate

open Attempt

namespace Value

/-- The forms of values that merging tells apart. -/
inductive Form where
  | mapping
  | list
  | scalar
deriving DecidableEq, Repr

/-- The form of a value; null stands for nothing and has none. -/
def form? : Value → Option Form
  | .null => none
  | .map _ => some .mapping
  | .list _ => some .list
  | _ => some .scalar

/-- The form of what is at the end of a path. -/
def formAt? (v : Value) (path : List Value) : Option Form := (v.valueAt? path).bind form?

/-- Wherever both values have something, it is of the same form. -/
def Alike (v w : Value) : Prop := ∀ path f g, v.formAt? path = some f → w.formAt? path = some g → f = g

mutual

/-- Are the two values alike? -/
def isAlike : Value → Value → Bool
  | .map entries, .map others => entriesAlike entries others
  | v, w => v.form? == none || w.form? == none || v.form? == w.form?

/-- Is each value of the entries alike to what the other mapping has under its key? -/
def entriesAlike : List (Value × Value) → List (Value × Value) → Bool
  | [], _ => true
  | (k, v) :: rest, others => isAlike v ((get? others k).getD .null) && entriesAlike rest others

end

variable {entries others : List (Value × Value)} {path : List Value} {key v w : Value}

theorem Alike.symm (h : Alike v w) : Alike w v := fun path f g hf hg => (h path g f hg hf).symm

theorem formAt?_nil : v.formAt? [] = v.form? := by
  rw [formAt?, valueAt?_nil, Option.bind_some]

theorem exists_form (h : v ≠ .null) : ∃ f, v.form? = some f := by
  cases v with
  | null => exact absurd rfl h
  | _ => exact ⟨_, rfl⟩

theorem Alike.form?_eq (h : Alike v w) (hv : v ≠ .null) (hw : w ≠ .null) : v.form? = w.form? := by
  obtain ⟨f, hf⟩ := exists_form hv
  obtain ⟨g, hg⟩ := exists_form hw
  rw [hf, hg, h [] f g (by rw [formAt?_nil, hf]) (by rw [formAt?_nil, hg])]

/-- Null has no form anywhere, so it may stand for what a mapping does not have. -/
theorem formAt?_getD : ((get? entries key).getD .null).formAt? path = (Value.map entries).formAt? (key :: path) := by
  unfold formAt?
  rw [valueAt?_map_cons]
  cases get? entries key with
  | some v => rfl
  | none => cases path <;> rfl

theorem Alike.under (h : Alike (.map entries) (.map others)) (key : Value) :
    Alike ((get? entries key).getD .null) ((get? others key).getD .null) := by
  intro path f g hf hg
  rw [formAt?_getD] at hf hg
  exact h (key :: path) f g hf hg

theorem formAt?_cons_of_not_map (h : v.entries? = none) : v.formAt? (key :: path) = none := by
  rw [formAt?, valueAt?_cons_of_not_map h, Option.bind_none]

theorem isAlike_of_mem (h : entriesAlike entries others = true) {e : Value × Value} (he : e ∈ entries) :
    isAlike e.2 ((get? others e.1).getD .null) = true := by
  induction entries with
  | nil => cases he
  | cons f rest ih =>
    rw [entriesAlike, Bool.and_eq_true] at h
    rcases List.mem_cons.1 he with rfl | he
    · exact h.1
    · exact ih h.2 he

/-- Values that are not both mappings are alike if they have the same form, or one of them is null. -/
theorem alike_of_not_map (hmap : v.entries? = none ∨ w.entries? = none)
    (hforms : v.form? = none ∨ w.form? = none ∨ v.form? = w.form?) : Alike v w := by
  intro path f g hf hg
  cases path with
  | nil =>
    rw [formAt?_nil] at hf hg
    rcases hforms with hnone | hnone | hsame
    · rw [hnone] at hf
      cases hf
    · rw [hnone] at hg
      cases hg
    · exact Option.some.inj (hf.symm.trans (hsame.trans hg))
  | cons key path =>
    rcases hmap with hmap | hmap
    · rw [formAt?_cons_of_not_map hmap] at hf
      cases hf
    · rw [formAt?_cons_of_not_map hmap] at hg
      cases hg

theorem alike_of_isAlike (hv : v.isSound = true) (hw : w.isSound = true) (h : isAlike v w = true) : Alike v w := by
  induction v using nesting generalizing w with
  | other v hmap =>
    refine alike_of_not_map (.inl hmap) ?_
    cases v with
    | map entries => cases hmap
    | _ => simpa [isAlike, or_assoc] using h
  | map entries ih =>
    cases hmap : w.entries? with
    | none =>
      refine alike_of_not_map (.inr hmap) ?_
      cases w with
      | map others => cases hmap
      | _ => simpa [isAlike, or_assoc] using h
    | some others =>
      obtain rfl := eq_map_of_entries? hmap
      rw [isAlike] at h
      intro path f g hf hg
      cases path with
      | nil => exact Option.some.inj (hf.symm.trans hg)
      | cons key path =>
        -- forms below a key are those of the values there, and a missing one is null
        rw [← formAt?_getD] at hf hg
        cases hget : get? entries key with
        | none =>
          rw [hget] at hf
          cases path <;> cases hf
        | some v =>
          obtain ⟨k, hmem, hsame⟩ := mem_of_get? hget
          have hkey : get? others k = get? others key :=
            get?_congr (isSound_map_iff.1 hw).1 ((isSound_map_iff.1 hv).1 _ hmem) hsame
          have halike := isAlike_of_mem h hmem
          rw [hkey] at halike
          rw [hget] at hf
          exact ih (k, v) hmem (isSound_of_get? hv hget) (isSound_getD hw) halike path f g hf hg

end Value

namespace Document

open Value

/-- Merging the first two values first comes to the same as merging the last two first. -/
def Regroups (first second third : Value) : Prop :=
  ∀ merged, (∃ left, Merges first second left ∧ Merges left third merged) ↔
    ∃ right, Merges second third right ∧ Merges first right merged

/-- Each two of the three values are alike. -/
structure FormsAgree (first second third : Value) : Prop where
  firstSecond : Alike first second
  firstThird : Alike first third
  secondThird : Alike second third

variable {first second third earlier later merged : Value} {a b c ab bc known entries done : List (Value × Value)}
  {keys : List Value}

/-! ## Null drops out -/

theorem null_regroups : Regroups .null second third := by
  intro merged
  simp [null_merges]

theorem regroups_null_between : Regroups first .null third := by
  intro merged
  simp [merges_null, null_merges]

theorem regroups_null : Regroups first second .null := by
  intro merged
  simp [merges_null]

theorem regroups_unless_null
    (h : first ≠ .null → second ≠ .null → third ≠ .null → Regroups first second third) :
    Regroups first second third := by
  by_cases hfirst : first = .null
  · rw [hfirst]
    exact null_regroups
  by_cases hsecond : second = .null
  · rw [hsecond]
    exact regroups_null_between
  by_cases hthird : third = .null
  · rw [hthird]
    exact regroups_null
  exact h hfirst hsecond hthird

/-! ## Mappings -/

/-- Where two pairs of mappings have been merged, what comes of the left pair and the third mapping under a key is what
comes of the first mapping and the right pair. -/
theorem Regroups.under {key : Value} (h : Regroups ((get? a key).getD .null) ((get? b key).getD .null)
    ((get? c key).getD .null)) (hab : EntriesMerge a b ab) (hbc : EntriesMerge b c bc) :
    Merges ((get? ab key).getD .null) ((get? c key).getD .null) merged ↔
      Merges ((get? a key).getD .null) ((get? bc key).getD .null) merged := by
  constructor
  · intro hmerged
    obtain ⟨right, hright, hmerged⟩ := (h merged).1 ⟨_, hab.under key, hmerged⟩
    rw [(hbc.under key).unique hright]
    exact hmerged
  · intro hmerged
    obtain ⟨left, hleft, hmerged⟩ := (h merged).2 ⟨_, hbc.under key, hmerged⟩
    rw [(hab.under key).unique hleft]
    exact hmerged

/-- The keys come in the same order either way: those of the first mapping, the new ones of the second, and then the
new ones of the third. -/
theorem keys_regrouped (hab : EntriesMerge a b ab) (hbc : EntriesMerge b c bc) :
    ab.map (·.1) ++ (c.map (·.1)).filter (fun k => !hasKey ab k) =
      a.map (·.1) ++ (bc.map (·.1)).filter fun k => !hasKey a k := by
  rw [hab.keys, hbc.keys, List.filter_append, List.filter_filter, List.append_assoc]
  simp only [hab.hasKey, Bool.not_or]

theorem entriesMerge_regrouped (ha : KeysSound (a.map (·.1))) (hb : KeysSound (b.map (·.1)))
    (hc : KeysSound (c.map (·.1))) (hab : EntriesMerge a b ab) (hbc : EntriesMerge b c bc)
    (h : ∀ key, Regroups ((get? a key).getD .null) ((get? b key).getD .null) ((get? c key).getD .null)) :
    EntriesMerge ab c done ↔ EntriesMerge a bc done := by
  have hleft := hab.keysSound ha hb
  have hright := hbc.keysSound hb hc
  constructor
  · intro hdone
    refine entriesMerge_of_under ha hright (hdone.keys.trans (keys_regrouped hab hbc))
      (fun key => ((h key).under hab hbc).1 (hdone.under key)) fun k hk => ?_
    rw [hbc.keys, List.mem_append] at hk
    rcases hk with hk | hk
    · exact hab.text?_ne_none hk
    · exact hdone.text?_ne_none (List.mem_of_mem_filter hk)
  · intro hdone
    exact entriesMerge_of_under hleft hc (hdone.keys.trans (keys_regrouped hab hbc).symm)
      (fun key => ((h key).under hab hbc).2 (hdone.under key)) fun k hk => hbc.text?_ne_none hk

/-- Mappings regroup if what they have under each key does. -/
theorem maps_regroup (ha : KeysSound (a.map (·.1))) (hb : KeysSound (b.map (·.1))) (hc : KeysSound (c.map (·.1)))
    (h : ∀ key, Regroups ((get? a key).getD .null) ((get? b key).getD .null) ((get? c key).getD .null)) :
    Regroups (.map a) (.map b) (.map c) := by
  intro merged
  constructor
  · rintro ⟨left, hleft, hmerged⟩
    obtain ⟨ab, hab, rfl⟩ := (merges_maps ha hb).1 hleft
    have habKeys := hab.keysSound ha hb
    obtain ⟨done, hdone, rfl⟩ := (merges_maps habKeys hc).1 hmerged
    -- the second and the third mapping can be merged, because they can be when the first one is below them
    obtain ⟨bc, hbc⟩ := exists_entriesMerge hb hc hdone.written fun key v hv => by
      obtain ⟨there, hthere, -⟩ := hdone.laid key v hv
      obtain ⟨right, hright, -⟩ := (h key there).1 ⟨_, hab.under key, by rw [hv]; exact hthere⟩
      rw [hv] at hright
      exact ⟨right, hright⟩
    exact ⟨.map bc, (merges_maps hb hc).2 ⟨bc, hbc, rfl⟩, (merges_maps ha (hbc.keysSound hb hc)).2
      ⟨done, (entriesMerge_regrouped ha hb hc hab hbc h).1 hdone, rfl⟩⟩
  · rintro ⟨right, hright, hmerged⟩
    obtain ⟨bc, hbc, rfl⟩ := (merges_maps hb hc).1 hright
    have hbcKeys := hbc.keysSound hb hc
    obtain ⟨done, hdone, rfl⟩ := (merges_maps ha hbcKeys).1 hmerged
    have hwritten : ∀ e ∈ b, e.1.text? ≠ none := by
      intro e he
      have hmem : e.1 ∈ bc.map (·.1) := by
        rw [hbc.keys]
        exact List.mem_append_left _ (List.mem_map_of_mem he)
      exact hdone.text?_ne_none hmem
    obtain ⟨ab, hab⟩ := exists_entriesMerge ha hb hwritten fun key v hv => by
      obtain ⟨left, hleft, -⟩ := (h key _).2 ⟨_, hbc.under key, hdone.under key⟩
      rw [hv] at hleft
      exact ⟨left, hleft⟩
    exact ⟨.map ab, (merges_maps ha hb).2 ⟨ab, hab, rfl⟩, (merges_maps (hab.keysSound ha hb) hc).2
      ⟨done, (entriesMerge_regrouped ha hb hc hab hbc h).2 hdone, rfl⟩⟩

/-! ## Values of any form -/

theorem FormsAgree.under (h : FormsAgree (.map a) (.map b) (.map c)) (key : Value) :
    FormsAgree ((get? a key).getD .null) ((get? b key).getD .null) ((get? c key).getD .null) :=
  ⟨h.firstSecond.under key, h.firstThird.under key, h.secondThird.under key⟩

theorem exists_items {v : Value} (h : v.form? = some .list) : ∃ items, v = .list items := by
  cases v with
  | list items => exact ⟨items, rfl⟩
  | _ => cases h

theorem exists_entries {v : Value} (h : v.form? = some .mapping) : ∃ entries, v = .map entries := by
  cases v with
  | map entries => exact ⟨entries, rfl⟩
  | _ => cases h

theorem merges_of_scalar {v : Value} (h : v.form? = some .scalar) : Merges earlier v merged ↔ merged = v := by
  refine merges_scalar ?_ ?_ ?_
  · cases v with
    | map entries => cases h
    | _ => rfl
  · rintro rfl
    cases h
  · rintro items rfl
    cases h

/-- Values that agree in the form of what they have at each place regroup. -/
theorem regroups (hfirst : first.isSound = true) (hsecond : second.isSound = true) (hthird : third.isSound = true)
    (h : FormsAgree first second third) : Regroups first second third := by
  induction third using nesting generalizing first second with
  | other third hmap =>
    -- values that are not null are of one form, and that of the third decides which
    refine regroups_unless_null fun hfirstNull hsecondNull hthirdNull merged => ?_
    have hfirstForm := h.firstThird.form?_eq hfirstNull hthirdNull
    have hsecondForm := h.secondThird.form?_eq hsecondNull hthirdNull
    obtain ⟨form, hform⟩ := exists_form hthirdNull
    rw [hform] at hfirstForm hsecondForm
    cases form with
    | mapping =>
      obtain ⟨entries, rfl⟩ := exists_entries hform
      cases hmap
    | list =>
      obtain ⟨xs, rfl⟩ := exists_items hfirstForm
      obtain ⟨ys, rfl⟩ := exists_items hsecondForm
      obtain ⟨zs, rfl⟩ := exists_items hform
      simp [merges_list]
    | scalar => simp [merges_of_scalar hsecondForm, merges_of_scalar hform]
  | map c ih =>
    refine regroups_unless_null fun hfirstNull hsecondNull hthirdNull => ?_
    obtain ⟨a, rfl⟩ := exists_entries (h.firstThird.form?_eq hfirstNull hthirdNull)
    obtain ⟨b, rfl⟩ := exists_entries (h.secondThird.form?_eq hsecondNull hthirdNull)
    refine maps_regroup (keysSound_of_isSound hfirst) (keysSound_of_isSound hsecond) (keysSound_of_isSound hthird)
      fun key => ?_
    have hunder := h.under key
    cases hget : get? c key with
    | none => exact regroups_null
    | some v =>
      obtain ⟨k, hmem, -⟩ := mem_of_get? hget
      rw [hget] at hunder
      exact ih (k, v) hmem (isSound_getD hfirst) (isSound_getD hsecond) (isSound_of_get? hthird hget) hunder

/-! ## What may go wrong -/

/-- What has been merged has only forms that one of the two values has there. -/
theorem Merges.of_formAt? {path : List Value} {f : Form} (h : Merges earlier later merged)
    (hearlier : earlier.isSound = true) (hlater : later.isSound = true) (hf : merged.formAt? path = some f) :
    earlier.formAt? path = some f ∨ later.formAt? path = some f := by
  have hlaid := laidOver hearlier hlater (merges_iff.1 h) path
  unfold Value.formAt? at hf ⊢
  -- below a leaf of the later value there is nothing, and else it is shown unless it is null
  by_cases hhidden : later.LeafBefore path
  · rw [hlaid.hidden hhidden] at hf
    cases hf
  cases hthere : later.valueAt? path with
  | none =>
    rw [hlaid.shown (.inl hthere) hhidden, hthere, Option.or_none] at hf
    exact .inl hf
  | some v =>
    cases hmap : v.entries? with
    | some entries =>
      obtain rfl := eq_map_of_entries? hmap
      obtain ⟨done, hdone, -⟩ := hlaid.mapping entries hthere
      rw [hdone] at hf
      exact .inr hf
    | none =>
      by_cases hnull : v = .null
      · subst hnull
        rw [hlaid.shown (.inr hthere) hhidden, hthere] at hf
        cases hbefore : earlier.valueAt? path with
        | none =>
          rw [hbefore] at hf
          cases hf
        | some w =>
          rw [hbefore] at hf
          exact .inl hf
      · rw [hlaid.leaf v hthere ⟨hnull, hmap⟩] at hf
        exact .inr hf

theorem Merges.alike {other : Value} (h : Merges earlier later merged) (hearlier : earlier.isSound = true)
    (hlater : later.isSound = true) (hfirst : Alike earlier other) (hsecond : Alike later other) :
    Alike merged other := by
  intro path f g hf hg
  rcases h.of_formAt? hearlier hlater hf with hf | hf
  · exact hfirst path f g hf hg
  · exact hsecond path f g hf hg

/-- Values that are alike do not clash. -/
theorem not_clash_of_alike {there : Value} (h : Alike earlier later) : ¬ Clash earlier later keys there := by
  rintro ⟨⟨items, hlist⟩, hfound, hnull, hother⟩
  obtain ⟨f, hf⟩ := exists_form hnull
  have hform : f = .list := h keys f .list (by rw [Value.formAt?, hfound]; exact hf) (by rw [Value.formAt?, hlist]; rfl)
  obtain ⟨items, rfl⟩ := exists_items (hform ▸ hf)
  exact hother items rfl

/-- When alike values cannot be merged, that is because of a key. -/
theorem of_merge_eq_error {e : MergeError} (hearlier : earlier.isSound = true) (hlater : later.isSound = true)
    (halike : Alike earlier later) (h : merge earlier later = .error e) :
    e = .tooManyDigits ∧ ¬ later.IsWritable := by
  rcases of_mergeAt_eq_error hearlier hlater h with ⟨_, _, _, -, hclash⟩ | herror
  · exact absurd hclash (not_clash_of_alike halike)
  · exact herror

/-- Merging the first two documents first, or none of them is merged because of a key. -/
theorem merge_left_cases (hfirst : first.isSound = true) (hsecond : second.isSound = true)
    (hthird : third.isSound = true) (h : FormsAgree first second third) :
    (∃ merged, (merge first second >>= fun left => merge left third) = .ok merged) ∨
      (merge first second >>= fun left => merge left third) = .error .tooManyDigits ∧
        ¬ (second.IsWritable ∧ third.IsWritable) := by
  rcases exists_ok_or_error (merge first second >>= fun left => merge left third) with hok | ⟨e, he⟩
  · exact .inl hok
  · right
    rcases bind_eq_error.1 he with hleft | ⟨left, hleft, hthen⟩
    · obtain ⟨rfl, hnot⟩ := of_merge_eq_error hfirst hsecond h.firstSecond hleft
      exact ⟨he, fun hboth => hnot hboth.1⟩
    · have hmerges := merges_iff.2 hleft
      obtain ⟨rfl, hnot⟩ := of_merge_eq_error (hmerges.isSound hfirst hsecond) hthird
        (hmerges.alike hfirst hsecond h.firstThird h.secondThird) hthen
      exact ⟨he, fun hboth => hnot hboth.2⟩

/-- Merging the last two documents first fails only because of a key, too. -/
theorem of_merge_right_eq_error {e : MergeError} (hfirst : first.isSound = true) (hsecond : second.isSound = true)
    (hthird : third.isSound = true) (h : FormsAgree first second third)
    (he : (merge second third >>= fun right => merge first right) = .error e) : e = .tooManyDigits := by
  rcases bind_eq_error.1 he with hright | ⟨right, hright, hthen⟩
  · exact (of_merge_eq_error hsecond hthird h.secondThird hright).1
  · have hmerges := merges_iff.2 hright
    exact (of_merge_eq_error hfirst (hmerges.isSound hsecond hthird)
      (hmerges.alike hsecond hthird h.firstSecond.symm h.firstThird.symm).symm hthen).1

/-- Documents that agree in the form of what they have at each place can be merged in either grouping, and that comes
to the same document, with the keys in the same order. The only thing that may be in the way is a key of the second or
the third one that is too long to be written, and it is in the way of both. -/
theorem merge_regroups (hfirst : first.isSound = true) (hsecond : second.isSound = true)
    (hthird : third.isSound = true) (h : FormsAgree first second third) :
    (∃ merged, (merge first second >>= fun left => merge left third) = .ok merged ∧
      (merge second third >>= fun right => merge first right) = .ok merged) ∨
    (merge first second >>= fun left => merge left third) = .error .tooManyDigits ∧
      (merge second third >>= fun right => merge first right) = .error .tooManyDigits ∧
      ¬ (second.IsWritable ∧ third.IsWritable) := by
  have hregroups : ∀ merged, (merge first second >>= fun left => merge left third) = .ok merged ↔
      (merge second third >>= fun right => merge first right) = .ok merged := by
    intro merged
    rw [bind_eq_ok, bind_eq_ok]
    simp only [← merges_iff]
    exact regroups hfirst hsecond hthird h merged
  rcases merge_left_cases hfirst hsecond hthird h with ⟨merged, hmerged⟩ | ⟨hleft, hnot⟩
  · exact .inl ⟨merged, hmerged, (hregroups merged).1 hmerged⟩
  · right
    rcases exists_ok_or_error (merge second third >>= fun right => merge first right) with ⟨merged, hright⟩ | ⟨e, he⟩
    · -- if the right grouping came to something, so would the left one
      have hmerged := (hregroups merged).2 hright
      rw [hleft] at hmerged
      cases hmerged
    · obtain rfl := of_merge_right_eq_error hfirst hsecond hthird h he
      exact ⟨hleft, he, hnot⟩

/-! ### Three rule documents -/

/-- Names to deny, and a version that is left open. -/
def coreRules : Value := .record
  [("azure", .record [("names", .list [.str "tmp"]), ("version", .null)]), ("strict", .bool true)]

/-- A version, and advice that is left open. -/
def teamRules : Value := .record [("ato", .null), ("azure", .record [("version", .str "1.2")])]

/-- Advice, other names to deny, and demands of another resource. -/
def siteRules : Value := .record
  [("ato", .record [("profile", .str "default")]),
   ("azure", .record [("names", .list [.str "test"]), ("subnet", .record [("nsg", .bool true)])])]

/-- The documents come to the same in either grouping. -/
theorem siteRules_regroup : coreRules.isSound = true ∧ teamRules.isSound = true ∧ siteRules.isSound = true ∧
    FormsAgree coreRules teamRules siteRules ∧
    ∃ merged, (merge coreRules teamRules >>= fun left => merge left siteRules) = .ok merged ∧
      (merge teamRules siteRules >>= fun right => merge coreRules right) = .ok merged := by
  have hcore : coreRules.isSound = true := by decide +kernel
  have hteam : teamRules.isSound = true := by decide +kernel
  have hsite : siteRules.isSound = true := by decide +kernel
  have hforms : FormsAgree coreRules teamRules siteRules := ⟨alike_of_isAlike hcore hteam (by decide +kernel),
    alike_of_isAlike hcore hsite (by decide +kernel), alike_of_isAlike hteam hsite (by decide +kernel)⟩
  refine ⟨hcore, hteam, hsite, hforms, ?_⟩
  rcases merge_regroups hcore hteam hsite hforms with hboth | ⟨-, -, hnot⟩
  · exact hboth
  · exact absurd (by decide +kernel) hnot

/-- Three documents that agree in form, with a key that is too long in the second and the third one. -/
theorem regrouping_not_always :
    ¬ ∀ first second third : Value, first.isSound = true → second.isSound = true → third.isSound = true →
      FormsAgree first second third →
        ∃ merged, (merge first second >>= fun left => merge left third) = .ok merged := by
  intro h
  have hsound : longKeyed.isSound = true := by decide +kernel
  have hempty : Alike (.map []) longKeyed := alike_of_isAlike rfl hsound rfl
  obtain ⟨merged, hmerged⟩ := h (.map []) longKeyed longKeyed rfl hsound hsound
    ⟨hempty, hempty, alike_of_isAlike hsound hsound (by decide +kernel)⟩
  rw [merge_empty_longKeyed] at hmerged
  cases merge_longKeyed.symm.trans hmerged

end Document
end PolicyGate
