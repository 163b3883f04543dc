import Mathlib.Data.List.Perm.Subperm
import PolicyGate.Proofs.Document.Bags
import PolicyGate.Proofs.Policy.Patterns
import PolicyGate.Proofs.Value.Keys

/-!
# What an equality check compares

Values are compared place by place: lists element by element, mappings by what is under each name, and what has no
parts by what it counts as. Numbers count as their value, and so do flags (`Value.LooselySame`). An equality check adds
that a flag is no number, but looks at the two outermost values only (`Check.equality_iff`). So it is strict about
flags (`Value.Same`) where neither value has flags further in, and not elsewhere
(`Check.equality_not_always_strict`).
-/

namespace PolicyGate

namespace Value

/-! ## Values that agree -/

/-- Two values agree place by place, and where they have no parts they are related. -/
inductive Agree (leaf : Value → Value → Prop) : Value → Value → Prop
  | leaf {a b : Value} (h : leaf a b) : Agree leaf a b
  | list {as bs : List Value} (hlength : as.length = bs.length)
      (h : ∀ (n : Nat) (a b : Value), as[n]? = some a → bs[n]? = some b → Agree leaf a b) :
      Agree leaf (.list as) (.list bs)
  | map {es fs : List (Value × Value)} (hnames : ∀ name, (field? es name).isSome = (field? fs name).isSome)
      (h : ∀ (name : String) (a b : Value), field? es name = some a → field? fs name = some b → Agree leaf a b) :
      Agree leaf (.map es) (.map fs)

/-- The two count as the same, a flag as a number. -/
def CountsAs (a b : Value) : Prop := ∃ i, some i = a.identity? ∧ some i = b.identity?

/-- The two count as the same, and neither is a flag unless both are. -/
def Equals (a b : Value) : Prop := a.isFlag = b.isFlag ∧ a.CountsAs b

/-- The values are the same, but for flags that stand for numbers. -/
def LooselySame (a b : Value) : Prop := Agree CountsAs a b

/-- The values are the same: numbers by their exact value, texts exactly, lists element by element, mappings by their
names in any order, and a flag is never a number. -/
def Same (a b : Value) : Prop := Agree Equals a b

variable {a b v : Value} {as bs : List Value} {es fs : List (Value × Value)} {leaf : Value → Value → Prop}
  {name : String}

theorem agree_list_iff (hleaf : ∀ b, ¬ leaf (.list as) b) : Agree leaf (.list as) (.list bs) ↔
    as.length = bs.length ∧ ∀ (n : Nat) a b, as[n]? = some a → bs[n]? = some b → Agree leaf a b := by
  constructor
  · rintro (h | ⟨hlength, h⟩)
    · exact absurd h (hleaf _)
    · exact ⟨hlength, h⟩
  · rintro ⟨hlength, h⟩
    exact .list hlength h

theorem agree_map_iff (hleaf : ∀ b, ¬ leaf (.map es) b) : Agree leaf (.map es) (.map fs) ↔
    (∀ name, (field? es name).isSome = (field? fs name).isSome) ∧
      ∀ name a b, field? es name = some a → field? fs name = some b → Agree leaf a b := by
  constructor
  · rintro (h | _ | ⟨hnames, h⟩)
    · exact absurd h (hleaf _)
    · exact ⟨hnames, h⟩
  · rintro ⟨hnames, h⟩
    exact .map hnames h

theorem agree_cons_iff : ((a :: as).length = (b :: bs).length ∧
      ∀ (n : Nat) v w, (a :: as)[n]? = some v → (b :: bs)[n]? = some w → Agree leaf v w) ↔
    Agree leaf a b ∧ as.length = bs.length ∧
      ∀ (n : Nat) v w, as[n]? = some v → bs[n]? = some w → Agree leaf v w := by
  constructor
  · rintro ⟨hlength, h⟩
    exact ⟨h 0 a b rfl rfl, Nat.succ.inj hlength, fun n v w hv hw => h (n + 1) v w hv hw⟩
  · rintro ⟨hfirst, hlength, h⟩
    refine ⟨congrArg (· + 1) hlength, fun n v w hv hw => ?_⟩
    cases n with
    | zero =>
      cases hv
      cases hw
      exact hfirst
    | succ n => exact h n v w hv hw

/-- What has parts counts as nothing. -/
theorem not_countsAs (h : a.identity? = none) (b : Value) : ¬ a.CountsAs b := by
  rintro ⟨i, hi, -⟩
  rw [h] at hi
  cases hi

/-! ## What the comparison computes -/

theorem same_str_comm {s : String} {k : Value} : same (.str s) k = same k (.str s) := by
  cases k <;> simp [same, eq_comm]

theorem field?_eq_some_iff (hnodup : (es.map (·.1)).Nodup) : field? es name = some v ↔ (.str name, v) ∈ es := by
  refine ⟨mem_of_field?, fun hmem => ?_⟩
  induction es with
  | nil => cases hmem
  | cons e rest ih =>
    obtain ⟨k, w⟩ := e
    rw [List.map_cons, List.nodup_cons] at hnodup
    rw [field?_cons]
    rcases List.mem_cons.1 hmem with heq | hrest
    · cases heq
      rw [if_pos (same_str_iff.2 rfl)]
    · have hother : ¬ same k (.str name) = true := by
        rw [same_str_iff]
        rintro rfl
        exact hnodup.1 (List.mem_map.2 ⟨_, hrest, rfl⟩)
      rw [if_neg hother]
      exact ih hnodup.2 hrest

theorem isSome_field?_iff (hnodup : (es.map (·.1)).Nodup) :
    (field? es name).isSome = true ↔ .str name ∈ es.map (·.1) := by
  rw [Option.isSome_iff_exists, List.mem_map]
  constructor
  · rintro ⟨v, hv⟩
    exact ⟨_, (field?_eq_some_iff hnodup).1 hv, rfl⟩
  · rintro ⟨⟨k, v⟩, hmem, rfl⟩
    exact ⟨v, (field?_eq_some_iff hnodup).2 hmem⟩

theorem IsJson.key_of_mem {k : Value} (h : (Value.map es).IsJson) (hk : k ∈ es.map (·.1)) : ∃ name, k = .str name := by
  obtain ⟨e, he, rfl⟩ := List.mem_map.1 hk
  exact h.keys e he

/-- Two mappings have the same names if they have as many, and the second one has all of those of the first. -/
theorem same_names_iff (hes : (Value.map es).IsJson) (hfs : (Value.map fs).IsJson) :
    (∀ name, (field? es name).isSome = (field? fs name).isSome) ↔
      es.length = fs.length ∧ ∀ name v, (.str name, v) ∈ es → (field? fs name).isSome = true := by
  have hsub : (∀ name v, (.str name, v) ∈ es → (field? fs name).isSome = true) ↔
      es.map (·.1) ⊆ fs.map (·.1) := by
    simp only [isSome_field?_iff hfs.nodup]
    constructor
    · intro h k hk
      obtain ⟨name, rfl⟩ := hes.key_of_mem hk
      obtain ⟨⟨_, v⟩, hmem, rfl⟩ := List.mem_map.1 hk
      exact h name v hmem
    · intro h name v hmem
      exact h (List.mem_map.2 ⟨_, hmem, rfl⟩)
  rw [hsub]
  constructor
  · intro hnames
    have hperm : (es.map (·.1)).Perm (fs.map (·.1)) := by
      refine (List.perm_ext_iff_of_nodup hes.nodup hfs.nodup).2 fun k => ?_
      have hname : ∀ name, Value.str name ∈ es.map (·.1) ↔ Value.str name ∈ fs.map (·.1) := fun name => by
        rw [← isSome_field?_iff hes.nodup, ← isSome_field?_iff hfs.nodup, hnames]
      constructor
      · intro hk
        obtain ⟨name, rfl⟩ := hes.key_of_mem hk
        exact (hname name).1 hk
      · intro hk
        obtain ⟨name, rfl⟩ := hfs.key_of_mem hk
        exact (hname name).2 hk
    exact ⟨by simpa using hperm.length_eq, hperm.subset⟩
  · rintro ⟨hlength, hsubset⟩ name
    -- keys are pairwise different, so that as many keys and all of them are the same keys
    have hperm : (es.map (·.1)).Perm (fs.map (·.1)) :=
      (hes.nodup.subperm hsubset).perm_of_length_le (by simp [hlength])
    rw [Bool.eq_iff_iff, isSome_field?_iff hes.nodup, isSome_field?_iff hfs.nodup, hperm.mem_iff]

/-- An entry is looked for in the other mapping under its name. -/
theorem entriesWithin_cons {s : String} : entriesWithin ((.str s, v) :: es) fs =
    ((field? fs s).any (same v) && entriesWithin es fs) := by
  have hfound : field? fs s = (fs.find? fun e => same (.str s) e.1).map (·.2) := by
    simp only [field?, get?, sameKey_str, same_str_comm]
  rw [entriesWithin, hfound]
  cases fs.find? fun e => same (.str s) e.1 <;> rfl

/-- What has no parts is loosely the same as what counts as the same. -/
theorem same_iff_looselySame_of_isKey (ha : a.isKey = true) : same a b = true ↔ LooselySame a b := by
  rw [same_iff ha]
  constructor
  · intro h
    exact .leaf h
  · rintro (h | _ | _)
    · exact h
    · cases ha
    · cases ha

mutual

/-- Comparing two plain values decides whether they are loosely the same. -/
theorem same_iff_looselySame : (a : Value) → a.IsJson → (b : Value) → b.IsJson → (same a b = true ↔ LooselySame a b)
  | .list as, ha, b, hb => by
    cases b with
    | list bs =>
      rw [same, LooselySame, agree_list_iff (not_countsAs rfl)]
      exact sameItems_iff as (isJson_list_iff.1 ha) bs (isJson_list_iff.1 hb)
    | _ =>
      refine iff_of_false (by simp [same]) ?_
      rintro (h | _)
      exact not_countsAs rfl _ h
  | .map es, ha, b, hb => by
    cases b with
    | map fs =>
      have hwithin := entriesWithin_iff es ha.keys (fun e he => ha.value he) fs fun e he => hb.value he
      -- the comparison counts the entries and looks for those of one mapping only
      rw [same, LooselySame, agree_map_iff (not_countsAs rfl), same_names_iff ha hb, Bool.and_eq_true, beq_iff_eq,
        hwithin, and_assoc]
      refine and_congr_right fun _ => ?_
      simp only [field?_eq_some_iff ha.nodup]
      constructor
      · intro h
        refine ⟨fun name v hmem => ?_, fun name v w hmem hw => ?_⟩
        · obtain ⟨w, hw, -⟩ := h name v hmem
          rw [hw]
          rfl
        · obtain ⟨w', hw', hagree⟩ := h name v hmem
          obtain rfl : w' = w := Option.some.inj (hw'.symm.trans hw)
          exact hagree
      · rintro ⟨hsome, h⟩ name v hmem
        obtain ⟨w, hw⟩ := Option.isSome_iff_exists.1 (hsome name v hmem)
        exact ⟨w, hw, h name v w hmem hw⟩
    | _ =>
      refine iff_of_false (by simp [same]) ?_
      rintro (h | _ | _)
      exact not_countsAs rfl _ h
  | .set vs, ha, _, _ => absurd ha not_isJson_set
  | .null, _, b, _ | .bool _, _, b, _ | .int _, _, b, _ | .float _, _, b, _ | .str _, _, b, _ | .day _, _, b, _
  | .moment _, _, b, _ | .bytes _, _, b, _ => same_iff_looselySame_of_isKey rfl

/-- Comparing two lists of plain values goes element by element. -/
theorem sameItems_iff : (as : List Value) → (∀ a ∈ as, a.IsJson) → (bs : List Value) → (∀ b ∈ bs, b.IsJson) →
    (sameItems as bs = true ↔
      as.length = bs.length ∧ ∀ (n : Nat) a b, as[n]? = some a → bs[n]? = some b → Agree CountsAs a b)
  | [], _, [], _ | [], _, _ :: _, _ | _ :: _, _, [], _ => by simp [sameItems]
  | a :: as, ha, b :: bs, hb => by
    obtain ⟨ha, has⟩ := List.forall_mem_cons.1 ha
    obtain ⟨hb, hbs⟩ := List.forall_mem_cons.1 hb
    rw [sameItems, Bool.and_eq_true, same_iff_looselySame a ha b hb, sameItems_iff as has bs hbs, agree_cons_iff]
    rfl

/-- Comparing the entries of plain values finds every name in the other mapping. -/
theorem entriesWithin_iff : (es : List (Value × Value)) → (∀ e ∈ es, ∃ s, e.1 = .str s) →
    (∀ e ∈ es, e.2.IsJson) → (fs : List (Value × Value)) → (∀ e ∈ fs, e.2.IsJson) →
    (entriesWithin es fs = true ↔
      ∀ name a, (.str name, a) ∈ es → ∃ b, field? fs name = some b ∧ Agree CountsAs a b)
  | [], _, _, _, _ => by simp [entriesWithin]
  | (k, v) :: rest, hkeys, hvalues, fs, hfs => by
    obtain ⟨⟨s, hs⟩, hrestkeys⟩ := List.forall_mem_cons.1 hkeys
    obtain ⟨hv, hrestvalues⟩ := List.forall_mem_cons.1 hvalues
    dsimp only at hs hv
    subst hs
    have hrest := entriesWithin_iff rest hrestkeys hrestvalues fs hfs
    have hfirst : (field? fs s).any (same v) = true ↔ ∃ b, field? fs s = some b ∧ Agree CountsAs v b := by
      rw [Option.any_eq_true]
      refine exists_congr fun b => and_congr_right fun hb => ?_
      exact same_iff_looselySame v hv b (hfs _ (mem_of_field? hb))
    rw [entriesWithin_cons, Bool.and_eq_true, hrest, hfirst]
    constructor
    · rintro ⟨hhere, hthere⟩ name a hmem
      rcases List.mem_cons.1 hmem with heq | hmem
      · cases heq
        exact hhere
      · exact hthere name a hmem
    · intro h
      exact ⟨h s v List.mem_cons_self, fun name a hmem => h name a (List.mem_cons_of_mem _ hmem)⟩

end

/-! ## Flags -/

theorem Same.loosely (h : a.Same b) : a.LooselySame b := by
  induction h with
  | leaf h => exact .leaf h.2
  | list hlength _ ih => exact .list hlength ih
  | map hnames _ ih => exact .map hnames ih

theorem Same.isFlag (h : a.Same b) : a.isFlag = b.isFlag := by
  cases h with
  | leaf h => exact h.1
  | list | map => rfl

/-- The value is a flag. -/
def IsFlag (v : Value) : Prop := v.isFlag = true

/-- There is no flag further in: the value is a flag itself, or there is none in it. -/
def FlagsOutside (v : Value) : Prop := v.IsFlag ∨ ¬ v.Holds IsFlag

/-- What has no parts holds itself only. -/
theorem holds_iff_of_isKey {P : Value → Prop} (hv : v.isKey = true) : v.Holds P ↔ P v := by
  refine ⟨?_, .here⟩
  rintro (h | _ | _ | _ | _)
  · exact h
  all_goals cases hv

/-- Values that are loosely the same are the same if there is no flag in either. -/
theorem LooselySame.same_of_no_flags (h : a.LooselySame b) (ha : ¬ a.Holds IsFlag) (hb : ¬ b.Holds IsFlag) :
    a.Same b := by
  induction h with
  | @leaf a b h =>
    have hfalse : a.isFlag = false := Bool.eq_false_iff.2 fun hflag => ha (.here hflag)
    have hfalse' : b.isFlag = false := Bool.eq_false_iff.2 fun hflag => hb (.here hflag)
    exact .leaf ⟨hfalse.trans hfalse'.symm, h⟩
  | list hlength _ ih =>
    refine .list hlength fun n v w hv hw => ih n v w hv hw (fun h => ha ?_) fun h => hb ?_
    · exact .item (List.mem_of_getElem? hv) h
    · exact .item (List.mem_of_getElem? hw) h
  | map hnames _ ih =>
    refine .map hnames fun name v w hv hw => ih name v w hv hw (fun h => ha ?_) fun h => hb ?_
    · exact .value (mem_of_field? hv) h
    · exact .value (mem_of_field? hw) h

/-- Where there are no flags further in, values that are loosely the same are the same if both are flags or neither
is. -/
theorem same_iff_of_flagsOutside (ha : a.FlagsOutside) (hb : b.FlagsOutside) :
    a.Same b ↔ a.isFlag = b.isFlag ∧ a.LooselySame b := by
  refine ⟨fun h => ⟨h.isFlag, h.loosely⟩, ?_⟩
  rintro ⟨hflag, h⟩
  rcases ha with ha | ha
  · cases h with
    | leaf h => exact .leaf ⟨hflag, h⟩
    | list | map => cases ha
  · rcases hb with hb | hb
    · exact absurd (.here (hflag.trans hb)) ha
    · exact h.same_of_no_flags ha hb

end Value

/-! ## Checks -/

namespace Check

open Attempt Value

variable {check : Check} {args e v : Value}

theorem agrees_iff (hv : v.IsJson) (he : e.IsJson) :
    Test.agrees v e = true ↔ v.isFlag = e.isFlag ∧ v.LooselySame e := by
  rw [Test.agrees, Bool.and_eq_true, beq_iff_eq, same_iff_looselySame v hv e he]

/-- A check reports nothing exactly when its test answers that what is there passes: whatever is said about a value that
does not pass, something is. -/
theorem violationOf_eq_none_iff {found : Option Value} :
    check.violationOf found = .ok none ↔ check.test.passes found = .ok true := by
  rw [violationOf, bind_eq_ok]
  constructor
  · rintro ⟨passed, hpasses, h⟩
    cases passed with
    | true => exact hpasses
    | false =>
      cases hgiven : given check.message with
      | some message =>
        rw [hgiven] at h
        cases h
      | none =>
        rw [hgiven] at h
        obtain ⟨text, -, h⟩ := bind_eq_ok.1 h
        cases h
  · intro h
    exact ⟨true, h, rfl⟩

/-- A check that has an answer reports nothing exactly when the value passes. -/
theorem violation_eq_none_iff {passes : Bool} (hfound : check.resolve args = .ok (some v))
    (hpasses : check.test.passes (some v) = .ok passes) : check.violation args = .ok none ↔ passes = true := by
  rw [violation_of_resolve hfound, violationOf_eq_none_iff, hpasses, Except.ok.injEq]

/-- What the two checks find at plain values. An equality check reports nothing when the values are loosely the same and
both flags or neither, so it reports nothing when they are the same; and if no flags stand further in, then only when
they are the same. The opposite check reports nothing exactly when that is not so. -/
theorem equality_iff (check : Check) (args e v : Value) (he : e.IsJson) (hv : v.IsJson)
    (hfound : check.resolve args = .ok (some v)) :
    (check.test = .equalTo e →
      (check.violation args = .ok none ↔ v.isFlag = e.isFlag ∧ v.LooselySame e) ∧
      (v.Same e → check.violation args = .ok none) ∧
      (v.FlagsOutside → e.FlagsOutside → (check.violation args = .ok none ↔ v.Same e))) ∧
    (check.test = .notEqualTo e →
      (check.violation args = .ok none ↔ ¬ (v.isFlag = e.isFlag ∧ v.LooselySame e)) ∧
      (check.violation args = .ok none → ¬ v.Same e) ∧
      (v.FlagsOutside → e.FlagsOutside → (check.violation args = .ok none ↔ ¬ v.Same e))) := by
  have hagrees := agrees_iff hv he
  constructor
  · intro htest
    have hpasses : check.test.passes (some v) = .ok (Test.agrees v e) := by rw [htest]; rfl
    have hiff := (violation_eq_none_iff hfound hpasses).trans hagrees
    refine ⟨hiff, fun h => hiff.2 ⟨h.isFlag, h.loosely⟩, fun hvf hef => ?_⟩
    rw [hiff, same_iff_of_flagsOutside hvf hef]
  · intro htest
    have hpasses : check.test.passes (some v) = .ok (!Test.agrees v e) := by rw [htest]; rfl
    have hiff : check.violation args = .ok none ↔ ¬ (v.isFlag = e.isFlag ∧ v.LooselySame e) := by
      rw [violation_eq_none_iff hfound hpasses, ← hagrees, Bool.not_eq_true', Bool.not_eq_true]
    refine ⟨hiff, fun hnone h => hiff.1 hnone ⟨h.isFlag, h.loosely⟩, fun hvf hef => ?_⟩
    rw [hiff, same_iff_of_flagsOutside hvf hef]

/-! ### Numbers and flags in lists and mappings -/

/-- A check of what is under `x`. -/
def ofX (test : Test) : Check := { path := "x", test }

/-- Arguments with something under `x`. -/
def underX (v : Value) : Value := .record [("x", v)]

theorem resolve_underX (test : Test) (hv : v ≠ .null) : (ofX test).resolve (underX v) = .ok (some v) :=
  resolve_record rfl (by decide) (by decide) hv

/-- A size and a list of zones, the size as a whole number. -/
def sized : Value := .record [("size", .int 1), ("zones", .list [.str "a"])]

/-- The same the other way round, with the size as a binary number. -/
def resized : Value := .record [("zones", .list [.str "a"]), ("size", .float (.ofInt 1))]

theorem sized_isJson : sized.IsJson := by
  refine isJson_record_iff.2 ⟨by decide, ?_⟩
  simp only [List.forall_mem_cons, List.not_mem_nil, false_implies, implies_true, and_true]
  exact ⟨isJson_int, isJson_list_iff.2 (by simpa using isJson_str)⟩

theorem resized_isJson : resized.IsJson := by
  refine isJson_record_iff.2 ⟨by decide, ?_⟩
  simp only [List.forall_mem_cons, List.not_mem_nil, false_implies, implies_true, and_true]
  exact ⟨isJson_list_iff.2 (by simpa using isJson_str), isJson_float⟩

theorem flagsOutside_of_sizes (h : v = sized ∨ v = resized) : v.FlagsOutside := by
  have hnone : ∀ {v : Value}, v.isKey = true → v.isFlag = false → ¬ v.Holds IsFlag := fun hkey hno h => by
    have hflag := (holds_iff_of_isKey hkey).1 h
    rw [IsFlag, hno] at hflag
    cases hflag
  have hzones : ¬ (Value.list [.str "a"]).Holds IsFlag := by
    rw [holds_list_iff (by simp [IsFlag, isFlag])]
    simpa using hnone rfl rfl
  have hentries : ∀ {es : List (String × Value)}, (∀ e ∈ es, ¬ e.2.Holds IsFlag) →
      ¬ (Value.record es).Holds IsFlag := by
    intro es hes
    rw [Value.record, holds_map_iff (by simp [IsFlag, isFlag])]
    rintro ⟨e, he, h⟩
    obtain ⟨e, hmem, rfl⟩ := List.mem_map.1 he
    exact h.elim (hnone rfl rfl) (hes e hmem)
  rcases h with rfl | rfl
  · exact .inr (hentries (by simpa using ⟨hnone rfl rfl, hzones⟩))
  · exact .inr (hentries (by simpa using ⟨hzones, hnone rfl rfl⟩))

/-- The two are the same for both checks, whatever the order of the names and the kind of the number. -/
theorem sized_equals_resized :
    (ofX (.equalTo sized)).resolve (underX resized) = .ok (some resized) ∧ resized.Same sized ∧
      (ofX (.equalTo sized)).violation (underX resized) = .ok none ∧
      (ofX (.notEqualTo sized)).violation (underX resized) ≠ .ok none := by
  have hfound : ∀ test, (ofX test).resolve (underX resized) = .ok (some resized) := fun test =>
    resolve_underX test nofun
  obtain ⟨-, -, hequal⟩ := (equality_iff _ _ sized resized sized_isJson resized_isJson (hfound (.equalTo sized))).1 rfl
  obtain ⟨-, hdiffer, -⟩ :=
    (equality_iff _ _ sized resized sized_isJson resized_isJson (hfound (.notEqualTo sized))).2 rfl
  have hpasses : (ofX (.equalTo sized)).test.passes (some resized) = .ok true :=
    congrArg Except.ok (by decide +kernel)
  have hnone := (violation_eq_none_iff (hfound _) hpasses).2 rfl
  have hsame := (hequal (flagsOutside_of_sizes (.inr rfl)) (flagsOutside_of_sizes (.inl rfl))).1 hnone
  exact ⟨hfound _, hsame, hnone, fun hnone' => hdiffer hnone' hsame⟩

/-- A flag in a list passes for the number that it stands for. So it is not true of all plain values that an equality
check reports nothing exactly when they are the same, nor that the opposite check reports nothing exactly when they
are not. -/
theorem equality_not_always_strict :
    ¬ (∀ (check : Check) (args e v : Value), e.IsJson → v.IsJson → check.resolve args = .ok (some v) →
        check.test = .equalTo e → (check.violation args = .ok none ↔ v.Same e)) ∧
      ¬ (∀ (check : Check) (args e v : Value), e.IsJson → v.IsJson → check.resolve args = .ok (some v) →
        check.test = .notEqualTo e → (check.violation args = .ok none ↔ ¬ v.Same e)) := by
  have hlist : ∀ {v : Value}, v.IsJson → (Value.list [v]).IsJson := fun hv =>
    isJson_list_iff.2 (by simpa using hv)
  have hfound : ∀ test, (ofX test).resolve (underX (.list [.bool true])) = .ok (some (.list [.bool true])) :=
    fun test => resolve_underX test nofun
  have hother : ¬ (Value.list [.bool true]).Same (.list [.int 1]) := by
    intro h
    cases h with
    | leaf h =>
      obtain ⟨-, i, hi, -⟩ := h
      cases hi
    | list _ h =>
      have hfirst := Same.isFlag (h 0 _ _ rfl rfl)
      cases hfirst
  constructor
  · intro h
    have hpasses : (ofX (.equalTo (.list [.int 1]))).test.passes (some (.list [.bool true])) = .ok true :=
      congrArg Except.ok (by decide +kernel)
    have hnone := (violation_eq_none_iff (hfound _) hpasses).2 rfl
    exact hother ((h _ _ _ _ (hlist isJson_int) (hlist isJson_bool) (hfound _) rfl).1 hnone)
  · intro h
    have hpasses : (ofX (.notEqualTo (.list [.int 1]))).test.passes (some (.list [.bool true])) = .ok false :=
      congrArg Except.ok (by decide +kernel)
    have hnone := (h _ _ _ _ (hlist isJson_int) (hlist isJson_bool) (hfound _) rfl).2 hother
    cases (violation_eq_none_iff (hfound _) hpasses).1 hnone

end Check
end PolicyGate
