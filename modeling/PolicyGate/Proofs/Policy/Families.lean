import PolicyGate.Proofs.Document.Clashes
import PolicyGate.Proofs.Policy.Absence
import PolicyGate.Proofs.Policy.Equality
import PolicyGate.Proofs.Policy.Filling
import PolicyGate.Proofs.Text.Capitals

/-!
# SKU families

The family of an SKU sorts SKUs into classes: an SKU and its family are of one class, and so are SKUs that differ in
letter case or in the blanks around them. A check that compares families finds nothing wrong with a text exactly when
one of the allowed values is of its class (`Check.families_classify`). That needs all allowed values to be written out,
and a number that is too long to be written keeps the check from giving an answer
(`Check.families_not_always_accepted`).
-/

namespace PolicyGate

open Attempt Text Value

/-! ## The stem of an SKU -/

variable {cs stem letters digits rest : List Char} {f : Char → Char} {s t : String}

/-- The text starts with the stem: one or more letters, and all of the digits behind them, of which there is at least
one. -/
inductive StartsWith : List Char → List Char → Prop where
  | stem {letters digits rest : List Char} (hletters : ∀ c ∈ letters, c.isAlpha = true) (hsome : letters ≠ [])
      (hdigits : ∀ c ∈ digits, c.isDigit = true) (hmore : digits ≠ []) (hrest : ∀ c ∈ rest.head?, c.isDigit = false) :
      StartsWith (letters ++ digits ++ rest) (letters ++ digits)

theorem skuStem?_eq_some_iff : skuStem? cs = some stem ↔ StartsWith cs stem := by
  constructor
  · intro h
    have hcs : cs.takeWhile Char.isAlpha ++ (cs.dropWhile Char.isAlpha).takeWhile Char.isDigit ++
        (cs.dropWhile Char.isAlpha).dropWhile Char.isDigit = cs := by
      rw [List.append_assoc, List.takeWhile_append_dropWhile, List.takeWhile_append_dropWhile]
    rw [skuStem?] at h
    split at h
    · cases h
    · rename_i hboth
      rw [Bool.or_eq_true, not_or, List.isEmpty_iff, List.isEmpty_iff] at hboth
      obtain rfl := Option.some.inj h
      have hstop := List.head?_dropWhile_not Char.isDigit (cs.dropWhile Char.isAlpha)
      have hrest : ∀ c ∈ ((cs.dropWhile Char.isAlpha).dropWhile Char.isDigit).head?, c.isDigit = false := by
        intro c hc
        rw [hc] at hstop
        exact hstop
      have hstarts := StartsWith.stem (fun c hc => List.mem_takeWhile_imp hc) hboth.1
        (fun c hc => List.mem_takeWhile_imp hc) hboth.2 hrest
      rwa [hcs] at hstarts
  · rintro ⟨hletters, hsome, hdigits, hmore, hrest⟩
    rename_i letters digits rest
    -- a digit is no letter, so the letters end where the digits start
    have hnext : ∀ c ∈ (digits ++ rest).head?, c.isAlpha = false := by
      intro c hc
      rw [List.head?_append_of_ne_nil _ hmore] at hc
      exact isAlpha_of_isDigit (hdigits c (List.mem_of_head? hc))
    rw [List.append_assoc, skuStem?, Template.takeWhile_append_of_stop hletters hnext,
      Template.dropWhile_append_of_stop hletters hnext, Template.takeWhile_append_of_stop hdigits hrest]
    exact if_neg (by simp [hsome, hmore])

/-- What the family of a trimmed text is made of: its stem, or all of it if it does not start with one. -/
def skuPart (cs : List Char) : List Char := (skuStem? cs).getD cs

theorem planSkuFamily_eq (s : String) : planSkuFamily s = upper (String.ofList (skuPart (trimChars s.toList))) := rfl

theorem skuPart_of_startsWith (h : StartsWith cs stem) : skuPart cs = stem := by
  rw [skuPart, skuStem?_eq_some_iff.2 h, Option.getD_some]

theorem skuPart_front (cs : List Char) : skuPart cs <+: cs := by
  cases h : skuStem? cs with
  | none =>
    rw [skuPart, h]
    exact List.prefix_rfl
  | some stem =>
    rw [skuPart, h, Option.getD_some]
    obtain ⟨-, -, -, -, -⟩ := skuStem?_eq_some_iff.1 h
    exact List.prefix_append _ _

/-- A stem is the stem of itself. -/
theorem skuPart_skuPart (cs : List Char) : skuPart (skuPart cs) = skuPart cs := by
  cases h : skuStem? cs with
  | none =>
    have hwhole : skuPart cs = cs := by rw [skuPart, h, Option.getD_none]
    rw [hwhole, hwhole]
  | some stem =>
    have hstem : StartsWith stem stem := by
      obtain ⟨hletters, hsome, hdigits, hmore, -⟩ := skuStem?_eq_some_iff.1 h
      have hnothing : ∀ c ∈ ([] : List Char).head?, c.isDigit = false := by simp
      simpa using StartsWith.stem hletters hsome hdigits hmore hnothing
    rw [skuPart_of_startsWith (skuStem?_eq_some_iff.1 h), skuPart_of_startsWith hstem]

/-- The stem of a trimmed text is trimmed: it starts with a letter and ends with a digit. -/
theorem trimChars_skuPart (cs : List Char) : trimChars (skuPart (trimChars cs)) = skuPart (trimChars cs) := by
  cases h : skuStem? (trimChars cs) with
  | none =>
    rw [skuPart, h, Option.getD_none, trimChars_trimChars]
  | some stem =>
    rw [skuPart, h, Option.getD_some]
    have hstarts := skuStem?_eq_some_iff.1 h
    generalize trimChars cs = whole at hstarts
    obtain ⟨hletters, hsome, hdigits, hmore, -⟩ := hstarts
    refine trimChars_of_ends (fun c hc => ?_) fun c hc => ?_
    · rw [List.head?_append_of_ne_nil _ hsome] at hc
      exact isBlank_of_isAlpha (hletters c (List.mem_of_head? hc))
    · rw [List.getLast?_append_of_ne_nil _ hmore] at hc
      exact isBlank_of_isDigit (hdigits c (List.mem_of_getLast? hc))

/-- Letters and digits are where they were when a text is mapped by a mapping that keeps them. -/
theorem skuPart_map (hf : KeepsKind f) (cs : List Char) : skuPart (cs.map f) = (skuPart cs).map f := by
  have hletters : Char.isAlpha ∘ f = Char.isAlpha := funext hf.isAlpha_eq
  have hdigits : Char.isDigit ∘ f = Char.isDigit := funext hf.isDigit_eq
  have hstem : skuStem? (cs.map f) = (skuStem? cs).map (List.map f) := by
    rw [skuStem?, skuStem?, List.takeWhile_map, List.dropWhile_map, hletters, List.takeWhile_map, hdigits]
    rw [List.isEmpty_map, List.isEmpty_map, ← List.map_append]
    split <;> rfl
  rw [skuPart, hstem, skuPart]
  cases skuStem? cs <;> rfl

/-! ## Families -/

theorem isAscii_skuPart (h : IsAscii s) : IsAscii (String.ofList (skuPart (trimChars s.toList))) := by
  intro c hc
  rw [String.toList_ofList] at hc
  have htrimmed := (skuPart_front _).subset hc
  refine h c ?_
  have hfront := (List.rdropWhile_prefix _ _).subset htrimmed
  exact (List.dropWhile_suffix _).subset hfront

theorem isAscii_planSkuFamily (h : IsAscii s) : IsAscii (planSkuFamily s) := (isAscii_skuPart h).upper

theorem upper_planSkuFamily (h : IsAscii s) : upper (planSkuFamily s) = planSkuFamily s :=
  upper_upper (isAscii_skuPart h)

/-- A family is its own family. -/
theorem planSkuFamily_planSkuFamily (h : IsAscii s) : planSkuFamily (planSkuFamily s) = planSkuFamily s := by
  have hchars : (planSkuFamily s).toList = (skuPart (trimChars s.toList)).map Char.toUpper := by
    rw [planSkuFamily_eq, toList_upper (isAscii_skuPart h), String.toList_ofList]
  have hpart : skuPart (trimChars (planSkuFamily s).toList) = (planSkuFamily s).toList := by
    rw [hchars, trimChars_map keepsKind_toUpper, trimChars_skuPart, skuPart_map keepsKind_toUpper, skuPart_skuPart]
  rw [planSkuFamily_eq, hpart, String.ofList_toList, upper_planSkuFamily h]

/-- Blanks around an SKU do not matter. -/
theorem planSkuFamily_surrounded {before after : String} (hbefore : ∀ c ∈ before.toList, isBlank c = true)
    (hafter : ∀ c ∈ after.toList, isBlank c = true) : planSkuFamily (before ++ s ++ after) = planSkuFamily s := by
  rw [planSkuFamily_eq, String.toList_append, String.toList_append, trimChars_surrounded hbefore hafter]
  rfl

theorem planSkuFamily_toLower (s : String) : planSkuFamily s.toLower = planSkuFamily s := by
  rw [planSkuFamily_eq, toList_toLower, trimChars_map keepsKind_toLower, skuPart_map keepsKind_toLower,
    upper_ofList_map_toLower]
  rfl

/-- Nor does letter case. -/
theorem planSkuFamily_of_eqIgnoringCase (h : EqIgnoringCase s t) : planSkuFamily s = planSkuFamily t := by
  rw [← planSkuFamily_toLower s, ← planSkuFamily_toLower t, h]

theorem upper_append (s t : String) : upper (s ++ t) = upper s ++ upper t := by
  rw [upper, String.toList_append, List.flatMap_append, String.ofList_append]
  rfl

theorem upper_of_digits (h : ∀ c ∈ s.toList, c.isDigit = true) : upper s = s := by
  have hascii : IsAscii s := by
    intro c hc
    obtain ⟨-, hhigh⟩ := isDigit_iff.1 (h c hc)
    omega
  rw [← String.toList_inj, toList_upper hascii, List.map_congr_left, List.map_id]
  exact fun c hc => toUpper_of_not_isAlpha (isAlpha_of_isDigit (h c hc))

/-- The family of an SKU that starts with letters and digits consists of these. -/
theorem planSkuFamily_of_stem {letters digits rest : String} (hs : trim s = letters ++ digits ++ rest)
    (hletters : ∀ c ∈ letters.toList, c.isAlpha = true) (hsome : letters ≠ "")
    (hdigits : ∀ c ∈ digits.toList, c.isDigit = true) (hmore : digits ≠ "")
    (hrest : ∀ c ∈ rest.toList.head?, c.isDigit = false) : planSkuFamily s = upper letters ++ digits := by
  have htrimmed : trimChars s.toList = letters.toList ++ digits.toList ++ rest.toList := by
    rw [← String.toList_append, ← String.toList_append, ← hs, trim, String.toList_ofList]
  have hstarts : StartsWith (trimChars s.toList) (letters.toList ++ digits.toList) := by
    rw [htrimmed]
    exact .stem hletters (by simpa using hsome) hdigits (by simpa using hmore) hrest
  have hstem : String.ofList (letters.toList ++ digits.toList) = letters ++ digits := by
    rw [String.ofList_append, String.ofList_toList, String.ofList_toList]
  rw [planSkuFamily_eq, skuPart_of_startsWith hstarts, hstem, upper_append, upper_of_digits hdigits]

/-! ## Checks of families -/

namespace Test

variable {allowed : List Value} {texts : List String} {ignoreCase : Bool} {v : Value} {text other : String}

/-- What a text is compared by when families are compared. -/
def familyKey (ignoreCase : Bool) (text : String) : String :=
  if ignoreCase then caseFold (planSkuFamily text) else planSkuFamily text

/-- Two texts have the same family, as far as the comparison can tell. -/
def SameFamily (ignoreCase : Bool) (s t : String) : Prop :=
  planSkuFamily s = planSkuFamily t ∨ ignoreCase = true ∧ caseFold (planSkuFamily s) = caseFold (planSkuFamily t)

theorem comparable_family (text : String) :
    comparable ignoreCase (some "planSkuFamily") text = .ok (familyKey ignoreCase text) := rfl

theorem familyKey_eq_iff : familyKey ignoreCase s = familyKey ignoreCase t ↔ SameFamily ignoreCase s t := by
  cases ignoreCase with
  | false => simp [familyKey, SameFamily]
  | true =>
    simp only [familyKey, SameFamily, if_true, true_and]
    exact ⟨.inr, fun h => h.elim (congrArg caseFold) id⟩

/-- Families of ASCII texts are in capitals, so they are still told apart when letter case is ignored. -/
theorem sameFamily_iff (h : ignoreCase = true → IsAscii s ∧ IsAscii t) :
    SameFamily ignoreCase s t ↔ planSkuFamily s = planSkuFamily t := by
  refine ⟨fun hsame => hsame.elim id fun hfold => ?_, .inl⟩
  obtain ⟨hs, ht⟩ := h hfold.1
  have hupper := congrArg upper hfold.2
  rwa [upper_caseFold (isAscii_planSkuFamily hs) (upper_planSkuFamily hs),
    upper_caseFold (isAscii_planSkuFamily ht) (upper_planSkuFamily ht)] at hupper

theorem readsLike_family (htext : comparisonText v = .ok text) :
    readsLike ignoreCase (some "planSkuFamily") texts v =
      .ok ((texts.map (familyKey ignoreCase)).contains (familyKey ignoreCase text)) := by
  have hkeys : texts.mapM (comparable ignoreCase (some "planSkuFamily")) = .ok (texts.map (familyKey ignoreCase)) := by
    rw [mapM_eq_ok, List.forall₂_map_right_iff, List.forall₂_same]
    exact fun t _ => comparable_family t
  exact bind_eq_ok.2 ⟨_, htext, bind_eq_ok.2 ⟨_, comparable_family text, bind_eq_ok.2 ⟨_, hkeys, rfl⟩⟩⟩

/-- A value passes if one of the allowed ones has the same family. -/
theorem exists_passes_family (htext : comparisonText v = .ok text) (hallowed : ∀ a ∈ allowed, ¬ a.Holds IsLong) :
    ∃ passed, (among allowed ignoreCase (some "planSkuFamily")).passes (some v) = .ok passed ∧
      (passed = true ↔ ∃ a ∈ allowed, ∃ s, comparisonText a = .ok s ∧ SameFamily ignoreCase s text) := by
  obtain ⟨texts, htexts⟩ := exists_mapM_ok.2 fun a ha => exists_comparisonText (hallowed a ha)
  refine ⟨(texts.map (familyKey ignoreCase)).contains (familyKey ignoreCase text), ?_, ?_⟩
  · exact bind_eq_ok.2 ⟨texts, htexts, readsLike_family htext⟩
  · rw [List.contains_iff_mem, List.mem_map]
    constructor
    · rintro ⟨s, hs, hkey⟩
      obtain ⟨a, ha, has⟩ := partner_of_mem_right (mapM_eq_ok.1 htexts) hs
      exact ⟨a, ha, s, has, familyKey_eq_iff.1 hkey⟩
    · rintro ⟨a, ha, s, has, hsame⟩
      obtain ⟨s', hs', has'⟩ := partner_of_mem_left (mapM_eq_ok.1 htexts) ha
      obtain rfl : s = s' := Except.ok.inj (has.symm.trans has')
      exact ⟨s, hs', familyKey_eq_iff.2 hsame⟩

theorem passes_family_of_long {a : Value} (ha : a ∈ allowed) (h : a.Holds IsLong) :
    (among allowed ignoreCase (some "planSkuFamily")).passes (some v) = .error .tooManyDigits := by
  rw [passes, comparisonTexts_of_long ha h]
  rfl

end Test

namespace Check

open Test

/-- What the family of a text is, and what a check of families finds. The family of an ASCII text is its own family.
Blanks around a text do not change its family, and neither does letter case. The family of a text that starts with
letters and digits is made of the letters, in upper case, and all of the digits. A check that compares families finds
nothing wrong with a value that reads like the text exactly when an allowed value reads like a text of the same family,
and so it accepts what is of a family that is allowed; unless one of the allowed values cannot be written, and then it
gives no answer. Whether it ignores letter case makes no difference for ASCII texts. -/
theorem families_classify (text : String) :
    (IsAscii text → planSkuFamily (planSkuFamily text) = planSkuFamily text) ∧
    (∀ before after : String, (∀ c ∈ before.toList, isBlank c = true) → (∀ c ∈ after.toList, isBlank c = true) →
      planSkuFamily (before ++ text ++ after) = planSkuFamily text) ∧
    (∀ other, EqIgnoringCase text other → planSkuFamily text = planSkuFamily other) ∧
    (∀ letters digits rest : String, trim text = letters ++ digits ++ rest →
      (∀ c ∈ letters.toList, c.isAlpha = true) → letters ≠ "" → (∀ c ∈ digits.toList, c.isDigit = true) →
      digits ≠ "" → (∀ c ∈ rest.toList.head?, c.isDigit = false) → planSkuFamily text = upper letters ++ digits) ∧
    (∀ (check : Check) (args v : Value) (allowed : List Value) (ignoreCase : Bool),
      check.test = .among allowed ignoreCase (some "planSkuFamily") → check.resolve args = .ok (some v) →
      comparisonText v = .ok text →
        ((∀ a ∈ allowed, ¬ a.Holds IsLong) →
          (check.violation args = .ok none ↔
            ∃ a ∈ allowed, ∃ s, comparisonText a = .ok s ∧ SameFamily ignoreCase s text) ∧
          (IsAscii text → .str (planSkuFamily text) ∈ allowed → check.violation args = .ok none)) ∧
        ((∃ a ∈ allowed, a.Holds IsLong) → check.violation args = .error .tooManyDigits)) ∧
    (∀ (ignoreCase : Bool) (other : String), (ignoreCase = true → IsAscii other ∧ IsAscii text) →
      (SameFamily ignoreCase other text ↔ planSkuFamily other = planSkuFamily text)) := by
  refine ⟨planSkuFamily_planSkuFamily, fun before after => planSkuFamily_surrounded,
    fun other => planSkuFamily_of_eqIgnoringCase, fun letters digits rest => planSkuFamily_of_stem, ?_,
    fun ignoreCase other => sameFamily_iff⟩
  -- what is left is the check of families: all its allowed values are written before any is compared
  intro check args v allowed ignoreCase htest hfound htext
  constructor
  · intro hallowed
    obtain ⟨passed, hpasses, hpassed⟩ := exists_passes_family htext hallowed
    rw [← htest] at hpasses
    have hiff := (violation_eq_none_iff hfound hpasses).trans hpassed
    refine ⟨hiff, fun hascii hfamily => hiff.2 ⟨_, hfamily, _, rfl, .inl ?_⟩⟩
    exact planSkuFamily_planSkuFamily hascii
  · rintro ⟨a, ha, hlong⟩
    rw [violation_of_resolve hfound, violationOf, htest, passes_family_of_long ha hlong]
    rfl

/-- A check of the plan of an app, which may be of the given families. -/
def ofPlan (families : List Value) : Check := { path := "sku", test := .among families true (some "planSkuFamily") }

theorem resolve_ofPlan (families : List Value) (sku : String) :
    (ofPlan families).resolve (.record [("sku", .str sku)]) = .ok (some (.str sku)) :=
  resolve_record rfl (by decide) (by decide) nofun

theorem holds_longKey : Document.longKey.Holds IsLong := text?_eq_none_iff.1 Document.text?_longKey

/-- A plan of the family `P10`, written in several ways, and a check that allows the family. -/
theorem ofPlan_classifies :
    planSkuFamily (planSkuFamily "p10V3") = planSkuFamily "p10V3" ∧
    planSkuFamily ("\t" ++ "p10V3" ++ " ") = planSkuFamily "p10V3" ∧
    planSkuFamily "p10V3" = planSkuFamily "P10v3" ∧ planSkuFamily " p10V3" = upper "p" ++ "10" ∧
    (ofPlan [.int 5, .str "P10"]).violation (.record [("sku", .str "p10V3")]) = .ok none ∧
    (ofPlan [.str "P1"]).violation (.record [("sku", .str "p10V3")]) ≠ .ok none ∧
    (ofPlan [Document.longKey]).violation (.record [("sku", .str "p10V3")]) = .error .tooManyDigits ∧
    SameFamily true "P10" "p10V3" := by
  obtain ⟨hagain, hsurrounded, hletters, -, hcheck, hsame⟩ := families_classify "p10V3"
  obtain ⟨-, -, -, hstem, -⟩ := families_classify " p10V3"
  have hfamily : planSkuFamily "p10V3" = "P10" := by decide +kernel
  have hcase : EqIgnoringCase "p10V3" "P10v3" := by
    rw [EqIgnoringCase, ← String.toList_inj, toList_toLower, toList_toLower]
    decide
  have hshort : ∀ a ∈ [Value.int 5, .str "P10"], ¬ a.Holds IsLong := by
    simp only [List.forall_mem_cons, ← text?_eq_none_iff]
    decide +kernel
  have hshort' : ∀ a ∈ [Value.str "P1"], ¬ a.Holds IsLong := by
    simp only [List.forall_mem_cons, ← text?_eq_none_iff]
    decide +kernel
  have hascii : IsAscii "p10V3" ∧ IsAscii "P1" ∧ IsAscii "P10" := by decide +kernel
  have hblanks : "\t".toList.all isBlank = true ∧ " ".toList.all isBlank = true := by decide +kernel
  have hparts : "p".toList.all Char.isAlpha = true ∧ "10".toList.all Char.isDigit = true := by decide +kernel
  simp only [List.all_eq_true] at hblanks hparts
  refine ⟨hagain hascii.1, hsurrounded _ _ hblanks.1 hblanks.2, hletters _ hcase,
    hstem "p" "10" "V3" (by decide +kernel) hparts.1 (by decide) hparts.2 (by decide) (by simp),
    ?_, ?_, ?_, ?_⟩
  · refine ((hcheck _ _ _ _ _ rfl (resolve_ofPlan _ _) rfl).1 hshort).2 hascii.1 ?_
    rw [hfamily]
    exact List.mem_cons_of_mem _ List.mem_cons_self
  · rw [Ne, ((hcheck _ _ _ _ _ rfl (resolve_ofPlan _ _) rfl).1 hshort').1]
    rintro ⟨a, ha, s, hs, hsame'⟩
    obtain rfl := List.mem_singleton.1 ha
    obtain rfl : "P1" = s := Except.ok.inj hs
    rw [hsame _ _ fun _ => ⟨hascii.2.1, hascii.1⟩, hfamily] at hsame'
    revert hsame'
    decide +kernel
  · exact (hcheck _ _ _ _ _ rfl (resolve_ofPlan _ _) rfl).2 ⟨_, List.mem_singleton_self _, holds_longKey⟩
  · rw [hsame _ _ fun _ => ⟨hascii.2.2, hascii.1⟩]
    decide +kernel

/-- A number that is too long to be written keeps the check from accepting a plan of a family that is allowed. So it is
not true of all checks that an entry can ask for that they accept every plan of an allowed family. -/
theorem families_not_always_accepted :
    ¬ ∀ (spec : CheckSpec) (check : Check) (args : Value) (allowed : List Value) (ignoreCase : Bool) (text : String),
      spec.toCheck = .ok check → (∀ a ∈ allowed, a.IsJson) →
      check.test = .among allowed ignoreCase (some "planSkuFamily") → check.resolve args = .ok (some (.str text)) →
      IsAscii text → .str (planSkuFamily text) ∈ allowed → check.violation args = .ok none := by
  intro h
  have hfamily : planSkuFamily "P1v3" = "P1" := by decide +kernel
  have hplain : ∀ a ∈ [Value.str "P1", Document.longKey], a.IsJson :=
    List.forall_mem_cons.2 ⟨isJson_str, List.forall_mem_singleton.2 isJson_int⟩
  have hfound := resolve_ofPlan [.str "P1", Document.longKey] "P1v3"
  have hnone := h (ofPlan _).spec (ofPlan _) _ _ _ _ rfl hplain rfl hfound (by decide +kernel)
    (by rw [hfamily]; exact List.mem_cons_self)
  rw [violation_of_resolve hfound, violationOf, ofPlan,
    passes_family_of_long (List.mem_cons_of_mem _ (List.mem_singleton_self _)) holds_longKey] at hnone
  cases hnone

end Check

end PolicyGate
