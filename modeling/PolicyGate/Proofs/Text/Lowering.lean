import PolicyGate.Proofs.Text.Words
import PolicyGate.Text.Case

/-!
# Lower case and words

What is no ASCII character leaves a trace in lower case: something that is no ASCII character either, or the `k` that
the Kelvin sign becomes (`exists_mem_lowerChars`). So a text can have the lower-case form of a plain one, that is, of
one in small ASCII characters without `k`, only if the two differ in nothing but ASCII letter case (`lower_eq_iff`).
Blanks stay blanks, and nothing else becomes one, so the words of a text in lower case are its words in lower case
(`words_lower`).
-/

namespace PolicyGate.Text

/-! ## Runs of the case table -/

/-- The image of the run's first code point. -/
def CaseRun.low (run : CaseRun) : Nat := ((run.first : Int) + run.shift).toNat

/-- The image of the run's last code point. -/
def CaseRun.high (run : CaseRun) : Nat := ((run.last : Int) + run.shift).toNat

/-- The images are characters and stay out of ASCII, but for `k`; neither they nor what they come from are blanks. -/
def CaseRun.Stays (run : CaseRun) : Prop :=
  (128 ≤ run.low ∨ run.low = 107 ∧ run.high = 107) ∧
    (run.high < 0xd800 ∨ 0xe000 ≤ run.low ∧ run.high < 0x110000) ∧
    ∀ r ∈ blankRanges, (run.last < r.1 ∨ r.2 < run.first) ∧ (run.high < r.1 ∨ r.2 < run.low)

instance (run : CaseRun) : Decidable run.Stays := inferInstanceAs (Decidable (_ ∧ _ ∧ _))

/-- Besides the capital letters of ASCII and the dotted capital I, all runs do so. -/
theorem stays_of_mem_lowerRuns :
    ∀ run ∈ lowerRuns, run.last < 128 ∨ run.first = 304 ∧ run.last = 304 ∨ run.Stays := by
  decide +kernel

theorem shifted_cases (runs : List CaseRun) (n : Nat) :
    shifted runs n = n ∨
      ∃ run ∈ runs, run.first ≤ n ∧ n ≤ run.last ∧ shifted runs n = ((n : Int) + run.shift).toNat := by
  induction runs with
  | nil => exact .inl rfl
  | cons run runs ih =>
    rw [shifted]
    split
    · rename_i h
      simp only [Bool.and_eq_true, decide_eq_true_eq] at h
      exact .inr ⟨run, List.mem_cons_self, h.1.1, h.1.2, rfl⟩
    · rcases ih with h | ⟨other, hother, h⟩
      · exact .inl h
      · exact .inr ⟨other, List.mem_cons_of_mem run hother, h⟩

/-- What lies between two bounds is in no range that does so beyond them. -/
theorem inRanges_eq_false {ranges : List (Nat × Nat)} {low high n : Nat} (hlow : low ≤ n) (hhigh : n ≤ high)
    (h : ∀ r ∈ ranges, high < r.1 ∨ r.2 < low) : inRanges ranges n = false := by
  induction ranges with
  | nil => rfl
  | cons r ranges ih =>
    obtain ⟨hr, hrest⟩ := List.forall_mem_cons.1 h
    rw [inRanges, ih hrest]
    grind

/-! ## Single characters -/

variable {c d : Char}

theorem isAlpha_iff : c.isAlpha = true ↔ (65 ≤ c.toNat ∧ c.toNat ≤ 90) ∨ (97 ≤ c.toNat ∧ c.toNat ≤ 122) := by
  change (decide (65 ≤ c.val ∧ c.val ≤ 90) || (decide (97 ≤ c.val) && decide (c.val ≤ 122))) = true ↔ _
  rw [Bool.or_eq_true, Bool.and_eq_true, decide_eq_true_eq, decide_eq_true_eq, decide_eq_true_eq]
  simp only [UInt32.le_iff_toNat_le]
  rfl

theorem toLower_of_not_isAlpha (h : c.isAlpha = false) : c.toLower = c := by
  refine dif_neg fun hupper => ?_
  rw [← Bool.not_eq_true, isAlpha_iff] at h
  simp only [ge_iff_le, UInt32.le_iff_toNat_le] at hupper
  exact h (.inl hupper)

theorem not_isAlpha_of_le (h : 128 ≤ c.toNat) : c.isAlpha = false := by
  rw [← Bool.not_eq_true, isAlpha_iff]
  omega

theorem isBlank_toLower (h : c.toNat < 128) : isBlank c.toLower = isBlank c := by
  -- checked for one character after the other
  have hall : ∀ n < 128, isBlank (Char.ofNat n).toLower = isBlank (Char.ofNat n) := by decide +kernel
  rw [← Char.ofNat_toNat c]
  exact hall _ h

theorem lowerChars_of_lt (h : c.toNat < 128) : lowerChars c = [c.toLower] := by
  have hdotted : c ≠ 'İ' := by
    rintro rfl
    revert h
    decide
  rw [lowerChars, if_neg (by simpa using hdotted), lowerChar, if_pos h]

theorem CaseRun.Stays.origin {run : CaseRun} (h : run.Stays) (hfirst : run.first ≤ c.toNat)
    (hlast : c.toNat ≤ run.last) : isBlank c = false :=
  inRanges_eq_false hfirst hlast fun r hr => (h.2.2 r hr).1

theorem CaseRun.Stays.image {run : CaseRun} {n : Nat} (h : run.Stays) (hlow : run.low ≤ n) (hhigh : n ≤ run.high) :
    isBlank (Char.ofNat n) = false ∧ (128 ≤ (Char.ofNat n).toNat ∨ Char.ofNat n = 'k') := by
  obtain ⟨houtside, hvalid, hblank⟩ := h
  have hchar : (Char.ofNat n).toNat = n := by
    rw [Char.ofNat, dif_pos (by rw [Nat.isValidChar]; omega)]
    rfl
  constructor
  · rw [isBlank, hchar]
    exact inRanges_eq_false hlow hhigh fun r hr => (hblank r hr).2
  · rw [hchar]
    rcases houtside with houtside | ⟨hlow', hhigh'⟩
    · exact .inl (Nat.le_trans houtside hlow)
    · obtain rfl : n = 107 := by omega
      exact .inr rfl

theorem lowerChar_of_le (h : 128 ≤ c.toNat) (hdotted : c ≠ 'İ') :
    isBlank (lowerChar c) = isBlank c ∧ (128 ≤ (lowerChar c).toNat ∨ lowerChar c = 'k') := by
  have hother : c.toNat ≠ 304 := fun heq => hdotted (by rw [← Char.ofNat_toNat c, heq])
  rw [lowerChar, if_neg (by omega)]
  rcases shifted_cases lowerRuns c.toNat with hsame | ⟨run, hrun, hfirst, hlast, himage⟩
  · rw [hsame, Char.ofNat_toNat]
    exact ⟨rfl, .inl h⟩
  · rcases stays_of_mem_lowerRuns run hrun with hascii | hi | hstays
    · omega
    · omega
    · rw [hstays.origin hfirst hlast, himage]
      exact hstays.image (by rw [CaseRun.low]; omega) (by rw [CaseRun.high]; omega)

theorem lowerChars_ne_nil (c : Char) : lowerChars c ≠ [] := by
  unfold lowerChars
  split <;> simp

theorem lowerChars_dotted : lowerChars 'İ' = ['i', '\u0307'] := rfl

/-- The lower-case form of a blank is blank, and that of anything else has no blank in it. -/
theorem isBlank_of_mem_lowerChars (h : d ∈ lowerChars c) : isBlank d = isBlank c := by
  by_cases hascii : c.toNat < 128
  · rw [lowerChars_of_lt hascii, List.mem_singleton] at h
    rw [h, isBlank_toLower hascii]
  · by_cases hdotted : c = 'İ'
    · rw [hdotted, lowerChars_dotted, List.mem_cons, List.mem_singleton] at h
      subst hdotted
      rcases h with rfl | rfl <;> decide
    · rw [lowerChars, if_neg (by simpa using hdotted), List.mem_singleton] at h
      rw [h, (lowerChar_of_le (by omega) hdotted).1]

theorem exists_mem_lowerChars (h : 128 ≤ c.toNat) : ∃ d ∈ lowerChars c, 128 ≤ d.toNat ∨ d = 'k' := by
  by_cases hdotted : c = 'İ'
  · exact ⟨'\u0307', by rw [hdotted, lowerChars_dotted]; decide, .inl (by decide)⟩
  · refine ⟨lowerChar c, ?_, (lowerChar_of_le h hdotted).2⟩
    rw [lowerChars, if_neg (by simpa using hdotted)]
    exact List.mem_singleton_self _

/-! ## Texts -/

/-- Two texts differ in nothing but the case of ASCII letters. -/
def EqIgnoringCase (s t : String) : Prop := s.toLower = t.toLower

variable {s t : String}

theorem toList_lower (s : String) : (lower s).toList = s.toList.flatMap lowerChars := by
  rw [lower, String.toList_ofList]

theorem toList_toLower (s : String) : s.toLower.toList = s.toList.map Char.toLower := String.toList_map

theorem lower_of_ascii (h : ∀ c ∈ s.toList, c.toNat < 128) : lower s = s.toLower := by
  rw [← String.toList_inj, toList_lower, toList_toLower, List.map_eq_flatMap]
  exact List.flatMap_congr fun c hc => lowerChars_of_lt (h c hc)

/-- A text in small ASCII characters without `k` is the lower-case form of a text only if that is the same but for
ASCII letter case. -/
theorem lower_eq_iff (ht : ∀ d ∈ t.toList, d.toNat < 128 ∧ d ≠ 'k' ∧ d.toLower = d) :
    lower s = t ↔ EqIgnoringCase s t := by
  have hsmall : t.toLower = t := by
    rw [← String.toList_inj, toList_toLower]
    exact (List.map_congr_left fun d hd => (ht d hd).2.2).trans (List.map_id _)
  rw [EqIgnoringCase, hsmall]
  constructor
  · rintro rfl
    refine (lower_of_ascii fun c hc => ?_).symm
    by_contra hle
    obtain ⟨d, hd, hplain⟩ := exists_mem_lowerChars (Nat.le_of_not_lt hle)
    have hmem : d ∈ (lower s).toList := by
      rw [toList_lower]
      exact List.mem_flatMap.2 ⟨c, hc, hd⟩
    obtain ⟨hascii, hk, -⟩ := ht d hmem
    rcases hplain with hplain | hplain
    · omega
    · exact hk hplain
  · rintro rfl
    refine lower_of_ascii fun c hc => ?_
    by_contra hle
    have hmem : c.toLower ∈ s.toLower.toList := by
      rw [toList_toLower]
      exact List.mem_map_of_mem hc
    rw [toLower_of_not_isAlpha (not_isAlpha_of_le (Nat.le_of_not_lt hle))] at hmem
    exact hle (ht c hmem).1

/-- The words of a text in lower case are its words in lower case. -/
theorem words_lower (s : String) : words (lower s) = (words s).map lower := by
  rw [words, toList_lower, wordsOfChars_flatMap lowerChars_ne_nil fun c d => isBlank_of_mem_lowerChars, words,
    List.map_map, List.map_map]
  refine List.map_congr_left fun word _ => ?_
  rw [Function.comp_apply, Function.comp_apply, lower, String.toList_ofList]

theorem flatMap_intercalate {f : Char → List Char} {sep : List Char} (words : List (List Char)) :
    (sep.intercalate words).flatMap f = (sep.flatMap f).intercalate (words.map (·.flatMap f)) := by
  induction words with
  | nil => rfl
  | cons word words ih =>
    cases words with
    | nil => simp
    | cons next words =>
      rw [List.intercalate_cons_cons, List.flatMap_append, List.flatMap_append, ih]
      exact List.intercalate_cons_cons.symm

/-- Words joined by spaces are in lower case if each of them is. -/
theorem lower_intercalate (ws : List String) :
    lower (String.intercalate " " ws) = String.intercalate " " (ws.map lower) := by
  rw [← String.toList_inj, toList_lower, String.toList_intercalate, String.toList_intercalate, flatMap_intercalate,
    List.map_map, List.map_map]
  refine congrArg _ (List.map_congr_left fun word _ => ?_)
  exact (toList_lower word).symm

end PolicyGate.Text
