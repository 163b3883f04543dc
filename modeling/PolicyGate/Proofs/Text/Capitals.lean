import Mathlib.Data.List.DropRight
import PolicyGate.Proofs.Text.Lowering

/-!
# Capital letters and the ends of texts

A mapping of characters that leaves letters letters, digits digits and blanks blanks (`KeepsKind`) does not change where
a text is trimmed (`trimChars_map`); the mappings between small and capital ASCII letters are such mappings. On ASCII
texts upper case is one of them (`toList_upper`), and folding a text in capitals loses nothing (`upper_caseFold`).
-/

namespace PolicyGate.Text

variable {c : Char} {cs before after : List Char} {s t : String} {f : Char → Char}

/-! ## Capital letters -/

/-- The text consists of ASCII characters. -/
def IsAscii (s : String) : Prop := ∀ c ∈ s.toList, c.toNat < 128

instance (s : String) : Decidable (IsAscii s) :=
  decidable_of_iff (s.toList.all fun c => c.toNat < 128) (by simp [IsAscii])

theorem toUpper_of_not_isAlpha (h : c.isAlpha = false) : c.toUpper = c := by
  refine dif_neg fun hlower => ?_
  rw [← Bool.not_eq_true, isAlpha_iff] at h
  simp only [UInt32.le_iff_toNat_le] at hlower
  exact h (.inr hlower)

/-- What a mapping of characters does not change: whether a character is a letter, a digit or a blank. -/
structure KeepsKind (f : Char → Char) : Prop where
  isAlpha_eq : ∀ c, (f c).isAlpha = c.isAlpha
  isDigit_eq : ∀ c, (f c).isDigit = c.isDigit
  isBlank_eq : ∀ c, isBlank (f c) = isBlank c

/-- What the mappings between small and capital letters do to an ASCII character. -/
structure CaseFacts (c : Char) : Prop where
  toUpper_keeps : c.toUpper.isAlpha = c.isAlpha ∧ c.toUpper.isDigit = c.isDigit ∧ isBlank c.toUpper = isBlank c
  toLower_keeps : c.toLower.isAlpha = c.isAlpha ∧ c.toLower.isDigit = c.isDigit ∧ isBlank c.toLower = isBlank c
  not_isBlank : c.isAlpha = true → isBlank c = false
  toUpper_lt : c.toUpper.toNat < 128
  toLower_lt : c.toLower.toNat < 128
  toUpper_toUpper : c.toUpper.toUpper = c.toUpper
  toUpper_toLower : c.toLower.toUpper = c.toUpper

/-- The facts hold of all ASCII characters, since they hold of one after the other. -/
theorem caseFacts_of_lt (h : c.toNat < 128) : CaseFacts c := by
  have hall : ∀ n < 128, ∀ c, c = Char.ofNat n →
      (c.toUpper.isAlpha = c.isAlpha ∧ c.toUpper.isDigit = c.isDigit ∧ isBlank c.toUpper = isBlank c) ∧
      (c.toLower.isAlpha = c.isAlpha ∧ c.toLower.isDigit = c.isDigit ∧ isBlank c.toLower = isBlank c) ∧
      (c.isAlpha = true → isBlank c = false) ∧ c.toUpper.toNat < 128 ∧ c.toLower.toNat < 128 ∧
      c.toUpper.toUpper = c.toUpper ∧ c.toLower.toUpper = c.toUpper := by
    simp only [forall_eq]
    decide +kernel
  obtain ⟨hupper, hlower, hblank, hupperlt, hlowerlt, htwice, hback⟩ := hall c.toNat h c (Char.ofNat_toNat c).symm
  exact ⟨hupper, hlower, hblank, hupperlt, hlowerlt, htwice, hback⟩

/-- A mapping that changes ASCII characters only has to keep the kinds of these. -/
theorem KeepsKind.of_ascii (hother : ∀ c : Char, 128 ≤ c.toNat → f c = c)
    (hascii : ∀ c : Char, c.toNat < 128 →
      (f c).isAlpha = c.isAlpha ∧ (f c).isDigit = c.isDigit ∧ isBlank (f c) = isBlank c) : KeepsKind f := by
  have hkinds : ∀ c : Char, (f c).isAlpha = c.isAlpha ∧ (f c).isDigit = c.isDigit ∧ isBlank (f c) = isBlank c := by
    intro c
    rcases Nat.lt_or_ge c.toNat 128 with h | h
    · exact hascii c h
    · rw [hother c h]
      exact ⟨rfl, rfl, rfl⟩
  exact ⟨fun c => (hkinds c).1, fun c => (hkinds c).2.1, fun c => (hkinds c).2.2⟩

theorem keepsKind_toUpper : KeepsKind Char.toUpper :=
  .of_ascii (fun _ h => toUpper_of_not_isAlpha (not_isAlpha_of_le h)) fun _ h => (caseFacts_of_lt h).toUpper_keeps

theorem keepsKind_toLower : KeepsKind Char.toLower :=
  .of_ascii (fun _ h => toLower_of_not_isAlpha (not_isAlpha_of_le h)) fun _ h => (caseFacts_of_lt h).toLower_keeps

theorem isBlank_of_isAlpha (h : c.isAlpha = true) : isBlank c = false := by
  rcases Nat.lt_or_ge c.toNat 128 with hc | hc
  · exact (caseFacts_of_lt hc).not_isBlank h
  · rw [not_isAlpha_of_le hc] at h
    cases h

theorem isDigit_iff : c.isDigit = true ↔ 48 ≤ c.toNat ∧ c.toNat ≤ 57 := by
  change (decide (48 ≤ c.val) && decide (c.val ≤ 57)) = true ↔ _
  rw [Bool.and_eq_true, decide_eq_true_eq, decide_eq_true_eq, UInt32.le_iff_toNat_le, UInt32.le_iff_toNat_le]
  rfl

theorem isBlank_of_isDigit (h : c.isDigit = true) : isBlank c = false := by
  obtain ⟨hlow, hhigh⟩ := isDigit_iff.1 h
  exact inRanges_eq_false hlow hhigh (by decide)

theorem isAlpha_of_isDigit (h : c.isDigit = true) : c.isAlpha = false := by
  obtain ⟨hlow, hhigh⟩ := isDigit_iff.1 h
  rw [← Bool.not_eq_true, isAlpha_iff]
  omega

/-! ## Upper case and folding -/

theorem upperChars_of_lt (h : c.toNat < 128) : upperChars c = [c.toUpper] := by
  have hchar : upperChar c = c.toUpper := if_pos h
  unfold upperChars
  split
  · rw [if_pos h, hchar]
  · rw [hchar]

theorem foldChars_of_lt (h : c.toNat < 128) : foldChars c = [c.toLower] := if_pos h

/-- A small letter and its capital have the same upper-case form. -/
theorem upperChars_toLower (c : Char) : upperChars c.toLower = upperChars c := by
  rcases Nat.lt_or_ge c.toNat 128 with h | h
  · have hfacts := caseFacts_of_lt h
    rw [upperChars_of_lt hfacts.toLower_lt, upperChars_of_lt h, hfacts.toUpper_toLower]
  · rw [toLower_of_not_isAlpha (not_isAlpha_of_le h)]

theorem upper_ofList_map_toLower (cs : List Char) :
    upper (String.ofList (cs.map Char.toLower)) = upper (String.ofList cs) := by
  simp only [upper, String.toList_ofList, List.flatMap_map, upperChars_toLower]

theorem toList_upper (h : IsAscii s) : (upper s).toList = s.toList.map Char.toUpper := by
  rw [upper, String.toList_ofList, List.map_eq_flatMap]
  exact List.flatMap_congr fun c hc => upperChars_of_lt (h c hc)

theorem toList_caseFold (h : IsAscii s) : (caseFold s).toList = s.toList.map Char.toLower := by
  rw [caseFold, String.toList_ofList, List.map_eq_flatMap]
  exact List.flatMap_congr fun c hc => foldChars_of_lt (h c hc)

theorem IsAscii.upper (h : IsAscii s) : IsAscii (upper s) := by
  intro d hd
  rw [toList_upper h] at hd
  obtain ⟨c, hc, rfl⟩ := List.mem_map.1 hd
  exact (caseFacts_of_lt (h c hc)).toUpper_lt

/-- Nothing is left to be done to a text in upper case. -/
theorem upper_upper (h : IsAscii s) : upper (upper s) = upper s := by
  rw [← String.toList_inj, toList_upper h.upper, toList_upper h, List.map_map]
  exact List.map_congr_left fun c hc => (caseFacts_of_lt (h c hc)).toUpper_toUpper

/-- A text in upper case is found again from its folded form. -/
theorem upper_caseFold (h : IsAscii s) (hupper : upper s = s) : upper (caseFold s) = s := by
  have hfolded : caseFold s = String.ofList (s.toList.map Char.toLower) := by
    rw [← toList_caseFold h, String.ofList_toList]
  rw [hfolded, upper_ofList_map_toLower, String.ofList_toList, hupper]

/-! ## The ends of a text -/

theorem trimChars_eq (cs : List Char) : trimChars cs = (cs.dropWhile isBlank).rdropWhile isBlank := rfl

theorem dropWhile_map_of_keeps (hf : ∀ c, isBlank (f c) = isBlank c) (cs : List Char) :
    (cs.map f).dropWhile isBlank = (cs.dropWhile isBlank).map f := by
  rw [List.dropWhile_map]
  exact congrArg (fun p => (cs.dropWhile p).map f) (funext hf)

theorem trimChars_map (hf : KeepsKind f) (cs : List Char) : trimChars (cs.map f) = (trimChars cs).map f := by
  rw [trimChars, dropWhile_map_of_keeps hf.isBlank_eq, ← List.map_reverse, dropWhile_map_of_keeps hf.isBlank_eq,
    ← List.map_reverse]
  rfl

/-- Blanks around a text are taken away with those at its ends. -/
theorem trimChars_surrounded (hbefore : ∀ c ∈ before, isBlank c = true) (hafter : ∀ c ∈ after, isBlank c = true) :
    trimChars (before ++ cs ++ after) = trimChars cs := by
  have hend : ∀ ds : List Char, (ds ++ after).rdropWhile isBlank = ds.rdropWhile isBlank := by
    intro ds
    rw [List.rdropWhile, List.reverse_append, List.dropWhile_append_of_pos (by simpa using hafter)]
    rfl
  rw [trimChars_eq, trimChars_eq, List.append_assoc, List.dropWhile_append_of_pos hbefore, List.dropWhile_append]
  split
  · -- nothing but blanks: what follows them goes from the front
    rename_i hempty
    rw [List.isEmpty_iff] at hempty
    rw [hempty, List.dropWhile_eq_nil_iff.2 hafter]
  · exact hend _

/-- A text that neither starts nor ends with a blank is left as it is. -/
theorem trimChars_of_ends (hhead : ∀ c ∈ cs.head?, isBlank c = false) (hlast : ∀ c ∈ cs.getLast?, isBlank c = false) :
    trimChars cs = cs := by
  have hfront : cs.dropWhile isBlank = cs := by
    cases cs with
    | nil => rfl
    | cons c cs => exact List.dropWhile_cons_of_neg (by simp [hhead c rfl])
  rw [trimChars_eq, hfront, List.rdropWhile_eq_self_iff]
  intro hne
  rw [hlast _ (List.getLast_mem_getLast? hne)]
  simp

theorem head?_trimChars (cs : List Char) : ∀ c ∈ (trimChars cs).head?, isBlank c = false := by
  intro c hc
  obtain ⟨rest, hrest⟩ := List.rdropWhile_prefix isBlank (cs.dropWhile isBlank)
  have hfront : (cs.dropWhile isBlank).head? = some c := by
    rw [← hrest]
    exact List.head?_append_of_ne_nil _ (List.ne_nil_of_mem (List.mem_of_head? hc)) |>.trans hc
  have hstop := List.head?_dropWhile_not isBlank cs
  rwa [hfront] at hstop

theorem getLast?_trimChars (cs : List Char) : ∀ c ∈ (trimChars cs).getLast?, isBlank c = false := by
  intro c hc
  have hne : trimChars cs ≠ [] := List.ne_nil_of_mem (List.mem_of_getLast? hc)
  rw [List.getLast?_eq_some_getLast hne, Option.mem_some_iff] at hc
  rw [← hc, ← Bool.not_eq_true]
  exact List.rdropWhile_last_not isBlank _ hne

theorem trimChars_trimChars (cs : List Char) : trimChars (trimChars cs) = trimChars cs :=
  trimChars_of_ends (head?_trimChars cs) (getLast?_trimChars cs)

end PolicyGate.Text
