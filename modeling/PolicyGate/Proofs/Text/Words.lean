import Mathlib.Data.List.Basic
import PolicyGate.Text.Blank

/-!
# Words

A text has some words if it consists of them with blanks between them, and perhaps around them (`Splits`). There is one
way to take it apart, and that is what `wordsOfChars` does (`wordsOfChars_eq_iff`). A mapping of characters that keeps
blanks and what is none apart maps a text word by word (`wordsOfChars_flatMap`).
-/

namespace PolicyGate.Text

variable {c : Char} {cs ds gap word rest : List Char} {ws : List (List Char)} {f : Char → List Char}

/-- The text consists of the words, with blanks between them and perhaps around them. -/
inductive Splits : List Char → List (List Char) → Prop where
  | done {gap : List Char} (hgap : ∀ c ∈ gap, isBlank c = true) : Splits gap []
  | word {gap word rest : List Char} {ws : List (List Char)} (hgap : ∀ c ∈ gap, isBlank c = true)
      (hword : ∀ c ∈ word, isBlank c = false) (hne : word ≠ []) (hrest : ∀ c ∈ rest.head?, isBlank c = true)
      (h : Splits rest ws) : Splits (gap ++ (word ++ rest)) (word :: ws)

/-- The words, with one more in front if it has any characters. -/
def close (word : List Char) (done : List (List Char)) : List (List Char) :=
  if word.isEmpty then done else word :: done

/-- The word that a text starts with, which may be empty, and the words behind it. -/
def opened (cs : List Char) : List Char × List (List Char) :=
  cs.foldr (fun c (word, done) => if isBlank c then ([], close word done) else (c :: word, done)) ([], [])

theorem wordsOfChars_eq (cs : List Char) : wordsOfChars cs = close (opened cs).1 (opened cs).2 := rfl

theorem opened_cons_of_blank (h : isBlank c = true) : opened (c :: cs) = ([], wordsOfChars cs) := by
  rw [opened, List.foldr_cons]
  exact if_pos h

theorem opened_cons_of_not_blank (h : isBlank c = false) :
    opened (c :: cs) = (c :: (opened cs).1, (opened cs).2) := by
  rw [opened, List.foldr_cons]
  exact if_neg (by simp [h])

theorem opened_append_of_not_blank (h : ∀ d ∈ ds, isBlank d = false) :
    opened (ds ++ rest) = (ds ++ (opened rest).1, (opened rest).2) := by
  induction ds with
  | nil => rfl
  | cons d ds ih =>
    obtain ⟨hd, hds⟩ := List.forall_mem_cons.1 h
    rw [List.cons_append, opened_cons_of_not_blank hd, ih hds]
    rfl

/-! ## One way to take a text apart -/

theorem wordsOfChars_cons_of_blank (h : isBlank c = true) : wordsOfChars (c :: cs) = wordsOfChars cs := by
  rw [wordsOfChars_eq, opened_cons_of_blank h]
  rfl

theorem wordsOfChars_append_of_blank (h : ∀ c ∈ gap, isBlank c = true) :
    wordsOfChars (gap ++ rest) = wordsOfChars rest := by
  induction gap with
  | nil => rfl
  | cons c gap ih =>
    obtain ⟨hc, hgap⟩ := List.forall_mem_cons.1 h
    rw [List.cons_append, wordsOfChars_cons_of_blank hc, ih hgap]

/-- In front of a blank, and of the end, no word has been opened. -/
theorem opened_of_head (h : ∀ c ∈ cs.head?, isBlank c = true) : opened cs = ([], wordsOfChars cs) := by
  cases cs with
  | nil => rfl
  | cons c cs =>
    have hc : isBlank c = true := h c rfl
    rw [opened_cons_of_blank hc, wordsOfChars_cons_of_blank hc]

theorem wordsOfChars_append_of_not_blank (hword : ∀ c ∈ word, isBlank c = false) (hne : word ≠ [])
    (hrest : ∀ c ∈ rest.head?, isBlank c = true) : wordsOfChars (word ++ rest) = word :: wordsOfChars rest := by
  rw [wordsOfChars_eq, opened_append_of_not_blank hword, opened_of_head hrest, List.append_nil]
  exact if_neg (by simpa using hne)

theorem Splits.append_of_blank (h : Splits cs ws) (hgap : ∀ c ∈ gap, isBlank c = true) : Splits (gap ++ cs) ws := by
  cases h with
  | done hend => exact .done (List.forall_mem_append.2 ⟨hgap, hend⟩)
  | word hstart hword hne hrest h =>
    rw [← List.append_assoc]
    exact .word (List.forall_mem_append.2 ⟨hgap, hstart⟩) hword hne hrest h

theorem Splits.close (h : Splits rest ws) (hgap : ∀ c ∈ gap, isBlank c = true) (hword : ∀ c ∈ word, isBlank c = false)
    (hrest : ∀ c ∈ rest.head?, isBlank c = true) : Splits (gap ++ (word ++ rest)) (close word ws) := by
  cases word with
  | nil => exact h.append_of_blank hgap
  | cons c word => exact .word hgap hword (by simp) hrest h

/-- Behind the word that a text starts with, it goes on with a blank if it goes on. -/
theorem exists_rest (cs : List Char) : ∃ rest, cs = (opened cs).1 ++ rest ∧ (∀ c ∈ (opened cs).1, isBlank c = false) ∧
    (∀ c ∈ rest.head?, isBlank c = true) ∧ Splits rest (opened cs).2 := by
  induction cs with
  | nil => exact ⟨[], rfl, by simp [opened], by simp, .done (by simp)⟩
  | cons c cs ih =>
    obtain ⟨rest, hcs, hword, hrest, h⟩ := ih
    cases hc : isBlank c with
    | true =>
      rw [opened_cons_of_blank hc]
      refine ⟨c :: cs, rfl, by simp, by simpa using hc, ?_⟩
      have hclosed : Splits ([c] ++ ((opened cs).1 ++ rest)) (wordsOfChars cs) :=
        h.close (by simpa using hc) hword hrest
      rwa [← hcs] at hclosed
    | false =>
      rw [opened_cons_of_not_blank hc]
      exact ⟨rest, congrArg (c :: ·) hcs, List.forall_mem_cons.2 ⟨hc, hword⟩, hrest, h⟩

theorem splits_wordsOfChars (cs : List Char) : Splits cs (wordsOfChars cs) := by
  obtain ⟨rest, hcs, hword, hrest, h⟩ := exists_rest cs
  have hclosed : Splits ([] ++ ((opened cs).1 ++ rest)) (wordsOfChars cs) := h.close (by simp) hword hrest
  rwa [← hcs] at hclosed

/-- The words of a text are those that it consists of. -/
theorem wordsOfChars_eq_iff : wordsOfChars cs = ws ↔ Splits cs ws := by
  constructor
  · rintro rfl
    exact splits_wordsOfChars cs
  · intro h
    induction h with
    | @done gap hgap =>
      rw [← List.append_nil gap, wordsOfChars_append_of_blank hgap]
      rfl
    | word hgap hword hne hrest _ ih =>
      rw [wordsOfChars_append_of_blank hgap, wordsOfChars_append_of_not_blank hword hne hrest, ih]

/-! ## What happens to the words of a text -/

/-- A mapping that keeps blanks and what is none apart maps a text word by word. -/
theorem Splits.flatMap (hne : ∀ c, f c ≠ []) (hblank : ∀ c, ∀ d ∈ f c, isBlank d = isBlank c) (h : Splits cs ws) :
    Splits (cs.flatMap f) (ws.map (·.flatMap f)) := by
  have hkeeps : ∀ {b : Bool} {ds : List Char}, (∀ c ∈ ds, isBlank c = b) → ∀ d ∈ ds.flatMap f, isBlank d = b := by
    intro b ds hds d hd
    obtain ⟨c, hc, hd⟩ := List.mem_flatMap.1 hd
    rw [hblank c d hd, hds c hc]
  induction h with
  | done hgap => exact .done (hkeeps hgap)
  | @word gap word rest ws hgap hword hnonempty hrest _ ih =>
    rw [List.flatMap_append, List.flatMap_append]
    refine .word (hkeeps hgap) (hkeeps hword) ?_ ?_ ih
    · obtain ⟨c, hc⟩ := List.exists_mem_of_ne_nil word hnonempty
      exact fun hempty => hne c (List.flatMap_eq_nil_iff.1 hempty c hc)
    · cases rest with
      | nil => simp
      | cons c rest =>
        intro d hd
        rw [List.flatMap_cons, List.head?_append_of_ne_nil _ (hne c)] at hd
        rw [hblank c d (List.mem_of_head? hd), hrest c rfl]

theorem wordsOfChars_flatMap (hne : ∀ c, f c ≠ []) (hblank : ∀ c, ∀ d ∈ f c, isBlank d = isBlank c)
    (cs : List Char) : wordsOfChars (cs.flatMap f) = (wordsOfChars cs).map (·.flatMap f) :=
  wordsOfChars_eq_iff.2 ((splits_wordsOfChars cs).flatMap hne hblank)

/-- What is not blank is in some word. -/
theorem Splits.exists_mem (h : Splits cs ws) (hc : c ∈ cs) (hblank : isBlank c = false) : ∃ word ∈ ws, c ∈ word := by
  induction h with
  | done hgap =>
    rw [hgap c hc] at hblank
    cases hblank
  | word hgap _ _ _ _ ih =>
    rcases List.mem_append.1 hc with hc | hc
    · rw [hgap c hc] at hblank
      cases hblank
    · rcases List.mem_append.1 hc with hc | hc
      · exact ⟨_, List.mem_cons_self, hc⟩
      · obtain ⟨word, hword, hmem⟩ := ih hc
        exact ⟨word, List.mem_cons_of_mem _ hword, hmem⟩

end PolicyGate.Text
