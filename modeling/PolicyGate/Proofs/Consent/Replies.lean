import PolicyGate.Consent.Mode
import PolicyGate.Proofs.Text.Lowering

/-!
# Which replies express a decision

The phrases are in small letters of ASCII, and there is no `k` in them. So a reply expresses a decision just if its
words, joined by spaces, differ from one of the phrases in ASCII letter case only (`mode?_eq_some_iff`): no character
from elsewhere can stand for a letter of a phrase, not even one that becomes a letter of ASCII in lower case.
-/

namespace PolicyGate.Reply

open Text

variable {raw p p' : String} {m m' : ConsentMode} {c : Char}

/-- The words of a reply, joined by single spaces, are a phrase but for letter case. -/
def Reads (raw p : String) : Prop :=
  ∃ ws, Splits raw.toList ws ∧ EqIgnoringCase (String.intercalate " " (ws.map String.ofList)) p

theorem reads_iff : Reads raw p ↔ EqIgnoringCase (String.intercalate " " (words raw)) p := by
  constructor
  · rintro ⟨ws, hws, heq⟩
    rwa [← wordsOfChars_eq_iff.2 hws] at heq
  · exact fun h => ⟨_, splits_wordsOfChars _, h⟩

theorem phrase_eq (raw : String) : phrase raw = lower (String.intercalate " " (words raw)) := by
  rw [phrase, words_lower, lower_intercalate]

/-! ## The phrases -/

theorem phrase_plain (hp : p ∈ m.phrases) : ∀ d ∈ p.toList, d.toNat < 128 ∧ d ≠ 'k' ∧ d.toLower = d := by
  have hall : m.phrases.all (fun p => p.toList.all fun d => d.toNat < 128 && d != 'k' && d.toLower == d) = true := by
    cases m <;> decide
  simp only [List.all_eq_true, Bool.and_eq_true, decide_eq_true_eq, bne_iff_ne, beq_iff_eq] at hall
  exact fun d hd => ⟨(hall p hp d hd).1.1, (hall p hp d hd).1.2, (hall p hp d hd).2⟩

/-- No phrase is one of two modes. -/
theorem mode_unique (hp : p ∈ m.phrases) (hp' : p ∈ m'.phrases) : m = m' := by
  have hdisjoint : ∀ m m' : ConsentMode, m ≠ m' → ∀ p ∈ m.phrases, p ∉ m'.phrases := by
    intro m m'
    cases m <;> cases m' <;> decide
  by_contra hne
  exact hdisjoint m m' hne p hp hp'

/-- Only one phrase has a space in it. -/
theorem eq_dry_run_of_space (hp : p ∈ m.phrases) (hspace : ' ' ∈ p.toList) : p = "dry run" := by
  revert hspace
  cases m <;> revert p <;> decide

/-- Only that and one with a hyphen have anything but letters in them. -/
theorem eq_dry_of_not_isAlpha (hp : p ∈ m.phrases) (hc : c ∈ p.toList) (halpha : c.isAlpha = false) :
    c = ' ' ∨ c = '-' ∧ p = "dry-run" := by
  have hall : m.phrases.all (fun p => p.toList.all fun c =>
      c.isAlpha || c == ' ' || c == '-' && p == "dry-run") = true := by
    cases m <;> decide
  simp only [List.all_eq_true, Bool.or_eq_true, Bool.and_eq_true, beq_iff_eq] at hall
  rcases hall p hp c hc with (h | h) | h
  · rw [halpha] at h
    cases h
  · exact .inl h
  · exact .inr h

theorem ne_empty_of_mem_phrases (hp : p ∈ m.phrases) : p ≠ "" := by
  cases m <;> revert p <;> decide

/-! ## What a reply expresses -/

theorem phrase_eq_iff_reads (hp : p ∈ m.phrases) : phrase raw = p ↔ Reads raw p := by
  rw [phrase_eq, reads_iff]
  exact lower_eq_iff (phrase_plain hp)

/-- The mode that is looked for is the one with the phrase. -/
theorem find?_eq_some_iff {said : String} :
    [ConsentMode.execute, .simulate, .deny].find? (fun mode => mode.phrases.contains said) = some m ↔
      said ∈ m.phrases := by
  constructor
  · intro h
    simpa using List.find?_some h
  · intro h
    have hlisted : m ∈ [ConsentMode.execute, .simulate, .deny] := by
      cases m with
      | undecided => cases h
      | _ => decide
    cases hfind : List.find? (fun mode : ConsentMode => mode.phrases.contains said) [.execute, .simulate, .deny] with
    | none => exact absurd (by simpa using h) (List.find?_eq_none.1 hfind m hlisted)
    | some m' => rw [mode_unique h (by simpa using List.find?_some hfind)]

theorem mode?_eq_some_iff : mode? (some raw) = some m ↔ ∃ p ∈ m.phrases, Reads raw p := by
  rw [mode?, Option.getD_some, find?_eq_some_iff]
  constructor
  · exact fun h => ⟨_, h, (phrase_eq_iff_reads h).1 rfl⟩
  · rintro ⟨p, hp, hreads⟩
    rwa [(phrase_eq_iff_reads hp).2 hreads]

theorem mode_unique_of_reads (hp : p ∈ m.phrases) (hp' : p' ∈ m'.phrases) (h : Reads raw p) (h' : Reads raw p') :
    m = m' := by
  have heq : p = p' := ((phrase_eq_iff_reads hp).2 h).symm.trans ((phrase_eq_iff_reads hp').2 h')
  subst heq
  exact mode_unique hp hp'

/-! ## What no reply can have besides -/

theorem toLower_mem_of_reads (h : Reads raw p) (hp : p ∈ m.phrases)
    (hc : c ∈ (String.intercalate " " (words raw)).toList) : c.toLower ∈ p.toList := by
  have hlower : c.toLower ∈ p.toLower.toList := by
    rw [← reads_iff.1 h, toList_toLower]
    exact List.mem_map_of_mem hc
  rw [toList_toLower] at hlower
  obtain ⟨d, hd, heq⟩ := List.mem_map.1 hlower
  rw [← heq, (phrase_plain hp d hd).2.2]
  exact hd

theorem mem_intercalate_of_mem {sep word : List Char} {ws : List (List Char)} (hword : word ∈ ws)
    (hc : c ∈ word) : c ∈ sep.intercalate ws := by
  induction ws with
  | nil => cases hword
  | cons first rest ih =>
    cases rest with
    | nil =>
      obtain rfl := List.mem_singleton.1 hword
      simpa using hc
    | cons next rest =>
      rw [List.intercalate_cons_cons, List.mem_append]
      rcases List.mem_cons.1 hword with rfl | hword
      · exact .inl (List.mem_append_left _ hc)
      · exact .inr (ih hword)

/-- Whatever a reply has besides letters and blanks is in the phrase that it is read as. -/
theorem mem_of_reads (h : Reads raw p) (hp : p ∈ m.phrases) (hc : c ∈ raw.toList) (hblank : isBlank c = false)
    (halpha : c.isAlpha = false) : c ∈ p.toList := by
  obtain ⟨word, hword, hmem⟩ := (splits_wordsOfChars _).exists_mem hc hblank
  have hlisted : word ∈ (words raw).map String.toList := by
    rw [words, List.map_map]
    exact List.mem_map.2 ⟨word, hword, String.toList_ofList⟩
  rw [← toLower_of_not_isAlpha halpha]
  refine toLower_mem_of_reads h hp ?_
  rw [String.toList_intercalate]
  exact mem_intercalate_of_mem hlisted hmem

/-- A reply with more than one word is read as the phrase with a space. -/
theorem length_words_of_reads (h : Reads raw p) (hp : p ∈ m.phrases) : (words raw).length = 1 ∨ p = "dry run" := by
  cases hwords : words raw with
  | nil =>
    rw [reads_iff, hwords, EqIgnoringCase, ← String.toList_inj, toList_toLower, toList_toLower] at h
    have hempty : p.toList = [] := List.map_eq_nil_iff.1 h.symm
    exact absurd (String.toList_inj.1 hempty) (ne_empty_of_mem_phrases hp)
  | cons word rest =>
    cases rest with
    | nil => exact .inl rfl
    | cons next rest =>
      refine .inr (eq_dry_run_of_space hp ?_)
      have hspace : ' ' ∈ (String.intercalate " " (words raw)).toList := by
        rw [hwords, String.toList_intercalate, List.map_cons, List.map_cons, List.intercalate_cons_cons]
        simp
      exact toLower_mem_of_reads h hp hspace

/-- A reply expresses a decision if its words are those of one of the phrases, but for ASCII letter case. So nothing in
it is from outside of ASCII but blanks, all else is letters but for the hyphen of `dry-run`, and it is a single word but
for `dry run`. It can be read as phrases of one decision only. -/
theorem mode?_reads :
    (∀ raw m, mode? (some raw) = some m ↔ ∃ p ∈ m.phrases, Reads raw p) ∧
      (∀ raw c, c ∈ raw.toList → isBlank c = false → 128 ≤ c.toNat → mode? (some raw) = none) ∧
      (∀ raw m c, mode? (some raw) = some m → c ∈ raw.toList → isBlank c = false → c.isAlpha = false →
        c = '-' ∧ Reads raw "dry-run") ∧
      (∀ raw m ws, mode? (some raw) = some m → Splits raw.toList ws → ws.length = 1 ∨ Reads raw "dry run") ∧
      ∀ (raw : String) (m m' : ConsentMode) (p p' : String), p ∈ m.phrases → p' ∈ m'.phrases →
        Reads raw p → Reads raw p' → m = m' := by
  refine ⟨fun raw m => mode?_eq_some_iff, fun raw c hc hblank hle => ?_, fun raw m c hmode hc hblank halpha => ?_,
    fun raw m ws hmode hws => ?_, fun raw m m' p p' => mode_unique_of_reads⟩
  · rw [Option.eq_none_iff_forall_ne_some]
    intro m hmode
    obtain ⟨p, hp, hreads⟩ := mode?_eq_some_iff.1 hmode
    have hmem := mem_of_reads hreads hp hc hblank (not_isAlpha_of_le hle)
    have hlt := (phrase_plain hp c hmem).1
    omega
  · obtain ⟨p, hp, hreads⟩ := mode?_eq_some_iff.1 hmode
    rcases eq_dry_of_not_isAlpha hp (mem_of_reads hreads hp hc hblank halpha) halpha with rfl | ⟨rfl, rfl⟩
    · exact absurd hblank (by decide)
    · exact ⟨rfl, hreads⟩
  · obtain ⟨p, hp, hreads⟩ := mode?_eq_some_iff.1 hmode
    rcases length_words_of_reads hreads hp with hone | rfl
    · rw [words, wordsOfChars_eq_iff.2 hws, List.length_map] at hone
      exact .inl hone
    · exact .inr hreads

/-- Letter case and blanks are of no account. -/
theorem mode?_dry_run : mode? (some "\u2003Dry\t RUN\n") = some .simulate := by
  have hwords : words "\u2003Dry\t RUN\n" = ["Dry", "RUN"] := by decide
  have hreads : Reads "\u2003Dry\t RUN\n" "dry run" := by
    rw [reads_iff, hwords, EqIgnoringCase, ← String.toList_inj, toList_toLower, toList_toLower,
      String.toList_intercalate]
    decide
  exact (mode?_reads.1 _ _).2 ⟨"dry run", by decide, hreads⟩

example : mode? (some "ye\u017f") = none := by rfl

end PolicyGate.Reply
