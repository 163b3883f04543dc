import Mathlib.Data.List.TakeWhile
import PolicyGate.Policy.FieldPath
import PolicyGate.Proofs.Document.Record

/-!
# Where a path leads

A path leads from a value to a part of it, one segment after the other (`FieldPath.Leads`). In a mapping a segment is a
key, whatever it looks like; in a list it is the index that its digits write; from anything else no segment leads
anywhere. So it does not matter how a path is cut in two: the second part leads on from where the first one has led, and
if that is nowhere, or cannot be told, the whole path has no other answer (`FieldPath.resolve_composes`).
-/

namespace PolicyGate

namespace Text

variable {separator : Char} {cs : List Char}

/-! ## Cutting what has been joined -/

/-- A separator between two texts is between their parts. -/
theorem splitChars_append (cs ds : List Char) :
    splitChars separator (cs ++ separator :: ds) = splitChars separator cs ++ splitChars separator ds := by
  induction cs with
  | nil => simp [splitChars]
  | cons c cs ih =>
    rw [List.cons_append, splitChars, splitChars]
    by_cases hc : c = separator
    · rw [if_pos hc, if_pos hc, ih, List.cons_append]
    · rw [if_neg hc, if_neg hc, ih]
      cases hparts : splitChars separator cs with
      | nil => exact absurd hparts (splitChars_ne_nil separator cs)
      | cons part parts => rfl

/-- A text without a separator is the only part of itself. -/
theorem splitChars_of_not_mem (h : separator ∉ cs) : splitChars separator cs = [cs] := by
  induction cs with
  | nil => rfl
  | cons c cs ih =>
    obtain ⟨hc, hcs⟩ := List.ne_and_not_mem_of_not_mem_cons h
    rw [splitChars, if_neg hc.symm, ih hcs]

theorem splitAt_append (s t : String) :
    splitAt separator (s ++ String.singleton separator ++ t) = splitAt separator s ++ splitAt separator t := by
  have hchars : (s ++ String.singleton separator ++ t).toList = s.toList ++ separator :: t.toList := by
    simp
  rw [splitAt, hchars, splitChars_append, List.map_append]
  rfl

theorem splitAt_of_not_mem {s : String} (h : separator ∉ s.toList) : splitAt separator s = [s] := by
  rw [splitAt, splitChars_of_not_mem h, List.map_cons, List.map_nil, String.ofList_toList]

/-! ## Numbers of decimal digits -/

/-- What stands for a number consists of decimal digits. -/
theorem all_of_decimalNumber? {n : Nat} (h : decimalNumber? cs = some n) : ∀ c ∈ cs, isDecimalDigit c = true := by
  have hfold : ∀ acc, cs.foldl (fun acc c => acc.bind fun n => (decimalValue? c).map (10 * n + ·)) acc = some n →
      acc.isSome = true ∧ ∀ c ∈ cs, isDecimalDigit c = true := by
    clear h
    induction cs with
    | nil =>
      rintro acc rfl
      exact ⟨rfl, by simp⟩
    | cons c cs ih =>
      intro acc h
      obtain ⟨hsome, hcs⟩ := ih _ h
      obtain ⟨m, hm⟩ := Option.isSome_iff_exists.1 hsome
      obtain ⟨k, hk, hc⟩ := Option.bind_eq_some_iff.1 hm
      obtain ⟨d, hd, -⟩ := Option.map_eq_some_iff.1 hc
      refine ⟨by rw [hk]; rfl, List.forall_mem_cons.2 ⟨?_, hcs⟩⟩
      rw [isDecimalDigit, hd]
      rfl
  exact (hfold _ h).2

end Text

namespace FieldPath

open Attempt Value

variable {args u v w : Value} {entries : List (Value × Value)} {items : List Value} {name p q segment : String}
  {ss ts : List String} {i : Nat} {e : IndexError}

/-! ## What one segment selects -/

/-- The segment writes the index: in decimal digits of any script, of which there are not too many. -/
structure Writes (segment : String) (i : Nat) : Prop where
  ne_empty : segment ≠ ""
  length_le : segment.toList.length ≤ digitLimit
  number : Text.decimalNumber? segment.toList = some i

/-- The segment consists of what counts as digits, but it has too many of them to be read, or some that have no place in
a decimal number. -/
def Puzzles (segment : String) (e : IndexError) : Prop := isIndex segment = true ∧ index segment = .error e

/-- A segment selects a part of a value: of a mapping, what stands under the segment itself, taken as a text; of a list,
the element at the index that the segment writes. -/
inductive Selects : Value → String → Value → Prop where
  | key {before after : List (Value × Value)} {name : String} {v : Value} (hfirst : .str name ∉ before.map (·.1)) :
      Selects (.map (before ++ (.str name, v) :: after)) name v
  | index {items : List Value} {segment : String} {i : Nat} {v : Value} (hwrites : Writes segment i)
      (hitem : items[i]? = some v) : Selects (.list items) segment v

theorem isDigitLike_of_decimal {c : Char} (h : Text.isDecimalDigit c = true) : Text.isDigitLike c = true := by
  rw [Text.isDigitLike, h, Bool.true_or]

/-- A segment writes an index if it looks like one and can be read. -/
theorem writes_iff : Writes segment i ↔ isIndex segment = true ∧ index segment = .ok i := by
  constructor
  · rintro ⟨hne, hlength, hnumber⟩
    have hdigits := Text.all_of_decimalNumber? hnumber
    have htake : segment.toList.takeWhile Text.isDecimalDigit = segment.toList := List.takeWhile_eq_self_iff.2 hdigits
    constructor
    · rw [isIndex, Bool.and_eq_true, List.all_eq_true]
      exact ⟨by simpa [String.isEmpty_iff] using hne, fun c hc => isDigitLike_of_decimal (hdigits c hc)⟩
    · rw [index, htake, if_neg (Nat.not_lt.2 hlength), hnumber]
  · rintro ⟨hdigits, hindex⟩
    rw [index] at hindex
    split at hindex
    · cases hindex
    · rename_i hlength
      split at hindex
      · rename_i n hnumber
        obtain rfl := Except.ok.inj hindex
        have htake := List.takeWhile_eq_self_iff.2 (Text.all_of_decimalNumber? hnumber)
        rw [htake] at hlength
        refine ⟨?_, Nat.not_lt.1 hlength, hnumber⟩
        rintro rfl
        cases hdigits
      · cases hindex

/-- Under a name is what stands behind the first key that is this name. -/
theorem field?_eq_some_iff_first : field? entries name = some v ↔
    ∃ before after, entries = before ++ (.str name, v) :: after ∧ .str name ∉ before.map (·.1) := by
  constructor
  · intro h
    induction entries with
    | nil => cases h
    | cons first rest ih =>
      obtain ⟨k, x⟩ := first
      rw [field?_cons] at h
      by_cases hk : k = .str name
      · rw [if_pos (same_str_iff.2 hk)] at h
        obtain rfl := Option.some.inj h
        exact ⟨[], rest, by rw [hk]; rfl, by simp⟩
      · rw [if_neg (mt same_str_iff.1 hk)] at h
        obtain ⟨before, after, rfl, hfirst⟩ := ih h
        exact ⟨(k, x) :: before, after, rfl, by simpa [Ne.symm hk] using hfirst⟩
  · rintro ⟨before, after, rfl, hfirst⟩
    induction before with
    | nil => rw [List.nil_append, field?_str_cons, if_pos rfl]
    | cons first before ih =>
      obtain ⟨k, x⟩ := first
      rw [List.map_cons, List.mem_cons, not_or] at hfirst
      have hother : ¬ same k (.str name) = true := fun hk => hfirst.1 (same_str_iff.1 hk).symm
      rw [List.cons_append, field?_cons, if_neg hother, ih hfirst.2]

/-- The step along a segment is to what it selects. -/
theorem step_eq_some_iff : step v segment = .ok (some w) ↔ Selects v segment w := by
  cases v with
  | map entries =>
    rw [step, Except.ok.injEq, field?_eq_some_iff_first]
    constructor
    · rintro ⟨before, after, rfl, hfirst⟩
      exact .key hfirst
    · rintro ⟨hfirst⟩
      exact ⟨_, _, rfl, hfirst⟩
  | list items =>
    rw [step]
    -- in a list only what looks like an index can be selected
    by_cases hdigits : isIndex segment = true
    · rw [if_pos hdigits]
      show (index segment).map _ = _ ↔ _
      rw [map_eq_ok]
      constructor
      · rintro ⟨i, hi, hitem⟩
        exact .index (writes_iff.2 ⟨hdigits, hi⟩) hitem
      · rintro (_ | ⟨hwrites, hitem⟩)
        exact ⟨_, (writes_iff.1 hwrites).2, hitem⟩
    · rw [if_neg hdigits]
      refine iff_of_false (by simp) ?_
      rintro (_ | ⟨hwrites, -⟩)
      exact hdigits (writes_iff.1 hwrites).1
  | _ => exact iff_of_false (by simp [step]) nofun

/-- A step goes wrong only in a list. -/
theorem step_eq_error_iff : step v segment = .error e ↔ (∃ items, v = .list items) ∧ Puzzles segment e := by
  cases v with
  | list items =>
    rw [step]
    by_cases hdigits : isIndex segment = true
    · rw [if_pos hdigits]
      show (index segment).map _ = _ ↔ _
      rw [map_eq_error]
      exact ⟨fun h => ⟨⟨items, rfl⟩, hdigits, h⟩, fun h => h.2.2⟩
    · rw [if_neg hdigits]
      exact iff_of_false (by simp) fun h => hdigits h.2.1
  | _ => simp [step]

/-! ## Where several segments lead -/

/-- The segments lead from a value to a part of it, each on from where those before it have led. -/
inductive Leads : Value → List String → Value → Prop where
  | here {v : Value} : Leads v [] v
  | further {u v w : Value} {segment : String} {rest : List String} (h : Selects u segment v) (hrest : Leads v rest w) :
      Leads u (segment :: rest) w

theorem leads_cons_iff : Leads u (segment :: ss) w ↔ ∃ v, Selects u segment v ∧ Leads v ss w := by
  constructor
  · rintro (_ | ⟨h, hrest⟩)
    exact ⟨_, h, hrest⟩
  · rintro ⟨v, h, hrest⟩
    exact .further h hrest

theorem walk_eq_some_iff : walk u ss = .ok (some w) ↔ Leads u ss w := by
  induction ss generalizing u with
  | nil =>
    rw [walk, Except.ok.injEq, Option.some.injEq]
    constructor
    · rintro rfl
      exact .here
    · rintro ⟨⟩
      rfl
  | cons segment rest ih =>
    rw [walk, leads_cons_iff]
    cases hstep : step u segment with
    | error e => simp [← step_eq_some_iff, hstep]
    | ok found =>
      cases found with
      | none => simp [← step_eq_some_iff, hstep]
      | some v => simp [← step_eq_some_iff, hstep, ih]

/-- Segments go wrong at the first one that asks a list for something that is no index. -/
theorem walk_eq_error_iff : walk u ss = .error e ↔
    ∃ before segment after items, ss = before ++ segment :: after ∧ Leads u before (.list items) ∧
      Puzzles segment e := by
  induction ss generalizing u with
  | nil => simp [walk]
  | cons segment rest ih =>
    rw [walk]
    constructor
    · -- the segment at which the walk ends is the first one, or it stands behind a step that can be made
      cases hstep : step u segment with
      | error e' =>
        intro h
        obtain rfl := Except.error.inj h
        obtain ⟨⟨items, rfl⟩, hpuzzles⟩ := step_eq_error_iff.1 hstep
        exact ⟨[], segment, rest, items, rfl, .here, hpuzzles⟩
      | ok found =>
        cases found with
        | none => simp
        | some v =>
          intro h
          obtain ⟨before, other, after, items, rfl, hleads, hpuzzles⟩ := ih.1 h
          exact ⟨segment :: before, other, after, items, rfl, .further (step_eq_some_iff.1 hstep) hleads, hpuzzles⟩
    · rintro ⟨before, other, after, items, hss, hleads, hpuzzles⟩
      cases hleads with
      | here =>
        obtain ⟨rfl, -⟩ := List.cons.inj hss
        rw [step_eq_error_iff.2 ⟨⟨items, rfl⟩, hpuzzles⟩]
      | @further _ v _ _ before hselects hrest =>
        obtain ⟨rfl, htail⟩ := List.cons.inj hss
        rw [step_eq_some_iff.2 hselects]
        exact ih.2 ⟨before, other, after, items, htail, hrest, hpuzzles⟩

/-! ## Paths -/

/-- On from where a path has led, along another one. -/
def onwards (led : Except IndexError (Option Value)) (path : String) : Except IndexError (Option Value) := do
  match ← led with
  | none => return none
  | some v => resolve v path

theorem resolve_of_ne_empty (h : p ≠ "") : resolve args p = walk args (segments p) :=
  if_neg (by simpa [String.isEmpty_iff] using h)

theorem segments_append (p q : String) : segments (p ++ "." ++ q) = segments p ++ segments q :=
  Text.splitAt_append p q

/-- Segments that have been joined to a path are its segments. -/
theorem segments_intercalate (hss : ss ≠ []) (hplain : ∀ s ∈ ss, '.' ∉ s.toList) :
    segments (String.intercalate "." ss) = ss := by
  induction ss with
  | nil => exact absurd rfl hss
  | cons s rest ih =>
    obtain ⟨hs, hrest⟩ := List.forall_mem_cons.1 hplain
    cases rest with
    | nil => exact Text.splitAt_of_not_mem hs
    | cons next rest =>
      have hjoined : String.intercalate "." (s :: next :: rest) =
          s ++ "." ++ String.intercalate "." (next :: rest) := by
        rw [← String.toList_inj]
        simp [String.toList_intercalate]
      rw [hjoined, segments_append, ih (by simp) hrest, segments, Text.splitAt_of_not_mem hs]
      rfl

theorem intercalate_ne_empty (hss : ss ≠ []) (hempty : ss ≠ [""]) (hplain : ∀ s ∈ ss, '.' ∉ s.toList) :
    String.intercalate "." ss ≠ "" := by
  intro h
  have hsegments := segments_intercalate hss hplain
  rw [h] at hsegments
  exact hempty hsegments.symm

/-- A path that is cut in two leads where its second part leads from where its first part has led. So what it leads to
is decided by its segments alone: each selects a part of what the ones before it have led to, and the path cannot be
followed if one of them asks a list for something that is no index. -/
theorem resolve_composes (args : Value) :
    (∀ p q, p ≠ "" → q ≠ "" → resolve args (p ++ "." ++ q) = onwards (resolve args p) q) ∧
    ∀ ss, ss ≠ [] → ss ≠ [""] → (∀ s ∈ ss, '.' ∉ s.toList) →
      (∀ w, resolve args (String.intercalate "." ss) = .ok (some w) ↔ Leads args ss w) ∧
      ∀ e, resolve args (String.intercalate "." ss) = .error e ↔
        ∃ before segment after items, ss = before ++ segment :: after ∧ Leads args before (.list items) ∧
          Puzzles segment e := by
  constructor
  · intro p q hp hq
    have hwhole : p ++ "." ++ q ≠ "" := by simp [String.append_eq_empty_iff, hq]
    rw [resolve_of_ne_empty hwhole, segments_append, walk_append, resolve_of_ne_empty hp]
    cases walk args (segments p) with
    | error e => rfl
    | ok found =>
      cases found with
      | none => rfl
      | some v => exact (resolve_of_ne_empty hq).symm
  · intro ss hss hempty hplain
    have hwalk : resolve args (String.intercalate "." ss) = walk args ss := by
      rw [resolve_of_ne_empty (intercalate_ne_empty hss hempty hplain), segments_intercalate hss hplain]
    rw [hwalk]
    exact ⟨fun w => walk_eq_some_iff, fun e => walk_eq_error_iff⟩

/-! ### An index and a key that look the same -/

/-- The sizes of a tier under their numbers. -/
def sizes : Value := .record [("0", .str "P1"), ("1", .str "P2")]

/-- A list of one tier. -/
def tiers : Value := .record [("tiers", .list [sizes])]

/-- The first number is an index and the second one a key, also if the path is cut between them. Something that looks
like a number and is none puzzles the list. -/
theorem tiers_composes :
    "tiers.0" ≠ "" ∧ "1" ≠ "" ∧ resolve tiers "tiers.0" = .ok (some sizes) ∧
      resolve tiers "tiers.0.1" = onwards (resolve tiers "tiers.0") "1" ∧
      Leads tiers ["tiers", "0", "1"] (.str "P2") ∧ resolve tiers "tiers.0²" = .error (.notDecimal "0²") := by
  have htier : Selects tiers "tiers" (.list [sizes]) :=
    step_eq_some_iff.1 (by simp [tiers, Value.record, step, field?_str_cons])
  have hwrites : Writes "0" 0 := ⟨by decide, by decide, by decide +kernel⟩
  have hsizes : Selects (.list [sizes]) "0" sizes := .index hwrites rfl
  have hsize : Selects sizes "1" (.str "P2") :=
    step_eq_some_iff.1 (by simp [sizes, Value.record, step, field?_str_cons])
  have hplain : (∀ s ∈ ["tiers", "0"], '.' ∉ s.toList) ∧ ∀ s ∈ ["tiers", "0²"], '.' ∉ s.toList := by decide
  obtain ⟨hcut, hsegments⟩ := resolve_composes tiers
  refine ⟨by decide, by decide, ?_, hcut "tiers.0" "1" (by decide) (by decide), ?_, ?_⟩
  · exact ((hsegments _ (by decide) (by decide) hplain.1).1 _).2 (.further htier (.further hsizes .here))
  · exact .further htier (.further hsizes (.further hsize .here))
  · exact ((hsegments _ (by decide) (by decide) hplain.2).2 _).2
      ⟨["tiers"], "0²", [], [sizes], rfl, .further htier .here, by decide, by decide +kernel⟩

end FieldPath
end PolicyGate
