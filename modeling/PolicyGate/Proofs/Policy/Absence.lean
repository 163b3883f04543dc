import PolicyGate.Proofs.Document.Bags
import PolicyGate.Proofs.Json.Writing
import PolicyGate.Proofs.Policy.Fallbacks
import PolicyGate.Proofs.Policy.Rereading

/-!
# Checks of what is not there

A check whose paths all lead nowhere finds fault with that, whatever it tests, and says so (`Check.absent_violates`).
There is one check that does not: one that asks for a mapping with certain keys and names none.

A check that would have to name a whole number that is too long to be written cannot say what is wrong. Then it gives
no answer, which is not taken for the answer that nothing is wrong (`Check.absent_not_always_violates`).
-/

namespace PolicyGate

open Attempt Value

/-! ## What can be said of plain values -/

namespace Json

variable {depth : Nat} {v : Value} {items : List Value} {entries : List (Value × Value)} {e : Failure}

theorem number_eq_error {n : Int} (h : number n = .error e) : e = .tooManyDigits ∧ (Value.int n).Holds IsLong := by
  unfold number at h
  split at h
  · cases h
  · rename_i hnone
    cases h
    exact ⟨rfl, literal?_eq_none_iff (.int n) |>.1 hnone⟩

/-- On one line, the entries of a mapping are written in their order. -/
theorem value_map_line : value .line depth (.map entries) = (do
    let written ← members .line (depth + 1) entries
    let texts ← written.mapM fun (k, text) => do
      let name ← key k
      return string name ++ ": " ++ text
    return Layout.line.enclose depth "\x7b" "\x7d" texts) := by
  rw [value]
  rfl

mutual

/-- A plain value that cannot be written on one line holds a whole number that is too long. -/
theorem value_eq_error : (v : Value) → v.IsJson →
    ∀ {depth : Nat}, value .line depth v = .error e → e = .tooManyDigits ∧ v.Holds IsLong
  | .int n, _ => by
    intro h
    rw [value] at h
    exact number_eq_error h
  | .list items, hjson => by
    intro h
    rw [value] at h
    rcases bind_eq_error.1 h with h | ⟨_, -, h⟩
    · obtain ⟨he, v, hv, hlong⟩ := values_eq_error items (isJson_list_iff.1 hjson) h
      exact ⟨he, .item hv hlong⟩
    · cases h
  | .map entries, hjson => by
    intro h
    rw [value_map_line] at h
    rcases bind_eq_error.1 h with h | ⟨written, hwritten, h⟩
    · obtain ⟨he, ⟨k, v⟩, hv, hlong⟩ := members_eq_error entries (fun e he => hjson.value he) h
      exact ⟨he, .value hv hlong⟩
    · -- the keys are texts, so all of them can be written
      rcases bind_eq_error.1 h with h | ⟨_, -, h⟩
      · obtain ⟨⟨k, text⟩, hmem, h⟩ := mapM_eq_error h
        have hk : k ∈ entries.map (·.1) := (not_holds_long_of_members entries hwritten).1 ▸ List.mem_map_of_mem hmem
        obtain ⟨w, hw, hkey⟩ := List.mem_map.1 hk
        obtain ⟨name, hname⟩ := hjson.keys w hw
        obtain rfl : k = .str name := hkey.symm.trans hname
        cases h
      · cases h
  | .day _, hjson | .moment _, hjson | .bytes _, hjson | .set _, hjson => absurd (.here trivial) hjson
  | .null, _ | .bool _, _ | .float _, _ | .str _, _ => by
    intro h
    cases h

theorem values_eq_error : (vs : List Value) → (∀ v ∈ vs, v.IsJson) →
    ∀ {depth : Nat}, values .line depth vs = .error e → e = .tooManyDigits ∧ ∃ v ∈ vs, v.Holds IsLong
  | [], _ => by
    intro h
    cases h
  | v :: rest, hjson => by
    intro h
    obtain ⟨hv, hrest⟩ := List.forall_mem_cons.1 hjson
    rw [List.exists_mem_cons_iff]
    rcases bind_eq_error.1 h with h | ⟨_, -, h⟩
    · exact (value_eq_error v hv h).imp_right .inl
    · rcases bind_eq_error.1 h with h | ⟨_, -, h⟩
      · exact (values_eq_error rest hrest h).imp_right .inr
      · cases h

theorem members_eq_error : (entries : List (Value × Value)) → (∀ e ∈ entries, e.2.IsJson) →
    ∀ {depth : Nat}, members .line depth entries = .error e → e = .tooManyDigits ∧ ∃ e ∈ entries, e.2.Holds IsLong
  | [], _ => by
    intro h
    cases h
  | (k, v) :: rest, hjson => by
    intro h
    obtain ⟨hv, hrest⟩ := List.forall_mem_cons.1 hjson
    rw [List.exists_mem_cons_iff]
    rcases bind_eq_error.1 h with h | ⟨_, -, h⟩
    · exact (value_eq_error v hv h).imp_right .inl
    · rcases bind_eq_error.1 h with h | ⟨_, -, h⟩
      · exact (members_eq_error rest hrest h).imp_right .inr
      · cases h

end

end Json

namespace Test

variable {test : Test} {v e : Value} {allowed : List Value} {path : String} {found : Option Value}

theorem comparisonText_of_long (h : v.Holds IsLong) : comparisonText v = .error .tooManyDigits := by
  have hnone := text?_eq_none_iff.2 h
  unfold comparisonText
  split
  · cases hnone
  · cases hnone
  · rw [hnone]

theorem exists_comparisonText (h : ¬ v.Holds IsLong) : ∃ text, comparisonText v = .ok text := by
  obtain ⟨text, htext⟩ := Option.ne_none_iff_exists'.1 fun hnone => h (text?_eq_none_iff.1 hnone)
  unfold comparisonText
  split
  · exact ⟨_, rfl⟩
  · exact ⟨_, rfl⟩
  · rw [htext]
    exact ⟨text, rfl⟩

/-- The allowed values are written before anything is compared with them. -/
theorem comparisonTexts_of_long (hv : v ∈ allowed) (h : v.Holds IsLong) :
    allowed.mapM comparisonText = .error .tooManyDigits := by
  rcases exists_ok_or_error (allowed.mapM comparisonText) with hok | ⟨e, he⟩
  · obtain ⟨text, htext⟩ := exists_mapM_ok.1 hok v hv
    rw [comparisonText_of_long h] at htext
    cases htext
  · obtain ⟨w, -, hw⟩ := mapM_eq_error he
    by_cases hlong : w.Holds IsLong
    · rw [comparisonText_of_long hlong] at hw
      obtain rfl := Except.error.inj hw
      exact he
    · obtain ⟨text, htext⟩ := exists_comparisonText hlong
      rw [htext] at hw
      cases hw

theorem expectedText_of_long (hjson : e.IsJson) (h : e.Holds IsLong) : expectedText e = .error .tooManyDigits := by
  unfold expectedText
  cases htext : Json.write .line e with
  | ok text => exact absurd h (Json.not_holds_long_of_write htext)
  | error failure =>
    obtain ⟨rfl, -⟩ := Json.value_eq_error e hjson htext
    rfl

theorem exists_expectedText (hjson : e.IsJson) (h : ¬ e.Holds IsLong) : ∃ text, expectedText e = .ok text := by
  unfold expectedText
  cases htext : Json.write .line e with
  | ok text => exact ⟨text, rfl⟩
  | error failure => exact absurd (Json.value_eq_error e hjson htext).2 h

/-- A test either has allowed values or an expected one. -/
theorem allowed?_of_expected? (h : test.expected? = some e) : test.allowed? = none := by
  cases test with
  | among allowed ignoreCase normalizer => cases h
  | _ => rfl

/-! ## Tests of nothing -/

/-- Only a test for keys that names none is passed by nothing. -/
theorem passes_none (hkeys : test ≠ .withKeys [])
    (hallowed : ∀ allowed, test.allowed? = some allowed → ∀ v ∈ allowed, ¬ v.Holds IsLong) :
    test.passes none = .ok false := by
  cases test with
  | among allowed ignoreCase normalizer =>
    obtain ⟨texts, htexts⟩ := exists_mapM_ok.2 fun v hv => exists_comparisonText (hallowed allowed rfl v hv)
    rw [passes, htexts]
    rfl
  | withKeys keys =>
    cases keys with
    | nil => exact absurd rfl hkeys
    | cons key rest => rfl
  | _ => rfl

theorem passes_none_of_long (hallowed : test.allowed? = some allowed) (hv : v ∈ allowed) (h : v.Holds IsLong) :
    test.passes none = .error .tooManyDigits := by
  cases test with
  | among values ignoreCase normalizer =>
    obtain rfl := Option.some.inj hallowed
    rw [passes, comparisonTexts_of_long hv h]
    rfl
  | _ => cases hallowed

theorem ne_empty_of_starts {start rest : String} (h : start ≠ "") : start ++ rest ≠ "" := by
  rw [Ne, String.append_eq_empty_iff]
  exact fun hboth => h hboth.1

/-- Whatever a test has to say is not empty. -/
theorem exists_complaint (path : String) (found : Option Value)
    (hallowed : ∀ allowed, test.allowed? = some allowed → ∀ v ∈ allowed, ¬ v.Holds IsLong)
    (hexpected : ∀ e, test.expected? = some e → e.IsJson ∧ ¬ e.Holds IsLong) :
    ∃ text, test.complaint path found = .ok text ∧ text ≠ "" := by
  -- a complaint has more to it than what stands in it
  have hfield : ∀ rest : String, "Field '" ++ path ++ "' " ++ rest ≠ "" := fun rest =>
    ne_empty_of_starts (ne_empty_of_starts (ne_empty_of_starts (by decide)))
  cases test with
  | among allowed ignoreCase normalizer =>
    obtain ⟨texts, htexts⟩ := exists_mapM_ok.2 fun v hv => exists_comparisonText (hallowed allowed rfl v hv)
    have hsays : (among allowed ignoreCase normalizer).complaint path found =
        .ok ("Field '" ++ path ++ "' " ++ "must be one of: " ++ String.intercalate ", " texts) := by
      rw [complaint, htexts]
      rfl
    exact ⟨_, hsays, ne_empty_of_starts (hfield _)⟩
  | equalTo e =>
    obtain ⟨hjson, hlong⟩ := hexpected e rfl
    obtain ⟨text, htext⟩ := exists_expectedText hjson hlong
    have hsays : (equalTo e).complaint path found = .ok ("Field '" ++ path ++ "' " ++ "must equal " ++ text) := by
      rw [complaint, htext]
      rfl
    exact ⟨_, hsays, ne_empty_of_starts (hfield _)⟩
  | notEqualTo e =>
    obtain ⟨hjson, hlong⟩ := hexpected e rfl
    obtain ⟨text, htext⟩ := exists_expectedText hjson hlong
    have hsays : (notEqualTo e).complaint path found =
        .ok ("Field '" ++ path ++ "' " ++ "must not equal " ++ text) := by
      rw [complaint, htext]
      rfl
    exact ⟨_, hsays, ne_empty_of_starts (hfield _)⟩
  | matching pattern ignoreCase => exact ⟨_, rfl, ne_empty_of_starts (hfield _)⟩
  | withKeys keys => exact ⟨_, rfl, ne_empty_of_starts (by decide)⟩
  | withoutBlanks => exact ⟨_, rfl, hfield _⟩
  | isTrue => exact ⟨_, rfl, hfield _⟩
  | present => exact ⟨_, rfl, hfield _⟩

theorem complaint_of_long (path : String) (found : Option Value) (hexpected : test.expected? = some e)
    (hjson : e.IsJson) (h : e.Holds IsLong) : test.complaint path found = .error .tooManyDigits := by
  cases test with
  | equalTo expected | notEqualTo expected =>
    obtain rfl := Option.some.inj hexpected
    rw [complaint, expectedText_of_long hjson h]
    rfl
  | _ => cases hexpected

end Test

namespace Check

open Test

variable {check : Check} {args : Value}

/-- The check would have to name a whole number that is too long: among the values that it allows, which are written in
any case, or in the one that it expects, which is written when the check has no words of its own. -/
def IsSpeechless (check : Check) : Prop :=
  (∃ allowed, check.test.allowed? = some allowed ∧ ∃ v ∈ allowed, v.Holds IsLong) ∨
    given check.message = none ∧ ∃ e, check.test.expected? = some e ∧ e.Holds IsLong

theorem violationOf_none_of_speechless (hplain : ∀ e, check.test.expected? = some e → e.IsJson)
    (h : check.IsSpeechless) : check.violationOf none = .error .tooManyDigits := by
  rcases h with ⟨allowed, hallowed, v, hv, hlong⟩ | ⟨hgiven, e, hexpected, hlong⟩
  · rw [violationOf, passes_none_of_long hallowed hv hlong]
    rfl
  · have hkeys : check.test ≠ .withKeys [] := by
      intro hkeys
      rw [hkeys] at hexpected
      cases hexpected
    have hpasses : check.test.passes none = .ok false := by
      refine passes_none hkeys fun allowed hallowed => ?_
      rw [allowed?_of_expected? hexpected] at hallowed
      cases hallowed
    rw [violationOf, hpasses, hgiven]
    show (check.test.complaint check.path none >>= _) = _
    rw [complaint_of_long check.path none hexpected (hplain e hexpected) hlong]
    rfl

/-- The words for a violation are those that the check has, or else a complaint. -/
theorem exists_violationOf_none (hplain : ∀ e, check.test.expected? = some e → e.IsJson)
    (hkeys : check.test ≠ .withKeys []) (h : ¬ check.IsSpeechless) :
    ∃ message, check.violationOf none = .ok (some message) ∧ message ≠ "" ∧
      ∀ words, given check.message = some words → message = words := by
  have hallowed : ∀ allowed, check.test.allowed? = some allowed → ∀ v ∈ allowed, ¬ v.Holds IsLong :=
    fun allowed hallowed v hv hlong => h (.inl ⟨allowed, hallowed, v, hv, hlong⟩)
  rw [violationOf, passes_none hkeys hallowed]
  cases hgiven : given check.message with
  | some words =>
    have hwords : words ≠ "" := by
      obtain ⟨-, hne⟩ := Option.filter_eq_some_iff.1 hgiven
      simpa [String.isEmpty_iff] using hne
    exact ⟨words, rfl, hwords, fun _ heq => Option.some.inj heq⟩
  | none =>
    have hexpected : ∀ e, check.test.expected? = some e → e.IsJson ∧ ¬ e.Holds IsLong := fun e he =>
      ⟨hplain e he, fun hlong => h (.inr ⟨hgiven, e, he, hlong⟩)⟩
    -- without words of its own the check complains, which it can if nothing in it is too long
    obtain ⟨text, htext, hne⟩ := exists_complaint check.path none hallowed hexpected
    refine ⟨text, ?_, hne, fun words hwords => ?_⟩
    · show (check.test.complaint check.path none >>= _) = _
      rw [htext]
      rfl
    · cases hwords

/-- What a check says when all of its paths lead nowhere. If it asks for a mapping with no particular keys, nothing is
wrong. Every other check says that something is, in its own words if it has any, whatever it tests; unless it cannot
say so, and then it gives no answer. -/
theorem absent_violates (hplain : ∀ e, check.test.expected? = some e → e.IsJson)
    (habsent : ∀ p ∈ check.paths, FieldPath.resolve args p = .ok none) :
    (check.test = .withKeys [] → check.violation args = .ok none) ∧
    (check.test ≠ .withKeys [] → ¬ check.IsSpeechless → ∃ message, check.violation args = .ok (some message) ∧
      message ≠ "" ∧ ∀ words, given check.message = some words → message = words) ∧
    (check.IsSpeechless → check.violation args = .error .tooManyDigits) := by
  rw [violation_of_resolve (resolve_of_absent habsent)]
  refine ⟨fun hkeys => ?_, exists_violationOf_none hplain, violationOf_none_of_speechless hplain⟩
  rw [violationOf, hkeys]
  rfl

/-- A check that the owner is null, with empty words and a fallback. -/
def ofOwner : Check := { path := "owner.id", test := .equalTo .null, message := some "", fallbacks := ["tags.owner"] }

/-- Nothing is not null, and the check says so, though its own words are empty. -/
theorem ofOwner_absent :
    (∀ p ∈ ofOwner.paths, FieldPath.resolve (.record [("tags", .list [])]) p = .ok none) ∧
      ∃ message, ofOwner.violation (.record [("tags", .list [])]) = .ok (some message) ∧ message ≠ "" := by
  have hplain : ∀ e, ofOwner.test.expected? = some e → e.IsJson := by
    intro e he
    obtain rfl := Option.some.inj he
    exact isJson_null
  have habsent : ∀ p ∈ ofOwner.paths, FieldPath.resolve (.record [("tags", .list [])]) p = .ok none := by
    have hstep : ∀ segment, FieldPath.step (.record [("tags", .list [])]) segment =
        .ok (if "tags" = segment then some (.list []) else none) := by
      intro segment
      by_cases htags : "tags" = segment <;>
        simp [FieldPath.step, Value.record, Value.field?, Value.get?, Value.same, htags]
    have hitem : FieldPath.step (.list []) "owner" = .ok none := by rfl
    refine List.forall_mem_cons.2 ⟨?_, List.forall_mem_singleton.2 ?_⟩
    · rw [ofOwner, resolve_of_segments (by decide) (by decide : FieldPath.segments "owner.id" = ["owner", "id"])]
      simp [FieldPath.walk, hstep]
    · rw [resolve_of_segments (by decide) (by decide : FieldPath.segments "tags.owner" = ["tags", "owner"])]
      simp [FieldPath.walk, hstep, hitem]
  have hspeaks : ¬ ofOwner.IsSpeechless := by
    rintro (⟨allowed, hallowed, -⟩ | ⟨-, e, he, hlong⟩)
    · cases hallowed
    · obtain rfl := Option.some.inj he
      have hnull := text?_eq_none_iff.2 hlong
      cases hnull
  have hkeys : ofOwner.test ≠ .withKeys [] := by
    intro hkeys
    cases hkeys
  obtain ⟨message, hmessage, hne, -⟩ := (absent_violates hplain habsent).2.1 hkeys hspeaks
  exact ⟨habsent, message, hmessage, hne⟩

/-- A check with words of its own, and with one allowed value. The value has too many digits to be written, and the
allowed values are written before anything is said. -/
def ofSize : Check :=
  { path := "size", test := .among [.int (.ofNat (Nat.pow 16 3600))] false none, message := some "no such size" }

/-- So it is not true of all checks that an entry can ask for that they say what is wrong when there is nothing. -/
theorem absent_not_always_violates :
    ¬ ∀ (spec : CheckSpec) (check : Check) (args : Value), spec.toCheck = .ok check →
      (∀ allowed, check.test.allowed? = some allowed → ∀ v ∈ allowed, v.IsJson) →
      (∀ e, check.test.expected? = some e → e.IsJson) → check.test ≠ .withKeys [] →
      (∀ p ∈ check.paths, FieldPath.resolve args p = .ok none) →
        ∃ message, check.violation args = .ok (some message) := by
  intro h
  have hplain : ∀ allowed, ofSize.test.allowed? = some allowed → ∀ v ∈ allowed, v.IsJson := by
    intro allowed hallowed
    obtain rfl : [Value.int (.ofNat (Nat.pow 16 3600))] = allowed := Option.some.inj hallowed
    exact List.forall_mem_singleton.2 isJson_int
  have hnone : ∀ e, ofSize.test.expected? = some e → e.IsJson := by
    intro e he
    cases he
  have hkeys : ofSize.test ≠ .withKeys [] := by
    intro hkeys
    cases hkeys
  have hsize : FieldPath.resolve .null "size" = .ok none := by
    rw [resolve_of_segments (by decide) (by decide : FieldPath.segments "size" = ["size"])]
    rfl
  have habsent : ∀ p ∈ ofSize.paths, FieldPath.resolve .null p = .ok none := List.forall_mem_singleton.2 hsize
  have hlong : (Value.int (.ofNat (Nat.pow 16 3600))).Holds IsLong := holds_int_iff.2 (by decide +kernel)
  have hspeechless : ofSize.IsSpeechless := .inl ⟨_, rfl, _, List.mem_singleton_self _, hlong⟩
  obtain ⟨message, hmessage⟩ := h ofSize.spec ofSize .null rfl hplain hnone hkeys habsent
  rw [violation_of_resolve (resolve_of_absent habsent), violationOf_none_of_speechless hnone hspeechless] at hmessage
  cases hmessage

end Check

end PolicyGate
