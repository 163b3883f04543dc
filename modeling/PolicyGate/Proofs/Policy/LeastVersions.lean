import PolicyGate.Proofs.Document.Replacement
import PolicyGate.Proofs.Number.Rounding
import PolicyGate.Proofs.Policy.Absence
import PolicyGate.Proofs.Policy.Enforcement
import PolicyGate.Proofs.Policy.Equality

/-!
# Least versions that are numbers

A number that stands for a least version is taken for the version that it is nearest to with one digit after the point,
and the rule that it asks for admits exactly the known versions from that one on (`Document.least_taken`). For the
numbers of the versions this is what they say. But numbers close to them are taken for the same versions, even for a
lower one, and a whole number that is too large is not refused as others are: reading the document goes wrong
(`Document.least_not_always_literal`).
-/

namespace PolicyGate

open Attempt

/-! ## Numbers and versions -/

namespace Schema

variable {t u : String} {p q : ℚ}

/-- The number that a version reads as. -/
def versionNumber? (t : String) : Option ℚ := (Binary64.ofText? t.toList).bind Binary64.value?

/-- The version that a number is taken for: the one it is nearest to, with one digit after the point. -/
def versionTaken? (q : ℚ) : Option String :=
  if q < 19 / 20 then none
  else if q ≤ 21 / 20 then some "1.0"
  else if q < 23 / 20 then some "1.1"
  else if q ≤ 25 / 20 then some "1.2"
  else if q < 27 / 20 then some "1.3"
  else none

/-- The number is that of the version it is taken for, if it is taken for one. -/
def IsLiteral (q : ℚ) : Prop := ∀ t, versionTaken? q = some t → versionNumber? t = some q

theorem tlsVersions_eq : tlsVersions = [tenthsText 10, tenthsText 11, tenthsText 12, tenthsText 13] := by
  decide

theorem isNearest_ten : IsNearest (10 * q) 10 ↔ 19 / 20 ≤ q ∧ q ≤ 21 / 20 := by
  rw [isNearest_of_even (by decide)]
  constructor <;> rintro ⟨hlow, hhigh⟩ <;> constructor <;> norm_num at * <;> linarith

theorem isNearest_eleven : IsNearest (10 * q) 11 ↔ 21 / 20 < q ∧ q < 23 / 20 := by
  rw [isNearest_of_odd (by decide)]
  constructor <;> rintro ⟨hlow, hhigh⟩ <;> constructor <;> norm_num at * <;> linarith

theorem isNearest_twelve : IsNearest (10 * q) 12 ↔ 23 / 20 ≤ q ∧ q ≤ 25 / 20 := by
  rw [isNearest_of_even (by decide)]
  constructor <;> rintro ⟨hlow, hhigh⟩ <;> constructor <;> norm_num at * <;> linarith

theorem isNearest_thirteen : IsNearest (10 * q) 13 ↔ 25 / 20 < q ∧ q < 27 / 20 := by
  rw [isNearest_of_odd (by decide)]
  constructor <;> rintro ⟨hlow, hhigh⟩ <;> constructor <;> norm_num at * <;> linarith

/-- The version that a number is taken for is the number of tenths that is nearest to it. -/
theorem versionTaken?_eq_some_iff : versionTaken? q = some t ↔
    ∃ k, 10 ≤ k ∧ k ≤ 13 ∧ IsNearest (10 * q) k ∧ t = tenthsText k := by
  obtain ⟨h10, h11, h12, h13⟩ : tenthsText 10 = "1.0" ∧ tenthsText 11 = "1.1" ∧ tenthsText 12 = "1.2" ∧
      tenthsText 13 = "1.3" := by
    have h := tlsVersions_eq
    simp only [tlsVersions, List.cons.injEq] at h
    exact ⟨h.1.symm, h.2.1.symm, h.2.2.1.symm, h.2.2.2.1.symm⟩
  -- a tie goes to the even number of tenths, so the bounds themselves belong to 10 and 12
  constructor
  · intro h
    unfold versionTaken? at h
    split at h
    · cases h
    split at h
    · exact ⟨10, by decide, by decide, isNearest_ten.2 ⟨by linarith, by linarith⟩, by rw [h10, Option.some.inj h]⟩
    split at h
    · exact ⟨11, by decide, by decide, isNearest_eleven.2 ⟨by linarith, by linarith⟩, by rw [h11, Option.some.inj h]⟩
    split at h
    · exact ⟨12, by decide, by decide, isNearest_twelve.2 ⟨by linarith, by linarith⟩, by rw [h12, Option.some.inj h]⟩
    split at h
    · exact ⟨13, by decide, by decide, isNearest_thirteen.2 ⟨by linarith, by linarith⟩,
        by rw [h13, Option.some.inj h]⟩
    · cases h
  · rintro ⟨k, hlow, hhigh, hnear, rfl⟩
    unfold versionTaken?
    obtain rfl | rfl | rfl | rfl : k = 10 ∨ k = 11 ∨ k = 12 ∨ k = 13 := by omega
    · rw [isNearest_ten] at hnear
      rw [if_neg (by linarith), if_pos hnear.2, h10]
    · rw [isNearest_eleven] at hnear
      rw [if_neg (by linarith), if_neg (by linarith), if_pos hnear.2, h11]
    · rw [isNearest_twelve] at hnear
      rw [if_neg (by linarith), if_neg (by linarith), if_neg (by linarith), if_pos hnear.2, h12]
    · rw [isNearest_thirteen] at hnear
      rw [if_neg (by linarith), if_neg (by linarith), if_neg (by linarith), if_neg (by linarith), if_pos hnear.2, h13]

theorem mem_tlsVersions_iff : t ∈ tlsVersions ↔ ∃ k, 10 ≤ k ∧ k ≤ 13 ∧ t = tenthsText k := by
  rw [tlsVersions_eq]
  constructor
  · intro h
    simp only [List.mem_cons, List.not_mem_nil, or_false] at h
    rcases h with h | h | h | h <;> exact ⟨_, by decide, by decide, h⟩
  · rintro ⟨k, hlow, hhigh, rfl⟩
    obtain rfl | rfl | rfl | rfl : k = 10 ∨ k = 11 ∨ k = 12 ∨ k = 13 := by omega
    all_goals simp

theorem mem_tlsVersions_of_taken (h : versionTaken? q = some t) : t ∈ tlsVersions := by
  obtain ⟨k, hlow, hhigh, -, rfl⟩ := versionTaken?_eq_some_iff.1 h
  exact mem_tlsVersions_iff.2 ⟨k, hlow, hhigh, rfl⟩

/-- Every known version has a number and is what that number is taken for, and the versions from it on are those with at
least its number. -/
theorem tlsVersions_numbered : ∀ t ∈ tlsVersions, (versionNumber? t).bind versionTaken? = some t ∧
    ∀ u ∈ tlsVersions, (u ∈ tlsVersions.dropWhile (· ≠ t) ↔
      (versionNumber? u).any fun r => (versionNumber? t).any fun p => decide (p ≤ r)) := by
  decide +kernel

theorem exists_versionNumber (ht : t ∈ tlsVersions) : ∃ p, versionNumber? t = some p := by
  obtain ⟨p, hp, -⟩ := Option.bind_eq_some_iff.1 (tlsVersions_numbered t ht).1
  exact ⟨p, hp⟩

/-- The number of a version is taken for that version. -/
theorem versionTaken?_versionNumber (ht : t ∈ tlsVersions) (hq : versionNumber? t = some q) :
    versionTaken? q = some t := by
  have h := (tlsVersions_numbered t ht).1
  rwa [hq] at h

theorem mem_dropWhile_iff (ht : t ∈ tlsVersions) (hp : versionNumber? t = some p) :
    u ∈ tlsVersions.dropWhile (· ≠ t) ↔ u ∈ tlsVersions ∧ ∃ r, versionNumber? u = some r ∧ p ≤ r := by
  constructor
  · intro h
    have hu := (List.dropWhile_suffix _).subset h
    have hany := ((tlsVersions_numbered t ht).2 u hu).1 h
    rw [hp] at hany
    obtain ⟨r, hr, hle⟩ := (Option.any_eq_true ..).1 hany
    exact ⟨hu, r, hr, by simpa using hle⟩
  · rintro ⟨hu, r, hr, hle⟩
    refine ((tlsVersions_numbered t ht).2 u hu).2 ?_
    rw [hp, hr, Option.any_some, Option.any_some]
    exact decide_eq_true hle

end Schema

namespace Value

variable {v : Value} {q : ℚ}

/-- The number that a value is: a whole one, or a finite binary one. A flag is none. -/
def number? : Value → Option ℚ
  | .int n => some n
  | .float x => x.value?
  | _ => none

/-- The value is a whole number beyond all binary numbers. -/
def IsTooLarge (v : Value) : Prop := ∃ n negative, v = .int n ∧ Binary64.ofInt n = .inf negative

end Value

namespace Shape

open Value

variable {v : Value} {q : ℚ} {t : String}

theorem versionText_int {n : Int} (h : ∀ negative, Binary64.ofInt n ≠ .inf negative) :
    versionText (.int n) = .ok (.str ((Binary64.ofInt n).fixed 1)) := by
  rw [versionText]
  split
  · exact absurd ‹_› (h _)
  · rfl

/-- A number is written with one digit after the point as the tenths that are nearest to it. -/
theorem exists_versionText (hq : v.number? = some q) (hlarge : ¬ v.IsTooLarge) :
    ∃ s, versionText v = .ok (.str s) ∧ ∀ k, 0 < k → k < 15 → (s = tenthsText k ↔ IsNearest (10 * q) k) := by
  cases v with
  | int n =>
    obtain rfl := Option.some.inj hq
    rcases Binary64.ofInt_cases n with ⟨negative, hn⟩ | ⟨r, hr⟩
    · exact absurd ⟨n, negative, rfl, hn⟩ hlarge
    · have htext : versionText (.int n) = .ok (.str ((Binary64.ofInt n).fixed 1)) :=
        versionText_int fun negative hn => hlarge ⟨n, negative, rfl, hn⟩
      refine ⟨(Binary64.ofInt n).fixed 1, htext, fun k hk hk' => ?_⟩
      rw [Binary64.fixed_one_eq_iff_isNearest hr hk, Binary64.isNearest_ofInt_iff hr hk hk']
  | float x => exact ⟨x.fixed 1, rfl, fun k hk _ => Binary64.fixed_one_eq_iff_isNearest hq hk⟩
  | _ => cases hq

theorem read_version_of_isTooLarge {allowed : List String} (h : v.IsTooLarge) :
    (version allowed).read v = .error ⟨⟩ := by
  obtain ⟨n, negative, rfl, hn⟩ := h
  rw [read_version, versionText, hn]
  rfl

theorem readWord_str {allowed : List String} (s : String) : readWord allowed (.str s) =
    if allowed.contains s then .value (.str s) else .refused ("Input should be " ++ alternatives allowed) := rfl

theorem alternatives_tlsVersions :
    "Input should be " ++ alternatives Schema.tlsVersions = "Input should be '1.0', '1.1', '1.2' or '1.3'" := by
  decide

/-- A number is read as the version that it is taken for. -/
theorem read_version_of_number (hq : v.number? = some q) (hlarge : ¬ v.IsTooLarge) :
    (version Schema.tlsVersions).read v = .ok (match Schema.versionTaken? q with
      | some t => .value (.str t)
      | none => .refused "Input should be '1.0', '1.1', '1.2' or '1.3'") := by
  obtain ⟨s, hs, hnearest⟩ := exists_versionText hq hlarge
  have hread : (version Schema.tlsVersions).read v = .ok (readWord Schema.tlsVersions (.str s)) := by
    rw [read_version, hs]
    rfl
  rw [hread, readWord_str, alternatives_tlsVersions]
  cases ht : Schema.versionTaken? q with
  | some t =>
    obtain ⟨k, hlow, hhigh, hnear, rfl⟩ := Schema.versionTaken?_eq_some_iff.1 ht
    obtain rfl := (hnearest k (by omega) (by omega)).2 hnear
    rw [if_pos (List.contains_iff_mem.2 (Schema.mem_tlsVersions_iff.2 ⟨k, hlow, hhigh, rfl⟩))]
  | none =>
    have hmem : ¬ Schema.tlsVersions.contains s = true := by
      rw [List.contains_iff_mem, Schema.mem_tlsVersions_iff]
      rintro ⟨k, hlow, hhigh, rfl⟩
      have hnear := (hnearest k (by omega) (by omega)).1 rfl
      rw [Schema.versionTaken?_eq_some_iff.2 ⟨k, hlow, hhigh, hnear, rfl⟩] at ht
      cases ht
    rw [if_neg hmem]

end Shape

/-! ## What the check admits -/

namespace Check

open Test

variable {check : Check} {args : Value} {found : Option Value} {texts : List String} {t : String} {least : ℚ}

/-- The check finds nothing wrong with the known versions that are not below the given one, and with nothing else. -/
def AdmitsFrom (check : Check) (least : ℚ) : Prop :=
  ∀ args found, check.resolve args = .ok found → (check.violation args = .ok none ↔
    ∃ w, found = some w ∧ ∃ u, comparisonText w = .ok u ∧ u ∈ Schema.tlsVersions ∧
      ∃ r, Schema.versionNumber? u = some r ∧ least ≤ r)

theorem passes_among_texts : (Test.among (texts.map .str) false none).passes found = .ok true ↔
    ∃ w, found = some w ∧ ∃ u, comparisonText w = .ok u ∧ u ∈ texts := by
  have htexts : (texts.map Value.str).mapM comparisonText = .ok texts := by
    rw [mapM_eq_ok, List.forall₂_map_left_iff, List.forall₂_same]
    exact fun t _ => rfl
  have hcomparable : texts.mapM (comparable false none) = .ok texts := by
    rw [mapM_eq_ok, List.forall₂_same]
    exact fun t _ => rfl
  rw [passes, bind_eq_ok]
  constructor
  · rintro ⟨_, htexts', h⟩
    obtain rfl := Except.ok.inj (htexts.symm.trans htexts')
    cases found with
    | none => cases h
    | some w =>
      obtain ⟨u, hu, h⟩ := bind_eq_ok.1 h
      obtain ⟨_, hkey, h⟩ := bind_eq_ok.1 h
      obtain ⟨_, hkeys, h⟩ := bind_eq_ok.1 h
      obtain rfl : u = _ := Except.ok.inj hkey
      obtain rfl := Except.ok.inj (hcomparable.symm.trans hkeys)
      exact ⟨w, rfl, u, hu, List.contains_iff_mem.1 (pure_eq_ok.1 h)⟩
  · rintro ⟨w, rfl, u, hu, hmem⟩
    refine ⟨texts, htexts, ?_⟩
    refine bind_eq_ok.2 ⟨u, hu, bind_eq_ok.2 ⟨u, rfl, bind_eq_ok.2 ⟨texts, hcomparable, ?_⟩⟩⟩
    rw [List.contains_iff_mem.2 hmem]
    rfl

/-- The check that a least version asks for. -/
def ofLeast (path t : String) : Check :=
  { path, test := .among ((Schema.tlsVersions.dropWhile (· ≠ t)).map .str) false none,
    message := some ("minimum TLS version must be at least " ++ t) }

theorem leastTls_str {path : String} (ht : t ∈ Schema.tlsVersions) :
    Intent.leastTls path (.str t) = .ok (some (ofLeast path t)) := by
  have hgiven : ∀ t ∈ Schema.tlsVersions, given (some t) = some t := by decide
  rw [Intent.leastTls, Intent.patternOf, Value.str?, hgiven t ht]
  rfl

theorem admitsFrom_ofLeast {path : String} (ht : t ∈ Schema.tlsVersions)
    (hleast : Schema.versionNumber? t = some least) : (ofLeast path t).AdmitsFrom least := by
  intro args found hfound
  rw [violation_of_resolve hfound, violationOf_eq_none_iff, ofLeast, passes_among_texts]
  simp only [Schema.mem_dropWhile_iff ht hleast]

end Check

/-! ## The rule of a section -/

/-- The rule denies an action of the kind unless its version is a known one that is not below the given one. -/
structure Rule.DemandsVersion (rule : Rule) (kind : String) (least : ℚ) : Prop where
  id_eq : rule.id = "azure." ++ kind ++ ".minTls"
  target_eq : rule.target = .action ("azure." ++ kind)
  effect_eq : rule.effect = .deny
  check_eq : ∃ check, rule.checks = [check] ∧ check.path = "minTlsVersion" ∧ check.fallbacks = [] ∧
    check.AdmitsFrom least

namespace Section

variable {s : Section} {field t : String} {rs : List Rule} {least : ℚ}

/-- The section with another least version. -/
def withLeast (s : Section) (t : String) : Section :=
  { s with entries := Value.put s.entries (.str "min_tls_version") (.str t) }

theorem minTls_mem (hp : s.provider = "azure") (hkind : s.kind ∈ Schema.versioned) :
    Intent.minTls ∈ Intent.ofSection s := by
  obtain ⟨provider, kind, entries⟩ := s
  dsimp only at hp hkind
  subst hp
  simp only [Schema.versioned, List.mem_cons, List.not_mem_nil, or_false] at hkind
  rcases hkind with rfl | rfl
  · simp [Intent.ofSection, Intent.table]
  · simp [Intent.ofSection, Intent.table]

theorem entry?_withLeast (s : Section) (t field : String) : Section.entry? (s.withLeast t) field =
    if "min_tls_version" = field then some (.str t) else s.entry? field := by
  rw [ entry?, withLeast, Value.field?_put]
  by_cases hfield : "min_tls_version" = field
  · rw [if_pos hfield, if_pos hfield]
  · rw [if_neg hfield, if_neg hfield, entry?]

theorem controls_withLeast (s : Section) (t : String) : (s.withLeast t).controls = s.controls := by
  rw [controls, entry?_withLeast, if_neg (by decide), controls]

/-- A version can be demanded wherever there is a field for it. -/
theorem exists_demand_withLeast {intent : Intent} (ht : t ∈ Schema.tlsVersions) (hi : intent ∈ Intent.ofSection s)
    (h : ∃ rule, s.demand intent = .ok rule) : ∃ rule, (s.withLeast t).demand intent = .ok rule := by
  have hentry := entry?_withLeast s t intent.field
  by_cases hfield : "min_tls_version" = intent.field
  · -- no demand that reads the field fails at a known version
    have hall : ∀ row ∈ Intent.table, ∀ intent ∈ row.2, "min_tls_version" = intent.field →
        ∀ t ∈ Schema.tlsVersions, (intent.check (.str t)).toOption.isSome = true := by decide
    obtain ⟨row, hrow, hi⟩ := Intent.exists_row hi
    obtain ⟨asked, hasked⟩ := exists_ok_of_isSome (hall row hrow intent hi hfield t ht)
    rw [if_pos hfield] at hentry
    rw [demand, hentry]
    dsimp only
    rw [hasked]
    cases asked <;> exact ⟨_, rfl⟩
  · rw [if_neg hfield] at hentry
    rw [demand] at h ⊢
    rwa [hentry, controls_withLeast]

/-- A section that has rules still has them with a least version. -/
theorem exists_rules_withLeast (ht : t ∈ Schema.tlsVersions) (h : s.rules = .ok rs) :
    ∃ rs', (s.withLeast t).rules = .ok rs' := by
  obtain ⟨demands, name, region, tags, hdemands, hname, hregion, htags, rfl⟩ := rules_eq_ok.1 h
  have hadvice : (s.withLeast t).advice = s.advice := by
    funext suffix description suggestion
    rw [advice, advice, controls_withLeast]
    rfl
  have htruthy : ∀ field ∈ Schema.suggestions, (s.withLeast t).truthy? field = s.truthy? field := by
    intro field hf
    have hne : ∀ field ∈ Schema.suggestions, "min_tls_version" ≠ field := by decide
    rw [truthy?, entry?_withLeast, if_neg (hne field hf), truthy?]
  have hsingle : ∀ field ∈ Schema.suggestions, (s.withLeast t).single field = s.single field := by
    intro field hf
    funext suffix lead title key
    rw [single, single, htruthy field hf, hadvice]
  have hdemands' : ∃ demands', (Intent.ofSection s).mapM (s.withLeast t).demand = .ok demands' :=
    exists_mapM_ok.2 fun intent hi => exists_demand_withLeast ht hi (exists_mapM_ok.1 ⟨demands, hdemands⟩ intent hi)
  obtain ⟨demands', hdemands'⟩ := hdemands'
  refine ⟨_, rules_eq_ok.2 ⟨demands', name, region, tags, hdemands', ?_, ?_, ?_, rfl⟩⟩
  · rw [hsingle _ (by decide), hname]
  · rw [hsingle _ (by decide), hregion]
  · rw [tagAdvice, htruthy _ (by decide), hadvice, ← tagAdvice, htags]

/-- The rule of a least version. -/
theorem exists_demandsVersion (hp : s.provider = "azure") (hkind : s.kind ∈ Schema.versioned)
    (ht : t ∈ Schema.tlsVersions) (hleast : Schema.versionNumber? t = some least)
    (h : (s.withLeast t).rules = .ok rs) : ∃ rule ∈ rs, rule.DemandsVersion s.kind least := by
  have hcheck : Intent.minTls.check (.str t) = .ok (some (Check.ofLeast "minTlsVersion" t)) := Check.leastTls_str ht
  have hentry : Section.entry? (s.withLeast t) Intent.minTls.field = some (.str t) := by
    rw [entry?_withLeast]
    rfl
  have hmem : Intent.minTls ∈ Intent.ofSection (s.withLeast t) := minTls_mem hp hkind
  obtain ⟨check, hcheck', hrule⟩ := demandOf_mem h hmem hentry (by rw [hcheck]; nofun)
  obtain rfl := Option.some.inj (Except.ok.inj (hcheck.symm.trans hcheck'))
  have haction : (s.withLeast t).action = "azure." ++ s.kind := by
    rw [action, withLeast, hp]
    rfl
  refine ⟨_, hrule, ?_, ?_, rfl, _, rfl, rfl, rfl, Check.admitsFrom_ofLeast ht hleast⟩
  · rw [demandOf, haction]
    simp [String.append_assoc, Intent.minTls]
  · rw [demandOf, haction]

end Section

/-! ## Documents -/

namespace Document

open Value

variable {raw rest v : Value} {kind t profile : String} {q least : ℚ} {c : Compiled}

/-- The section whose least version is given stands in the document, and without the version it has stood there. -/
theorem exists_section (hkind : kind ∈ Schema.versioned) (hrest : Document.read (raw.withLeast kind .null) = .ok rest) :
    ∃ s ∈ (ofValue rest).sections, s.provider = "azure" ∧ s.kind = kind ∧
      ∀ t, s.withLeast t ∈ (ofValue (rest.withLeast kind (.str t))).sections := by
  obtain ⟨label, fields, haction, -⟩ := Schema.exists_least hkind
  have hsection : Schema.HasSection "azure" kind label fields :=
    ⟨"AzurePolicySet", Schema.azureActions, List.mem_cons_self, haction⟩
  obtain ⟨entries, hentries⟩ : ∃ entries, (rest.field "azure").field kind = .map entries := by
    rcases read_section hrest hsection with ⟨hraw, -⟩ | hread
    · rw [Value.withLeast, field_withField, if_pos rfl, field_withField, if_pos rfl] at hraw
      cases hraw
    · obtain ⟨-, known, further, -, hv, -⟩ := Shape.read_record_eq_value.1 hread
      exact ⟨_, hv⟩
  refine ⟨⟨"azure", kind, entries⟩, mem_sections_iff.2 ⟨⟨label, fields, hsection⟩, hentries⟩, rfl, rfl, fun t => ?_⟩
  refine mem_sections_iff.2 ⟨⟨label, fields, hsection⟩, ?_⟩
  show ((rest.withLeast kind (.str t)).field "azure").field kind = .map (Value.put entries _ _)
  rw [Value.withLeast, field_withField, if_pos rfl, field_withField, if_pos rfl, hentries]
  rfl

/-- All other sections stand there as well. -/
theorem mem_sections_withLeast (hkind : kind ∈ Schema.versioned)
    (hrest : Document.read (raw.withLeast kind .null) = .ok rest) {s : Section}
    (hs : s ∈ (ofValue (rest.withLeast kind (.str t))).sections) :
    s ∈ (ofValue rest).sections ∨ ∃ s₀ ∈ (ofValue rest).sections, s = s₀.withLeast t := by
  obtain ⟨hsection, hentries⟩ := mem_sections_iff.1 hs
  by_cases hplace : s.provider = "azure" ∧ s.kind = kind
  · obtain ⟨s₀, hs₀, hp₀, hk₀, hnew⟩ := exists_section hkind hrest
    have hentries' := (mem_sections_iff.1 (hnew t)).2
    obtain ⟨provider, kind', entries⟩ := s
    obtain ⟨provider₀, kind₀, entries₀⟩ := s₀
    dsimp only at hplace hp₀ hk₀ hentries
    obtain ⟨rfl, rfl⟩ := hplace
    subst hp₀ hk₀
    exact .inr ⟨_, hs₀, congrArg _ (Value.map.inj (hentries.symm.trans hentries'))⟩
  · refine .inl (mem_sections_iff.2 ⟨hsection, ?_⟩)
    rw [← hentries, Value.withLeast, field_withField]
    by_cases hp : "azure" = s.provider
    · rw [if_pos hp, field_withField, if_neg fun hk => hplace ⟨hp.symm, hk.symm⟩, hp]
    · rw [if_neg hp]

theorem compile_withLeast (hkind : kind ∈ Schema.versioned)
    (hrest : Document.read (raw.withLeast kind .null) = .ok rest) (ht : t ∈ Schema.tlsVersions)
    (hleast : Schema.versionNumber? t = some least) (h : (ofValue rest).compile profile = .ok c) :
    ∃ c', (ofValue (rest.withLeast kind (.str t))).compile profile = .ok c' ∧
      ∃ rule ∈ c'.rules, rule.DemandsVersion kind least := by
  obtain ⟨ofSections, ofPolicies, ofAdvisory, hsections, hpolicies, hadvisory, -⟩ := compile_eq_ok.1 h
  -- the version is seen by one section only: all else is compiled as without it
  have hother : ∀ field, "azure" ≠ field → (rest.withLeast kind (.str t)).field field = rest.field field := by
    intro field hne
    rw [Value.withLeast, field_withField, if_neg hne]
  obtain ⟨ofSections', hsections'⟩ : ∃ ofSections',
      (ofValue (rest.withLeast kind (.str t))).sections.mapM Section.rules = .ok ofSections' := by
    refine exists_mapM_ok.2 fun s hs => ?_
    rcases mem_sections_withLeast hkind hrest hs with hs | ⟨s₀, hs₀, rfl⟩
    · exact exists_mapM_ok.1 ⟨_, hsections⟩ s hs
    · obtain ⟨rs, hrs⟩ := exists_mapM_ok.1 ⟨_, hsections⟩ s₀ hs₀
      exact Section.exists_rules_withLeast ht hrs
  have hpolicies' : (ofValue (rest.withLeast kind (.str t))).policies = (ofValue rest).policies :=
    congrArg PolicySpec.listOfValue (hother "policies" (by decide))
  have hadvisory' : (ofValue (rest.withLeast kind (.str t))).advisory = (ofValue rest).advisory :=
    congrArg (fun v => v.mapping?.map Advisory.ofValue) (hother "ato" (by decide))
  have hprofile : (ofValue (rest.withLeast kind (.str t))).activeProfile profile =
      (ofValue rest).activeProfile profile := by
    rw [activeProfile, activeProfile, hadvisory']
  have hcompile : (ofValue (rest.withLeast kind (.str t))).compile profile =
      .ok ⟨ofSections'.flatten ++ ofPolicies ++ ofAdvisory.rules, ofAdvisory.warnings⟩ := by
    refine compile_eq_ok.2 ⟨ofSections', ofPolicies, ofAdvisory, hsections', by rw [hpolicies', hpolicies], ?_, rfl⟩
    rw [hadvisory', hprofile]
    exact hadvisory
  refine ⟨_, hcompile, ?_⟩
  obtain ⟨s, -, hp, rfl, hnew⟩ := exists_section hkind hrest
  obtain ⟨rs, hrs, hrules⟩ := exists_section_rules hcompile (hnew t)
  obtain ⟨rule, hrule, hdemands⟩ := Section.exists_demandsVersion hp hkind ht hleast hrs
  exact ⟨rule, hrules rule hrule, hdemands⟩

/-- A number for a least version that is no version is complained about at its place. -/
def leastComplaint (kind : String) : Complaint :=
  ⟨["azure", kind, "min_tls_version"], "Input should be '1.0', '1.1', '1.2' or '1.3'"⟩

theorem read_of_number (hkind : kind ∈ Schema.versioned) (hq : (raw.least kind).number? = some q)
    (hlarge : ¬ (raw.least kind).IsTooLarge) (hrest : Document.read (raw.withLeast kind .null) = .ok rest) :
    Document.read raw = match Schema.versionTaken? q with
      | some t => .ok (rest.withLeast kind (.str t))
      | none => .error (.shape [leastComplaint kind]) := by
  have hnull : raw.least kind ≠ .null := by
    intro hnull
    rw [hnull] at hq
    cases hq
  have hread := read_withLeast hkind hrest hnull
  rw [withLeast_least hnull, Shape.read_version_of_number hq hlarge] at hread
  rw [Document.read, hread]
  cases Schema.versionTaken? q <;> rfl

theorem read_of_isTooLarge (hkind : kind ∈ Schema.versioned) (hlarge : (raw.least kind).IsTooLarge)
    (hrest : Document.read (raw.withLeast kind .null) = .ok rest) : Document.read raw = .error .versionTooLarge := by
  have hnull : raw.least kind ≠ .null := by
    obtain ⟨n, negative, hn, -⟩ := hlarge
    rw [hn]
    nofun
  have hread := read_withLeast hkind hrest hnull
  rw [withLeast_least hnull, Shape.read_version_of_isTooLarge hlarge] at hread
  rw [Document.read, hread]
  rfl

/-- What a document comes to that has a number for the least version of a section, and is fine apart from that. If it
is a whole number beyond all binary numbers, reading the document goes wrong. Any other number is taken for the version
that it is nearest to with one digit after the point; if there is none, the document is refused because of it, and else
it is read and compiles to a rule that admits exactly the known versions that are not below the one that the number was
taken for. So numbers are taken literally or refused as long as they are not taken for a version of another number:
then the document is read exactly if one of the known versions has that number, and the rule admits exactly the
versions that are not below it. -/
theorem least_taken (hkind : kind ∈ Schema.versioned) (hq : (raw.least kind).number? = some q)
    (hrest : Document.read (raw.withLeast kind .null) = .ok rest) :
    ((raw.least kind).IsTooLarge → Document.read raw = .error .versionTooLarge) ∧
    (¬ (raw.least kind).IsTooLarge →
      (Schema.versionTaken? q = none → Document.read raw = .error (.shape [leastComplaint kind])) ∧
      (∀ t, Schema.versionTaken? q = some t → Document.read raw = .ok (rest.withLeast kind (.str t)) ∧
        ∃ least, Schema.versionNumber? t = some least ∧
          ∀ profile c, (ofValue rest).compile profile = .ok c → ∃ c', compiled raw profile = .ok c' ∧
            ∃ rule ∈ c'.rules, rule.DemandsVersion kind least)) ∧
    (¬ (raw.least kind).IsTooLarge → Schema.IsLiteral q →
      ((∃ doc, Document.read raw = .ok doc) ↔ ∃ t ∈ Schema.tlsVersions, Schema.versionNumber? t = some q) ∧
      ((∃ t ∈ Schema.tlsVersions, Schema.versionNumber? t = some q) →
        ∀ profile c, (ofValue rest).compile profile = .ok c → ∃ c', compiled raw profile = .ok c' ∧
          ∃ rule ∈ c'.rules, rule.DemandsVersion kind q) ∧
      ((¬ ∃ t ∈ Schema.tlsVersions, Schema.versionNumber? t = some q) →
        Document.read raw = .error (.shape [leastComplaint kind]))) := by
  have hcompile : ∀ {t least : _}, Schema.versionNumber? t = some least → t ∈ Schema.tlsVersions →
      Document.read raw = .ok (rest.withLeast kind (.str t)) → ∀ profile c, (ofValue rest).compile profile = .ok c →
        ∃ c', compiled raw profile = .ok c' ∧ ∃ rule ∈ c'.rules, rule.DemandsVersion kind least := by
    intro t least hleast ht hread profile c hc
    obtain ⟨c', hc', hrule⟩ := compile_withLeast hkind hrest ht hleast hc
    exact ⟨c', by rw [compiled_of_read hread, hc']; rfl, hrule⟩
  refine ⟨fun hlarge => ?_, fun hlarge => ⟨fun htaken => ?_, fun t htaken => ?_⟩, fun hlarge hliteral => ?_⟩
  · exact read_of_isTooLarge hkind hlarge hrest
  · rw [read_of_number hkind hq hlarge hrest, htaken]
  · have hread := read_of_number hkind hq hlarge hrest
    rw [htaken] at hread
    have ht := Schema.mem_tlsVersions_of_taken htaken
    obtain ⟨least, hleast⟩ := Schema.exists_versionNumber ht
    exact ⟨hread, least, hleast, hcompile hleast ht hread⟩
  · have hread := read_of_number hkind hq hlarge hrest
    -- what is taken for a version has the number of one, and conversely
    have htaken : ∀ t, Schema.versionTaken? q = some t ↔ t ∈ Schema.tlsVersions ∧ Schema.versionNumber? t = some q :=
      fun t => ⟨fun h => ⟨Schema.mem_tlsVersions_of_taken h, hliteral t h⟩,
        fun h => Schema.versionTaken?_versionNumber h.1 h.2⟩
    refine ⟨⟨?_, ?_⟩, ?_, ?_⟩
    · rintro ⟨doc, hdoc⟩
      cases ht : Schema.versionTaken? q with
      | some t => exact ⟨t, (htaken t).1 ht⟩
      | none =>
        rw [ht] at hread
        rw [hread] at hdoc
        cases hdoc
    · rintro ⟨t, ht⟩
      rw [(htaken t).2 ht] at hread
      exact ⟨_, hread⟩
    · rintro ⟨t, ht, hnumber⟩
      rw [(htaken t).2 ⟨ht, hnumber⟩] at hread
      exact hcompile hnumber ht hread
    · intro hnone
      cases ht : Schema.versionTaken? q with
      | some t => exact absurd ⟨t, (htaken t).1 ht⟩ hnone
      | none => rwa [ht] at hread

/-! ### Web apps -/

/-- A document that has something for the least version of web apps, and nothing else. -/
def ofWebApp (x : Value) : Value :=
  .record [("azure", .record [("create_web_app", .record [("min_tls_version", x)])])]

theorem withLeast_ofWebApp {x y : Value} : (ofWebApp x).withLeast "create_web_app" y = ofWebApp y := by
  simp [ofWebApp, Value.withLeast, Value.withField, Value.field, Value.record, Value.entries?, Value.field?_str_cons,
    Value.put_cons_self]

theorem least_ofWebApp {x : Value} : (ofWebApp x).least "create_web_app" = x := by
  rw [← withLeast_ofWebApp (x := x) (y := x), least_withLeast]

/-- Without a version that document says nothing. -/
theorem exists_read_ofWebApp : ∃ rest c, Document.read (ofWebApp .null) = .ok rest ∧
    (ofValue rest).compile "" = .ok c := by
  have h : ((Document.read (ofWebApp .null)).toOption.bind fun rest =>
      ((ofValue rest).compile "").toOption).isSome = true := by decide +kernel
  obtain ⟨c, hc⟩ := Option.isSome_iff_exists.1 h
  obtain ⟨rest, hrest, hc⟩ := Option.bind_eq_some_iff.1 hc
  exact ⟨rest, c, toOption_eq_some.1 hrest, toOption_eq_some.1 hc⟩

/-- The binary number that is nearest to a quotient. -/
def quotient (num den : Nat) : Value := .float (.ofRatio false num den)

/-- A whole number that is just too large for a binary one. -/
def beyond : Value := .int (.ofNat (Nat.pow 2 1024))

theorem isTooLarge_beyond : beyond.IsTooLarge := ⟨_, false, rfl, by decide +kernel⟩

theorem not_isTooLarge_quotient {num den : Nat} : ¬ (quotient num den).IsTooLarge := by
  rintro ⟨n, negative, h, -⟩
  cases h

/-- `1.2` is taken for itself, `2.5` is refused, `1.25` is taken for `1.2`, and a number that is too large is not
read. -/
theorem least_taken_ofWebApp :
    (∃ c, compiled (ofWebApp (quotient 6 5)) "" = .ok c ∧
      ∃ rule ∈ c.rules, rule.DemandsVersion "create_web_app" (5404319552844595 / 2 ^ 52)) ∧
    Document.read (ofWebApp (quotient 5 2)) = .error (.shape [leastComplaint "create_web_app"]) ∧
    (∃ c, compiled (ofWebApp (quotient 5 4)) "" = .ok c ∧ ∃ rule ∈ c.rules, ∃ least,
      Schema.versionNumber? "1.2" = some least ∧ rule.DemandsVersion "create_web_app" least) ∧
    Document.read (ofWebApp beyond) = .error .versionTooLarge := by
  have hkind : "create_web_app" ∈ Schema.versioned := by decide
  obtain ⟨rest, c, hrest, hc⟩ := exists_read_ofWebApp
  have hrest' : ∀ x, Document.read ((ofWebApp x).withLeast "create_web_app" .null) = .ok rest := fun x => by
    rw [withLeast_ofWebApp, hrest]
  have hlarge : ∀ num den, ¬ ((ofWebApp (quotient num den)).least "create_web_app").IsTooLarge := fun num den => by
    rw [least_ofWebApp]
    exact not_isTooLarge_quotient
  have hq : ∀ {num den : Nat} {q : ℚ}, (Binary64.ofRatio false num den).value? = some q →
      ((ofWebApp (quotient num den)).least "create_web_app").number? = some q := fun h => by
    rw [least_ofWebApp]
    exact h
  have hvalue : (Binary64.ofRatio false 6 5).value? = some (5404319552844595 / 2 ^ 52) := by decide +kernel
  have hnumber : Schema.versionNumber? "1.2" = some (5404319552844595 / 2 ^ 52) := by decide +kernel
  -- `6 / 5` rounds to what `1.2` says, and `5 / 4` is shortened to it
  refine ⟨?_, ?_, ?_, ?_⟩
  · have hliteral : Schema.IsLiteral (5404319552844595 / 2 ^ 52) := by
      have htaken : Schema.versionTaken? (5404319552844595 / 2 ^ 52) = some "1.2" := by decide +kernel
      intro t ht
      rw [htaken] at ht
      rw [← Option.some.inj ht, hnumber]
    exact ((least_taken hkind (hq hvalue) (hrest' _)).2.2 (hlarge 6 5) hliteral).2.1 ⟨"1.2", by decide, hnumber⟩ "" c hc
  · exact ((least_taken hkind (hq (q := 5 / 2) (by decide +kernel)) (hrest' _)).2.1 (hlarge 5 2)).1 (by decide +kernel)
  · obtain ⟨-, least, hleast, hcompiled⟩ := ((least_taken hkind (hq (q := 5 / 4) (by decide +kernel))
      (hrest' _)).2.1 (hlarge 5 4)).2 "1.2" (by decide +kernel)
    obtain ⟨c', hc', rule, hrule, hdemands⟩ := hcompiled "" c hc
    exact ⟨c', hc', rule, hrule, least, hleast, hdemands⟩
  · refine (least_taken hkind (q := (2 : ℚ) ^ 1024) ?_ (hrest' _)).1 ?_
    · rw [least_ofWebApp]
      decide +kernel
    · rw [least_ofWebApp]
      exact isTooLarge_beyond

/-- So it is not true of all numbers that a document is read with them exactly if a version has that number: it is read
with `1.25`. Nor are all others refused. -/
theorem least_not_always_literal :
    ¬ (∀ (raw rest : Value) (kind : String) (q : ℚ), kind ∈ Schema.versioned →
        (raw.least kind).number? = some q → Document.read (raw.withLeast kind .null) = .ok rest →
          ((∃ doc, Document.read raw = .ok doc) ↔ ∃ t ∈ Schema.tlsVersions, Schema.versionNumber? t = some q)) ∧
    ¬ (∀ (raw rest : Value) (kind : String) (q : ℚ), kind ∈ Schema.versioned →
        (raw.least kind).number? = some q → Document.read (raw.withLeast kind .null) = .ok rest →
          (∃ doc, Document.read raw = .ok doc) ∨ ∃ complaints, Document.read raw = .error (.shape complaints)) := by
  have hkind : "create_web_app" ∈ Schema.versioned := by decide
  obtain ⟨rest, c, hrest, -⟩ := exists_read_ofWebApp
  have hrest' : ∀ x, Document.read ((ofWebApp x).withLeast "create_web_app" .null) = .ok rest := fun x => by
    rw [withLeast_ofWebApp, hrest]
  constructor
  · intro h
    have hq : ((ofWebApp (quotient 5 4)).least "create_web_app").number? = some (5 / 4) := by
      rw [least_ofWebApp]
      decide +kernel
    have hlarge : ¬ ((ofWebApp (quotient 5 4)).least "create_web_app").IsTooLarge := by
      rw [least_ofWebApp]
      exact not_isTooLarge_quotient
    have hread := read_of_number hkind hq hlarge (hrest' _)
    have htaken : Schema.versionTaken? (5 / 4) = some "1.2" := by decide +kernel
    have hnone : ¬ ∃ t ∈ Schema.tlsVersions, Schema.versionNumber? t = some (5 / 4) := by decide +kernel
    rw [htaken] at hread
    exact hnone ((h _ rest _ _ hkind hq (hrest' _)).1 ⟨_, hread⟩)
  · intro h
    have hq : ((ofWebApp beyond).least "create_web_app").number? = some ((2 : ℚ) ^ 1024) := by
      rw [least_ofWebApp]
      decide +kernel
    have hlarge : Document.read (ofWebApp beyond) = .error .versionTooLarge := by
      refine read_of_isTooLarge hkind ?_ (hrest' _)
      rw [least_ofWebApp]
      exact isTooLarge_beyond
    rcases h _ rest _ _ hkind hq (hrest' _) with ⟨doc, hdoc⟩ | ⟨complaints, hcomplaints⟩
    · rw [hlarge] at hdoc
      cases hdoc
    · rw [hlarge] at hcomplaints
      cases hcomplaints

end Document

end PolicyGate
