import PolicyGate.Policy.Check
import PolicyGate.Proofs.Attempt

/-!
# Which path a check looks at

A check has a path and fallbacks, and looks at them in this order. It goes on as long as it comes to nothing or to null;
what it comes to otherwise is the value that it tests, and it looks no further (`Check.resolve_falls_back`). If it never
comes to anything else, the value is null as soon as one of the paths leads there.
-/

namespace PolicyGate.Check

open Attempt

variable {args v : Value} {check : Check} {found : Option Value} {path : String} {ps before after : List String}

/-- The paths of a check, in the order in which it looks at them. -/
def paths (check : Check) : List String := check.path :: check.fallbacks

/-- The path leads nowhere, or to null. -/
def PassesOver (args : Value) (path : String) : Prop :=
  FieldPath.resolve args path = .ok none ∨ FieldPath.resolve args path = .ok (some .null)

/-- What has been found after a look at one more path. -/
def further (args : Value) (found : Option Value) (path : String) : Except CheckError (Option Value) :=
  match found with
  | none | some .null => (resolve.find args path).map (·.or found)
  | some v => .ok (some v)

theorem further_of_value (hv : v ≠ .null) : further args (some v) path = .ok (some v) := by
  cases v with
  | null => exact absurd rfl hv
  | _ => rfl

theorem further_of_null (hfound : found = none ∨ found = some .null) :
    further args found path = (resolve.find args path).map (·.or found) := by
  rcases hfound with rfl | rfl <;> rfl

/-- A check looks at its own path as at a fallback, with nothing found before. -/
theorem resolve_eq (check : Check) (args : Value) : check.resolve args = check.paths.foldlM (further args) none := by
  have hfirst : further args none check.path = resolve.find args check.path := by
    rw [further_of_null (.inl rfl)]
    cases resolve.find args check.path with
    | ok found => cases found <;> rfl
    | error e => rfl
  rw [paths, List.foldlM_cons, hfirst]
  refine bind_congr fun first => foldlM_congr fun path _ found => ?_
  by_cases hfound : found = none ∨ found = some .null
  · rw [further_of_null hfound]
    rcases hfound with rfl | rfl <;> cases hpath : resolve.find args path with
    | ok later => cases later <;> rfl
    | error e => rfl
  · cases found with
    | none => exact absurd (.inl rfl) hfound
    | some v =>
      have hv : v ≠ .null := fun hnull => hfound (.inr (congrArg some hnull))
      rw [further_of_value hv]
      cases v with
      | null => exact absurd rfl hv
      | _ => rfl

/-- Once something is found that is not null, no other path is looked at. -/
theorem foldlM_further_of_value (hv : v ≠ .null) : ps.foldlM (further args) (some v) = .ok (some v) :=
  foldlM_of_stays (fun _ => further_of_value hv) ps

/-- Paths that lead nowhere or to null leave nothing or null behind, and null if one of them leads there. -/
theorem foldlM_further_of_passesOver (hfound : found = none ∨ found = some .null) (h : ∀ p ∈ ps, PassesOver args p) :
    ∃ last, ps.foldlM (further args) found = .ok last ∧ (last = none ∨ last = some .null) ∧
      (last = some .null ↔ found = some .null ∨ ∃ p ∈ ps, FieldPath.resolve args p = .ok (some .null)) := by
  induction ps generalizing found with
  | nil => exact ⟨found, rfl, hfound, by simp⟩
  | cons p ps ih =>
    obtain ⟨hp, hps⟩ := List.forall_mem_cons.1 h
    rw [List.foldlM_cons, further_of_null hfound, List.exists_mem_cons_iff, ← or_assoc]
    rcases hp with hp | hp
    · have hfind : resolve.find args p = .ok none := by rw [resolve.find, hp]; rfl
      obtain ⟨last, hlast, hends, hnull⟩ := ih hfound hps
      refine ⟨last, ?_, hends, ?_⟩
      · rw [hfind]
        exact hlast
      · rw [hnull, hp]
        simp
    · have hfind : resolve.find args p = .ok (some .null) := by rw [resolve.find, hp]; rfl
      -- a path that leads to null leaves null behind, and null is passed over like nothing
      obtain ⟨last, hlast, hends, hnull⟩ := ih (.inr rfl) hps
      refine ⟨last, ?_, hends, ?_⟩
      · rw [hfind]
        exact hlast
      · rw [hnull, hp]
        simp

/-- A check for which all paths lead nowhere finds nothing. -/
theorem resolve_of_absent (h : ∀ p ∈ check.paths, FieldPath.resolve args p = .ok none) :
    check.resolve args = .ok none := by
  obtain ⟨last, hlast, hends, hnull⟩ := foldlM_further_of_passesOver (.inl rfl) fun p hp => .inl (h p hp)
  have hnot : last ≠ some .null := by
    intro hlast
    rcases hnull.1 hlast with hnone | ⟨p, hp, hleads⟩
    · cases hnone
    · rw [h p hp] at hleads
      cases hleads
  rw [resolve_eq, hlast, hends.resolve_right hnot]

/-- Where the paths before it lead nowhere or to null, a path says what the check finds, unless it does so, too. -/
theorem resolve_of_before (hpaths : check.paths = before ++ path :: after) (hbefore : ∀ p ∈ before, PassesOver args p) :
    ∃ found, (found = none ∨ found = some .null) ∧
      check.resolve args = ((resolve.find args path).map (·.or found) >>= after.foldlM (further args)) := by
  obtain ⟨last, hlast, hends, -⟩ := foldlM_further_of_passesOver (.inl rfl) hbefore
  refine ⟨last, hends, ?_⟩
  rw [resolve_eq, hpaths, List.foldlM_append, hlast]
  show (path :: after).foldlM (further args) last = _
  rw [List.foldlM_cons, further_of_null hends]

/-- What a check finds. The first of its paths that leads to something other than null says what it is, or why it
cannot be told, whatever paths come after it, also such as go wrong themselves. If there is none, it is null if some
path leads to null, and else nothing. -/
theorem resolve_falls_back (check : Check) (args : Value) :
    (∀ before path after, check.paths = before ++ path :: after → (∀ p ∈ before, PassesOver args p) →
      (∀ v, v ≠ .null → FieldPath.resolve args path = .ok (some v) → check.resolve args = .ok (some v)) ∧
      ∀ e, FieldPath.resolve args path = .error e → check.resolve args = .error (.index e)) ∧
    ((∀ p ∈ check.paths, PassesOver args p) →
      ((∃ p ∈ check.paths, FieldPath.resolve args p = .ok (some .null)) → check.resolve args = .ok (some .null)) ∧
      ((∀ p ∈ check.paths, FieldPath.resolve args p = .ok none) → check.resolve args = .ok none)) := by
  constructor
  · intro before path after hpaths hbefore
    obtain ⟨found, -, hresolve⟩ := resolve_of_before hpaths hbefore
    refine ⟨fun v hv hpath => ?_, fun e hpath => ?_⟩
    · rw [hresolve, resolve.find, hpath]
      exact foldlM_further_of_value hv
    · rw [hresolve, resolve.find, hpath]
      rfl
  · intro hpasses
    refine ⟨fun hnull => ?_, resolve_of_absent⟩
    obtain ⟨last, hlast, -, hiff⟩ := foldlM_further_of_passesOver (.inl rfl) hpasses
    rw [resolve_eq, hlast, hiff.2 (.inr hnull)]

theorem resolve_of_segments {segments : List String} (hne : path.isEmpty = false)
    (h : FieldPath.segments path = segments) : FieldPath.resolve args path = FieldPath.walk args segments := by
  unfold FieldPath.resolve
  rw [hne, h]
  rfl

/-- A check of a name with three fallbacks. -/
def ofName : Check := { path := "name", test := .present, fallbacks := ["meta.name", "names.0", "names.²"] }

/-- Arguments without a name of their own, but with a list of names. -/
def named : Value := .record [("name", .null), ("names", .list [.str "rg"])]

theorem step_named (segment : String) : FieldPath.step named segment =
    .ok (if "name" = segment then some .null else if "names" = segment then some (.list [.str "rg"]) else none) := by
  by_cases hname : "name" = segment <;> by_cases hnames : "names" = segment <;>
    simp [FieldPath.step, named, Value.record, Value.field?, Value.get?, Value.same, hname, hnames]

/-- Their name is null, and there is nothing under `meta`. So the check finds the first of the names, though its last
fallback asks for a name with a number that is none. -/
theorem ofName_falls_back :
    FieldPath.resolve named "names.²" = .error (.notDecimal "²") ∧ ofName.resolve named = .ok (some (.str "rg")) := by
  have hname : FieldPath.resolve named "name" = .ok (some .null) := by
    rw [resolve_of_segments (by decide) (by decide : FieldPath.segments "name" = ["name"])]
    simp [FieldPath.walk, step_named]
  have hmeta : FieldPath.resolve named "meta.name" = .ok none := by
    rw [resolve_of_segments (by decide) (by decide : FieldPath.segments "meta.name" = ["meta", "name"])]
    simp [FieldPath.walk, step_named]
  have hfirst : FieldPath.step (.list [.str "rg"]) "0" = .ok (some (.str "rg")) := by rfl
  have hnames : FieldPath.resolve named "names.0" = .ok (some (.str "rg")) := by
    rw [resolve_of_segments (by decide) (by decide : FieldPath.segments "names.0" = ["names", "0"])]
    simp [FieldPath.walk, step_named, hfirst]
  have hsquare : FieldPath.step (.list [.str "rg"]) "²" = .error (.notDecimal "²") := by rfl
  have hfails : FieldPath.resolve named "names.²" = .error (.notDecimal "²") := by
    rw [resolve_of_segments (by decide) (by decide : FieldPath.segments "names.²" = ["names", "²"])]
    simp [FieldPath.walk, step_named, hsquare]
  have hbefore : ∀ p ∈ ["name", "meta.name"], PassesOver named p :=
    List.forall_mem_cons.2 ⟨.inr hname, List.forall_mem_singleton.2 (.inl hmeta)⟩
  have hfound := ((resolve_falls_back ofName named).1 ["name", "meta.name"] "names.0" ["names.²"] rfl hbefore).1
  exact ⟨hfails, hfound (.str "rg") (by simp) hnames⟩

end PolicyGate.Check
