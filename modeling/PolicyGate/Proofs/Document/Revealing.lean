import PolicyGate.Proofs.Document.Bags
import PolicyGate.Proofs.Document.Removal
import PolicyGate.Proofs.Document.Reporting

/-!
# What the strict look reveals

Of all that the strict look says, only the reports of further entries end with a bracket. They are found exactly
where there is something unrecognized, whatever else strays from the shape (`Shape.reveals_drift`): deviations are
left out in favour of others only when they are about the kind of a value, and alternatives are not tried after one
that fits.
-/

namespace PolicyGate

open Attempt Value Document

/-! ## Reports of further entries -/

/-- The names of entries. -/
def keyTexts (entries : List (Value × Value)) : List String := entries.filterMap (·.1.str?)

/-- The names of entries in order. -/
def sortedKeys (entries : List (Value × Value)) : List String :=
  (keyTexts entries).mergeSort fun a b => !(b < a)

/-- The message that names keys as unexpected. -/
def unexpected (keys : List String) : String :=
  "Additional properties are not allowed (" ++ String.intercalate ", " (keys.map Quoted.text) ++ " " ++
    (if keys.length = 1 then "was" else "were") ++ " unexpected)"

/-- What is said about further entries: all of their names are unexpected. -/
def furtherMessage (entries : List (Value × Value)) : String := unexpected (sortedKeys entries)

/-- Of all that the strict look says, only this ends with a bracket. -/
def saysFurther (message : String) : Bool := message.toList.getLast? == some ')'

theorem saysFurther_append {a b : String} (hb : b.toList ≠ []) : saysFurther (a ++ b) = saysFurther b := by
  rw [saysFurther, String.toList_append, List.getLast?_append_of_ne_nil _ hb, saysFurther]

/-- The reports of further entries among the leaves of deviations. -/
def furtherReports (ds : List Deviation) : List (DriftPath × String) :=
  (ds.flatMap Deviation.leaves).filter fun leaf => saysFurther leaf.2

/-- The deviations report further entries in this way, and none that is about a kind does. -/
structure Reveals (ds : List Deviation) (reports : List (DriftPath × String)) : Prop where
  kinds : ∀ d ∈ ds, d.isKind = true → furtherReports [d] = []
  reports : furtherReports ds = reports

namespace Reveals

open Shape

variable {ds ds' : List Deviation} {reports reports' : List (DriftPath × String)} {path : DriftPath} {v : Value}

theorem nil : Reveals [] [] where
  kinds d hd := by cases hd
  reports := rfl

theorem eq_nil (h : Reveals [] reports) : reports = [] := h.reports.symm

theorem furtherReports_append : furtherReports (ds ++ ds') = furtherReports ds ++ furtherReports ds' := by
  rw [furtherReports, List.flatMap_append, List.filter_append]
  rfl

theorem furtherReports_cons {d : Deviation} : furtherReports (d :: ds) = furtherReports [d] ++ furtherReports ds :=
  @furtherReports_append [d] ds

theorem append (h : Reveals ds reports) (h' : Reveals ds' reports') : Reveals (ds ++ ds') (reports ++ reports') where
  kinds d hd hk := by
    rcases List.mem_append.1 hd with hd | hd
    · exact h.kinds d hd hk
    · exact h'.kinds d hd hk
  reports := by rw [furtherReports_append, h.reports, h'.reports]

theorem flatten {α : Type} {xs : List α} {parts : List (List Deviation)} {f : α → List (DriftPath × String)}
    (h : List.Forall₂ (fun x ds => Reveals ds (f x)) xs parts) : Reveals parts.flatten (xs.flatMap f) := by
  induction h with
  | nil => exact nil
  | cons hx _ ih => exact hx.append ih

/-- A deviation that is not about further entries. -/
theorem quiet {d : Deviation} {message : String} (hd : d.leaves = [(path, message)])
    (hm : saysFurther message = false) : Reveals [d] [] := by
  have hnone : furtherReports [d] = [] := by
    rw [furtherReports, List.flatMap_singleton, hd, List.filter_cons_of_neg (by simp [hm]), List.filter_nil]
  refine ⟨fun d' hd' _ => ?_, hnone⟩
  rw [List.mem_singleton.1 hd']
  exact hnone

theorem ofKind {kind : String} {holds : Bool} (h : Shape.ofKind kind holds path v = .ok ds) : Reveals ds [] := by
  unfold Shape.ofKind at h
  split at h
  · cases h
    exact nil
  · obtain ⟨s, -, h⟩ := bind_eq_ok.1 h
    cases h
    exact quiet (by rw [Deviation.leaves]) ((saysFurther_append (by decide)).trans (by decide))

theorem wordDrift {allowed : List String} (h : Shape.wordDrift allowed path v = .ok ds) : Reveals ds [] := by
  -- whether the word is listed, and how the list is written, does not matter
  have hlisted : ∀ (listed : Bool) words, (if listed then
      pure [] >>= fun first => do return first ++ (← Shape.ofKind "string" (isText v) path v)
    else do
      let first ← pure [.other path ((← shown v) ++ " is not one of [" ++ words ++ "]")]
      return first ++ (← Shape.ofKind "string" (isText v) path v)) = .ok ds → Reveals ds [] := by
    intro listed words h
    split at h
    · obtain ⟨first, hfirst, h⟩ := bind_eq_ok.1 h
      obtain ⟨rest, hrest, h⟩ := bind_eq_ok.1 h
      obtain rfl := pure_eq_ok.1 hfirst
      obtain rfl := pure_eq_ok.1 h
      exact nil.append (ofKind hrest)
    · obtain ⟨s, -, h⟩ := bind_eq_ok.1 h
      obtain ⟨first, hfirst, h⟩ := bind_eq_ok.1 h
      obtain ⟨rest, hrest, h⟩ := bind_eq_ok.1 h
      obtain rfl := pure_eq_ok.1 hfirst
      obtain rfl := pure_eq_ok.1 h
      refine append (quiet (by rw [Deviation.leaves]) ?_) (ofKind hrest)
      exact (saysFurther_append (by decide)).trans (by decide)
  exact hlisted _ _ h

/-! ### Alternatives -/

/-- Leaving out deviations about kinds leaves out no report of further entries. -/
theorem reports_leavesOf {withoutKinds : Bool} (h : ∀ d ∈ ds, d.isKind = true → furtherReports [d] = []) :
    (Deviation.leavesOf withoutKinds ds).filter (fun leaf => saysFurther leaf.2) = furtherReports ds := by
  induction ds with
  | nil => rfl
  | cons d rest ih =>
    rw [Deviation.leavesOf, List.filter_append, furtherReports_cons,
      ih fun d' hd' => h d' (List.mem_cons_of_mem _ hd')]
    refine congrArg (· ++ _) ?_
    split
    · rename_i hskip
      rw [Bool.and_eq_true] at hskip
      rw [h d List.mem_cons_self hskip.2]
      rfl
    · rw [furtherReports, List.flatMap_singleton]

theorem alternatives (h : Reveals ds reports) : Reveals [.alternatives ds] reports where
  kinds d hd hk := by
    obtain rfl := List.mem_singleton.1 hd
    cases hk
  reports := by
    rw [furtherReports, List.flatMap_singleton, Deviation.leaves, reports_leavesOf h.kinds, h.reports]

end Reveals

namespace Shape

variable {ds : List Deviation} {path : DriftPath} {v raw : Value} {entries known : List (Value × Value)}
  {attempts : List (Unit → Except DriftError (List Deviation))} {place : Place} {names : List String}

/-- An alternative fits, or none does and all their deviations stand together. -/
theorem fromAlternatives_eq_ok (h : fromAlternatives v attempts = .ok ds) :
    (ds = [] ∧ ∃ attempt ∈ attempts, attempt () = .ok []) ∨
      ∃ parts, List.Forall₂ (fun attempt part => attempt () = .ok part ∧ part ≠ []) attempts parts ∧
        ds = [.alternatives parts.flatten] := by
  -- the search hands on what it has found, which comes before the rest
  have hgo : ∀ found, fromAlternatives.go v found attempts = .ok ds →
      (ds = [] ∧ ∃ attempt ∈ attempts, attempt () = .ok []) ∨
        ∃ parts, List.Forall₂ (fun attempt part => attempt () = .ok part ∧ part ≠ []) attempts parts ∧
          ds = [.alternatives (found ++ parts.flatten)] := by
    clear h
    induction attempts with
    | nil =>
      intro found h
      rw [fromAlternatives.go] at h
      obtain ⟨_, -, h⟩ := bind_eq_ok.1 h
      obtain rfl := pure_eq_ok.1 h
      exact .inr ⟨[], .nil, by simp⟩
    | cons attempt rest ih =>
      intro found h
      rw [fromAlternatives.go] at h
      obtain ⟨part, hpart, h⟩ := bind_eq_ok.1 h
      cases part with
      | nil => exact .inl ⟨(pure_eq_ok.1 h).symm, attempt, List.mem_cons_self, hpart⟩
      | cons d tail =>
        rcases ih _ h with ⟨hds, attempt', hmem, hfits⟩ | ⟨parts, hparts, hds⟩
        · exact .inl ⟨hds, attempt', List.mem_cons_of_mem _ hmem, hfits⟩
        · refine .inr ⟨(d :: tail) :: parts, .cons ⟨hpart, List.cons_ne_nil _ _⟩ hparts, ?_⟩
          rw [hds, List.flatten_cons, List.append_assoc]
  exact hgo [] h

/-- If an alternative fits, then there is no deviation. -/
theorem fromAlternatives_eq_nil {attempt : Unit → Except DriftError (List Deviation)}
    (hmem : attempt ∈ attempts) (hfits : attempt () = .ok []) (h : fromAlternatives v attempts = .ok ds) :
    ds = [] := by
  rcases fromAlternatives_eq_ok h with ⟨hds, -⟩ | ⟨parts, hparts, -⟩
  · exact hds
  · obtain ⟨part, -, hpart, hne⟩ := partner_of_mem_left hparts hmem
    rw [hfits] at hpart
    exact absurd (Except.ok.inj hpart).symm hne

/-- Alternatives reveal what each of them reveals, provided that there is nothing when one of them fits. -/
theorem reveals_fromAlternatives {reports : List (List (DriftPath × String))}
    (hall : List.Forall₂ (fun attempt part => ∀ ds, attempt () = .ok ds → Reveals ds part) attempts reports)
    (hfits : ∀ attempt ∈ attempts, attempt () = .ok [] → reports.flatten = [])
    (h : fromAlternatives v attempts = .ok ds) : Reveals ds reports.flatten := by
  rcases fromAlternatives_eq_ok h with ⟨rfl, attempt, hmem, hnone⟩ | ⟨parts, hparts, rfl⟩
  · rw [hfits attempt hmem hnone]
    exact .nil
  · refine Reveals.alternatives ?_
    clear h hfits
    induction hparts generalizing reports with
    | nil =>
      cases hall
      exact .nil
    | cons hpart _ ih =>
      cases hall with
      | cons hreveals hrest => exact (hreveals _ hpart.1).append (ih hrest)

/-! ### Further entries -/

theorem map_keyTexts (hkeys : ∀ e ∈ entries, ∃ s, e.1 = .str s) : (keyTexts entries).map .str = entries.map (·.1) := by
  rw [keyTexts, List.map_filterMap]
  have hsome : ∀ e ∈ entries, Option.map Value.str e.1.str? = some e.1 := by
    intro e he
    obtain ⟨s, hs⟩ := hkeys e he
    rw [hs]
    rfl
  rw [List.filterMap_congr hsome]
  exact List.filterMap_eq_map ▸ rfl

/-- A key that no field is named for. -/
def isFurther (names : List String) (key : Value) : Bool :=
  match key with
  | .str s => !names.contains s
  | _ => true

/-- A key with its text. -/
def keyed (key : Value) : Except DriftError (String × Value) :=
  match key.text? with
  | some s => .ok (s, key)
  | none => .error .tooManyDigits

/-- Keys that are texts are put in order as texts. -/
theorem furtherKeys_of_texts (hkeys : ∀ e ∈ entries, ∃ s, e.1 = .str s) :
    furtherKeys names entries = .ok ((sortedKeys (bag names entries)).map .str) := by
  have hbag : ∀ e ∈ bag names entries, ∃ s, e.1 = .str s := fun e he => hkeys e (List.mem_of_mem_filter he)
  have hfurther : (entries.map (·.1)).filter (isFurther names) = (keyTexts (bag names entries)).map .str := by
    rw [map_keyTexts hbag, List.filter_map, bag]
    rfl
  have htexts : ∀ keys : List String, (keys.map Value.str).mapM keyed = .ok (keys.map fun s => (s, Value.str s)) := by
    intro keys
    rw [mapM_eq_ok, List.forall₂_map_left_iff, List.forall₂_map_right_iff]
    exact List.forall₂_same.2 fun s _ => rfl
  refine bind_eq_ok.2 ⟨_, (congrArg _ hfurther).trans (htexts _), ?_⟩
  rw [sortedKeys, ← List.map_mergeSort (s := fun a b : String × Value => !(b.1 < a.1)) (r := fun a b : String => !(b < a))]
  · rw [List.map_map]
    rfl
  · intro a _ b _
    rfl

theorem isEmpty_sortedKeys (hkeys : ∀ e ∈ entries, ∃ s, e.1 = .str s) :
    sortedKeys entries = [] ↔ entries.isEmpty = true := by
  rw [← List.length_eq_zero_iff, sortedKeys, List.length_mergeSort, ← List.length_map (f := Value.str),
    map_keyTexts hkeys, List.length_map, List.length_eq_zero_iff, List.isEmpty_iff]

/-- The report about what is unrecognized at a place. -/
def report (found : Place × List (Value × Value)) : DriftPath × String :=
  (.ok found.1.path, furtherMessage found.2)

theorem furtherDrift_of_keys {keys : List String} (hne : keys ≠ [])
    (hkeys : furtherKeys names entries = .ok (keys.map .str)) :
    furtherDrift names path entries = .ok [.other path (unexpected keys)] := by
  have hshown : (keys.map Value.str).mapM shown = .ok (keys.map Quoted.text) := by
    rw [mapM_eq_ok, List.forall₂_map_left_iff, List.forall₂_map_right_iff]
    exact List.forall₂_same.2 fun s _ => rfl
  obtain ⟨key, rest, rfl⟩ := List.exists_cons_of_ne_nil hne
  refine bind_eq_ok.2 ⟨_, hkeys, bind_eq_ok.2 ⟨_, hshown, ?_⟩⟩
  rw [List.length_map]
  rfl

/-- Further entries of a record are reported if there are any. -/
theorem reveals_furtherDrift (hkeys : ∀ e ∈ entries, ∃ s, e.1 = .str s)
    (h : furtherDrift names (.ok place.path) entries = .ok ds) :
    Reveals ds ((if (bag names entries).isEmpty then [] else [(place, bag names entries)]).map report) := by
  have hbag : ∀ e ∈ bag names entries, ∃ s, e.1 = .str s := fun e he => hkeys e (List.mem_of_mem_filter he)
  by_cases hempty : (bag names entries).isEmpty = true
  · rw [furtherDrift, furtherKeys_of_texts hkeys, (isEmpty_sortedKeys hbag).2 hempty] at h
    cases h
    rw [if_pos hempty]
    exact .nil
  · rw [furtherDrift_of_keys (mt (isEmpty_sortedKeys hbag).1 hempty) (furtherKeys_of_texts hkeys)] at h
    cases h
    have hsays : saysFurther (furtherMessage (bag names entries)) = true :=
      (saysFurther_append (by decide)).trans (by decide)
    rw [if_neg hempty]
    constructor
    · intro d hd hk
      rw [List.mem_singleton.1 hd] at hk
      cases hk
    · rw [furtherReports, List.flatMap_singleton, Deviation.leaves]
      exact List.filter_cons_of_pos hsays

/-! ### All shapes -/

theorem reveals_all {α : Type} {f : α → Except DriftError (List Deviation)} {g : α → List (DriftPath × String)}
    {xs : List α} (hf : ∀ x ∈ xs, ∀ ds, f x = .ok ds → Reveals ds (g x))
    (h : (do return (← xs.mapM f).flatten) = .ok ds) : Reveals ds (xs.flatMap g) := by
  obtain ⟨parts, hparts, h⟩ := bind_eq_ok.1 h
  obtain rfl := pure_eq_ok.1 h
  have hboth := (List.forall₂_and_left xs parts).2 ⟨hf, mapM_eq_ok.1 hparts⟩
  exact Reveals.flatten (hboth.imp fun x ds hx => hx.1 ds hx.2)

theorem isNull_of_fits (h : ofKind "null" (isNull v) path v = .ok []) : v = .null := by
  unfold ofKind at h
  split at h
  · rename_i hnull
    cases v <;> first | rfl | cases hnull
  · obtain ⟨_, -, h⟩ := bind_eq_ok.1 h
    cases h

theorem isText_of_fits (h : ofKind "string" (isText v) path v = .ok []) : ∃ s, v = .str s := by
  unfold ofKind at h
  split at h
  · rename_i htext
    cases v with
    | str s => exact ⟨s, rfl⟩
    | _ => cases htext
  · obtain ⟨_, -, h⟩ := bind_eq_ok.1 h
    cases h

variable {shape : Shape} {found : List (DriftPath × String)}

/-- The alternatives of versions, and of texts and shapes, are joined by null as one more. -/
theorem drift_nullable (hversion : ∀ allowed, shape ≠ .version allowed) (htext : ∀ other, shape ≠ .textOr other) :
    (nullable shape).drift path v =
      fromAlternatives v [fun _ => shape.drift path v, fun _ => ofKind "null" (isNull v) path v] := by
  rw [drift]
  · exact hversion
  · exact htext

/-- Of a shape and null only the shape can reveal something. -/
theorem reveals_orNull (hshape : ∀ ds, shape.drift path v = .ok ds → Reveals ds found)
    (hnull : v = .null → found = [])
    (h : fromAlternatives v [fun _ => shape.drift path v, fun _ => ofKind "null" (isNull v) path v] = .ok ds) :
    Reveals ds found := by
  have hall : List.Forall₂ (fun attempt part => ∀ ds, attempt () = .ok ds → Reveals ds part)
      [fun _ => shape.drift path v, fun _ : Unit => ofKind "null" (isNull v) path v] [found, []] :=
    .cons hshape (.cons (fun _ => .ofKind) .nil)
  have hflat : [found, []].flatten = found := by simp
  rw [← hflat]
  refine reveals_fromAlternatives hall (fun attempt hmem hfits => ?_) h
  rw [hflat]
  simp only [List.mem_cons, List.not_mem_nil, or_false] at hmem
  rcases hmem with rfl | rfl
  · exact (hshape [] hfits).eq_nil
  · exact hnull (isNull_of_fits hfits)

/-- Of a text and a shape, and perhaps null, only the shape can reveal something. -/
theorem reveals_textOr {others : List (Unit → Except DriftError (List Deviation))}
    (hshape : ∀ ds, shape.drift path v = .ok ds → Reveals ds found)
    (hsingle : (∃ s, v = .str s) ∨ v = .null → found = [])
    (hothers : others = [] ∨ others = [fun _ => ofKind "null" (isNull v) path v])
    (h : fromAlternatives v ((fun _ => ofKind "string" (isText v) path v) :: (fun _ => shape.drift path v) ::
      others) = .ok ds) : Reveals ds found := by
  have hnull : ∀ attempt ∈ others, attempt = fun _ => ofKind "null" (isNull v) path v := by
    rcases hothers with rfl | rfl
    · simp
    · simp
  have hall : List.Forall₂ (fun attempt part => ∀ ds, attempt () = .ok ds → Reveals ds part)
      ((fun _ : Unit => ofKind "string" (isText v) path v) :: (fun _ => shape.drift path v) :: others)
      ([] :: found :: others.map fun _ => []) := by
    refine .cons (fun _ => .ofKind) (.cons hshape ?_)
    rw [List.forall₂_map_right_iff, List.forall₂_same]
    intro attempt hmem ds hds
    rw [hnull attempt hmem] at hds
    exact .ofKind hds
  have hflat : ([] :: found :: others.map fun _ => ([] : List (DriftPath × String))).flatten = found := by simp
  rw [← hflat]
  refine reveals_fromAlternatives hall (fun attempt hmem hfits => ?_) h
  -- an alternative that fits has the last word, and then there is nothing to reveal
  rw [hflat]
  rcases List.mem_cons.1 hmem with rfl | hmem
  · exact hsingle (.inl (isText_of_fits hfits))
  rcases List.mem_cons.1 hmem with rfl | hmem
  · exact (hshape [] hfits).eq_nil
  · rw [hnull attempt hmem] at hfits
    exact hsingle (.inr (isNull_of_fits hfits))

/-- Where nothing is revealed by any alternative, nothing is revealed. -/
theorem reveals_nothing {attempts : List (Unit → Except DriftError (List Deviation))}
    (hall : ∀ attempt ∈ attempts, ∀ ds, attempt () = .ok ds → Reveals ds [])
    (h : fromAlternatives v attempts = .ok ds) : Reveals ds [] := by
  have hparts : List.Forall₂ (fun attempt part => ∀ ds, attempt () = .ok ds → Reveals ds part) attempts
      (attempts.map fun _ => []) := by
    rw [List.forall₂_map_right_iff, List.forall₂_same]
    exact hall
  have hflat : (attempts.map fun _ => ([] : List (DriftPath × String))).flatten = [] := by simp
  rw [← hflat]
  exact reveals_fromAlternatives hparts (fun _ _ _ => hflat) h

theorem reveals_version {allowed : List String}
    (h : fromAlternatives v [fun _ => wordDrift allowed path v, fun _ => ofKind "number" (isNumber v) path v] =
      .ok ds) : Reveals ds [] := by
  refine reveals_nothing (fun attempt hmem ds hds => ?_) h
  simp only [List.mem_cons, List.not_mem_nil, or_false] at hmem
  rcases hmem with rfl | rfl
  · exact .wordDrift hds
  · exact .ofKind hds

theorem unrecognizedAt_single (h : (∃ s, v = .str s) ∨ v = .null) : shape.unrecognizedAt place v = [] := by
  rcases h with ⟨s, rfl⟩ | rfl
  · exact unrecognizedAt_eq_nil (by simp) (by simp) shape
  · exact unrecognizedAt_eq_nil (by simp) (by simp) shape

mutual

/-- Looking at a plain value reveals what is unrecognized in it. -/
theorem reveals_drift : (shape : Shape) → (place : Place) → {v : Value} → v.IsJson → {ds : List Deviation} →
    shape.drift (.ok place.path) v = .ok ds → Reveals ds ((shape.unrecognizedAt place v).map report)
  | .list item, place, v, hj, ds, h => by
    cases v with
    | list vs =>
      rw [drift] at h
      rw [unrecognizedAt, List.map_flatMap]
      refine reveals_all (fun ⟨x, i⟩ hx ds hds => ?_) h
      dsimp only at hds
      rw [Place.element_path] at hds
      exact reveals_drift item _ (hj.item (List.fst_mem_of_mem_zipIdx hx)) hds
    | _ =>
      simp only [drift] at h
      simpa [unrecognizedAt] using Reveals.ofKind h
  | .dictionary item, place, v, hj, ds, h => by
    cases v with
    | map es =>
      rw [drift] at h
      rw [unrecognizedAt, List.map_flatMap]
      refine reveals_all (fun ⟨k, x⟩ hx ds hds => ?_) h
      obtain ⟨s, rfl⟩ : ∃ s, k = .str s := hj.keys _ hx
      dsimp only at hds
      rw [Place.entry_path] at hds
      exact reveals_drift item _ (hj.value hx) hds
    | _ =>
      simp only [drift] at h
      simpa [unrecognizedAt] using Reveals.ofKind h
  | .record label fields, place, v, hj, ds, h => by
    cases v with
    | map es =>
      rw [drift] at h
      obtain ⟨further, hfurther, h⟩ := bind_eq_ok.1 h
      obtain ⟨known, hknown, h⟩ := bind_eq_ok.1 h
      obtain rfl := pure_eq_ok.1 h
      rw [unrecognizedAt, List.map_append]
      exact (reveals_furtherDrift hj.keys hfurther).append (reveals_fieldsDrift fields place hj hknown)
    | _ =>
      simp only [drift] at h
      simpa [unrecognizedAt] using Reveals.ofKind h
  | .nullable (.version allowed), place, v, hj, ds, h => by
    rw [drift] at h
    have hnone : (Shape.nullable (.version allowed)).unrecognizedAt place v = [] := by
      rw [unrecognizedAt]
      simp [unrecognizedAt]
    rw [hnone]
    refine reveals_nothing (fun attempt hmem ds hds => ?_) h
    simp only [List.mem_cons, List.not_mem_nil, or_false] at hmem
    rcases hmem with rfl | rfl | rfl
    · exact .wordDrift hds
    · exact .ofKind hds
    · exact .ofKind hds
  | .nullable (.textOr shape), place, v, hj, ds, h => by
    rw [drift] at h
    rw [unrecognizedAt, unrecognizedAt]
    exact reveals_textOr (fun ds hds => reveals_drift shape place hj hds)
      (fun hsingle => by rw [unrecognizedAt_single hsingle, List.map_nil]) (.inr rfl) h
  | .textOr shape, place, v, hj, ds, h => by
    rw [drift] at h
    rw [unrecognizedAt]
    exact reveals_textOr (fun ds hds => reveals_drift shape place hj hds)
      (fun hsingle => by rw [unrecognizedAt_single hsingle, List.map_nil]) (.inl rfl) h
  | .nullable .anything, place, v, hj, ds, h | .nullable .text, place, v, hj, ds, h
  | .nullable .flag, place, v, hj, ds, h | .nullable .whole, place, v, hj, ds, h
  | .nullable (.word _), place, v, hj, ds, h | .nullable (.list _), place, v, hj, ds, h
  | .nullable (.dictionary _), place, v, hj, ds, h | .nullable (.record _ _), place, v, hj, ds, h
  | .nullable (.nullable _), place, v, hj, ds, h => by
    rw [unrecognizedAt]
    rw [drift_nullable (by simp) (by simp)] at h
    exact reveals_orNull (fun ds hds => reveals_drift _ place hj hds)
      (fun hnull => by rw [unrecognizedAt_single (.inr hnull), List.map_nil]) h
  | .anything, place, v, hj, ds, h => by
    rw [drift] at h
    cases h
    simpa [unrecognizedAt] using Reveals.nil
  | .text, place, v, hj, ds, h | .flag, place, v, hj, ds, h | .whole, place, v, hj, ds, h => by
    rw [drift] at h
    simpa [unrecognizedAt] using Reveals.ofKind h
  | .word allowed, place, v, hj, ds, h => by
    rw [drift] at h
    simpa [unrecognizedAt] using Reveals.wordDrift h
  | .version allowed, place, v, hj, ds, h => by
    rw [drift] at h
    simpa [unrecognizedAt] using reveals_version h

/-- The same for the fields of a mapping. -/
theorem reveals_fieldsDrift : (fields : Fields) → (place : Place) → {entries : List (Value × Value)} →
    (Value.map entries).IsJson → {ds : List Deviation} → fieldsDrift fields (.ok place.path) entries = .ok ds →
    Reveals ds ((fieldsUnrecognizedAt fields place entries).map report)
  | .none, place, entries, hj, ds, h => by
    rw [fieldsDrift] at h
    cases h
    rw [fieldsUnrecognizedAt]
    exact .nil
  | .field name required shape others, place, entries, hj, ds, h => by
    obtain ⟨first, rest, rfl, hrest, hfirst⟩ := fieldsDrift_eq_ok.1 h
    rw [fieldsUnrecognizedAt, List.map_append]
    refine Reveals.append ?_ (reveals_fieldsDrift others place hj hrest)
    cases hx : field? entries name with
    | some x =>
      rw [hx] at hfirst
      rw [Place.entry_path] at hfirst
      exact reveals_drift shape _ (hj.value (mem_of_field? hx)) hfirst
    | none =>
      rw [hx] at hfirst
      rw [hfirst]
      split
      · refine .quiet (by rw [Deviation.leaves]) ?_
        exact (saysFurther_append (by decide)).trans (by decide)
      · exact .nil

end

end Shape
end PolicyGate
