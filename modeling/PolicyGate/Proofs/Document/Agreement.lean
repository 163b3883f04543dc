import PolicyGate.Policy.RuleSet
import PolicyGate.Proofs.Document.Revealing

/-!
# The two looks at a document agree

The strict look reports further entries exactly where the lenient one leaves something unrecognized
(`Document.looks_agree`): at the same places, with the names of all that is unrecognized there. And it says nothing
else about a document in which every field has a value of its kind (`Shape.isFurther_of_drift`).
-/

namespace PolicyGate

open Attempt Value Document

namespace Shape

variable {ds : List Deviation} {path : DriftPath} {v raw : Value} {entries : List (Value × Value)} {shape : Shape}
  {attempts : List (Unit → Except DriftError (List Deviation))} {names : List String}

/-! ## Values of the right kinds -/

mutual

/-- All that a shape speaks of has the kind it should have, and need not be coerced. -/
def isTyped : Shape → Value → Bool
  | .anything, _ => true
  | .text, v => isText v
  | .flag, v => v.isFlag
  | .whole, v => isWhole v
  | .word _, v => isText v
  | .version _, v => isText v || isNumber v
  | .list item, .list vs => vs.all fun v => item.isTyped v
  | .dictionary item, .map entries => entries.all fun e => item.isTyped e.2
  | .record _ fields, .map entries => areTyped fields entries
  | .nullable shape, v => isNull v || shape.isTyped v
  | .textOr shape, v => isText v || shape.isTyped v
  | _, _ => false

/-- The same for the fields of a mapping. -/
def areTyped : Fields → List (Value × Value) → Bool
  | .none, _ => true
  | .field name _ shape others, entries =>
    (match Value.field? entries name with
      | some v => shape.isTyped v
      | none => true) && areTyped others entries

end

/-- The deviation speaks of further entries only. -/
structure IsFurther (d : Deviation) : Prop where
  notKind : d.isKind = false
  leaves : ∀ leaf ∈ d.leaves, saysFurther leaf.2 = true

theorem isFurther_of_furtherDrift (hkeys : ∀ e ∈ entries, ∃ s, e.1 = .str s)
    (h : furtherDrift names path entries = .ok ds) : ∀ d ∈ ds, IsFurther d := by
  intro d hd
  by_cases hempty : sortedKeys (bag names entries) = []
  · rw [furtherDrift, furtherKeys_of_texts hkeys, hempty] at h
    cases h
    cases hd
  · rw [furtherDrift_of_keys hempty (furtherKeys_of_texts hkeys)] at h
    cases h
    obtain rfl := List.mem_singleton.1 hd
    refine ⟨rfl, fun leaf hleaf => ?_⟩
    rw [Deviation.leaves, List.mem_singleton] at hleaf
    rw [hleaf]
    exact (saysFurther_append (by decide)).trans (by decide)

/-- If an alternative speaks of further entries only, and the others of kinds, then all of them together speak of
further entries only. -/
theorem isFurther_of_fromAlternatives {main : Unit → Except DriftError (List Deviation)}
    (hmem : main ∈ attempts) (hmain : ∀ ds, main () = .ok ds → ∀ d ∈ ds, IsFurther d)
    (hothers : ∀ attempt ∈ attempts, attempt ≠ main → ∀ ds, attempt () = .ok ds → ∀ d ∈ ds, d.isKind = true)
    (h : fromAlternatives v attempts = .ok ds) : ∀ d ∈ ds, IsFurther d := by
  rcases fromAlternatives_eq_ok h with ⟨rfl, -⟩ | ⟨parts, hparts, rfl⟩
  · simp
  intro d hd
  obtain rfl := List.mem_singleton.1 hd
  have hall : ∀ d ∈ parts.flatten, d.isKind = false → IsFurther d := by
    intro d hd hk
    obtain ⟨part, hpart, hd⟩ := List.mem_flatten.1 hd
    obtain ⟨attempt, hattempt, hds, -⟩ := partner_of_mem_right hparts hpart
    by_cases hsame : attempt = main
    · exact hmain part (hsame ▸ hds) d hd
    · rw [hothers attempt hattempt hsame part hds d hd] at hk
      cases hk
  -- what the main alternative finds is not about a kind, so it is what counts
  have hsome : (parts.flatten.any fun d => !d.isKind) = true := by
    obtain ⟨part, hpart, hds, hne⟩ := partner_of_mem_left hparts hmem
    obtain ⟨d, rest, rfl⟩ := List.exists_cons_of_ne_nil hne
    have hd := hmain _ hds d List.mem_cons_self
    exact List.any_eq_true.2 ⟨d, List.mem_flatten.2 ⟨_, hpart, List.mem_cons_self⟩, by rw [hd.notKind]; rfl⟩
  refine ⟨rfl, fun leaf hleaf => ?_⟩
  rw [Deviation.leaves, hsome] at hleaf
  obtain ⟨d, hd, hk, hleaf⟩ := Deviation.mem_leavesOf hleaf
  exact (hall d hd (hk rfl)).leaves leaf hleaf

theorem isKind_of_ofKind {kind : String} {holds : Bool} (h : ofKind kind holds path v = .ok ds) :
    ∀ d ∈ ds, d.isKind = true := by
  unfold ofKind at h
  split at h
  · cases h
    simp
  · obtain ⟨s, -, h⟩ := bind_eq_ok.1 h
    cases h
    simp [Deviation.isKind]

theorem mem_of_readWord {allowed : List String} {s : String} {w : Value}
    (h : readWord allowed (.str s) = .value w) : allowed.contains s = true := by
  unfold readWord at h
  dsimp only at h
  split at h
  · assumption
  · cases h

theorem wordDrift_of_mem {allowed : List String} {s : String} (h : allowed.contains s = true) :
    wordDrift allowed path (.str s) = .ok [] := by
  unfold wordDrift
  dsimp only
  rw [if_pos h]
  rfl

/-- A version that is read is one that is listed, if it is a text. -/
theorem version_fits {allowed : List String} {w : Value} (h : (version allowed).read v = .ok (.value w))
    (ht : isText v = true ∨ isNumber v = true) :
    wordDrift allowed path v = .ok [] ∨ ofKind "number" (isNumber v) path v = .ok [] := by
  rcases ht with ht | ht
  · left
    cases v with
    | str s =>
      rw [read] at h
      exact wordDrift_of_mem (mem_of_readWord (Except.ok.inj h))
    | _ => cases ht
  · right
    rw [ht]
    rfl

theorem isFurther_nil (h : ds = []) : ∀ d ∈ ds, IsFurther d := by
  rw [h]
  simp

/-- A fitting alternative leaves nothing to say. -/
theorem isFurther_of_fits {attempt : Unit → Except DriftError (List Deviation)} (hmem : attempt ∈ attempts)
    (hfits : attempt () = .ok []) (h : fromAlternatives v attempts = .ok ds) : ∀ d ∈ ds, IsFurther d :=
  isFurther_nil (fromAlternatives_eq_nil hmem hfits h)

theorem null_fits (h : isNull v = true) : ofKind "null" (isNull v) path v = .ok [] := by
  rw [h]
  rfl

/-- A text, a shape, and perhaps kinds: there is nothing else to say if there is nothing else to say by the shape. -/
theorem isFurther_textOr {others : List (Unit → Except DriftError (List Deviation))}
    (hothers : ∀ attempt ∈ others, ∀ ds, attempt () = .ok ds → ∀ d ∈ ds, d.isKind = true)
    (hshape : isText v = true ∨ ∀ ds, shape.drift path v = .ok ds → ∀ d ∈ ds, IsFurther d)
    (h : fromAlternatives v ((fun _ => ofKind "string" (isText v) path v) :: (fun _ => shape.drift path v) ::
      others) = .ok ds) : ∀ d ∈ ds, IsFurther d := by
  rcases hshape with htext | hshape
  · refine isFurther_of_fits List.mem_cons_self ?_ h
    rw [htext]
    rfl
  · refine isFurther_of_fromAlternatives (List.mem_cons_of_mem _ List.mem_cons_self) hshape ?_ h
    intro attempt hmem hne
    rcases List.mem_cons.1 hmem with rfl | hmem
    · exact fun ds hds => isKind_of_ofKind hds
    rcases List.mem_cons.1 hmem with rfl | hmem
    · exact absurd rfl hne
    · exact hothers attempt hmem

/-- The same for a shape and null. -/
theorem isFurther_orNull
    (hshape : isNull v = true ∨ ∀ ds, shape.drift path v = .ok ds → ∀ d ∈ ds, IsFurther d)
    (h : fromAlternatives v [fun _ => shape.drift path v, fun _ => ofKind "null" (isNull v) path v] = .ok ds) :
    ∀ d ∈ ds, IsFurther d := by
  rcases hshape with hnull | hshape
  · exact isFurther_of_fits (List.mem_cons_of_mem _ List.mem_cons_self) (null_fits hnull) h
  · refine isFurther_of_fromAlternatives List.mem_cons_self hshape ?_ h
    intro attempt hmem hne
    simp only [List.mem_cons, List.not_mem_nil, or_false] at hmem
    rcases hmem with rfl | rfl
    · exact absurd rfl hne
    · exact fun ds hds => isKind_of_ofKind hds

mutual

/-- Looking at a value of the right kinds that can be read, there is nothing to say but about further entries. -/
theorem isFurther_of_drift : (shape : Shape) → {raw v : Value} → raw.IsJson → shape.read raw = .ok (.value v) →
    shape.isTyped raw = true → {path : DriftPath} → {ds : List Deviation} → shape.drift path raw = .ok ds →
    ∀ d ∈ ds, IsFurther d
  | .list item, raw, v, hj, hr, ht, path, ds, h => by
    obtain ⟨vs, ws, hraw, -, hitems⟩ := read_list_eq_value.1 hr
    rcases hraw with rfl | rfl
    · rw [isTyped, List.all_eq_true] at ht
      rw [drift] at h
      obtain ⟨parts, hparts, h⟩ := bind_eq_ok.1 h
      obtain rfl := pure_eq_ok.1 h
      intro d hd
      obtain ⟨part, hpart, hd⟩ := List.mem_flatten.1 hd
      obtain ⟨⟨x, i⟩, hx, hds⟩ := exists_of_mem_mapM hparts hpart
      have hmem := List.fst_mem_of_mem_zipIdx hx
      obtain ⟨y, -, hread⟩ := partner_of_mem_left hitems hmem
      exact isFurther_of_drift item (hj.item hmem) hread (ht x hmem) hds d hd
    · exact absurd hj not_isJson_set
  | .dictionary item, raw, v, hj, hr, ht, path, ds, h => by
    obtain ⟨entries, read, rfl, -, hread⟩ := read_dictionary_of_isJson hj hr
    rw [isTyped, List.all_eq_true] at ht
    rw [drift] at h
    obtain ⟨parts, hparts, h⟩ := bind_eq_ok.1 h
    obtain rfl := pure_eq_ok.1 h
    intro d hd
    obtain ⟨part, hpart, hd⟩ := List.mem_flatten.1 hd
    obtain ⟨⟨k, x⟩, hx, hds⟩ := exists_of_mem_mapM hparts hpart
    obtain ⟨r, -, -, hjson, hvalue⟩ := partner_of_mem_left hread hx
    exact isFurther_of_drift item hjson hvalue (ht _ hx) hds d hd
  | .record label fields, raw, v, hj, hr, ht, path, ds, h => by
    obtain ⟨entries, known, further, rfl, -, hknown, -⟩ := read_record_eq_value.1 hr
    rw [isTyped] at ht
    rw [drift] at h
    obtain ⟨first, hfirst, h⟩ := bind_eq_ok.1 h
    obtain ⟨rest, hrest, h⟩ := bind_eq_ok.1 h
    obtain rfl := pure_eq_ok.1 h
    intro d hd
    rcases List.mem_append.1 hd with hd | hd
    · exact isFurther_of_furtherDrift hj.keys hfirst d hd
    · exact isFurther_of_fieldsDrift fields hj hknown ht hrest d hd
  | .nullable (.version allowed), raw, v, hj, hr, ht, path, ds, h => by
    rw [isTyped, isTyped, Bool.or_eq_true, Bool.or_eq_true] at ht
    rw [drift] at h
    have hnull : isNull raw = true → ∀ d ∈ ds, IsFurther d := fun hnull =>
      isFurther_of_fits (List.mem_cons_of_mem _ (List.mem_cons_of_mem _ List.mem_cons_self)) (null_fits hnull) h
    rcases read_nullable_eq_value hr with ⟨rfl, -⟩ | hr
    · exact hnull rfl
    rcases ht with ht | ht
    · exact hnull ht
    rcases version_fits hr ht with hfits | hfits
    · exact isFurther_of_fits List.mem_cons_self hfits h
    · exact isFurther_of_fits (List.mem_cons_of_mem _ List.mem_cons_self) hfits h
  | .nullable (.textOr shape), raw, v, hj, hr, ht, path, ds, h => by
    rw [isTyped, isTyped, Bool.or_eq_true, Bool.or_eq_true] at ht
    rw [drift] at h
    have hnull : isNull raw = true → ∀ d ∈ ds, IsFurther d := fun hnull =>
      isFurther_of_fits (List.mem_cons_of_mem _ (List.mem_cons_of_mem _ List.mem_cons_self)) (null_fits hnull) h
    rcases read_nullable_eq_value hr with ⟨rfl, -⟩ | hr
    · exact hnull rfl
    rcases ht with ht | ht
    · exact hnull ht
    refine isFurther_textOr (fun attempt hmem ds hds => ?_) ?_ h
    · rw [List.mem_singleton.1 hmem] at hds
      exact isKind_of_ofKind hds
    · rcases read_textOr_of_isJson hj hr with ⟨s, rfl, -⟩ | hr
      · exact .inl rfl
      · exact ht.imp_right fun ht ds hds => isFurther_of_drift shape hj hr ht hds
  | .textOr shape, raw, v, hj, hr, ht, path, ds, h => by
    rw [isTyped, Bool.or_eq_true] at ht
    rw [drift] at h
    refine isFurther_textOr (by simp) ?_ h
    rcases read_textOr_of_isJson hj hr with ⟨s, rfl, -⟩ | hr
    · exact .inl rfl
    · exact ht.imp_right fun ht ds hds => isFurther_of_drift shape hj hr ht hds
  | .nullable .anything, raw, v, hj, hr, ht, path, ds, h | .nullable .text, raw, v, hj, hr, ht, path, ds, h
  | .nullable .flag, raw, v, hj, hr, ht, path, ds, h | .nullable .whole, raw, v, hj, hr, ht, path, ds, h
  | .nullable (.word _), raw, v, hj, hr, ht, path, ds, h | .nullable (.list _), raw, v, hj, hr, ht, path, ds, h
  | .nullable (.dictionary _), raw, v, hj, hr, ht, path, ds, h
  | .nullable (.record _ _), raw, v, hj, hr, ht, path, ds, h
  | .nullable (.nullable _), raw, v, hj, hr, ht, path, ds, h => by
    rw [isTyped, Bool.or_eq_true] at ht
    rw [drift_nullable (by simp) (by simp)] at h
    refine isFurther_orNull ?_ h
    rcases read_nullable_eq_value hr with ⟨rfl, -⟩ | hr
    · exact .inl rfl
    · exact ht.imp_right fun ht ds hds => isFurther_of_drift _ hj hr ht hds
  | .anything, raw, v, hj, hr, ht, path, ds, h => by
    rw [drift] at h
    exact isFurther_nil (Except.ok.inj h).symm
  | .text, raw, v, hj, hr, ht, path, ds, h | .flag, raw, v, hj, hr, ht, path, ds, h
  | .whole, raw, v, hj, hr, ht, path, ds, h => by
    rw [isTyped] at ht
    rw [drift, ht] at h
    exact isFurther_nil (Except.ok.inj h).symm
  | .word allowed, raw, v, hj, hr, ht, path, ds, h => by
    rw [isTyped] at ht
    rw [drift] at h
    cases raw with
    | str s =>
      rw [read] at hr
      rw [wordDrift_of_mem (mem_of_readWord (Except.ok.inj hr))] at h
      exact isFurther_nil (Except.ok.inj h).symm
    | _ => cases ht
  | .version allowed, raw, v, hj, hr, ht, path, ds, h => by
    rw [isTyped, Bool.or_eq_true] at ht
    rw [drift] at h
    rcases version_fits hr ht with hfits | hfits
    · exact isFurther_of_fits List.mem_cons_self hfits h
    · exact isFurther_of_fits (List.mem_cons_of_mem _ List.mem_cons_self) hfits h

/-- The same for the fields of a mapping. -/
theorem isFurther_of_fieldsDrift : (fields : Fields) → {entries known : List (Value × Value)} →
    (Value.map entries).IsJson → readFields fields entries = .ok (.value known) → areTyped fields entries = true →
    {path : DriftPath} → {ds : List Deviation} → fieldsDrift fields path entries = .ok ds →
    ∀ d ∈ ds, IsFurther d
  | .none, entries, known, hj, hr, ht, path, ds, h => by
    rw [fieldsDrift] at h
    exact isFurther_nil (Except.ok.inj h).symm
  | .field name required shape others, entries, known, hj, hr, ht, path, ds, h => by
    obtain ⟨first, rest, rfl, hrest, hfirst⟩ := fieldsDrift_eq_ok.1 h
    obtain ⟨known, knownRest, -, hreadRest, hread⟩ := readFields_eq_value.1 hr
    rw [areTyped, Bool.and_eq_true] at ht
    intro d hd
    rcases List.mem_append.1 hd with hd | hd
    · cases hx : field? entries name with
      | some x =>
        rw [hx] at hfirst hread ht
        obtain ⟨y, hy, -⟩ := hread
        exact isFurther_of_drift shape (hj.value (mem_of_field? hx)) hy ht.1 hfirst d hd
      | none =>
        rw [hx] at hfirst hread
        rw [hread.1] at hfirst
        rw [hfirst] at hd
        cases hd
    · exact isFurther_of_fieldsDrift others hj hreadRest ht.2 hrest d hd

end

end Shape

/-! ## Documents -/

theorem mem_sortedOnce {texts : List String} {text : String} : text ∈ Shape.sortedOnce texts ↔ text ∈ texts := by
  -- what is left out has just been kept
  have hloop : ∀ (rest : List String) (last : String) (kept : List String),
      text ∈ List.eraseRepsBy.loop (· == ·) last rest kept ↔ text = last ∨ text ∈ rest ∨ text ∈ kept := by
    intro rest
    induction rest with
    | nil =>
      intro last kept
      simp [List.eraseRepsBy.loop, or_comm]
    | cons next rest ih =>
      intro last kept
      rw [List.eraseRepsBy.loop]
      split
      · rename_i hsame
        rw [ih, List.mem_cons, beq_iff_eq.1 hsame]
        tauto
      · rw [ih, List.mem_cons, List.mem_cons]
        tauto
  have herase : ∀ sorted : List String, text ∈ sorted.eraseReps ↔ text ∈ sorted := by
    intro sorted
    cases sorted with
    | nil => rfl
    | cons first rest =>
      rw [List.mem_cons]
      exact (hloop rest first []).trans (by simp)
  rw [Shape.sortedOnce, herase, List.mem_mergeSort]

namespace Document

variable {raw v : Value}

/-- The warning that something is unrecognized at a place: the path of the place, and all the names. -/
def warningOf (found : Place × List (Value × Value)) : String := found.1.path ++ ": " ++ furtherMessage found.2

/-- The warning is one about further entries, whatever the path and the names. -/
def IsFurtherWarning (text : String) : Prop :=
  ∃ path names, text = path ++ ": " ++ "Additional properties are not allowed (" ++ names ++ " unexpected)"

/-- The place can be read off the warning. -/
theorem place_of_warningOf {found other : Place × List (Value × Value)} (h : warningOf found = warningOf other) :
    found.1 = other.1 := by
  have hsplit : ∀ found : Place × List (Value × Value),
      warningOf found = found.1.path ++ (":" ++ (" " ++ furtherMessage found.2)) := by
    intro found
    have hcolon : ": " = ":" ++ " " := rfl
    rw [warningOf, hcolon, String.append_assoc, String.append_assoc]
  rw [hsplit, hsplit] at h
  exact Place.path_injective h

theorem isFurtherWarning_warningOf {found : Place × List (Value × Value)} : IsFurtherWarning (warningOf found) := by
  -- the opening words are opaque here, so that they are not taken apart
  have hwords : ∀ path opening names verb : String,
      path ++ ": " ++ (opening ++ names ++ " " ++ verb ++ " unexpected)") =
        path ++ ": " ++ opening ++ (names ++ " " ++ verb) ++ " unexpected)" := by
    intro path opening names verb
    simp only [String.append_assoc]
  exact ⟨_, _, hwords _ _ _ _⟩

theorem saysFurther_of_isFurtherWarning {path message : String}
    (h : IsFurtherWarning (path ++ ": " ++ message)) : saysFurther message = true := by
  obtain ⟨path', names, heq⟩ := h
  have hend : saysFurther (path ++ ": " ++ message) = true := by
    rw [heq]
    exact (saysFurther_append (by decide)).trans (by decide)
  by_cases hempty : message.toList = []
  · rw [String.toList_injective (hempty.trans rfl : message.toList = "".toList), String.append_empty,
      saysFurther_append (by decide)] at hend
    cases hend.symm.trans (by decide : saysFurther ": " = false)
  · rwa [saysFurther_append hempty] at hend

/-- The warnings are the leaves of the deviations, as they are written. -/
theorem mem_strictWarnings {texts : List String} (h : strictWarnings raw = .ok texts) :
    ∃ ds, Schema.document.drift (.ok (Place.path [])) raw = .ok ds ∧ ∀ text, text ∈ texts ↔
      ∃ leaf ∈ ds.flatMap Deviation.leaves, ∃ path, leaf.1 = .ok path ∧ text = path ++ ": " ++ leaf.2 := by
  obtain ⟨ds, hds, h⟩ := bind_eq_ok.1 h
  obtain ⟨written, hwritten, h⟩ := bind_eq_ok.1 h
  obtain rfl := pure_eq_ok.1 h
  have hall := mapM_eq_ok.1 hwritten
  -- a warning is written from one leaf
  have htext : ∀ (leaf : DriftPath × String) (text : String),
      (do return (← leaf.1) ++ ": " ++ leaf.2 : Except DriftError String) = .ok text ↔
        ∃ path, leaf.1 = .ok path ∧ text = path ++ ": " ++ leaf.2 := by
    intro leaf text
    rw [bind_eq_ok]
    simp only [pure_eq_ok, eq_comm (a := text)]
  refine ⟨ds, hds, fun text => ?_⟩
  rw [mem_sortedOnce]
  constructor
  · intro hmem
    obtain ⟨leaf, hleaf, hok⟩ := partner_of_mem_right hall hmem
    exact ⟨leaf, hleaf, (htext leaf text).1 hok⟩
  · rintro ⟨leaf, hleaf, hok⟩
    obtain ⟨text', hmem, hok'⟩ := partner_of_mem_left hall hleaf
    have heq := ((htext leaf text).2 hok).symm.trans hok'
    rwa [Except.ok.inj heq]

/-- In a document of plain values there is no key that has no place in a path. -/
theorem not_keyKind (hj : raw.IsJson) : ¬ raw.Holds HasOddKey := by
  intro hodd
  refine hj (hodd.mono fun w hw => ?_)
  obtain ⟨entries, k, x, rfl, hmem, hstr, -⟩ := hw
  rintro ⟨hkeys, -⟩
  obtain ⟨s, hs⟩ := hkeys _ hmem
  exact hstr s hs

/-- The two looks at a document of plain values agree. The strict one warns of further entries exactly at the places
where the lenient one leaves something unrecognized, once for each place, and names all that is unrecognized there;
it warns of nothing else if every field has a value of its kind. It can only fail by a whole number that is too long
to be written. -/
theorem looks_agree (hj : raw.IsJson) (hr : Document.read raw = .ok v) :
    (∃ texts, strictWarnings raw = .ok texts ∧
      (∀ text, text ∈ texts ∧ IsFurtherWarning text ↔
        ∃ found ∈ Schema.document.unrecognizedAt [] v, text = warningOf found) ∧
      (∀ found ∈ Schema.document.unrecognizedAt [] v, ∀ other ∈ Schema.document.unrecognizedAt [] v,
        warningOf found = warningOf other → found.1 = other.1) ∧
      (Schema.document.isTyped raw = true → ∀ text ∈ texts, IsFurtherWarning text)) ∨
    strictWarnings raw = .error .tooManyDigits ∧ raw.Holds IsLong := by
  have hread := read_eq_ok.1 hr
  rcases exists_ok_or_error (strictWarnings raw) with ⟨texts, htexts⟩ | ⟨e, he⟩
  · left
    obtain ⟨ds, hds, hmem⟩ := mem_strictWarnings htexts
    have hreveals := Shape.reveals_drift Schema.document [] hj hds
    refine ⟨texts, htexts, fun text => ?_, fun found _ other _ h => place_of_warningOf h, fun ht text htext => ?_⟩
    · rw [Shape.unrecognizedAt_read _ Schema.isProper_document hj [] hread]
      constructor
      · rintro ⟨htext, hfurther⟩
        obtain ⟨leaf, hleaf, path, hpath, rfl⟩ := (hmem text).1 htext
        have hreport : leaf ∈ furtherReports ds :=
          List.mem_filter.2 ⟨hleaf, saysFurther_of_isFurtherWarning hfurther⟩
        rw [hreveals.reports] at hreport
        obtain ⟨found, hfound, rfl⟩ := List.mem_map.1 hreport
        cases hpath
        exact ⟨found, hfound, rfl⟩
      · rintro ⟨found, hfound, rfl⟩
        have hreport : Shape.report found ∈ furtherReports ds := by
          rw [hreveals.reports]
          exact List.mem_map_of_mem hfound
        exact ⟨(hmem _).2 ⟨_, List.mem_of_mem_filter hreport, _, rfl, rfl⟩, isFurtherWarning_warningOf⟩
    · -- every leaf says something of further entries, so it is one of the reports
      obtain ⟨leaf, hleaf, path, hpath, rfl⟩ := (hmem text).1 htext
      obtain ⟨d, hd, hleaf'⟩ := List.mem_flatMap.1 hleaf
      have hsays := (Shape.isFurther_of_drift _ hj hread ht hds d hd).leaves leaf hleaf'
      have hreport : leaf ∈ furtherReports ds := List.mem_filter.2 ⟨hleaf, hsays⟩
      rw [hreveals.reports] at hreport
      obtain ⟨found, -, rfl⟩ := List.mem_map.1 hreport
      cases hpath
      exact isFurtherWarning_warningOf
  · right
    have hcause := Shape.warnings_eq_error he
    cases e with
    | tooManyDigits => exact ⟨he, hcause⟩
    | keyKind => exact absurd hcause (not_keyKind hj)

/-- A document with something unrecognized in a section, in a check, in a suggestion and in a domain. -/
def strewn : Value := .record
  [("azure", .record [("create_subnet", .record
    [("require_nsg", .bool true), ("it's", .null), ("extra", .int 1)])]),
   ("policies", .list [.record
    [("id", .str "p"), ("target", .record [("tool", .str "azure.create_subnet")]),
     ("checks", .list [.record [("type", .str "exists"), ("path", .str "a"), ("vaule", .int 1)]]),
     ("suggest", .record [("text", .str "t"), ("fxi", .null)])]]),
   ("ato", .record [("profiles", .record [("my profile", .record [("webapp", .record [("rulez", .record [])])])])])]

/-- The strict look warns of just these four. -/
theorem strewn_looks_agree : ∃ v texts, Document.read strewn = .ok v ∧ strictWarnings strewn = .ok texts ∧
    (Schema.document.unrecognizedAt [] v).length = 4 ∧
    (∀ found ∈ Schema.document.unrecognizedAt [] v, warningOf found ∈ texts) ∧
    ∀ text ∈ texts, ∃ found ∈ Schema.document.unrecognizedAt [] v, text = warningOf found := by
  have hjson : strewn.IsJson := by
    simp [strewn, isJson_record_iff, isJson_list_iff, isJson_str, isJson_bool, isJson_int, isJson_null]
  have hread : ((Document.read strewn).toOption.map fun v => (Schema.document.unrecognizedAt [] v).length) =
      some 4 := by decide +kernel
  have hliteral : strewn.literal?.isSome = true := by decide +kernel
  have htyped : Schema.document.isTyped strewn = true := by decide +kernel
  simp only [Option.map_eq_some_iff, toOption_eq_some] at hread
  obtain ⟨v, hv, hcount⟩ := hread
  rcases looks_agree hjson hv with ⟨texts, htexts, hexact, -, hall⟩ | ⟨-, hlong⟩
  · exact ⟨v, texts, hv, htexts, hcount, fun found hfound => ((hexact _).2 ⟨found, hfound, rfl⟩).1,
      fun text htext => (hexact text).1 ⟨htext, hall htyped text htext⟩⟩
  · rw [(literal?_eq_none_iff _).2 hlong] at hliteral
    cases hliteral

/-- A whole number of more than four thousand digits. -/
def longNumber : Int := .ofNat (Nat.pow 16 3600)

/-- A provider with an unrecognized entry that is this number. -/
def longEntry : Value := .record [("azure", .record [("x", .int longNumber)])]

/-- That document is read, but the strict look at it fails. -/
theorem looks_not_always_agree :
    ¬ ∀ raw v : Value, raw.IsJson → Document.read raw = .ok v → ∃ texts, strictWarnings raw = .ok texts := by
  intro h
  have hjson : longEntry.IsJson := by simp [longEntry, isJson_record_iff, isJson_int]
  have hread : (Document.read longEntry).toOption.isSome = true := by decide +kernel
  have hnone : (strictWarnings longEntry).toOption.isNone = true := by decide +kernel
  obtain ⟨v, hv⟩ := exists_ok_of_isSome hread
  obtain ⟨texts, htexts⟩ := h _ _ hjson hv
  rw [htexts] at hnone
  cases hnone

end Document
end PolicyGate
