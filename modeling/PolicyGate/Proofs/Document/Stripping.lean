import PolicyGate.Document.Unrecognized
import PolicyGate.Proofs.Document.Sections

/-!
# Documents without unrecognized entries

Stripping takes the entries that no field is named for out of all records of a document, wherever a record may
stand; some names can be spared. It commutes with reading (`Shape.read_strip`), and what is still unrecognized
stands under a name that is spared (`Shape.spared_of_unrecognized`). Policies and advice say the same without what
has been taken out.
-/

namespace PolicyGate

open Attempt

namespace Shape

open Value

/-! ## What is taken out -/

mutual

/-- A value without the entries of its records that no field is named for. In records with a label those under
the names that are spared for the label stay. -/
def strip (spared : String → List String) : Shape → Value → Value
  | .list item, .list vs => .list (vs.map fun v => item.strip spared v)
  | .list item, .set vs => .set (vs.map fun v => item.strip spared v)
  | .dictionary item, .map entries => .map (entries.map fun (k, v) => (k, item.strip spared v))
  | .record label fields, .map entries => .map <| entries.filterMap fun (k, v) =>
      match k with
      | .str s =>
        ((stripAt spared fields s v).or (if s ∈ spared label then some v else none)).map (k, ·)
      | _ => none
  | .nullable shape, v => shape.strip spared v
  | .textOr shape, v => shape.strip spared v
  | _, v => v

/-- What is left of the value of a field, if there is a field with the name. -/
def stripAt (spared : String → List String) : Fields → String → Value → Option Value
  | .none, _, _ => none
  | .field name _ shape others, key, v =>
    if name = key then some (shape.strip spared v) else stripAt spared others key v

end

mutual

/-- No record in the shape has two fields of one name. -/
def isProper : Shape → Bool
  | .list item | .dictionary item => item.isProper
  | .record _ fields => areProper fields
  | .nullable shape | .textOr shape => shape.isProper
  | _ => true

/-- The fields have different names, and proper shapes. -/
def areProper : Fields → Bool
  | .none => true
  | .field name _ shape others => name ∉ others.names && shape.isProper && areProper others

end

/-- There is no record in the shape. -/
def isBare : Shape → Bool
  | .list item | .dictionary item => item.isBare
  | .record _ _ => false
  | .nullable shape | .textOr shape => shape.isBare
  | _ => true

variable {spared : String → List String} {label key : String} {fields : Fields} {shape : Shape}
  {entries known others : List (Value × Value)} {v w : Value}

theorem stripAt_eq : stripAt spared fields key v = (fields.shape? key).map fun shape => shape.strip spared v := by
  induction fields using Fields.names.induct with
  | case1 => rw [stripAt, Fields.shape?, Option.map_none]
  | case2 name required shape others ih =>
    rw [stripAt, Fields.shape?]
    split
    · rfl
    · exact ih

/-- What is left of an entry of a record: that of a field has been stripped, and any other one is spared or
not. -/
def kept (spared : String → List String) (label : String) (fields : Fields) (key : String) (v : Value) :
    Option Value :=
  match fields.shape? key with
  | some shape => some (shape.strip spared v)
  | none => if key ∈ spared label then some v else none

/-- What is left of the entries of a record. -/
def keptEntries (spared : String → List String) (label : String) (fields : Fields)
    (entries : List (Value × Value)) : List (Value × Value) :=
  entries.filterMap fun (k, v) =>
    match k with
    | .str s => (kept spared label fields s v).map (k, ·)
    | _ => none

theorem strip_record : (record label fields).strip spared (.map entries) =
    .map (keptEntries spared label fields entries) := by
  rw [strip, keptEntries]
  refine congrArg _ (List.filterMap_congr fun e _ => ?_)
  obtain ⟨k, v⟩ := e
  cases k with
  | str s =>
    simp only [stripAt_eq, kept]
    cases fields.shape? s <;> rfl
  | _ => rfl

theorem keptEntries_append : keptEntries spared label fields (entries ++ others) =
    keptEntries spared label fields entries ++ keptEntries spared label fields others :=
  List.filterMap_append

theorem keptEntries_str_cons : keptEntries spared label fields ((.str key, v) :: entries) =
    ((kept spared label fields key v).map (Value.str key, ·)).toList ++ keptEntries spared label fields entries := by
  simp only [keptEntries, List.filterMap_cons]
  cases kept spared label fields key v <;> rfl

theorem keptEntries_cons_of_not_str {k : Value} (hk : ∀ s, k ≠ .str s) :
    keptEntries spared label fields ((k, v) :: entries) = keptEntries spared label fields entries := by
  cases k with
  | str s => exact absurd rfl (hk s)
  | _ => rfl

theorem field?_keptEntries :
    field? (keptEntries spared label fields entries) key =
      (field? entries key).bind (kept spared label fields key) := by
  induction entries with
  | nil => rfl
  | cons e rest ih =>
    obtain ⟨k, v⟩ := e
    by_cases hk : ∃ s, k = .str s
    · obtain ⟨s, rfl⟩ := hk
      rw [keptEntries_str_cons, field?_append, ih, field?_str_cons]
      by_cases hs : s = key
      · subst hs
        rw [if_pos rfl, Option.bind_some]
        -- a name that is not kept is not kept at any other place either
        cases hv : kept spared label fields s v with
        | some w => simp [field?_str_cons]
        | none =>
          have hnone : ∀ w, kept spared label fields s w = none := by
            intro w
            unfold kept at hv ⊢
            split at hv
            · cases hv
            · split at hv
              · cases hv
              · rename_i hspared
                rw [if_neg hspared]
          simp only [Option.map_none, Option.toList_none, field?_nil, Option.none_or]
          cases field? rest s with
          | none => rfl
          | some w => exact hnone w
      · rw [if_neg hs]
        cases kept spared label fields s v with
        | none => simp [field?_nil]
        | some w => simp [field?_str_cons, field?_nil, hs]
    · have hkey : same k (.str key) ≠ true := fun h => hk ⟨key, same_str_iff.1 h⟩
      rw [keptEntries_cons_of_not_str fun s h => hk ⟨s, h⟩, field?_cons, if_neg hkey, ih]

/-! ## The kind of a value -/

/-- A value stays as it is, or it is a collection and stays one of its kind. -/
theorem strip_cases : (shape : Shape) → (v : Value) → shape.strip spared v = v ∨
    (∃ vs ws, v = .list vs ∧ shape.strip spared v = .list ws) ∨
    (∃ vs ws, v = .set vs ∧ shape.strip spared v = .set ws) ∨
    ∃ es fs, v = .map es ∧ shape.strip spared v = .map fs
  | .nullable shape, v => by
    rw [strip]
    exact strip_cases shape v
  | .textOr shape, v => by
    rw [strip]
    exact strip_cases shape v
  | .list item, v => by
    cases v with
    | list vs => exact .inr (.inl ⟨vs, _, rfl, by rw [strip]⟩)
    | set vs => exact .inr (.inr (.inl ⟨vs, _, rfl, by rw [strip]⟩))
    | _ => exact .inl (by simp [strip])
  | .dictionary item, v => by
    cases v with
    | map es => exact .inr (.inr (.inr ⟨es, _, rfl, by rw [strip]⟩))
    | _ => exact .inl (by simp [strip])
  | .record label fields, v => by
    cases v with
    | map es => exact .inr (.inr (.inr ⟨es, _, rfl, strip_record⟩))
    | _ => exact .inl (by simp [strip])
  | .anything, v | .text, v | .flag, v | .whole, v | .word _, v | .version _, v => .inl (by simp [strip])

theorem strip_null : shape.strip spared .null = .null := by
  rcases @strip_cases spared shape .null with h | ⟨_, _, h, -⟩ | ⟨_, _, h, -⟩ | ⟨_, _, h, -⟩
  · exact h
  · cases h
  · cases h
  · cases h

theorem strip_ne_null (h : v ≠ .null) : shape.strip spared v ≠ .null := by
  rcases @strip_cases spared shape v with hv | ⟨_, _, -, hv⟩ | ⟨_, _, -, hv⟩ | ⟨_, _, -, hv⟩ <;>
    simp [hv, h]

theorem asText_strip : (shape.strip spared v).asText = v.asText := by
  rcases @strip_cases spared shape v with
    hv | ⟨vs, ws, rfl, hv⟩ | ⟨vs, ws, rfl, hv⟩ | ⟨es, fs, rfl, hv⟩
  · rw [hv]
  · rw [hv]
    rfl
  · rw [hv]
    rfl
  · rw [hv]
    rfl

theorem strip_str {s : String} : shape.strip spared (.str s) = .str s := by
  rcases @strip_cases spared shape (.str s) with h | ⟨_, _, h, -⟩ | ⟨_, _, h, -⟩ | ⟨_, _, h, -⟩
  · exact h
  · cases h
  · cases h
  · cases h

/-- Where no record may stand, nothing is taken out. -/
theorem strip_of_isBare : (shape : Shape) → shape.isBare = true → (v : Value) → shape.strip spared v = v
  | .nullable shape, h, v => by
    rw [strip]
    exact strip_of_isBare shape h v
  | .textOr shape, h, v => by
    rw [strip]
    exact strip_of_isBare shape h v
  | .list item, h, v => by
    have hitem : (fun v => item.strip spared v) = id := funext (strip_of_isBare item h)
    cases v <;> simp [strip, hitem]
  | .dictionary item, h, v => by
    have hitem : ∀ v, item.strip spared v = v := strip_of_isBare item h
    cases v <;> simp [strip, hitem]
  | .record label fields, h, v => by cases h
  | .anything, _, v | .text, _, v | .flag, _, v | .whole, _, v | .word _, _, v | .version _, _, v => by
    simp [strip]

theorem kept_of_shape? (hs : fields.shape? key = some shape) :
    kept spared label fields key v = some (shape.strip spared v) := by
  rw [kept, hs]

/-! ### Some of the fields of a record -/

variable {name : String} {required : Bool} {rest whole : Fields}

theorem shape?_whole
    (h : ∀ key ∈ (Fields.field name required shape rest).names,
      whole.shape? key = (Fields.field name required shape rest).shape? key) :
    whole.shape? name = some shape := by
  rw [h name List.mem_cons_self, Fields.shape?, if_pos rfl]

/-- Fields of a record under their own names, less the first of them. -/
theorem others_of_areProper (hp : areProper (.field name required shape rest) = true)
    (h : ∀ key ∈ (Fields.field name required shape rest).names,
      whole.shape? key = (Fields.field name required shape rest).shape? key) :
    shape.isProper = true ∧ areProper rest = true ∧
      ∀ key ∈ rest.names, whole.shape? key = rest.shape? key := by
  rw [areProper, Bool.and_eq_true, Bool.and_eq_true, decide_eq_true_eq] at hp
  obtain ⟨⟨hname, hshape⟩, hrest⟩ := hp
  refine ⟨hshape, hrest, fun key hkey => ?_⟩
  have hne : name ≠ key := fun heq => hname (heq ▸ hkey)
  rw [h key (List.mem_cons_of_mem _ hkey), Fields.shape?, if_neg hne]

/-! ## Reading what is left -/

theorem map_strip_put {item : Shape} {k : Value} :
    (put entries k v).map (fun (k, v) => (k, item.strip spared v)) =
      put (entries.map fun (k, v) => (k, item.strip spared v)) k (item.strip spared v) := by
  induction entries with
  | nil => rfl
  | cons e rest ih =>
    obtain ⟨k', v'⟩ := e
    rw [put, List.map_cons, put]
    split
    · rfl
    · rw [List.map_cons, ih]

theorem map_strip_foldl_put {item : Shape} :
    (entries.foldl (fun done (k, v) => put done k v) known).map (fun (k, v) => (k, item.strip spared v)) =
      (entries.map fun (k, v) => (k, item.strip spared v)).foldl (fun done (k, v) => put done k v)
        (known.map fun (k, v) => (k, item.strip spared v)) := by
  induction entries generalizing known with
  | nil => rfl
  | cons e rest ih => rw [List.foldl_cons, ih, map_strip_put, List.map_cons, List.foldl_cons]

/-- What no field is named for and is kept is what is kept of what no field is named for. -/
theorem bag_keptEntries : bag fields.names (keptEntries spared label fields entries) =
    keptEntries spared label fields (bag fields.names entries) := by
  induction entries with
  | nil => rfl
  | cons e rest ih =>
    obtain ⟨k, v⟩ := e
    -- an entry whose key is no text is in the bag, but it is not kept
    by_cases hk : ∃ s, k = .str s
    · obtain ⟨s, rfl⟩ := hk
      rw [keptEntries_str_cons, bag_cons_str]
      have happend : ∀ es fs, bag fields.names (es ++ fs) = bag fields.names es ++ bag fields.names fs :=
        fun es fs => List.filter_append ..
      rw [happend, ih]
      split
      · cases kept spared label fields s v with
        | none => rfl
        | some w =>
          rw [Option.map_some, Option.toList_some, bag_cons_str, if_pos ‹_›]
          rfl
      · rw [keptEntries_str_cons]
        cases kept spared label fields s v with
        | none => rfl
        | some w =>
          rw [Option.map_some, Option.toList_some, bag_cons_str, if_neg ‹_›]
          rfl
    · have hnot : ∀ s, k ≠ .str s := fun s h => hk ⟨s, h⟩
      rw [keptEntries_cons_of_not_str hnot, bag_cons_of_not_str hnot, keptEntries_cons_of_not_str hnot, ih]

mutual

/-- What is left of a value can be read, and it comes to what is left of what the value came to. -/
theorem read_strip : (shape : Shape) → shape.isProper = true → {v w : Value} →
    shape.read v = .ok (.value w) → shape.read (shape.strip spared v) = .ok (.value (shape.strip spared w))
  | .list item, hp, v, w, h => by
    obtain ⟨vs, ws, hv, rfl, hitems⟩ := read_list_eq_value.1 h
    have hstripped : List.Forall₂ (fun x y => item.read x = .ok (.value y))
        (vs.map fun v => item.strip spared v) (ws.map fun w => item.strip spared w) := by
      rw [List.forall₂_map_left_iff, List.forall₂_map_right_iff]
      exact hitems.imp fun x y hxy => read_strip item hp hxy
    rcases hv with rfl | rfl
    · rw [strip, strip]
      exact read_list_eq_value.2 ⟨_, _, .inl rfl, rfl, hstripped⟩
    · rw [strip, strip]
      exact read_list_eq_value.2 ⟨_, _, .inr rfl, rfl, hstripped⟩
  | .dictionary item, hp, v, w, h => by
    obtain ⟨entries, read, rfl, rfl, hread⟩ := read_dictionary_iff.1 h
    rw [strip, strip, map_strip_foldl_put]
    refine read_dictionary_iff.2 ⟨_, _, rfl, rfl, ?_⟩
    rw [List.forall₂_map_left_iff, List.forall₂_map_right_iff]
    exact hread.imp fun e r her => ⟨her.1, read_strip item hp her.2⟩
  | .record label fields, hp, v, w, h => by
    obtain ⟨entries, known, further, rfl, rfl, hknown, hfurther⟩ := read_record_eq_value.1 h
    obtain ⟨hkeys, rfl⟩ := readFurther_eq_value.1 hfurther
    rw [strip_record, strip_record, keptEntries_append]
    refine read_record_eq_value.2 ⟨_, _, _, rfl, rfl, ?_, readFurther_eq_value.2 ⟨?_, bag_keptEntries.symm⟩⟩
    · exact readFields_strip label fields fields hp (fun _ _ => rfl) hknown
    · intro e he
      obtain ⟨⟨k, x⟩, hmem, hkept⟩ := List.mem_filterMap.1 he
      obtain ⟨s, rfl⟩ := hkeys _ hmem
      obtain ⟨y, -, rfl⟩ := Option.map_eq_some_iff.1 hkept
      exact ⟨s, rfl⟩
  | .nullable shape, hp, v, w, h => by
    rw [strip, strip]
    by_cases hv : v = .null
    · subst hv
      rw [read] at h
      cases h
      rw [strip_null, read]
    · rw [read_nullable_of_ne_null hv] at h
      rw [read_nullable_of_ne_null (strip_ne_null hv)]
      exact read_strip shape hp h
  | .textOr shape, hp, v, w, h => by
    -- stripping changes nothing about what can be taken for a text
    rw [strip, strip, read, asText_strip]
    rw [read] at h
    cases hv : v.asText with
    | ok s =>
      rw [hv] at h
      cases h
      rw [strip_str]
    | error message =>
      rw [hv] at h
      obtain ⟨r, hr, h⟩ := bind_eq_ok.1 h
      cases r with
      | value x =>
        cases h
        simp only [read_strip shape hp hr]
        rfl
      | faulty cs => cases h
  | .anything, _, v, w, h | .text, _, v, w, h | .flag, _, v, w, h | .whole, _, v, w, h
  | .word _, _, v, w, h | .version _, _, v, w, h => by
    rw [strip_of_isBare _ rfl, strip_of_isBare _ rfl]
    exact h

/-- The same for some of the fields of a record. -/
theorem readFields_strip (label : String) (whole : Fields) : (fields : Fields) → areProper fields = true →
    (∀ key ∈ fields.names, whole.shape? key = fields.shape? key) → {entries known : List (Value × Value)} →
    readFields fields entries = .ok (.value known) →
    readFields fields (keptEntries spared label whole entries) =
      .ok (.value (keptEntries spared label whole known))
  | .none, _, _, entries, known, h => by
    rw [readFields] at h ⊢
    simp only [Except.ok.injEq, Reading.value.injEq] at h
    rw [← h]
    rfl
  | .field name required shape others, hp, hwhole, entries, known, h => by
    obtain ⟨hshape, hothers, hwhole'⟩ := others_of_areProper hp hwhole
    obtain ⟨first, rest, rfl, hrest, hfirst⟩ := readFields_eq_value.1 h
    have hkept : ∀ x, kept spared label whole name x = some (shape.strip spared x) :=
      fun x => kept_of_shape? (shape?_whole hwhole)
    rw [keptEntries_append]
    refine readFields_eq_value.2
      ⟨_, _, rfl, readFields_strip label whole others hothers hwhole' hrest, ?_⟩
    rw [field?_keptEntries]
    cases hx : field? entries name with
    | none =>
      rw [hx] at hfirst
      rw [Option.bind_none, hfirst.2]
      exact ⟨hfirst.1, rfl⟩
    | some x =>
      rw [hx] at hfirst
      obtain ⟨y, hy, rfl⟩ := hfirst
      rw [Option.bind_some, hkept, keptEntries_str_cons, hkept]
      exact ⟨_, read_strip shape hshape hy, rfl⟩

end

/-! ## What is not left -/

/-- What no field is named for is left only under a name that is spared. -/
theorem spared_of_mem_bag {e : Value × Value}
    (h : e ∈ bag fields.names (keptEntries spared label fields entries)) : ∃ s ∈ spared label, e.1 = .str s := by
  obtain ⟨hmem, hbag⟩ := List.mem_filter.1 h
  obtain ⟨⟨k, x⟩, -, hkept⟩ := List.mem_filterMap.1 hmem
  cases k with
  | str s =>
    obtain ⟨y, hy, rfl⟩ := Option.map_eq_some_iff.1 hkept
    have hs : fields.shape? s = none := Fields.shape?_eq_none_iff.2 (by simpa using hbag)
    rw [kept, hs] at hy
    by_cases hspared : s ∈ spared label
    · exact ⟨s, hspared, rfl⟩
    · rw [if_neg hspared] at hy
      cases hy
  | _ => cases hkept

/-- Entries of a record that are unrecognized, and stand under names that are spared. -/
def AreSpared (spared : String → List String) (own : List (Value × Value)) : Prop :=
  own ≠ [] ∧ ∃ label, ∀ e ∈ own, ∃ s ∈ spared label, e.1 = .str s

mutual

/-- What is still unrecognized when everything but the spared names has been taken out. -/
theorem spared_of_unrecognized : (shape : Shape) → shape.isProper = true → {path : String} → {v : Value} →
    ∀ found ∈ shape.unrecognized path (shape.strip spared v), AreSpared spared found.2
  | .list item, hp, path, v => by
    cases v with
    | list vs =>
      rw [strip, unrecognized]
      intro found hfound
      obtain ⟨⟨x, i⟩, hx, hfound⟩ := List.mem_flatMap.1 hfound
      obtain ⟨y, -, rfl⟩ := List.mem_map.1 (List.fst_mem_of_mem_zipIdx hx)
      exact spared_of_unrecognized item hp found hfound
    | _ => simp [strip, unrecognized]
  | .dictionary item, hp, path, v => by
    cases v with
    | map es =>
      rw [strip, unrecognized]
      intro found hfound
      obtain ⟨⟨k, x⟩, hx, hfound⟩ := List.mem_flatMap.1 hfound
      obtain ⟨⟨k', y⟩, -, heq⟩ := List.mem_map.1 hx
      cases heq
      exact spared_of_unrecognized item hp found hfound
    | _ => simp [strip, unrecognized]
  | .record label fields, hp, path, v => by
    cases v with
    | map es =>
      rw [strip_record, unrecognized]
      intro found hfound
      -- what is found is in the bag of the record itself, or in one of its fields
      rcases List.mem_append.1 hfound with hown | hfound
      · split at hown
        · cases hown
        · rename_i hne
          obtain rfl := List.mem_singleton.1 hown
          exact ⟨by simpa using hne, label, fun e he => spared_of_mem_bag he⟩
      · exact spared_of_fieldsUnrecognized label fields fields hp (fun _ _ => rfl) found hfound
    | _ => simp [strip, unrecognized]
  | .nullable shape, hp, path, v => by
    rw [strip, unrecognized]
    exact spared_of_unrecognized shape hp
  | .textOr shape, hp, path, v => by
    rw [strip, unrecognized]
    exact spared_of_unrecognized shape hp
  | .anything, _, _, v | .text, _, _, v | .flag, _, _, v | .whole, _, _, v | .word _, _, _, v
  | .version _, _, _, v => by simp [unrecognized]

/-- The same for some of the fields of a record. -/
theorem spared_of_fieldsUnrecognized (label : String) (whole : Fields) : (fields : Fields) →
    areProper fields = true → (∀ key ∈ fields.names, whole.shape? key = fields.shape? key) →
    {path : String} → {entries : List (Value × Value)} →
    ∀ found ∈ fieldsUnrecognized fields path (keptEntries spared label whole entries), AreSpared spared found.2
  | .none, _, _, path, entries => by simp [fieldsUnrecognized]
  | .field name required shape others, hp, hwhole, path, entries => by
    obtain ⟨hshape, hothers, hwhole'⟩ := others_of_areProper hp hwhole
    rw [fieldsUnrecognized, field?_keptEntries]
    intro found hfound
    rcases List.mem_append.1 hfound with hfound | hfound
    · cases hx : field? entries name with
      | none =>
        rw [hx] at hfound
        cases hfound
      | some x =>
        rw [hx, Option.bind_some, kept_of_shape? (shape?_whole hwhole)] at hfound
        exact spared_of_unrecognized shape hshape found hfound
    · exact spared_of_fieldsUnrecognized label whole others hothers hwhole' found hfound

end

/-! ## The fields of what is left -/

theorem entries?_strip_record : ((record label fields).strip spared v).entries? =
    v.entries?.map (keptEntries spared label fields) := by
  cases v with
  | map es =>
    rw [strip_record]
    rfl
  | _ => simp [strip, entries?]

theorem field?_strip_record : field? (((record label fields).strip spared v).entries?.getD []) key =
    (field? (v.entries?.getD []) key).bind (kept spared label fields key) := by
  rw [entries?_strip_record]
  cases hes : v.entries? with
  | none => rfl
  | some es =>
    rw [Option.map_some, Option.getD_some, Option.getD_some]
    exact field?_keptEntries

/-- A field has what is left of its value. -/
theorem field_strip (hs : fields.shape? key = some shape) :
    ((record label fields).strip spared v).field key = shape.strip spared (v.field key) := by
  rw [field, field?_strip_record, field]
  cases field? (v.entries?.getD []) key with
  | none => exact strip_null.symm
  | some x => rw [Option.bind_some, kept_of_shape? hs, Option.getD_some, Option.getD_some]

theorem field?_strip_of_isBare (h : (fields.shape? key).any isBare = true) :
    field? (((record label fields).strip spared v).entries?.getD []) key =
      field? (v.entries?.getD []) key := by
  obtain ⟨shape, hs, hbare⟩ := Option.any_eq_true .. |>.1 h
  rw [field?_strip_record]
  cases field? (v.entries?.getD []) key with
  | none => rfl
  | some x => rw [Option.bind_some, kept_of_shape? hs, strip_of_isBare shape hbare]

/-- A field in which no record may stand has the value it had. -/
theorem field_strip_of_isBare (h : (fields.shape? key).any isBare = true) :
    ((record label fields).strip spared v).field key = v.field key := by
  rw [field, field?_strip_of_isBare h, field]

theorem list?_strip {item : Shape} : ((list item).strip spared v).list? =
    v.list?.map (List.map fun x => item.strip spared x) := by
  cases v <;> simp [strip, list?]

theorem namedEntries_strip {item : Shape} : ((dictionary item).strip spared v).namedEntries =
    v.namedEntries.map fun (name, x) => (name, item.strip spared x) := by
  cases v with
  | map es =>
    simp only [strip, namedEntries, entries?, Option.getD_some, List.filterMap_map, List.map_filterMap]
    refine List.filterMap_congr fun e _ => ?_
    obtain ⟨k, x⟩ := e
    cases k <;> rfl
  | _ => simp [strip, namedEntries, entries?]

theorem mapping?_strip_record : ((record label fields).strip spared v).mapping? =
    v.mapping?.map ((record label fields).strip spared) := by
  cases v with
  | map es =>
    rw [strip_record]
    exact congrArg some strip_record.symm
  | _ => simp [strip, mapping?]

end Shape

/-! ## What documents say -/

theorem Schema.isProper_document : document.isProper = true := by decide +kernel

/-! A value of a shape says the same as what is left of it. -/

variable {spared : String → List String} {v : Value}

open Shape

theorem CheckSpec.ofValue_strip : ofValue (Schema.checkSpec.strip spared v) = ofValue v := by
  rw [Schema.checkSpec]
  simp (disch := decide) only [ofValue, field_strip_of_isBare, field?_strip_of_isBare]

theorem TargetSpec.ofValue_strip : ofValue (Schema.targetSpec.strip spared v) = ofValue v := by
  rw [Schema.targetSpec]
  simp (disch := decide) only [ofValue, field_strip_of_isBare]

theorem SuggestSpec.ofValue?_strip :
    ofValue? ((Shape.nullable (.textOr Schema.suggestSpec)).strip spared v) = ofValue? v := by
  rw [strip, strip, Schema.suggestSpec]
  cases v with
  | map es =>
    rw [strip_record]
    simp only [ofValue?, ← strip_record]
    simp (disch := decide) only [field_strip_of_isBare]
  | _ => simp [strip]

/-- A list says the same if what is left of its elements does. -/
theorem Shape.map_list?_strip {α : Type} {item : Shape} {f : Value → α}
    (h : ∀ x, f (item.strip spared x) = f x) :
    (((Shape.list item).strip spared v).list?.getD []).map f = (v.list?.getD []).map f := by
  rw [list?_strip]
  cases v.list? with
  | none => rfl
  | some vs => simp [h]

theorem CheckSpec.listOfValue_strip :
    listOfValue ((Shape.list Schema.checkSpec).strip spared v) = listOfValue v :=
  map_list?_strip fun _ => ofValue_strip

theorem PolicySpec.ofValue_strip : ofValue (Schema.rawPolicy.strip spared v) = ofValue v := by
  have htarget : (Schema.rawPolicy.strip spared v).field "target" =
      Schema.targetSpec.strip spared (v.field "target") := field_strip rfl
  have hchecks : (Schema.rawPolicy.strip spared v).field "checks" =
      (Shape.list Schema.checkSpec).strip spared (v.field "checks") := field_strip rfl
  have hsuggest : (Schema.rawPolicy.strip spared v).field "suggest" =
      (Shape.nullable (.textOr Schema.suggestSpec)).strip spared (v.field "suggest") := field_strip rfl
  rw [ofValue, htarget, hchecks, hsuggest, TargetSpec.ofValue_strip, CheckSpec.listOfValue_strip,
    SuggestSpec.ofValue?_strip, Schema.rawPolicy]
  simp (disch := decide) only [field_strip_of_isBare]
  rfl

theorem PolicySpec.listOfValue_strip :
    listOfValue ((Shape.list Schema.rawPolicy).strip spared v) = listOfValue v :=
  map_list?_strip fun _ => ofValue_strip

theorem AdvisoryRule.ofValue_strip : ofValue (Schema.advisoryRule.strip spared v) = ofValue v := by
  have hchecks : (Schema.advisoryRule.strip spared v).field "checks" =
      (Shape.list Schema.checkSpec).strip spared (v.field "checks") := field_strip rfl
  rw [ofValue, hchecks, CheckSpec.listOfValue_strip, Schema.advisoryRule]
  simp (disch := decide) only [field_strip_of_isBare]
  rfl

theorem AdvisoryDomain.ofValue_strip : ofValue (Schema.advisoryDomain.strip spared v) = ofValue v := by
  have htarget : (Schema.advisoryDomain.strip spared v).field "target" =
      Schema.targetSpec.strip spared (v.field "target") := (field_strip rfl).trans (by rw [strip])
  have hrules : (Schema.advisoryDomain.strip spared v).field "rules" =
      (Shape.dictionary Schema.advisoryRule).strip spared (v.field "rules") := field_strip rfl
  have hmapping : (Schema.targetSpec.strip spared (v.field "target")).mapping? =
      (v.field "target").mapping?.map (Schema.targetSpec.strip spared) := mapping?_strip_record
  rw [ofValue, htarget, hrules, hmapping, namedEntries_strip, List.map_map]
  simp only [Option.map_map, Function.comp_def, AdvisoryRule.ofValue_strip, TargetSpec.ofValue_strip]
  rfl

theorem Advisory.ofValue_strip : ofValue (Schema.advisory.strip spared v) = ofValue v := by
  have hprofiles : (Schema.advisory.strip spared v).field "profiles" =
      (Shape.dictionary (.dictionary Schema.advisoryDomain)).strip spared (v.field "profiles") :=
    field_strip rfl
  have hpolicies : (Schema.advisory.strip spared v).field "policies" =
      (Shape.list Schema.rawPolicy).strip spared (v.field "policies") := field_strip rfl
  rw [ofValue, hprofiles, hpolicies, namedEntries_strip, PolicySpec.listOfValue_strip, List.map_map]
  simp only [Function.comp_def, namedEntries_strip, List.map_map, AdvisoryDomain.ofValue_strip]
  rw [Schema.advisory]
  simp (disch := decide) only [field_strip_of_isBare]
  rfl

end PolicyGate
