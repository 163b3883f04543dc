import PolicyGate.Proofs.Document.Sections

/-!
# Documents without one of their entries

An optional field can be taken out of a record, and what is left can still be read: it comes to the same
without that field (`Shape.read_without`). The strict look at it finds no more than before
(`Shape.exists_warnings_without`).
-/

namespace PolicyGate

namespace Value

variable {entries others : List (Value × Value)} {name key : String}

/-- The entries of a mapping that do not stand under a name. -/
def without (name : String) (entries : List (Value × Value)) : List (Value × Value) :=
  entries.filter fun e => !same e.1 (.str name)

theorem without_append :
    without name (entries ++ others) = without name entries ++ without name others :=
  List.filter_append ..

theorem without_str_cons {v : Value} :
    without name ((.str key, v) :: entries) =
      if key = name then without name entries else (.str key, v) :: without name entries := by
  simp only [without, List.filter_cons]
  by_cases h : key = name <;> simp [same, h]

theorem without_cons_of_not_str {k v : Value} (hk : ∀ s, k ≠ .str s) :
    without name ((k, v) :: entries) = (k, v) :: without name entries := by
  have hsame : same k (.str name) = false := by
    rw [Bool.eq_false_iff]
    exact fun h => hk name (same_str_iff.1 h)
  simp [without, hsame]

theorem field?_without :
    field? (without name entries) key = if key = name then none else field? entries key := by
  induction entries with
  | nil => simp [without, field?_nil]
  | cons e rest ih =>
    obtain ⟨k, v⟩ := e
    by_cases hk : ∃ s, k = .str s
    · obtain ⟨s, rfl⟩ := hk
      rw [without_str_cons, field?_str_cons]
      by_cases hs : s = name
      · rw [if_pos hs, ih]
        subst hs
        by_cases hkey : key = s
        · rw [if_pos hkey, if_pos hkey]
        · rw [if_neg hkey, if_neg hkey, if_neg (Ne.symm hkey)]
      · rw [if_neg hs, field?_str_cons, ih]
        by_cases hkey : s = key
        · rw [if_pos hkey, if_pos hkey, if_neg (hkey ▸ hs)]
        · rw [if_neg hkey, if_neg hkey]
    · have hkey : same k (.str key) ≠ true := fun h => hk ⟨key, same_str_iff.1 h⟩
      rw [without_cons_of_not_str fun s h => hk ⟨s, h⟩, field?_cons, field?_cons, if_neg hkey,
        if_neg hkey, ih]

theorem field_without (h : key ≠ name) :
    (Value.map (without name entries)).field key = (Value.map entries).field key := by
  simp only [field, entries?, Option.getD_some, field?_without, if_neg h]

theorem field_without_self : (Value.map (without name entries)).field name = .null := by
  simp only [field, entries?, Option.getD_some, field?_without, ↓reduceIte, Option.getD_none]

end Value

/-- None of the fields with a name is required. -/
def Fields.IsOptional (name : String) : Fields → Prop
  | .none => True
  | .field name' required _ others => (name' = name → required = false) ∧ others.IsOptional name

namespace Shape

open Attempt Value

variable {entries known : List (Value × Value)} {fields : Fields} {name label : String}

/-! ## The lenient reading -/

theorem readFields_without (hf : fields.IsOptional name)
    (h : readFields fields entries = .ok (.value known)) :
    readFields fields (without name entries) = .ok (.value (without name known)) := by
  induction fields using Fields.names.induct generalizing known with
  | case1 =>
    rw [readFields] at h ⊢
    simp only [Except.ok.injEq, Reading.value.injEq] at h
    rw [← h]
    rfl
  | case2 field required shape others ih =>
    obtain ⟨first, rest, rfl, hrest, hfirst⟩ := readFields_eq_value.1 h
    rw [without_append]
    refine readFields_eq_value.2 ⟨_, _, rfl, ih hf.2 hrest, ?_⟩
    rw [field?_without]
    by_cases hn : field = name
    · -- the field adds nothing any more, and what it had added is what is taken out
      rw [if_pos hn]
      refine ⟨hf.1 hn, ?_⟩
      cases hx : field? entries field with
      | none =>
        rw [hx] at hfirst
        rw [hfirst.2]
        rfl
      | some x =>
        rw [hx] at hfirst
        obtain ⟨y, -, rfl⟩ := hfirst
        rw [without_str_cons, if_pos hn]
        rfl
    · rw [if_neg hn]
      cases hx : field? entries field with
      | none =>
        rw [hx] at hfirst
        exact ⟨hfirst.1, by rw [hfirst.2]; rfl⟩
      | some x =>
        rw [hx] at hfirst
        obtain ⟨y, hy, rfl⟩ := hfirst
        exact ⟨y, hy, by rw [without_str_cons, if_neg hn]; rfl⟩

/-- Entries that no field is named for do not stand under the name of a field. -/
theorem bag_without {names : List String} :
    bag names (without name entries) = without name (bag names entries) := by
  simp only [bag, without, List.filter_filter]
  exact List.filter_congr fun e _ => Bool.and_comm _ _

/-- A record without an optional entry comes to what it came to, without that entry. -/
theorem read_without (hf : fields.IsOptional name)
    (h : (record label fields).read (.map entries) = .ok (.value (.map known))) :
    (record label fields).read (.map (without name entries)) =
      .ok (.value (.map (without name known))) := by
  obtain ⟨es, fs, further, hes, hk, hfields, hfurther⟩ := read_record_eq_value.1 h
  obtain rfl := Value.map.inj hes
  obtain rfl := Value.map.inj hk
  obtain ⟨hkeys, rfl⟩ := readFurther_eq_value.1 hfurther
  refine read_record_eq_value.2 ⟨_, _, _, rfl, by rw [without_append], readFields_without hf hfields, ?_⟩
  exact readFurther_eq_value.2 ⟨fun e he => hkeys e (List.mem_of_mem_filter he), bag_without.symm⟩

/-! ## The strict look -/

variable {path : DriftPath} {ds : List Deviation}

/-- An entry under the name of a field is none of the further ones. -/
theorem furtherKeys_without {names : List String} (hn : name ∈ names) :
    furtherKeys names (without name entries) = furtherKeys names entries := by
  -- further keys are filtered twice, by kind and by name, and neither filter lets the field's name through
  have hfilter : ∀ p : Value → Bool, (∀ k, p k = true → same k (.str name) = false) →
      ((without name entries).map (·.1)).filter p = (entries.map (·.1)).filter p := by
    intro p hp
    rw [List.filter_map, List.filter_map, without, List.filter_filter]
    refine congrArg _ (List.filter_congr fun e _ => ?_)
    cases hpe : p e.1 with
    | true => simp [hpe, hp _ hpe]
    | false => simp [hpe]
  unfold furtherKeys
  rw [hfilter]
  intro k hk
  cases k with
  | str s =>
    rw [Bool.eq_false_iff]
    rintro h
    obtain rfl := Value.str.inj (same_str_iff.1 h)
    simp [hn] at hk
  | _ => simp [same]

/-- What the strict look finds at a field comes before what it finds at the others. -/
theorem fieldsDrift_eq_ok {required : Bool} {shape : Shape} {others : Fields} :
    fieldsDrift (.field name required shape others) path entries = .ok ds ↔
      ∃ first rest, ds = first ++ rest ∧ fieldsDrift others path entries = .ok rest ∧
        match field? entries name with
        | some v => shape.drift (path.entry (.str name)) v = .ok first
        | none => first =
          if required then [.other path (Quoted.text name ++ " is a required property")] else [] := by
  rw [fieldsDrift]
  cases field? entries name with
  | none =>
    simp only [bind_eq_ok, pure_eq_ok]
    constructor
    · rintro ⟨first, rfl, rest, hrest, rfl⟩
      exact ⟨_, rest, rfl, hrest, rfl⟩
    · rintro ⟨first, rest, rfl, hrest, rfl⟩
      exact ⟨_, rfl, rest, hrest, rfl⟩
  | some v =>
    simp only [bind_eq_ok, pure_eq_ok]
    constructor
    · rintro ⟨first, hfirst, rest, hrest, rfl⟩
      exact ⟨first, rest, rfl, hrest, hfirst⟩
    · rintro ⟨first, rest, rfl, hrest, hfirst⟩
      exact ⟨first, hfirst, rest, hrest, rfl⟩

theorem fieldsDrift_without (hf : fields.IsOptional name)
    (h : fieldsDrift fields path entries = .ok ds) :
    ∃ ds', fieldsDrift fields path (without name entries) = .ok ds' ∧ ds' ⊆ ds := by
  induction fields using Fields.names.induct generalizing ds with
  | case1 => exact ⟨[], by rw [fieldsDrift], List.nil_subset _⟩
  | case2 field required shape others ih =>
    obtain ⟨first, rest, rfl, hrest, hfirst⟩ := fieldsDrift_eq_ok.1 h
    obtain ⟨rest', hrest', hsub⟩ := ih hf.2 hrest
    by_cases hn : field = name
    · refine ⟨[] ++ rest', fieldsDrift_eq_ok.2 ⟨[], rest', rfl, hrest', ?_⟩, ?_⟩
      · rw [field?_without, if_pos hn, hf.1 hn]
        rfl
      · exact fun d hd => List.mem_append_right _ (hsub hd)
    · refine ⟨first ++ rest', fieldsDrift_eq_ok.2 ⟨first, rest', rfl, hrest', ?_⟩, ?_⟩
      · rwa [field?_without, if_neg hn]
      · exact List.append_subset.2
          ⟨List.subset_append_left .., fun d hd => List.mem_append_right _ (hsub hd)⟩

/-- What is reported about a record can still be reported when an optional entry is gone. -/
theorem exists_warnings_without (hn : name ∈ fields.names) (hf : fields.IsOptional name)
    {texts : List String} (h : (record label fields).warnings (.map entries) = .ok texts) :
    ∃ texts', (record label fields).warnings (.map (without name entries)) = .ok texts' := by
  obtain ⟨ds, hds, h⟩ := bind_eq_ok.1 h
  obtain ⟨leaves, hleaves, -⟩ := bind_eq_ok.1 h
  obtain ⟨further, hfurther, h⟩ := bind_eq_ok.1 hds
  obtain ⟨known, hknown, h⟩ := bind_eq_ok.1 h
  obtain rfl := pure_eq_ok.1 h
  obtain ⟨known', hknown', hsub⟩ := fieldsDrift_without hf hknown
  -- there are no new deviations, so each text to be written has been written before
  have hall := exists_mapM_ok.1 ⟨leaves, hleaves⟩
  obtain ⟨leaves', hleaves'⟩ : ∃ leaves', warningTexts ((further ++ known').flatMap Deviation.leaves) =
      .ok leaves' := by
    refine exists_mapM_ok.2 fun leaf hleaf => hall leaf ?_
    obtain ⟨d, hd, hleaf⟩ := List.mem_flatMap.1 hleaf
    refine List.mem_flatMap.2 ⟨d, ?_, hleaf⟩
    rcases List.mem_append.1 hd with hd | hd
    · exact List.mem_append_left _ hd
    · exact List.mem_append_right _ (hsub hd)
  refine ⟨_, bind_eq_ok.2 ⟨further ++ known', ?_, bind_eq_ok.2 ⟨leaves', hleaves', rfl⟩⟩⟩
  rw [drift]
  refine bind_eq_ok.2 ⟨further, ?_, bind_eq_ok.2 ⟨known', hknown', rfl⟩⟩
  rw [← hfurther]
  simp only [furtherDrift, furtherKeys_without hn]

end Shape

/-! ## The advisory section -/

namespace Document

open Attempt Value

/-- A document without its advisory section. -/
def withoutAdvisory : Value → Value
  | .map entries => .map (without "ato" entries)
  | raw => raw

theorem isOptional_ato : Schema.documentFields.IsOptional "ato" := by
  simp [Schema.documentFields, Schema.fields, Schema.providers, Fields.IsOptional]

theorem read_withoutAdvisory {raw v : Value} (h : Document.read raw = .ok v) :
    Document.read (withoutAdvisory raw) = .ok (withoutAdvisory v) := by
  obtain ⟨entries, known, further, rfl, rfl, -, -⟩ := Shape.read_record_eq_value.1 (read_eq_ok.1 h)
  exact read_eq_ok.2 (Shape.read_without isOptional_ato (read_eq_ok.1 h))

/-- Without the advisory section there is the same content, less that section. -/
theorem ofValue_withoutAdvisory {raw v : Value} (h : Document.read raw = .ok v) :
    ofValue (withoutAdvisory v) = { ofValue v with advisory := none } := by
  obtain ⟨entries, known, further, rfl, rfl, -, -⟩ := Shape.read_record_eq_value.1 (read_eq_ok.1 h)
  simp [withoutAdvisory, ofValue, Schema.providers, List.filter_cons, field_without,
    field_without_self, mapping?]

theorem exists_strictWarnings_withoutAdvisory {raw : Value} {texts : List String}
    (hr : ∃ entries, raw = .map entries) (h : strictWarnings raw = .ok texts) :
    ∃ texts', strictWarnings (withoutAdvisory raw) = .ok texts' := by
  obtain ⟨entries, rfl⟩ := hr
  exact Shape.exists_warnings_without (by decide) isOptional_ato h

end Document
end PolicyGate
