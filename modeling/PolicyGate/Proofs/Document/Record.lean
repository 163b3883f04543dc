import PolicyGate.Document.Unrecognized
import PolicyGate.Policy.RuleSet
import PolicyGate.Proofs.Attempt

/-!
# Reading records

What a record comes to, field by field. An entry with the name of a field is read by the field's shape
(`field?_of_shape?`); any other entry stays as it is (`field?_of_no_shape?`). So everything that is said
about a place of a document that has been read is said about the same place of the document as it was.
-/

namespace PolicyGate

namespace Value

/-! ## Entries under a name -/

variable {entries : List (Value × Value)} {name key : String}

theorem same_str_iff {k : Value} {s : String} : same k (.str s) = true ↔ k = .str s := by
  cases k <;> simp [same]

theorem field?_nil : field? [] key = none := rfl

theorem field?_cons {k v : Value} {rest : List (Value × Value)} :
    field? ((k, v) :: rest) key = if same k (.str key) then some v else field? rest key := by
  unfold field? get?
  rw [List.find?_cons, sameKey_str]
  cases same k (.str key) <;> rfl

theorem field?_str_cons {v : Value} {rest : List (Value × Value)} :
    field? ((.str name, v) :: rest) key = if name = key then some v else field? rest key := by
  simp [field?_cons, same]

theorem field?_append {others : List (Value × Value)} :
    field? (entries ++ others) key = (field? entries key).or (field? others key) := by
  induction entries with
  | nil => rfl
  | cons e rest ih =>
    rw [List.cons_append, field?_cons, field?_cons, ih]
    split <;> rfl

theorem mem_of_field? {v : Value} (h : field? entries key = some v) : (.str key, v) ∈ entries := by
  induction entries with
  | nil => cases h
  | cons e rest ih =>
    obtain ⟨k, w⟩ := e
    rw [field?_cons] at h
    by_cases hk : same k (.str key) = true
    · rw [if_pos hk] at h
      obtain rfl := Option.some.inj h
      rw [same_str_iff.1 hk]
      exact List.mem_cons_self
    · rw [if_neg hk] at h
      exact List.mem_cons_of_mem _ (ih h)

end Value

/-! ## Readings -/

namespace Reading

variable {α β : Type} {a : Reading α} {b : Reading β}

theorem map_eq_value {f : α → β} {y : β} : a.map f = .value y ↔ ∃ x, a = .value x ∧ f x = y := by
  cases a <;> simp [map]

theorem within_eq_value {step : String} {x : α} : a.within step = .value x ↔ a = .value x := by
  cases a <;> simp [within]

theorem both_eq_value {p : α × β} : a.both b = .value p ↔ a = .value p.1 ∧ b = .value p.2 := by
  obtain ⟨x, y⟩ := p
  cases a <;> cases b <;> simp [both]

theorem all_eq_value {rs : List (Reading α)} {xs : List α} :
    all rs = .value xs ↔ List.Forall₂ (fun r x => r = .value x) rs xs := by
  induction rs generalizing xs with
  | nil => cases xs <;> simp [all]
  | cons r rest ih =>
    rw [all, map_eq_value]
    constructor
    · rintro ⟨⟨x, tail⟩, h, rfl⟩
      obtain ⟨hr, hrest⟩ := both_eq_value.1 h
      exact .cons hr (ih.1 hrest)
    · rintro (_ | ⟨hr, hrest⟩)
      exact ⟨(_, _), both_eq_value.2 ⟨hr, ih.2 hrest⟩, rfl⟩

theorem all_eq_value_iff {rs : List (Reading α)} {xs : List α} :
    all rs = .value xs ↔ rs = xs.map .value := by
  rw [all_eq_value, ← List.forall₂_eq_eq_eq, List.forall₂_map_right_iff]

/-- The place of an element matters only for complaints. -/
theorem all_within_eq_value {rs : List (Reading α)} {xs : List α} {start : Nat} :
    all ((rs.zipIdx start).map fun (r, i) => r.within (toString i)) = .value xs ↔
      rs = xs.map .value := by
  rw [all_eq_value_iff]
  induction rs generalizing start xs with
  | nil => cases xs <;> simp
  | cons r rest ih =>
    cases xs with
    | nil => simp
    | cons x xs =>
      rw [List.zipIdx_cons, List.map_cons, List.map_cons, List.cons.injEq, List.cons.injEq, ih,
        within_eq_value]

end Reading

/-- The shape of the field with a name. -/
def Fields.shape? (fields : Fields) (key : String) : Option Shape :=
  match fields with
  | .none => Option.none
  | .field name _ shape others => if name = key then some shape else others.shape? key

theorem Fields.shape?_eq_none_iff {fields : Fields} {key : String} :
    fields.shape? key = Option.none ↔ key ∉ fields.names := by
  induction fields using Fields.names.induct with
  | case1 => simp [shape?, names]
  | case2 name required shape others ih =>
    simp only [shape?, names, List.mem_cons, not_or]
    by_cases h : name = key
    · simp [h]
    · simp [h, ih, Ne.symm h]

namespace Shape

open Attempt Reading Value

variable {entries known further : List (Value × Value)} {fields : Fields} {key name : String}
  {shape : Shape} {v w : Value}

theorem readFields_none : readFields .none entries = .ok (.value []) := rfl

theorem readFields_field {required : Bool} {others : Fields} :
    readFields (.field name required shape others) entries = (do
      let first : Reading (List (Value × Value)) ←
        match field? entries name with
        | some v => (shape.read v).map fun r => (r.within name).map fun w => [(Value.str name, w)]
        | none => pure (if required then (Reading.refused "Field required").within name else .value [])
      let rest ← readFields others entries
      return (first.both rest).map fun (es, fs) => es ++ fs) := rfl

/-- What a field adds to a record: its value as it was read, or nothing if it has none and needs none. -/
theorem readFields_eq_value {required : Bool} {others : Fields} :
    readFields (.field name required shape others) entries = .ok (.value known) ↔
      ∃ first rest, known = first ++ rest ∧ readFields others entries = .ok (.value rest) ∧
        match field? entries name with
        | some v => ∃ w, shape.read v = .ok (.value w) ∧ first = [(.str name, w)]
        | none => required = false ∧ first = [] := by
  rw [readFields_field]
  cases hf : field? entries name with
  | none =>
    simp only [bind_eq_ok, pure_eq_ok, map_eq_value, both_eq_value]
    cases required with
    | true => simp [Reading.refused, Reading.within]
    | false =>
      constructor
      · rintro ⟨a, rfl, r, hr, ⟨es, fs⟩, ⟨h, hfs⟩, rfl⟩
        cases h
        exact ⟨[], fs, rfl, by rw [hr, hfs], rfl, rfl⟩
      · rintro ⟨first, rest, rfl, hrest, -, rfl⟩
        exact ⟨_, rfl, _, hrest, ([], rest), ⟨rfl, rfl⟩, rfl⟩
  | some v =>
    simp only [bind_eq_ok, pure_eq_ok, map_eq_ok, map_eq_value, both_eq_value]
    constructor
    · rintro ⟨_, ⟨reading, hv, rfl⟩, r, hr, ⟨es, fs⟩, ⟨h, hfs⟩, rfl⟩
      obtain ⟨w, hw, rfl⟩ := map_eq_value.1 h
      rw [within_eq_value] at hw
      exact ⟨_, fs, rfl, by rw [hr, hfs], w, by rw [hv, hw], rfl⟩
    · rintro ⟨first, rest, rfl, hrest, w, hw, rfl⟩
      exact ⟨_, ⟨_, hw, rfl⟩, _, hrest, ([(.str name, w)], rest), ⟨rfl, rfl⟩, rfl⟩

/-- A field has been left out because there was nothing under its name, or its value has been read. -/
theorem readFields_cases {required : Bool} {others : Fields}
    (h : readFields (.field name required shape others) entries = .ok (.value known)) :
    ∃ rest, readFields others entries = .ok (.value rest) ∧
      (field? entries name = none ∧ required = false ∧ known = rest ∨
        ∃ x y, field? entries name = some x ∧ shape.read x = .ok (.value y) ∧ known = (.str name, y) :: rest) := by
  obtain ⟨first, rest, rfl, hrest, hfirst⟩ := readFields_eq_value.1 h
  refine ⟨rest, hrest, ?_⟩
  cases hx : field? entries name with
  | none =>
    rw [hx] at hfirst
    obtain ⟨hoptional, rfl⟩ := hfirst
    exact .inl ⟨rfl, hoptional, rfl⟩
  | some x =>
    rw [hx] at hfirst
    obtain ⟨y, hy, rfl⟩ := hfirst
    exact .inr ⟨x, y, rfl, hy, rfl⟩

theorem bag_cons_str {names : List String} :
    bag names ((.str name, v) :: entries) =
      if name ∈ names then bag names entries else (.str name, v) :: bag names entries := by
  simp only [bag, List.filter_cons]
  by_cases h : name ∈ names <;> simp [h]

theorem bag_cons_of_not_str {names : List String} {k : Value} (hk : ∀ s, k ≠ .str s) :
    bag names ((k, v) :: entries) = (k, v) :: bag names entries := by
  cases k with
  | str s => exact absurd rfl (hk s)
  | _ => rfl

theorem readFurther_cons_str {names : List String} :
    readFurther names ((.str name, v) :: entries) =
      if name ∈ names then readFurther names entries
      else ((value (.str name, v)).both (readFurther names entries)).map fun (e, es) => e :: es := by
  by_cases h : name ∈ names <;> simp [readFurther, all, h]

theorem readFurther_cons_of_not_str {names : List String} {k : Value} (hk : ∀ s, k ≠ .str s) :
    readFurther names ((k, v) :: entries) ≠ .value further := by
  cases k with
  | str s => exact absurd rfl (hk s)
  | _ => simp [readFurther, all, map_eq_value, both_eq_value]

/-- What is left of a mapping once the fields have been taken: its unrecognized entries. -/
theorem readFurther_eq_value {names : List String} :
    readFurther names entries = .value further ↔
      (∀ e ∈ entries, ∃ s, e.1 = .str s) ∧ further = bag names entries := by
  induction entries generalizing further with
  | nil => simp [readFurther, all, bag, eq_comm]
  | cons e rest ih =>
    obtain ⟨k, v⟩ := e
    rw [List.forall_mem_cons]
    by_cases hk : ∃ s, k = .str s
    · obtain ⟨s, rfl⟩ := hk
      have htext : ∃ t, (Value.str s, v).1 = .str t := ⟨s, rfl⟩
      rw [and_iff_right htext, readFurther_cons_str, bag_cons_str]
      split
      · exact ih
      · rw [map_eq_value]
        constructor
        · rintro ⟨⟨x, tail⟩, h, rfl⟩
          obtain ⟨hx, htail⟩ := both_eq_value.1 h
          obtain rfl := Reading.value.inj hx
          obtain ⟨hkeys, rfl⟩ := ih.1 htail
          exact ⟨hkeys, rfl⟩
        · rintro ⟨hkeys, rfl⟩
          exact ⟨(_, _), both_eq_value.2 ⟨rfl, ih.2 ⟨hkeys, rfl⟩⟩, rfl⟩
    · have hread : readFurther names ((k, v) :: rest) ≠ .value further :=
        readFurther_cons_of_not_str fun s h => hk ⟨s, h⟩
      simp [hread, hk]

theorem read_record_eq_value :
    (record name fields).read v = .ok (.value w) ↔
      ∃ entries known further, v = .map entries ∧ w = .map (known ++ further) ∧
        readFields fields entries = .ok (.value known) ∧
        readFurther fields.names entries = .value further := by
  cases v with
  | map entries =>
    simp only [read, bind_eq_ok, pure_eq_ok, map_eq_value, both_eq_value, Value.map.injEq]
    constructor
    · rintro ⟨r, hr, ⟨known, further⟩, ⟨hk, hf⟩, rfl⟩
      exact ⟨entries, known, further, rfl, rfl, by rw [hr, hk], hf⟩
    · rintro ⟨entries, known, further, rfl, rfl, hk, hf⟩
      exact ⟨_, hk, (known, further), ⟨rfl, hf⟩, rfl⟩
  | _ => simp [read, Reading.refused]

/-! ## The entries of a record that has been read -/

theorem field?_readFields (h : readFields fields entries = .ok (.value known)) (key : String) :
    match fields.shape? key, field? entries key with
    | some shape, some x => ∃ y, shape.read x = .ok (.value y) ∧ field? known key = some y
    | _, _ => field? known key = none := by
  induction fields using Fields.names.induct generalizing known with
  | case1 =>
    rw [readFields_none] at h
    simp only [Except.ok.injEq, Reading.value.injEq] at h
    rw [← h]
    rfl
  | case2 name required shape others ih =>
    obtain ⟨rest, hrest, hcases⟩ := readFields_cases h
    have hothers := ih hrest
    rw [Fields.shape?]
    by_cases hn : name = key
    · subst hn
      rw [if_pos rfl]
      rcases hcases with ⟨hx, -, rfl⟩ | ⟨x, y, hx, hy, rfl⟩
      · -- there may be another field of the name, which finds nothing either
        rw [hx] at hothers ⊢
        cases hs : others.shape? name <;> simpa [hs] using hothers
      · rw [hx]
        exact ⟨y, hy, by rw [field?_str_cons, if_pos rfl]⟩
    · rw [if_neg hn]
      rcases hcases with ⟨-, -, rfl⟩ | ⟨x, y, -, -, rfl⟩
      · exact hothers
      · rw [field?_str_cons, if_neg hn]
        exact hothers

theorem field?_bag {names : List String} :
    field? (bag names entries) key = if key ∈ names then none else field? entries key := by
  induction entries with
  | nil => simp [bag, field?_nil]
  | cons e rest ih =>
    obtain ⟨k, v⟩ := e
    by_cases hk : ∃ s, k = .str s
    · obtain ⟨s, rfl⟩ := hk
      rw [bag_cons_str, field?_str_cons]
      by_cases hs : s = key
      · subst hs
        by_cases hn : s ∈ names
        · rw [if_pos hn, ih, if_pos hn, if_pos hn]
        · rw [if_neg hn, field?_str_cons, if_neg hn, if_pos rfl, if_pos rfl]
      · rw [if_neg hs, ← ih]
        split
        · rfl
        · rw [field?_str_cons, if_neg hs]
    · have hkey : same k (.str key) ≠ true := fun h => hk ⟨key, same_str_iff.1 h⟩
      rw [bag_cons_of_not_str fun s h => hk ⟨s, h⟩, field?_cons, field?_cons, if_neg hkey, if_neg hkey,
        ih]

/-- The entry of a field has been read by the shape of the field. -/
theorem field?_of_shape? (h : (record name fields).read (.map entries) = .ok (.value (.map known)))
    (hs : fields.shape? key = some shape) :
    match field? entries key with
    | some x => ∃ y, shape.read x = .ok (.value y) ∧ field? known key = some y
    | none => field? known key = none := by
  obtain ⟨es, fs, further, hes, hk, hfields, hfurther⟩ := read_record_eq_value.1 h
  obtain rfl := Value.map.inj hes
  obtain rfl := Value.map.inj hk
  obtain ⟨-, rfl⟩ := readFurther_eq_value.1 hfurther
  have hmem : key ∈ fields.names := by
    by_contra hn
    rw [Fields.shape?_eq_none_iff.2 hn] at hs
    cases hs
  have hknown := field?_readFields hfields key
  rw [field?_append, field?_bag, if_pos hmem, Option.or_none]
  rw [hs] at hknown
  cases hx : field? entries key <;> rwa [hx] at hknown

/-- An entry for which there is no field has been kept. -/
theorem field?_of_no_shape? (h : (record name fields).read (.map entries) = .ok (.value (.map known)))
    (hs : fields.shape? key = none) : field? known key = field? entries key := by
  obtain ⟨es, fs, further, hes, hk, hfields, hfurther⟩ := read_record_eq_value.1 h
  obtain rfl := Value.map.inj hes
  obtain rfl := Value.map.inj hk
  obtain ⟨-, rfl⟩ := readFurther_eq_value.1 hfurther
  have hknown := field?_readFields hfields key
  rw [hs] at hknown
  rw [field?_append, field?_bag, if_neg (Fields.shape?_eq_none_iff.1 hs), hknown, Option.none_or]

/-! ## Other shapes -/

theorem read_text : text.read v = .ok ((ofCoercion v.asText).map .str) := rfl

theorem read_flag : flag.read v = .ok ((ofCoercion v.asFlag).map .bool) := rfl

theorem read_version {allowed : List String} :
    (version allowed).read v = (do return readWord allowed (← versionText v)) := rfl

theorem read_null : (nullable shape).read .null = .ok (.value .null) := rfl

theorem read_nullable_of_ne_null (h : v ≠ .null) : (nullable shape).read v = shape.read v := by
  cases v with
  | null => exact absurd rfl h
  | _ => rfl

theorem read_text_eq_value (h : text.read v = .ok (.value w)) : ∃ t, w = .str t := by
  rw [read_text] at h
  obtain ⟨t, -, rfl⟩ := map_eq_value.1 (Except.ok.inj h)
  exact ⟨t, rfl⟩

theorem read_flag_eq_value (h : flag.read v = .ok (.value w)) : ∃ b, w = .bool b := by
  rw [read_flag] at h
  obtain ⟨b, -, rfl⟩ := map_eq_value.1 (Except.ok.inj h)
  exact ⟨b, rfl⟩

theorem read_version_eq_value {allowed : List String} (h : (version allowed).read v = .ok (.value w)) :
    ∃ t, w = .str t := by
  rw [read_version] at h
  obtain ⟨x, -, h⟩ := bind_eq_ok.1 h
  have hword := pure_eq_ok.1 h
  unfold readWord at hword
  split at hword
  · rename_i t
    split at hword
    · exact ⟨t, (Reading.value.inj hword).symm⟩
    · cases hword
  · cases hword

theorem read_nullable_eq_value (h : (nullable shape).read v = .ok (.value w)) :
    v = .null ∧ w = .null ∨ shape.read v = .ok (.value w) := by
  by_cases hv : v = .null
  · subst hv
    rw [read_null] at h
    cases h
    exact .inl ⟨rfl, rfl⟩
  · rw [read_nullable_of_ne_null hv] at h
    exact .inr h

theorem mem_put {k : Value} {e : Value × Value} (h : e ∈ put entries k v) :
    e ∈ entries ∨ (e.1 = k ∨ ∃ w, (e.1, w) ∈ entries) ∧ e.2 = v := by
  induction entries with
  | nil =>
    obtain rfl := List.mem_singleton.1 h
    exact .inr ⟨.inl rfl, rfl⟩
  | cons f rest ih =>
    obtain ⟨k', v'⟩ := f
    rw [put] at h
    split at h
    · rcases List.mem_cons.1 h with rfl | h
      · exact .inr ⟨.inr ⟨v', List.mem_cons_self⟩, rfl⟩
      · exact .inl (List.mem_cons_of_mem _ h)
    · rcases List.mem_cons.1 h with rfl | h
      · exact .inl List.mem_cons_self
      · rcases ih h with h | ⟨hkey | ⟨w, hw⟩, hv⟩
        · exact .inl (List.mem_cons_of_mem _ h)
        · exact .inr ⟨.inl hkey, hv⟩
        · exact .inr ⟨.inr ⟨w, List.mem_cons_of_mem _ hw⟩, hv⟩

/-- The entries that are left when some have been put together: each has the key of one and the value of
one. -/
theorem mem_foldl_put {es : List (Value × Value)} {e : Value × Value}
    (h : e ∈ es.foldl (fun done (k, v) => put done k v) known) :
    (∃ w, (e.1, w) ∈ known ++ es) ∧ ∃ k, (k, e.2) ∈ known ++ es := by
  induction es generalizing known with
  | nil => exact ⟨⟨e.2, by simpa using h⟩, ⟨e.1, by simpa using h⟩⟩
  | cons f rest ih =>
    obtain ⟨k, v⟩ := f
    obtain ⟨⟨w, hw⟩, ⟨k', hk'⟩⟩ := ih h
    -- putting one in takes its key from before, or its own, and its value
    have hput : ∀ {g}, g ∈ put known k v ++ rest →
        (∃ w, (g.1, w) ∈ known ++ (k, v) :: rest) ∧ ∃ k', (k', g.2) ∈ known ++ (k, v) :: rest := by
      intro g hg
      have hnew : (k, v) ∈ known ++ (k, v) :: rest := List.mem_append_right _ List.mem_cons_self
      rcases List.mem_append.1 hg with hg | hg
      · rcases mem_put hg with hg | ⟨hkey, hv⟩
        · have hmem := List.mem_append_left ((k, v) :: rest) hg
          exact ⟨⟨g.2, hmem⟩, ⟨g.1, hmem⟩⟩
        · refine ⟨?_, ⟨k, hv ▸ hnew⟩⟩
          rcases hkey with hkey | ⟨w, hw⟩
          · exact ⟨v, hkey ▸ hnew⟩
          · exact ⟨w, List.mem_append_left _ hw⟩
      · have hmem := List.mem_append_right known (List.mem_cons_of_mem (k, v) hg)
        exact ⟨⟨g.2, hmem⟩, ⟨g.1, hmem⟩⟩
    exact ⟨(hput hw).1, (hput hk').2⟩

/-- A dictionary is read entry by entry; of entries that come to the same key, the last value counts. -/
theorem read_dictionary_iff : (dictionary shape).read v = .ok (.value w) ↔
    ∃ entries read, v = .map entries ∧ w = .map (read.foldl (fun done (k, v) => put done k v) []) ∧
      List.Forall₂ (fun e r => (∃ s, e.1.asText = .ok s ∧ r.1 = .str s) ∧
        shape.read e.2 = .ok (.value r.2)) entries read := by
  cases v with
  | map es =>
    -- one entry: its key as a text, and its value
    have hentry : ∀ e r : Value × Value, (do
        let key := (Reading.ofCoercion e.1.asText).map Value.str
        let value ← shape.read e.2
        return ((key.within "[key]").both value).within (keyStep e.1)) =
          (.ok (.value r) : Except VersionTooLarge (Reading (Value × Value))) ↔
        (∃ s, e.1.asText = .ok s ∧ r.1 = .str s) ∧ shape.read e.2 = .ok (.value r.2) := by
      intro e r
      have hkey : (Reading.ofCoercion e.1.asText).map Value.str = .value r.1 ↔
          ∃ s, e.1.asText = .ok s ∧ r.1 = .str s := by
        cases e.1.asText <;> simp [Reading.ofCoercion, Reading.refused, Reading.map, eq_comm]
      simp only [bind_eq_ok, pure_eq_ok, within_eq_value, both_eq_value, hkey]
      constructor
      · rintro ⟨value, hvalue, hk, rfl⟩
        exact ⟨hk, hvalue⟩
      · rintro ⟨hk, hvalue⟩
        exact ⟨_, hvalue, hk, rfl⟩
    rw [read]
    simp only [bind_eq_ok, pure_eq_ok, map_eq_value, all_eq_value_iff, Value.map.injEq]
    constructor
    · rintro ⟨items, hitems, read, rfl, rfl⟩
      have hall := mapM_eq_ok.1 hitems
      rw [List.forall₂_map_right_iff] at hall
      exact ⟨es, read, rfl, rfl, hall.imp fun e r h => (hentry e r).1 h⟩
    · rintro ⟨_, read, rfl, rfl, hread⟩
      refine ⟨_, mapM_eq_ok.2 ?_, read, rfl, rfl⟩
      rw [List.forall₂_map_right_iff]
      exact hread.imp fun e r h => (hentry e r).2 h
  | _ => simp [read, Reading.refused]

/-- The entries of a dictionary that has been read have texts for keys and values of the shape. -/
theorem read_dictionary_eq_value (h : (dictionary shape).read v = .ok (.value w)) :
    ∃ entries, w = .map entries ∧
      ∀ e ∈ entries, (∃ s, e.1 = .str s) ∧ ∃ x, shape.read x = .ok (.value e.2) := by
  obtain ⟨es, read, rfl, rfl, hread⟩ := read_dictionary_iff.1 h
  have hes : ∀ e ∈ read, (∃ s, e.1 = .str s) ∧ ∃ x, shape.read x = .ok (.value e.2) := by
    intro e he
    obtain ⟨⟨k, x⟩, -, ⟨s, -, hs⟩, hx⟩ := partner_of_mem_right hread he
    exact ⟨⟨s, hs⟩, x, hx⟩
  refine ⟨_, rfl, fun e he => ?_⟩
  obtain ⟨⟨y, hy⟩, ⟨k, hk⟩⟩ := mem_foldl_put he
  exact ⟨(hes _ hy).1, (hes _ hk).2⟩

theorem readItems_eq_value {vs : List Value} : (do
      let items ← vs.mapM fun v => shape.read v
      return (all (items.zipIdx.map fun (r, i) => r.within (toString i))).map .list) =
        (.ok (.value w) : Except VersionTooLarge (Reading Value)) ↔
      ∃ ws, w = .list ws ∧ List.Forall₂ (fun x y => shape.read x = .ok (.value y)) vs ws := by
  simp only [bind_eq_ok, pure_eq_ok, map_eq_value, all_within_eq_value]
  constructor
  · rintro ⟨items, hitems, ws, rfl, rfl⟩
    have hall := mapM_eq_ok.1 hitems
    rw [List.forall₂_map_right_iff] at hall
    exact ⟨ws, rfl, hall⟩
  · rintro ⟨ws, rfl, hws⟩
    refine ⟨_, mapM_eq_ok.2 ?_, ws, rfl, rfl⟩
    rwa [List.forall₂_map_right_iff]

/-- The elements of a list or of a set are read one by one. -/
theorem read_list_eq_value : (list shape).read v = .ok (.value w) ↔
    ∃ vs ws, (v = .list vs ∨ v = .set vs) ∧ w = .list ws ∧
      List.Forall₂ (fun x y => shape.read x = .ok (.value y)) vs ws := by
  cases v with
  | list vs => simpa [read] using readItems_eq_value
  | set vs => simpa [read] using readItems_eq_value
  | _ => simp [read, Reading.refused]

end Shape

theorem Document.read_eq_ok {raw v : Value} :
    Document.read raw = .ok v ↔ Schema.document.read raw = .ok (.value v) := by
  unfold Document.read
  split <;> simp_all

end PolicyGate
