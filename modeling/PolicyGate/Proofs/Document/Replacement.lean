import PolicyGate.Proofs.Document.Versions

/-!
# Another value of a field

A record that has been read with one value of a field is read with any other value of it, as far as the value can be
read: all else stays as it is (`Shape.read_withField`). In this way what is said about the least version of a section
is said about the whole document around it (`Document.read_withLeast`).
-/

namespace PolicyGate

open Attempt

namespace Value

variable {entries : List (Value × Value)} {name key : String} {v x : Value}

/-! ## Putting an entry under a name -/

theorem put_cons_self {rest : List (Value × Value)} :
    put ((.str name, v) :: rest) (.str name) x = (.str name, x) :: rest := by
  rw [put, sameKey_str, if_pos (same_str_iff.2 rfl)]

theorem put_cons_of_ne {k : Value} {rest : List (Value × Value)} (hk : k ≠ .str name) :
    put ((k, v) :: rest) (.str name) x = (k, v) :: put rest (.str name) x := by
  rw [put, sameKey_str, if_neg fun h => hk (same_str_iff.1 h)]

theorem field?_cons_of_ne {k : Value} {rest : List (Value × Value)} (hk : k ≠ .str name) :
    field? ((k, v) :: rest) name = field? rest name := by
  rw [field?_cons, if_neg fun h => hk (same_str_iff.1 h)]

theorem field?_put : field? (put entries (.str name) x) key = if name = key then some x else field? entries key := by
  induction entries with
  | nil => exact field?_str_cons
  | cons e rest ih =>
    obtain ⟨k, w⟩ := e
    by_cases hk : k = .str name
    · subst hk
      rw [put_cons_self, field?_str_cons, field?_str_cons]
      split <;> rfl
    · rw [put_cons_of_ne hk, field?_cons, field?_cons, ih]
      by_cases hname : name = key
      · subst hname
        have hother : ¬ same k (.str name) = true := fun h => hk (same_str_iff.1 h)
        rw [if_neg hother, if_neg hother]
      · rw [if_neg hname, if_neg hname]

theorem put_of_field? (h : field? entries name = some x) : put entries (.str name) x = entries := by
  induction entries with
  | nil => cases h
  | cons e rest ih =>
    obtain ⟨k, w⟩ := e
    by_cases hk : k = .str name
    · subst hk
      rw [field?_str_cons, if_pos rfl] at h
      rw [put_cons_self, Option.some.inj h]
    · rw [field?_cons_of_ne hk] at h
      rw [put_cons_of_ne hk, ih h]

theorem put_append_of_field? {others : List (Value × Value)} (h : field? entries name = some v) :
    put (entries ++ others) (.str name) x = put entries (.str name) x ++ others := by
  induction entries with
  | nil => cases h
  | cons e rest ih =>
    obtain ⟨k, w⟩ := e
    rw [List.cons_append]
    by_cases hk : k = .str name
    · rw [hk, put_cons_self, put_cons_self, List.cons_append]
    · rw [field?_cons_of_ne hk] at h
      rw [put_cons_of_ne hk, put_cons_of_ne hk, ih h, List.cons_append]

/-- The mapping with another value of a field. What is no mapping is taken for an empty one. -/
def withField (v : Value) (name : String) (x : Value) : Value := .map (put (v.entries?.getD []) (.str name) x)

theorem field_withField : (v.withField name x).field key = if name = key then x else v.field key := by
  rw [withField, field, entries?, Option.getD_some, field?_put]
  split <;> rfl

/-- Nothing changes if the field has the value already. -/
theorem withField_of_field (h : v.field name = x) (hx : x ≠ .null) : v.withField name x = v := by
  have hfield : field? (v.entries?.getD []) name = some x := by
    cases hv : field? (v.entries?.getD []) name with
    | none => exact absurd (by rw [← h, field, hv]; rfl) hx
    | some w => rw [← h, field, hv, Option.getD_some]
  rw [withField, put_of_field? hfield]
  cases v with
  | map entries => rfl
  | _ => cases hfield

end Value

/-! ## Reading with another value -/

namespace Shape

open Value

variable {entries known : List (Value × Value)} {fields : Fields} {name label : String} {shape : Shape}
  {raw v x x₀ : Value}

theorem readFurther_put {names : List String} (h : name ∈ names) :
    readFurther names (put entries (.str name) x) = readFurther names entries := by
  unfold readFurther
  congr 1
  induction entries with
  | nil => simp [put, h]
  | cons e rest ih =>
    obtain ⟨k, w⟩ := e
    by_cases hk : k = .str name
    · subst hk
      rw [put_cons_self]
      simp [h]
    · rw [put_cons_of_ne hk, List.filterMap_cons, List.filterMap_cons, ih]

theorem readFields_put_of_not_mem (h : name ∉ fields.names) :
    readFields fields (put entries (.str name) x) = readFields fields entries := by
  induction fields using Fields.names.induct with
  | case1 => rfl
  | case2 name' required shape others ih =>
    rw [Fields.names, List.mem_cons, not_or] at h
    rw [readFields_field, readFields_field, field?_put, if_neg h.1, ih h.2]

theorem readFields_of_rest {required : Bool} {others : Fields} {rest : List (Value × Value)}
    (hx : field? entries name = some x) (hrest : readFields others entries = .ok (.value rest)) :
    readFields (.field name required shape others) entries =
      (shape.read x).map fun r => (r.within name).map fun y => (.str name, y) :: rest := by
  rw [readFields_field, hx, hrest]
  dsimp only
  cases shape.read x with
  | error e => rfl
  | ok r =>
    cases r <;> exact congrArg Except.ok (by simp [Reading.within, Reading.map, Reading.both, Reading.complaints])

theorem readFields_of_first {required : Bool} {others : Fields} {first : List (Value × Value)}
    (hfirst : match field? entries name with
      | some x => ∃ y, shape.read x = .ok (.value y) ∧ first = [(.str name, y)]
      | none => required = false ∧ first = []) :
    readFields (.field name required shape others) entries =
      (readFields others entries).map fun r => r.map fun rest => first ++ rest := by
  rw [readFields_field]
  cases hx : field? entries name with
  | none =>
    rw [hx] at hfirst
    obtain ⟨rfl, rfl⟩ := hfirst
    cases readFields others entries with
    | error e => rfl
    | ok r => cases r <;> rfl
  | some x =>
    rw [hx] at hfirst
    obtain ⟨y, hy, rfl⟩ := hfirst
    dsimp only
    rw [hy]
    cases readFields others entries with
    | error e => rfl
    | ok r => cases r <;> rfl

/-- What the fields of a record come to with another value of one of them: the value as it is read, at its place. -/
theorem readFields_put (hnames : fields.names.Nodup) (hshape : fields.shape? name = some shape)
    (hread : readFields fields (put entries (.str name) x₀) = .ok (.value known)) :
    ∃ y, shape.read x₀ = .ok (.value y) ∧ field? known name = some y ∧
      ∀ x, readFields fields (put entries (.str name) x) =
        (shape.read x).map fun r => (r.within name).map fun z => put known (.str name) z := by
  induction fields using Fields.names.induct generalizing known with
  | case1 => cases hshape
  | case2 name' required shape' others ih =>
    rw [Fields.names, List.nodup_cons] at hnames
    rw [Fields.shape?] at hshape
    obtain ⟨first, rest, rfl, hrest, hfirst⟩ := readFields_eq_value.1 hread
    by_cases hname : name' = name
    · -- this is the field, and the others do not see the value
      subst hname
      rw [if_pos rfl, Option.some.injEq] at hshape
      subst hshape
      rw [field?_put, if_pos rfl] at hfirst
      obtain ⟨y, hy, rfl⟩ := hfirst
      refine ⟨y, hy, by rw [List.singleton_append, field?_str_cons, if_pos rfl], fun x => ?_⟩
      rw [readFields_put_of_not_mem hnames.1] at hrest
      rw [readFields_of_rest (by rw [field?_put, if_pos rfl]) (by rw [readFields_put_of_not_mem hnames.1, hrest])]
      simp only [List.singleton_append, put_cons_self]
    · rw [if_neg hname] at hshape
      obtain ⟨y, hy, hfield, hothers⟩ := ih hnames.2 hshape hrest
      -- whatever the field adds, it is under another name
      have hother : first = [] ∨ ∃ w, first = [(.str name', w)] := by
        split at hfirst
        · obtain ⟨w, -, hw⟩ := hfirst
          exact .inr ⟨w, hw⟩
        · exact .inl hfirst.2
      have hput : ∀ z, put (first ++ rest) (.str name) z = first ++ put rest (.str name) z := by
        intro z
        rcases hother with rfl | ⟨w, rfl⟩
        · rfl
        · exact put_cons_of_ne (by simpa using hname)
      refine ⟨y, hy, ?_, fun x => ?_⟩
      · rcases hother with rfl | ⟨w, rfl⟩
        · exact hfield
        · rw [List.singleton_append, field?_str_cons, if_neg hname, hfield]
      · have hsame : ∀ x, field? (put entries (.str name) x) name' = field? entries name' := fun x => by
          rw [field?_put, if_neg (Ne.symm hname)]
        rw [hsame] at hfirst
        rw [readFields_of_first (by rw [hsame]; exact hfirst), hothers]
        simp only [hput]
        cases shape.read x with
        | error e => rfl
        | ok r => cases r <;> rfl

theorem read_nullable_withField : (nullable shape).read (v.withField name x) = shape.read (v.withField name x) := rfl

/-- What a record comes to with another value of one of its fields. -/
theorem read_withField (hnames : fields.names.Nodup) (hshape : fields.shape? name = some shape)
    (hread : (record label fields).read (raw.withField name x₀) = .ok (.value v)) :
    shape.read x₀ = .ok (.value (v.field name)) ∧ ∀ x, (record label fields).read (raw.withField name x) =
      (shape.read x).map fun r => (r.within name).map fun z => v.withField name z := by
  obtain ⟨_, known, further, hentries, rfl, hknown, hfurther⟩ := read_record_eq_value.1 hread
  obtain rfl := Value.map.inj hentries
  have hmem : name ∈ fields.names := by
    by_contra hnone
    rw [Fields.shape?_eq_none_iff.2 hnone] at hshape
    cases hshape
  obtain ⟨y, hy, hfield, hothers⟩ := readFields_put hnames hshape hknown
  -- the fields come first, so the value of the field is the one that was read
  have hvalue : (Value.map (known ++ further)).field name = y := by
    rw [Value.field, entries?, Option.getD_some, field?_append, hfield]
    rfl
  rw [readFurther_put hmem] at hfurther
  refine ⟨by rw [hvalue, hy], fun x => ?_⟩
  rw [withField, read, hothers, readFurther_put hmem, hfurther]
  simp only [withField, entries?, Option.getD_some, put_append_of_field? hfield]
  cases shape.read x with
  | error e => rfl
  | ok r =>
    cases r <;> exact congrArg Except.ok (by simp [Reading.within, Reading.map, Reading.both, Reading.complaints])

end Shape

/-! ## The least version of a section -/

/-- The document with another least version in the section of the first provider for a kind of action. -/
def Value.withLeast (raw : Value) (kind : String) (x : Value) : Value :=
  raw.withField "azure" ((raw.field "azure").withField kind
    (((raw.field "azure").field kind).withField "min_tls_version" x))

/-- What stands for the least version of such a section. -/
def Value.least (raw : Value) (kind : String) : Value := ((raw.field "azure").field kind).field "min_tls_version"

namespace Value

variable {raw x y : Value} {kind : String}

theorem least_withLeast : (raw.withLeast kind x).least kind = x := by
  rw [least, withLeast, field_withField, if_pos rfl, field_withField, if_pos rfl, field_withField, if_pos rfl]

theorem withLeast_least (hx : raw.least kind ≠ .null) : raw.withLeast kind (raw.least kind) = raw := by
  have hkind : (raw.field "azure").field kind ≠ .null := by
    intro h
    rw [least, h] at hx
    exact hx rfl
  have hprovider : raw.field "azure" ≠ .null := by
    intro h
    rw [h] at hkind
    exact hkind rfl
  have hleast : ((raw.field "azure").field kind).field "min_tls_version" = raw.least kind := rfl
  rw [withLeast, withField_of_field hleast hx, withField_of_field rfl hkind, withField_of_field rfl hprovider]

end Value

/-- The sections with a version have a field for it. -/
theorem Schema.exists_least {kind : String} (h : kind ∈ versioned) : ∃ label fields,
    (kind, Shape.record label fields) ∈ azureActions ∧ fields.names.Nodup ∧
      fields.shape? "min_tls_version" = some (.nullable (.version tlsVersions)) := by
  have hmem : ∀ n (hn : n < azureActions.length), azureActions[n] ∈ azureActions := fun n hn => List.getElem_mem hn
  simp only [versioned, List.mem_cons, List.not_mem_nil, or_false] at h
  rcases h with rfl | rfl
  · exact ⟨_, _, hmem 1 (by decide), by decide, rfl⟩
  · exact ⟨_, _, hmem 8 (by decide), by decide, rfl⟩

namespace Document

variable {raw rest x y : Value} {kind : String}

/-- A document that can be read without a least version in a section is read like this with one. -/
theorem read_withLeast (hkind : kind ∈ Schema.versioned) (hrest : Document.read (raw.withLeast kind .null) = .ok rest)
    (hx : x ≠ .null) : Schema.document.read (raw.withLeast kind x) =
      ((Shape.version Schema.tlsVersions).read x).map fun r =>
        (((r.within "min_tls_version").within kind).within "azure").map fun z => rest.withLeast kind z := by
  obtain ⟨label, fields, haction, hnames, hleast⟩ := Schema.exists_least hkind
  have hprovider : ("azure", "AzurePolicySet", Schema.azureActions) ∈ Schema.providers := List.mem_cons_self
  -- from the document to the provider, to the section, and to the version
  obtain ⟨hsection, houter⟩ := Shape.read_withField (by decide) (Schema.shape?_provider hprovider)
    (read_eq_ok.1 hrest)
  rw [Shape.read_nullable_withField, Schema.section_] at hsection
  obtain ⟨hrecord, hmiddle⟩ := Shape.read_withField (by decide) (Schema.shape?_kind hprovider haction) hsection
  rw [Shape.read_nullable_withField] at hrecord
  obtain ⟨-, hinner⟩ := Shape.read_withField hnames hleast hrecord
  have hread := houter ((raw.field "azure").withField kind
    (((raw.field "azure").field kind).withField "min_tls_version" x))
  rw [Shape.read_nullable_withField, Schema.section_, hmiddle, Shape.read_nullable_withField, hinner,
    Shape.read_nullable_of_ne_null hx] at hread
  refine hread.trans ?_
  cases (Shape.version Schema.tlsVersions).read x with
  | error e => rfl
  | ok r => cases r <;> rfl

end Document

end PolicyGate
