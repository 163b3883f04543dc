import PolicyGate.Proofs.Policy.Accounting
import PolicyGate.Proofs.Policy.Conditions
import PolicyGate.Proofs.Policy.DenyLists

/-!
# Checks that are written and read again

The written form of a check leaves out what its kind does not need and what says nothing, and an entry of a document is
taken for a check only if its kind has all it needs. For the checks of a compiled document the two fit together: what is
written can be read again, and asks for a check that is written alike and finds the same faults
(`Document.checks_reread`).

Not every check is such a check (`Check.IsUsable`). A pattern that cannot be compiled can be written, but it is not
accepted again. So it has to be shown of every source of checks that its patterns can be compiled, also of the sources
that put them together themselves and never try them.
-/

namespace PolicyGate

open Attempt

/-! ## Records that reading leaves as they are -/

section Records

open Shape Value

variable {shape : Shape} {fields : Fields} {entries : List (Value × Value)} {v : Value} {key name : String}

/-- The value is of the shape already: reading leaves it as it is. -/
def Shape.Fits (shape : Shape) (v : Value) : Prop := shape.read v = .ok (.value v)

namespace Shape

theorem fits_text {s : String} : text.Fits (.str s) := rfl

theorem fits_flag {b : Bool} : flag.Fits (.bool b) := rfl

theorem fits_anything : anything.Fits v := rfl

theorem Fits.list {items : List Value} (h : ∀ v ∈ items, shape.Fits v) : (list shape).Fits (.list items) :=
  read_list_eq_value.2 ⟨items, items, .inl rfl, rfl, List.forall₂_same.2 h⟩

theorem fits_texts {texts : List String} : (list text).Fits (.list (texts.map .str)) := by
  refine Fits.list fun v hv => ?_
  obtain ⟨s, -, rfl⟩ := List.mem_map.1 hv
  exact fits_text

theorem Fits.nullable (h : shape.Fits v) : (nullable shape).Fits v := by
  by_cases hv : v = .null
  · rw [hv]
    exact read_null
  · exact (read_nullable_of_ne_null hv).trans h

end Shape

namespace Fields

/-- Under the names of the fields there are values of their shapes, and none is missing that must be there. -/
def Fit (entries : List (Value × Value)) : Fields → Prop
  | .none => True
  | .field name required shape others =>
    (required = true → (field? entries name).isSome = true) ∧
      (∀ v, field? entries name = some v → shape.Fits v) ∧ others.Fit entries

theorem Fit.field {required : Bool} {others : Fields} (hrequired : required = true → (field? entries name).isSome = true)
    (hfits : ∀ v, field? entries name = some v → shape.Fits v) (hothers : others.Fit entries) :
    (Fields.field name required shape others).Fit entries := ⟨hrequired, hfits, hothers⟩

theorem Fit.shape_fits (h : fields.Fit entries) (hs : fields.shape? key = some shape)
    (hv : field? entries key = some v) : shape.Fits v := by
  induction fields using Fields.names.induct with
  | case1 => cases hs
  | case2 name required first others ih =>
    obtain ⟨-, hfirst, hothers⟩ := h
    rw [Fields.shape?] at hs
    split at hs
    · rename_i hname
      obtain rfl := Option.some.inj hs
      rw [← hname] at hv
      exact hfirst v hv
    · exact ih hothers hs

theorem Fit.exists_readFields (h : fields.Fit entries) : ∃ known, readFields fields entries = .ok (.value known) := by
  induction fields using Fields.names.induct with
  | case1 => exact ⟨[], readFields_none⟩
  | case2 name required shape others ih =>
    obtain ⟨hrequired, hfirst, hothers⟩ := h
    obtain ⟨rest, hrest⟩ := ih hothers
    cases hv : field? entries name with
    | none =>
      have hoptional : required = false := by
        rw [hv] at hrequired
        simpa using hrequired
      refine ⟨[] ++ rest, readFields_eq_value.2 ⟨[], rest, rfl, hrest, ?_⟩⟩
      rw [hv]
      exact ⟨hoptional, rfl⟩
    | some v =>
      refine ⟨[(.str name, v)] ++ rest, readFields_eq_value.2 ⟨[(.str name, v)], rest, rfl, hrest, ?_⟩⟩
      rw [hv]
      exact ⟨v, hfirst v hv, rfl⟩

/-- A record with values of the right shapes can be read, and then it has the same values under the same names. -/
theorem Fit.exists_read (h : fields.Fit entries) (hkeys : ∀ e ∈ entries, ∃ s, e.1 = .str s) :
    ∃ known, (record name fields).read (.map entries) = .ok (.value (.map known)) ∧
      ∀ key, field? known key = field? entries key := by
  obtain ⟨known, hknown⟩ := h.exists_readFields
  have hread : (record name fields).read (.map entries) = .ok (.value (.map (known ++ bag fields.names entries))) :=
    read_record_eq_value.2 ⟨entries, known, _, rfl, rfl, hknown, readFurther_eq_value.2 ⟨hkeys, rfl⟩⟩
  refine ⟨_, hread, ?_⟩
  intro key
  cases hs : fields.shape? key with
  | none => exact field?_of_no_shape? hread hs
  | some shape =>
    have hfound := field?_of_shape? hread hs
    cases hv : field? entries key with
    | none =>
      rw [hv] at hfound
      exact hfound
    | some v =>
      rw [hv] at hfound
      obtain ⟨w, hw, hsame⟩ := hfound
      have hfits : shape.Fits v := h.shape_fits hs hv
      have hvalue : v = w := Reading.value.inj (Except.ok.inj (hfits.symm.trans hw))
      rw [hsame, hvalue]

end Fields

end Records

/-! ## Checks that an entry can ask for -/

theorem given_given (text : Option String) : given (given text) = given text := by
  simp [given]

namespace Test

/-- Tests without a pattern and without a normalization can always be used. -/
theorem isUsable_of_kind {test : Test} (hmatching : test.kind ≠ .matching) (hamong : test.kind ≠ .among) :
    test.IsUsable := by
  cases test with
  | matching pattern ignoreCase => exact absurd rfl hmatching
  | among allowed ignoreCase normalizer => exact absurd rfl hamong
  | _ => trivial

/-- The pattern that is looked for. -/
@[simp]
def pattern? : Test → Option String
  | .matching pattern _ => pattern
  | _ => none

/-- Are letters taken for the same in either case? -/
@[simp]
def ignoresCase : Test → Bool
  | .matching _ ignoreCase | .among _ ignoreCase _ => ignoreCase
  | _ => false

/-- The values that are allowed. -/
@[simp]
def allowed? : Test → Option (List Value)
  | .among allowed _ _ => some allowed
  | _ => none

/-- The keys that are asked for. -/
@[simp]
def keys? : Test → Option (List String)
  | .withKeys keys => some keys
  | _ => none

/-- The value that the one found is compared with. -/
@[simp]
def expected? : Test → Option Value
  | .equalTo expected | .notEqualTo expected => some expected
  | _ => none

/-- The name of the normalization, unless it is empty. -/
@[simp]
def normalizerName? : Test → Option String
  | .among _ _ normalizer => given normalizer
  | _ => none

end Test

namespace Check

open Value

variable {check : Check} {entries : List (Value × Value)}

/-- An entry can ask for the check. -/
structure IsUsable (check : Check) : Prop where
  placed : check.path ≠ ""
  fit : check.test.IsUsable

/-- The entry that asks for the check. -/
def spec (check : Check) : CheckSpec where
  type := check.test.kind.name
  path := check.path
  message := given check.message
  pattern := check.test.pattern?
  ignoreCase := check.test.ignoresCase
  values := check.test.allowed?
  keys := check.test.keys?
  value := check.test.expected?
  fallbacks := check.fallbacks
  normalizer := check.test.normalizerName?

/-- The entries say of the check what there is to say of it, each thing under its name. -/
structure IsTold (check : Check) (entries : List (Value × Value)) : Prop where
  type : field? entries "type" = some (.str check.test.kind.name)
  path : field? entries "path" = some (.str check.path)
  message : field? entries "message" = (given check.message).map .str
  pattern : field? entries "pattern" = check.test.pattern?.map .str
  ignoreCase : field? entries "ignore_case" = if check.test.ignoresCase then some (.bool true) else none
  values : field? entries "values" = check.test.allowed?.map .list
  keys : field? entries "keys" = check.test.keys?.map fun keys => .list (keys.map .str)
  value : field? entries "value" = check.test.expected?
  fallbacks : field? entries "fallback_paths" =
    if check.fallbacks = [] then none else some (.list (check.fallbacks.map .str))
  normalizer : field? entries "normalize" = check.test.normalizerName?.map .str

/-- The entries of a mapping with these fields. -/
def entriesOf (fields : List (String × Value)) : List (Value × Value) := fields.map fun (name, v) => (.str name, v)

@[simp]
theorem field?_entriesOf_nil {key : String} : field? (entriesOf []) key = none := rfl

@[simp]
theorem field?_entriesOf_cons {name key : String} {v : Value} {rest : List (String × Value)} :
    field? (entriesOf ((name, v) :: rest)) key = if name = key then some v else field? (entriesOf rest) key :=
  field?_str_cons

theorem field?_entriesOf_append {fs gs : List (String × Value)} {key : String} :
    field? (entriesOf (fs ++ gs)) key = (field? (entriesOf fs) key).or (field? (entriesOf gs) key) := by
  rw [entriesOf, List.map_append]
  exact field?_append

/-- The fields of the written form. -/
def fields (check : Check) : List (String × Value) :=
  [("type", .str check.test.kind.name), ("path", .str check.path)] ++ check.test.fields
    ++ (if check.fallbacks.isEmpty then [] else [("fallback_paths", .list (check.fallbacks.map .str))])
    ++ (match given check.message with
      | some message => [("message", .str message)]
      | none => [])

theorem toValue_eq : check.toValue = .map (entriesOf check.fields) := rfl

/-- Under a name there is what the test has there, unless the name is one of those that every check has. -/
theorem field?_fields (key : String) : field? (entriesOf check.fields) key =
    (if "type" = key then some (.str check.test.kind.name) else if "path" = key then some (.str check.path) else none).or
      ((field? (entriesOf check.test.fields) key).or
        ((if "fallback_paths" = key ∧ check.fallbacks ≠ [] then some (.list (check.fallbacks.map .str)) else none).or
          (if "message" = key then (given check.message).map .str else none))) := by
  have hfallbacks : field? (entriesOf
      (if check.fallbacks.isEmpty then [] else [("fallback_paths", .list (check.fallbacks.map .str))])) key =
        if "fallback_paths" = key ∧ check.fallbacks ≠ [] then some (.list (check.fallbacks.map .str)) else none := by
    cases check.fallbacks <;> simp [field?_entriesOf_cons, field?_entriesOf_nil]
  have hmessage : field? (entriesOf (match given check.message with
      | some message => [("message", .str message)]
      | none => [])) key = if "message" = key then (given check.message).map .str else none := by
    cases given check.message <;> simp [field?_entriesOf_cons, field?_entriesOf_nil]
  rw [fields, field?_entriesOf_append, field?_entriesOf_append, field?_entriesOf_append, hfallbacks, hmessage,
    field?_entriesOf_cons, field?_entriesOf_cons, field?_entriesOf_nil, Option.or_assoc, Option.or_assoc]

/-- The written form of a check that can be used tells all there is to tell. -/
theorem isTold_fields (h : check.IsUsable) : check.IsTold (entriesOf check.fields) := by
  obtain ⟨path, test, message, fallbacks⟩ := check
  obtain ⟨-, hfit⟩ := h
  cases test with
  | matching pattern ignoreCase =>
    obtain ⟨text, p, rfl, -⟩ := hfit
    constructor <;> cases ignoreCase <;> simp [field?_fields, Test.fields]
  | among allowed ignoreCase normalizer =>
    constructor <;> cases ignoreCase <;> cases hname : given normalizer <;> simp [field?_fields, Test.fields, hname]
  | _ => constructor <;> simp [field?_fields, Test.fields]

namespace IsTold

/-- Entries that tell of the check are of the shape of an entry for a check. -/
theorem exists_read (h : check.IsTold entries) (hkeys : ∀ e ∈ entries, ∃ s, e.1 = .str s) :
    ∃ known, Schema.checkSpec.read (.map entries) = .ok (.value (.map known)) ∧ check.IsTold known := by
  have hnullable : ∀ {shape : Shape} {name : String}, (∀ v, field? entries name = some v → shape.Fits v) →
      ∀ v, field? entries name = some v → (Shape.nullable shape).Fits v := by
    intro shape name hshape v hv
    exact (hshape v hv).nullable
  have htext : ∀ {name : String} (text : Option String), field? entries name = text.map .str →
      ∀ v, field? entries name = some v → Shape.text.Fits v := by
    intro name text hsome v hv
    obtain ⟨s, -, rfl⟩ := Option.map_eq_some_iff.1 (hsome.symm.trans hv)
    exact Shape.fits_text
  have hflag : ∀ v, field? entries "ignore_case" = some v → Shape.flag.Fits v := by
    intro v hv
    have hraised : v = .bool true := by
      rw [h.ignoreCase] at hv
      cases hcase : check.test.ignoresCase <;> simp_all
    rw [hraised]
    exact Shape.fits_flag
  have hvalues : ∀ v, field? entries "values" = some v → (Shape.list .anything).Fits v := by
    intro v hv
    obtain ⟨items, -, rfl⟩ := Option.map_eq_some_iff.1 (h.values.symm.trans hv)
    exact Shape.Fits.list fun v _ => Shape.fits_anything
  have hkeyTexts : ∀ v, field? entries "keys" = some v → (Shape.list .text).Fits v := by
    intro v hv
    obtain ⟨keys, -, rfl⟩ := Option.map_eq_some_iff.1 (h.keys.symm.trans hv)
    exact Shape.fits_texts
  have hfallbacks : ∀ v, field? entries "fallback_paths" = some v → (Shape.list .text).Fits v := by
    intro v hv
    rw [h.fallbacks] at hv
    split at hv
    · cases hv
    · obtain rfl := Option.some.inj hv
      exact Shape.fits_texts
  -- the fields of an entry in the order of its shape
  have hfit : ∃ fields, Schema.checkSpec = .record "CheckSpec" fields ∧ fields.Fit entries :=
    ⟨_, rfl,
      .field (fun _ => by rw [h.type]; rfl) (htext (some _) h.type) <|
      .field nofun (htext (some _) h.path) <|
      .field nofun (hnullable (htext _ h.message)) <|
      .field nofun (hnullable (htext _ h.pattern)) <|
      .field nofun hflag <|
      .field nofun (hnullable hvalues) <|
      .field nofun (hnullable hkeyTexts) <|
      .field nofun (fun v _ => Shape.fits_anything) <|
      .field nofun hfallbacks <|
      .field nofun (hnullable (htext _ h.normalizer)) trivial⟩
  obtain ⟨fields, hspec, hfit⟩ := hfit
  obtain ⟨known, hread, hsame⟩ := hfit.exists_read hkeys
  refine ⟨known, hspec ▸ hread, ?_⟩
  constructor <;> rw [hsame]
  exacts [h.type, h.path, h.message, h.pattern, h.ignoreCase, h.values, h.keys, h.value, h.fallbacks, h.normalizer]

/-- Entries that tell of the check are those of its entry. -/
theorem ofValue_eq (h : check.IsTold entries) : CheckSpec.ofValue (.map entries) = check.spec := by
  have hfield : ∀ name, (Value.map entries).field name = (field? entries name).getD .null := fun name => rfl
  have htext : ∀ text : Option String, ((text.map Value.str).getD .null).str? = text := by
    intro text
    cases text <;> rfl
  have htexts : ∀ texts : List String, (Value.list (texts.map .str)).texts? = some texts := by
    intro texts
    simp [texts?, list?, List.filterMap_map, Function.comp_def, str?]
  simp only [CheckSpec.ofValue, hfield, h.type, h.path, h.message, h.pattern, h.ignoreCase, h.values, h.keys, h.fallbacks,
    h.normalizer, htext, Option.getD_some]
  simp only [entries?, Option.getD_some, h.value, spec, CheckSpec.mk.injEq]
  refine ⟨rfl, rfl, trivial, trivial, ?_, ?_, ?_, trivial, ?_, trivial⟩
  · cases check.test.ignoresCase <;> rfl
  · cases check.test.allowed? <;> rfl
  · cases check.test.keys? with
    | none => rfl
    | some keys => exact htexts keys
  · cases check.fallbacks with
    | nil => rfl
    | cons first rest => exact congrArg (·.getD []) (htexts (first :: rest))

end IsTold

/-- The check with the words that it has, but without words if these are empty. -/
def worded (check : Check) : Check := { check with message := given check.message }

theorem toValue_worded : check.worded.toValue = check.toValue := by
  unfold toValue worded
  rw [given_given]

theorem violation_worded (args : Value) : check.worded.violation args = check.violation args := by
  have hfound : ∀ found, check.worded.violationOf found = check.violationOf found := by
    intro found
    simp only [violationOf, worded, given_given]
  have hresolve : check.worded.resolve args = check.resolve args := rfl
  simp only [violation, hfound, hresolve]

/-- The entry for a check that can be used asks for this check. -/
theorem toCheck_spec (h : check.IsUsable) : check.spec.toCheck = .ok check.worded := by
  obtain ⟨path, test, message, fallbacks⟩ := check
  obtain ⟨hplaced, hfit⟩ := h
  have hpath : path.isEmpty = false := by
    simpa [String.isEmpty_iff] using hplaced
  simp only [CheckSpec.toCheck, spec, CheckKind.ofName?_name, hpath, Bool.false_eq_true, ↓reduceIte]
  cases test with
  | matching pattern ignoreCase =>
    obtain ⟨text, p, rfl, hcompile⟩ := hfit
    have hvalid : validPattern text = .ok () := acceptPattern_eq_ok.2 ⟨p, hcompile⟩
    simp only [Test.kind, Test.pattern?, hvalid]
    rfl
  | among allowed ignoreCase normalizer =>
    cases normalizer with
    | none => rfl
    | some name =>
      have hknown : (normalizer? name).isSome = true := hfit
      have hne : name ≠ "" := by
        intro hempty
        rw [hempty] at hknown
        exact absurd hknown (by decide)
      have hname : given (some name) = some name := by
        simp [given, hne]
      have hnot : (normalizer? name).isNone = false := by
        simpa using hknown
      simp only [Test.kind, Test.allowed?, Test.normalizerName?, hname, hnot]
      rfl
  | _ => rfl

/-- A check that can be used is written so that it can be read again. What is read asks for a check that is written alike
and finds the same faults. -/
theorem IsUsable.reread (h : check.IsUsable) :
    ∃ w again, Schema.checkSpec.read check.toValue = .ok (.value w) ∧ (CheckSpec.ofValue w).toCheck = .ok again ∧
      again.toValue = check.toValue ∧ ∀ args, again.violation args = check.violation args := by
  have hkeys : ∀ e ∈ entriesOf check.fields, ∃ s, e.1 = Value.str s := by
    intro e he
    obtain ⟨f, -, rfl⟩ := List.mem_map.1 he
    exact ⟨f.1, rfl⟩
  obtain ⟨known, hread, htold⟩ := (isTold_fields h).exists_read hkeys
  refine ⟨.map known, check.worded, hread, ?_, toValue_worded, violation_worded⟩
  rw [htold.ofValue_eq]
  exact toCheck_spec h

end Check

/-! ## The checks of a compiled document -/

namespace CheckSpec

/-- An entry asks for a check that can be asked for again. -/
theorem isUsable_of_toCheck {spec : CheckSpec} {check : Check} (h : spec.toCheck = .ok check) : check.IsUsable := by
  have hasks := spec.asks
  rw [h] at hasks
  cases hasks with
  | check hplaced husable => exact ⟨hplaced, husable⟩

end CheckSpec

namespace Intent

variable {v : Value} {path message : String} {fallbacks : List String} {check : Check}

/-- When this asks for a check, an entry can ask for it, too. -/
def AsksUsable (x : Except BuildError (Option Check)) : Prop := ∀ check, x = .ok (some check) → check.IsUsable

theorem asksUsable_none : AsksUsable (.ok none) := nofun

theorem asksUsable_check (hplaced : check.path ≠ "") (hfit : check.test.IsUsable) :
    AsksUsable (.ok (some check)) := by
  rintro check ⟨⟩
  exact ⟨hplaced, hfit⟩

theorem asksUsable_bind {α : Type} {x : Except BuildError α} {f : α → Except BuildError (Option Check)}
    (hf : ∀ a, x = .ok a → AsksUsable (f a)) : AsksUsable (x >>= f) := by
  intro check h
  obtain ⟨a, ha, h⟩ := bind_eq_ok.1 h
  exact hf a ha check h

theorem name_ne_empty : "name" ≠ "" := by
  decide

theorem isUsable_of_accepted {pattern : String} {cause : Regex.Fault → Unusable} {u : Unit} {ignoreCase : Bool}
    (h : acceptPattern pattern cause = .ok u) : (Test.matching (some pattern) ignoreCase).IsUsable := by
  obtain ⟨p, hcompile⟩ := acceptPattern_eq_ok.1 h
  exact ⟨pattern, p, rfl, hcompile⟩

theorem denyNames_usable : AsksUsable (denyNames v) := by
  unfold denyNames
  split
  · exact asksUsable_none
  · rename_i hterms
    exact asksUsable_check name_ne_empty ⟨_, _, rfl, compile_withoutWords_false hterms⟩

theorem denyContains_usable : AsksUsable (denyContains v) := by
  unfold denyContains
  split
  · exact asksUsable_none
  · rename_i hterms
    exact asksUsable_check name_ne_empty ⟨_, _, rfl, compile_withoutTerms_false hterms⟩

theorem denyRegex_usable : AsksUsable (denyRegex v) := by
  unfold denyRegex
  split
  · exact asksUsable_none
  · refine asksUsable_bind fun _ _ => asksUsable_bind fun _ hwhole => ?_
    exact asksUsable_check name_ne_empty (isUsable_of_accepted hwhole)

theorem nameRegex_usable : AsksUsable (nameRegex v) := by
  unfold nameRegex
  split
  · exact asksUsable_none
  · refine asksUsable_bind fun _ hvalid => ?_
    exact asksUsable_check name_ne_empty (isUsable_of_accepted hvalid)

theorem anyRegex_usable (hpath : path ≠ "") : AsksUsable (anyRegex path message fallbacks v) := by
  unfold anyRegex
  split
  · exact asksUsable_none
  · refine asksUsable_bind fun _ _ => asksUsable_bind fun _ hjoined => ?_
    exact asksUsable_check hpath (isUsable_of_accepted hjoined)

theorem allowed_usable {ignoreCase : Bool} {normalizer : Option String} (hpath : path ≠ "")
    (hknown : normalizer.all (fun name => (normalizer? name).isSome) = true) :
    AsksUsable (allowed path fallbacks ignoreCase normalizer v) := by
  unfold allowed
  split
  · exact asksUsable_none
  · exact asksUsable_check hpath hknown

theorem leastTls_usable (hpath : path ≠ "") : AsksUsable (leastTls path v) := by
  unfold leastTls
  split
  · exact asksUsable_none
  · exact asksUsable_check hpath rfl

theorem keys_usable (hpath : path ≠ "") : AsksUsable (keys path v) := by
  unfold keys
  split
  · exact asksUsable_none
  · exact asksUsable_check hpath trivial

theorem whenSet_usable {test : Test} {words : Option String} (hpath : path ≠ "") (hmatching : test.kind ≠ .matching)
    (hamong : test.kind ≠ .among) : AsksUsable (whenSet test path words fallbacks v) := by
  unfold whenSet
  split
  · exact asksUsable_check hpath (Test.isUsable_of_kind hmatching hamong)
  · exact asksUsable_none

theorem exactly_usable (hpath : path ≠ "") : AsksUsable (exactly path v) := asksUsable_check hpath trivial

theorem check_usable {s : Section} {intent : Intent} (h : intent ∈ ofSection s) (v : Value) :
    AsksUsable (intent.check v) := by
  -- the intents of all kinds of action, one after the other
  have htable : ∀ row ∈ table, ∀ intent ∈ row.2, AsksUsable (intent.check v) := by
    simp (disch := decide) only [table, naming, regions, tags, httpsOnly, minTls, List.forall_mem_cons, List.cons_append,
      List.nil_append, List.not_mem_nil, IsEmpty.forall_iff, implies_true, and_true, denyNames_usable,
      denyContains_usable, denyRegex_usable, nameRegex_usable, anyRegex_usable, allowed_usable, leastTls_usable,
      keys_usable, whenSet_usable, exactly_usable, allowedExactly]
  obtain ⟨row, hrow, hi⟩ := exists_row h
  exact htable row hrow intent hi

end Intent

namespace Document

variable {doc : Document} {profile : String} {c : Compiled} {rule : Rule} {check : Check}

/-- Each check of a document is asked for by an intent of a section or by an entry. -/
theorem check_cases (h : doc.compile profile = .ok c) (hr : rule ∈ c.rules) (hc : check ∈ rule.checks) :
    (∃ s ∈ doc.sections, ∃ intent ∈ Intent.ofSection s, ∃ v, intent.check v = .ok (some check)) ∨
      ∃ spec : CheckSpec, spec.toCheck = .ok check := by
  obtain ⟨ofSections, ofPolicies, ofAdvisory, hs, hp, ha, rfl⟩ := compile_eq_ok.1 h
  -- a rule is of a section, of a policy or advice
  simp only [List.mem_append] at hr
  rcases hr with (hr | hr) | hr
  · left
    obtain ⟨rs, hrs, hr⟩ := List.mem_flatten.1 hr
    obtain ⟨s, hmem, hrules⟩ := exists_of_mem_mapM hs hrs
    rcases Section.isDemand_or_isProposal hrules hr with ⟨intent, hi, v, asked, -, hasked, rfl⟩ | hproposal
    · obtain rfl : check = asked := List.mem_singleton.1 hc
      exact ⟨s, hmem, intent, hi, v, hasked⟩
    · rw [hproposal.free] at hc
      cases hc
  · right
    obtain ⟨spec, -, hrule⟩ := exists_of_mem_mapM hp hr
    obtain ⟨entry, -, hentry⟩ := partner_of_mem_right (PolicySpec.keeps_of_toRule hrule) hc
    exact ⟨entry, hentry⟩
  · right
    cases hadvisory : doc.advisory with
    | none =>
      rw [hadvisory] at ha
      rw [ha] at hr
      cases hr
    | some advisory =>
      rw [hadvisory] at ha
      have haccount := Advisory.account_rules ha
      rw [haccount.rules_eq] at hr
      obtain ⟨o, -, hrule⟩ := List.mem_filterMap.1 hr
      unfold Advisory.Owner.rule? at hrule
      split at hrule
      · cases hrule
      · obtain rfl := Option.some.inj hrule
        obtain ⟨spec, -, hspec⟩ := List.mem_filterMap.1 hc
        exact ⟨spec, toOption_eq_some.1 hspec⟩

/-- Every check of a compiled document can be written and read again, wherever it comes from. What is read asks for a
check that is written in the same way and that finds the same wrong with all arguments. -/
theorem checks_reread (h : doc.compile profile = .ok c) (hr : rule ∈ c.rules) (hc : check ∈ rule.checks) :
    ∃ w again, Schema.checkSpec.read check.toValue = .ok (.value w) ∧ (CheckSpec.ofValue w).toCheck = .ok again ∧
      again.toValue = check.toValue ∧ ∀ args, again.violation args = check.violation args := by
  rcases check_cases h hr hc with ⟨s, -, intent, hi, v, hasked⟩ | ⟨spec, hspec⟩
  · exact (Intent.check_usable hi v check hasked).reread
  · exact (CheckSpec.isUsable_of_toCheck hspec).reread

/-! ### Checks with a pattern that is put together -/

/-- A document with checks of three sources: a deny list of terms that mean something in a pattern, and a list of plans
that are normalized; an entry with the expected value null and with empty words; an entry of the advisory section. -/
def sourced : Value := .record
  [("azure", .record
     [("create_resource_group", .record [("deny_names", .list [.str "t*mp", .str "(?x"])]),
      ("create_app_service_plan", .record [("sku_allowlist", .list [.str "P1v3"])])]),
   ("policies", .list [.record [("id", .str "p"), ("target", .record [("prefix", .str "azure")]), ("checks", .list
     [.record [("type", .str "notEquals"), ("path", .str "owner"), ("value", .null), ("message", .str "")]])]]),
   ("ato", .record [("policies", .list
     [.record [("id", .str "a"), ("target", .record [("prefix", .str "azure")]), ("checks", .list
       [.record [("type", .str "regex"), ("path", .str "name"), ("pattern", .str "^rg"), ("ignore_case", .bool true)]])]])])]

/-- Its first check is that of the deny list, and it can be read again. -/
theorem sourced_reread :
    ∃ v c rule check w again, Document.read sourced = .ok v ∧ (ofValue v).compile "" = .ok c ∧
      rule ∈ c.rules ∧ check ∈ rule.checks ∧
      ((c.rules.flatMap Rule.checks).map fun check => check.test.kind.name) =
        ["regex", "allowedValues", "notEquals", "regex"] ∧
      Schema.checkSpec.read check.toValue = .ok (.value w) ∧ (CheckSpec.ofValue w).toCheck = .ok again ∧
      again.toValue = check.toValue ∧ ∀ args, again.violation args = check.violation args := by
  have hkinds : ((Document.read sourced).toOption.bind fun v => ((ofValue v).compile "").toOption.map fun c =>
      (c.rules.flatMap Rule.checks).map fun check => check.test.kind.name) =
        some ["regex", "allowedValues", "notEquals", "regex"] := by
    decide +kernel
  simp only [Option.bind_eq_some_iff, Option.map_eq_some_iff, toOption_eq_some] at hkinds
  obtain ⟨v, hv, c, hc, hkinds⟩ := hkinds
  obtain ⟨check, others, hchecks, -, -⟩ := List.map_eq_cons_iff.1 hkinds
  have hcheck : check ∈ c.rules.flatMap Rule.checks := by
    rw [hchecks]
    exact List.mem_cons_self
  obtain ⟨rule, hr, hmem⟩ := List.mem_flatMap.1 hcheck
  obtain ⟨w, again, hread, hagain, hwritten, hfinds⟩ := checks_reread hc hr hmem
  exact ⟨v, c, rule, check, w, again, hv, hc, hr, hmem, hkinds, hread, hagain, hwritten, hfinds⟩

end Document
end PolicyGate
