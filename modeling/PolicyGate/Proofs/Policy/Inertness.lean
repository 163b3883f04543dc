import PolicyGate.Proofs.Document.Stripping
import PolicyGate.Proofs.Policy.Compilation

/-!
# Unrecognized entries and the rules

A section is looked at by name, and not only for its fields: each is asked for suggestions, whether its record has
fields for them or not. Apart from those three names an entry that no field is named for has no effect on the rules
of a document (`Document.unrecognized_inert`), and even they have none where they say nothing.
-/

namespace PolicyGate

open Attempt

/-! ## What a section is looked at for -/

namespace Section

variable {s t : Section} {field : String} {spared : String → List String} {label : String} {fields : Fields}

/-- The rules of a section depend only on its demands, its controls, and what it suggests. -/
theorem rules_congr (hprovider : t.provider = s.provider) (hkind : t.kind = s.kind)
    (hdemands : ∀ intent ∈ Intent.ofSection s, t.entry? intent.field = s.entry? intent.field)
    (hcontrols : t.entry? "controls" = s.entry? "controls")
    (hsuggestions : ∀ field ∈ Schema.suggestions, t.truthy? field = s.truthy? field) :
    t.rules = s.rules := by
  have hintents : Intent.ofSection t = Intent.ofSection s := by
    rw [Intent.ofSection, hprovider, hkind, Intent.ofSection]
  have haction : t.action = s.action := by rw [action, hprovider, hkind, action]
  have hcontrols' : t.controls = s.controls := by rw [controls, hcontrols, controls]
  -- the demands are made field by field, and each reads only its own
  have hall : (Intent.ofSection t).mapM t.demand = (Intent.ofSection s).mapM s.demand := by
    have hmap : (Intent.ofSection s).map t.demand = (Intent.ofSection s).map s.demand := by
      refine List.map_congr_left fun intent hi => ?_
      rw [demand, demand, hdemands intent hi, haction, hcontrols']
    rw [hintents, mapM_eq_mapM_id, hmap, ← mapM_eq_mapM_id]
  have hadvice : t.advice = s.advice := by
    funext suffix description suggestion
    rw [advice, advice, haction, hcontrols']
  have hsingle : ∀ field ∈ Schema.suggestions, t.single field = s.single field := by
    intro field hf
    funext suffix lead title key
    rw [single, single, hsuggestions field hf, hadvice]
  have htags : t.tagAdvice = s.tagAdvice := by
    rw [tagAdvice, tagAdvice, hsuggestions _ (by decide), hadvice]
  rw [rules, rules, hall, hsingle _ (by decide), hsingle _ (by decide), htags]

/-- The section with what is left of its entries. -/
def kept (spared : String → List String) (label : String) (fields : Fields) (s : Section) : Section :=
  { s with entries := Shape.keptEntries spared label fields s.entries }

theorem entry?_kept_of_isBare (h : (fields.shape? field).any Shape.isBare = true) :
    Section.entry? (s.kept spared label fields) field = s.entry? field := by
  obtain ⟨shape, hs, hbare⟩ := Option.any_eq_true .. |>.1 h
  have hkept : Shape.kept spared label fields field = some := by
    funext v
    rw [Shape.kept_of_shape? hs, Shape.strip_of_isBare shape hbare]
  rw [ entry?, kept, Shape.field?_keptEntries, hkept, Option.bind_fun_some, entry?]

theorem entry?_kept_of_mem (h : fields.shape? field = none) (hs : field ∈ spared label) :
    Section.entry? (s.kept spared label fields) field = s.entry? field := by
  have hkept : Shape.kept spared label fields field = some := by
    funext v
    rw [Shape.kept, h, if_pos hs]
  rw [ entry?, kept, Shape.field?_keptEntries, hkept, Option.bind_fun_some, entry?]

theorem entry?_kept_of_not_mem (h : fields.shape? field = none) (hs : field ∉ spared label) :
    Section.entry? (s.kept spared label fields) field = none := by
  have hkept : Shape.kept spared label fields field = fun _ => none := by
    funext v
    rw [Shape.kept, h, if_neg hs]
  rw [ entry?, kept, Shape.field?_keptEntries, hkept, Option.bind_fun_none]

end Section

namespace Schema

variable {provider kind label : String} {fields : Fields}

/-- A section has no records in it, and it has fields for all it can demand. -/
theorem bare_of_hasSection (h : HasSection provider kind label fields) :
    (∀ field ∈ fields.names, (fields.shape? field).any Shape.isBare = true) ∧ "controls" ∈ fields.names ∧
      ∀ intent ∈ Intent.ofSection ⟨provider, kind, []⟩, intent.field ∈ fields.names := by
  obtain ⟨name, actions, hp, ha⟩ := h
  simp only [providers, List.mem_cons, List.not_mem_nil, or_false, Prod.mk.injEq] at hp
  rcases hp with ⟨rfl, -, rfl⟩ | ⟨rfl, -, rfl⟩
  · simp only [azureActions, List.mem_cons, List.not_mem_nil, or_false, Prod.mk.injEq, Shape.record.injEq] at ha
    rcases ha with ⟨rfl, rfl, rfl⟩ | ⟨rfl, rfl, rfl⟩ | ⟨rfl, rfl, rfl⟩ | ⟨rfl, rfl, rfl⟩ | ⟨rfl, rfl, rfl⟩ |
      ⟨rfl, rfl, rfl⟩ | ⟨rfl, rfl, rfl⟩ | ⟨rfl, rfl, rfl⟩ | ⟨rfl, rfl, rfl⟩ | ⟨rfl, rfl, rfl⟩ <;> decide +kernel
  · simp only [githubActions, List.mem_cons, List.not_mem_nil, or_false, Prod.mk.injEq, Shape.record.injEq] at ha
    rcases ha with ⟨rfl, rfl, rfl⟩
    decide +kernel

/-- The labels of the records of sections. -/
def sectionLabels : List String := providers.flatMap fun (_, _, actions) => actions.map (·.2.recordName)

/-- The names that a record with a label is looked at for, whether it has fields for them or not. -/
def lookedUp (label : String) : List String := if label ∈ sectionLabels then suggestions else []

theorem suggestions_lookedUp (h : HasSection provider kind label fields) : lookedUp label = suggestions := by
  obtain ⟨name, actions, hp, ha⟩ := h
  have hlabel : label ∈ sectionLabels := List.mem_flatMap.2 ⟨_, hp, List.mem_map.2 ⟨_, ha, rfl⟩⟩
  rw [lookedUp, if_pos hlabel]

end Schema

namespace Document

open Value Shape

variable {raw v : Value} {spared : String → List String} {profile : String}

/-- All that counts as something under a name for a suggestion is spared. -/
def SparesStrays (spared : String → List String) (raw : Value) : Prop :=
  ∀ provider kind label fields field w, Schema.HasSection provider kind label fields →
    IsStray raw provider kind field w → field ∈ spared label

/-- What is left of a section has the rules of the section. -/
theorem rules_kept (h : Document.read raw = .ok v) (hspared : SparesStrays spared raw) {s : Section}
    (hs : s ∈ (ofValue v).sections) {label : String} {fields : Fields}
    (hsection : Schema.HasSection s.provider s.kind label fields) :
    (s.kept spared label fields).rules = s.rules := by
  obtain ⟨hbare, hcontrols, hdemands⟩ := Schema.bare_of_hasSection hsection
  refine Section.rules_congr rfl rfl (fun intent hi => ?_) ?_ fun field hf => ?_
  · exact Section.entry?_kept_of_isBare (hbare _ (hdemands intent hi))
  · exact Section.entry?_kept_of_isBare (hbare _ hcontrols)
  · by_cases hmem : field ∈ fields.names
    · rw [Section.truthy?, Section.entry?_kept_of_isBare (hbare field hmem), Section.truthy?]
    · have hshape := Fields.shape?_eq_none_iff.2 hmem
      by_cases hfree : field ∈ spared label
      · rw [Section.truthy?, Section.entry?_kept_of_mem hshape hfree, Section.truthy?]
      · -- the entry is gone, and it has said nothing
        have hother : ¬ (s.provider = "azure" ∧ s.kind = "create_resource_group") := by
          rintro ⟨hp, hk⟩
          obtain ⟨hsingles, htags⟩ := Schema.shape?_of_resourceGroup (hk ▸ hp ▸ hsection)
          rcases List.mem_append.1 hf with hf | hf
          · rw [hsingles field hf] at hshape
            cases hshape
          · rw [List.mem_singleton.1 hf, htags] at hshape
            cases hshape
        rw [Section.truthy?, Section.entry?_kept_of_not_mem hshape hfree, Option.filter_none]
        cases hw : s.truthy? field with
        | none => rfl
        | some w =>
          have hstray := (truthy?_iff_isStray h hs hother hf).1 hw
          exact absurd (hspared _ _ _ _ _ _ hsection hstray) hfree

/-- What is left of a document has sections with the same rules. -/
theorem map_rules_strip (h : Document.read raw = .ok v) (hspared : SparesStrays spared raw) :
    (ofValue (Schema.document.strip spared v)).sections.map Section.rules =
      (ofValue v).sections.map Section.rules := by
  simp only [ofValue, Section.listOfValue, List.map_flatMap, List.map_filterMap]
  refine List.flatMap_congr fun p hp => List.filterMap_congr fun kind hk => ?_
  obtain ⟨provider, name, actions⟩ := p
  obtain ⟨⟨kind, shape⟩, ha, rfl⟩ := List.mem_map.1 hk
  obtain ⟨label, fields, rfl, -⟩ := Schema.exists_record hp ha
  -- stripping goes through the fields of the document down to the section
  have hprovider : (Schema.document.strip spared v).field provider =
      (Schema.section_ name actions).strip spared (v.field provider) :=
    (field_strip (Schema.shape?_provider hp)).trans (by rw [strip])
  have hkind : ((Schema.section_ name actions).strip spared (v.field provider)).field kind =
      (record label fields).strip spared ((v.field provider).field kind) :=
    (field_strip (Schema.shape?_kind hp ha)).trans (by rw [strip])
  dsimp only
  rw [hprovider, hkind, entries?_strip_record]
  cases hes : ((v.field provider).field kind).entries? with
  | none => rfl
  | some es =>
    have hsection : Schema.HasSection provider kind label fields := ⟨name, actions, hp, ha⟩
    have hfield : (v.field provider).field kind = .map es := by
      unfold entries? at hes
      split at hes
      · cases hes
        assumption
      · cases hes
    have hmem : (⟨provider, kind, es⟩ : Section) ∈ (ofValue v).sections :=
      mem_sections_iff.2 ⟨⟨label, fields, hsection⟩, hfield⟩
    exact congrArg some (rules_kept h hspared hmem hsection)

/-- A document compiles by the rules of its sections, its policies and its advice. -/
theorem compile_congr {doc other : Document}
    (hsections : other.sections.map Section.rules = doc.sections.map Section.rules)
    (hpolicies : other.policies = doc.policies) (hadvisory : other.advisory = doc.advisory) :
    other.compile profile = doc.compile profile := by
  rw [compile, compile, mapM_eq_mapM_id, hsections, ← mapM_eq_mapM_id, hpolicies, hadvisory, activeProfile,
    activeProfile, hadvisory]

/-- A document compiles to the same without the entries that no field is named for, as long as what counts as
something under a name for a suggestion is spared. -/
theorem compiled_strip (h : Document.read raw = .ok v) (hspared : SparesStrays spared raw) :
    compiled (Schema.document.strip spared raw) profile = compiled raw profile := by
  have hread : Document.read (Schema.document.strip spared raw) = .ok (Schema.document.strip spared v) :=
    read_eq_ok.2 (read_strip _ Schema.isProper_document (read_eq_ok.1 h))
  have hpolicies : (Schema.document.strip spared v).field "policies" =
      (Shape.list Schema.rawPolicy).strip spared (v.field "policies") := field_strip rfl
  have hadvisory : (Schema.document.strip spared v).field "ato" =
      Schema.advisory.strip spared (v.field "ato") := (field_strip rfl).trans (by rw [strip])
  have hmapping : (Schema.advisory.strip spared (v.field "ato")).mapping? =
      (v.field "ato").mapping?.map (Schema.advisory.strip spared) := mapping?_strip_record
  rw [compiled_of_read hread, compiled_of_read h]
  refine congrArg _ (compile_congr (map_rules_strip h hspared) ?_ ?_)
  · rw [ofValue, ofValue, hpolicies, PolicySpec.listOfValue_strip]
  · rw [ofValue, ofValue, hadvisory, hmapping, Option.map_map]
    exact congrArg (Option.map · _) (funext fun _ => Advisory.ofValue_strip)

/-! ### What is taken out of a document -/

/-- A document without its unrecognized entries. -/
def stripped (raw : Value) : Value := Schema.document.strip (fun _ => []) raw

/-- A document without its unrecognized entries, except those that its sections are looked at for. -/
def tidied (raw : Value) : Value := Schema.document.strip Schema.lookedUp raw

theorem read_stripped (h : Document.read raw = .ok v) :
    ∃ w, Document.read (stripped raw) = .ok w ∧ Schema.document.unrecognized "$" w = [] := by
  refine ⟨_, read_eq_ok.2 (read_strip _ Schema.isProper_document (read_eq_ok.1 h)), ?_⟩
  refine List.eq_nil_iff_forall_not_mem.2 fun found hfound => ?_
  obtain ⟨hne, label, hown⟩ := spared_of_unrecognized _ Schema.isProper_document found hfound
  obtain ⟨e, rest, heq⟩ := List.exists_cons_of_ne_nil hne
  obtain ⟨s, hs, -⟩ := hown e (by simp [heq])
  cases hs

theorem read_tidied (h : Document.read raw = .ok v) :
    ∃ w, Document.read (tidied raw) = .ok w ∧ ∀ found ∈ Schema.document.unrecognized "$" w,
      ∀ e ∈ found.2, ∃ s ∈ Schema.suggestions, e.1 = .str s := by
  refine ⟨_, read_eq_ok.2 (read_strip _ Schema.isProper_document (read_eq_ok.1 h)), fun found hfound e he => ?_⟩
  obtain ⟨-, label, hown⟩ := spared_of_unrecognized _ Schema.isProper_document found hfound
  obtain ⟨s, hs, heq⟩ := hown e he
  rw [Schema.lookedUp] at hs
  split at hs
  · exact ⟨s, hs, heq⟩
  · cases hs

/-- Entries that no field is named for have no effect on what a document compiles to, except those that a section
is looked at for. Where no such entry counts as something, none has an effect. -/
theorem unrecognized_inert (h : Document.read raw = .ok v) :
    compiled (tidied raw) profile = compiled raw profile ∧
      ((∀ provider kind field w, ¬ IsStray raw provider kind field w) →
        compiled (stripped raw) profile = compiled raw profile) := by
  constructor
  · refine compiled_strip h fun provider kind label fields field w hsection hstray => ?_
    rw [Schema.suggestions_lookedUp hsection]
    exact hstray.2.2.1
  · intro hno
    exact compiled_strip h fun provider kind label fields field w _ hstray => absurd hstray (hno _ _ _ _)

/-! ### Misspelt entries, and a suggestion -/

/-- The providers with the kinds of action they have sections for. -/
def sectionKinds : List (String × String) :=
  Schema.providers.flatMap fun (provider, _, actions) => actions.map fun (kind, _) => (provider, kind)

theorem not_isStray {provider kind field : String} {w : Value}
    (h : ∀ at_ ∈ sectionKinds, ∀ field ∈ Schema.suggestions,
      (((raw.field at_.1).field at_.2).field field).isTruthy = false) :
    ¬ IsStray raw provider kind field w := by
  rintro ⟨⟨label, fields, name, actions, hp, ha⟩, -, hf, rfl, htruthy⟩
  have hkind : (provider, kind) ∈ sectionKinds := List.mem_flatMap.2 ⟨_, hp, List.mem_map.2 ⟨_, ha, rfl⟩⟩
  rw [h _ hkind field hf] at htruthy
  cases htruthy

/-- A document with something unrecognized in each of its records: in the whole, in a provider, in a section, in a
target, in a check, and in an advisory rule. The section also has the given entries. -/
def misspelt (more : List (String × Value)) : Value := .record
  [("azzure", .record []),
   ("azure", .record
    [("create_vm", .null),
     ("create_storage_account", .record
      ([("require_htps_only", .bool true), ("require_https_only", .bool true)] ++ more))]),
   ("policies", .list [.record
    [("id", .str "p"), ("target", .record [("prefix", .str "azure"), ("sufix", .str "x")]),
     ("checks", .list [.record [("type", .str "requiredTrue"), ("path", .str "a"), ("vaule", .int 1)]])]]),
   ("ato", .record [("profiles", .record [("default", .record [("webapp", .record
    [("target", .record [("tool", .str "azure.create_web_app")]), ("rules", .record
      [("R", .record [("sugest", .str "x"), ("checks", .list
        [.record [("type", .str "requiredTrue"), ("path", .str "b")]])])])])])])])]

/-- A suggestion that storage accounts have no field for. -/
def regionAdvice : List (String × Value) := [("suggest_region", .str "eastus")]

/-- The document compiles to the same four rules when it has been tidied, and without the suggestion to the same three
rules when all has been taken out. -/
theorem misspelt_inert :
    (∃ v c, Document.read (misspelt regionAdvice) = .ok v ∧
      (Schema.document.unrecognized "$" v).length = 6 ∧ c.rules.length = 4 ∧
      compiled (misspelt regionAdvice) "" = .ok c ∧ compiled (tidied (misspelt regionAdvice)) "" = .ok c) ∧
    ∃ v c, Document.read (misspelt []) = .ok v ∧
      (Schema.document.unrecognized "$" v).length = 6 ∧ c.rules.length = 3 ∧
      compiled (misspelt []) "" = .ok c ∧ compiled (stripped (misspelt [])) "" = .ok c := by
  have hread : ∀ more ∈ [regionAdvice, []],
      ((Document.read (misspelt more)).toOption.map fun v => (Schema.document.unrecognized "$" v).length) =
        some 6 := by decide +kernel
  have hrules : [regionAdvice, []].map
      (fun more => (compiled (misspelt more) "").toOption.map fun c => c.rules.length) =
        [some 4, some 3] := by decide +kernel
  have hquiet : ∀ at_ ∈ sectionKinds, ∀ field ∈ Schema.suggestions,
      ((((misspelt []).field at_.1).field at_.2).field field).isTruthy = false := by decide +kernel
  simp only [List.map_cons, List.map_nil, List.cons.injEq, and_true, Option.map_eq_some_iff,
    toOption_eq_some] at hrules hread
  obtain ⟨⟨c, hc, hfour⟩, ⟨c', hc', hthree⟩⟩ := hrules
  obtain ⟨v, hv, hsix⟩ := hread regionAdvice List.mem_cons_self
  obtain ⟨v', hv', hsix'⟩ := hread [] (List.mem_cons_of_mem _ List.mem_cons_self)
  refine ⟨⟨v, c, hv, hsix, hfour, hc, ?_⟩, v', c', hv', hsix', hthree, hc', ?_⟩
  · rw [(unrecognized_inert hv).1, hc]
  · rw [(unrecognized_inert hv').2 fun _ _ _ _ => not_isStray hquiet, hc']

/-- Taking out all that is unrecognized can change the rules: the suggestion is gone with it. -/
theorem stripped_not_always_same :
    ¬ ∀ (raw v : Value) (profile : String), Document.read raw = .ok v →
      compiled (stripped raw) profile = compiled raw profile := by
  intro h
  have hread : (Document.read (misspelt regionAdvice)).toOption.isSome = true := by decide +kernel
  have hrules : [stripped (misspelt regionAdvice), misspelt regionAdvice].map
      (fun raw => (compiled raw "").toOption.map fun c => c.rules.length) = [some 3, some 4] := by
    decide +kernel
  obtain ⟨v, hv⟩ := exists_ok_of_isSome hread
  rw [List.map_cons, List.map_singleton, h _ v "" hv] at hrules
  cases (List.cons.inj hrules).1.symm.trans (List.cons.inj (List.cons.inj hrules).2).1

end Document
end PolicyGate
