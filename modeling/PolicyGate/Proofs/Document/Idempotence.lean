import PolicyGate.Proofs.Document.Bags
import PolicyGate.Proofs.Policy.Rereading

/-!
# Reading a document again

What a document of plain values comes to is such a document itself, and reading leaves it as it is
(`Document.read_again`). Every coercion ends at a value of the kind that is asked for, an alternative that was taken is
taken again, and a record keeps the fields that are given, also as null, and all that no field is named for.

What reading does is seen place by place: the same places are there before and after, of the same shapes, and what
stands at one afterwards is what its shape reads there (`Shape.at?_read`).
-/

namespace PolicyGate

open Attempt Value Document

/-! ## Plain values stay plain -/

namespace Value

variable {as bs : List (Value × Value)} {name : String} {v : Value}

theorem IsJson.append (ha : (Value.map as).IsJson) (hb : (Value.map bs).IsJson)
    (hne : ∀ a ∈ as, ∀ b ∈ bs, a.1 ≠ b.1) : (Value.map (as ++ bs)).IsJson := by
  refine isJson_map_iff.2 ⟨?_, ?_, ?_⟩
  · exact List.forall_mem_append.2 ⟨ha.keys, hb.keys⟩
  · rw [List.map_append, List.nodup_append]
    refine ⟨ha.nodup, hb.nodup, fun k hk k' hk' => ?_⟩
    obtain ⟨a, hmem, rfl⟩ := List.mem_map.1 hk
    obtain ⟨b, hmem', rfl⟩ := List.mem_map.1 hk'
    exact hne a hmem b hmem'
  · exact List.forall_mem_append.2 ⟨fun e he => ha.value he, fun e he => hb.value he⟩

theorem IsJson.sublist (hb : (Value.map bs).IsJson) (h : as.Sublist bs) : (Value.map as).IsJson :=
  isJson_map_iff.2 ⟨fun e he => hb.keys e (h.subset he), hb.nodup.sublist (h.map _), fun _ he => hb.value (h.subset he)⟩

theorem isJson_entry (hv : v.IsJson) : (Value.map [(.str name, v)]).IsJson := by
  simpa [isJson_map_iff] using hv

end Value

namespace Shape

variable {shape item : Shape} {fields : Fields} {entries known all : List (Value × Value)} {raw v w : Value}
  {allowed : List String} {label key : String} {place : Place}

theorem not_mem_names_of_mem_bag {names : List String} {e : Value × Value} (he : e ∈ bag names entries) :
    ∀ s ∈ names, e.1 ≠ .str s := by
  obtain ⟨k, v⟩ := e
  rintro s hs rfl
  have hnot := (List.mem_filter.1 he).2
  simp [hs] at hnot

theorem readWord_eq_value (h : readWord allowed v = .value w) :
    (∃ t, w = .str t) ∧ readWord allowed w = .value w := by
  cases v with
  | str t =>
    by_cases ht : allowed.contains t = true
    · rw [readWord, if_pos ht] at h
      cases h
      exact ⟨⟨t, rfl⟩, if_pos ht⟩
    · rw [readWord, if_neg ht] at h
      cases h
  | _ => cases h

theorem read_whole_eq_value (h : whole.read v = .ok (.value w)) : ∃ n, w = .int n := by
  rw [read] at h
  obtain ⟨n, -, rfl⟩ := Reading.map_eq_value.1 (Except.ok.inj h)
  exact ⟨n, rfl⟩

theorem read_word_eq_value (h : (word allowed).read v = .ok (.value w)) :
    (∃ t, w = .str t) ∧ readWord allowed w = .value w := by
  rw [read] at h
  exact readWord_eq_value (Except.ok.inj h)

theorem version_fits_of_read (h : (version allowed).read v = .ok (.value w)) : (version allowed).Fits w := by
  rw [read_version] at h
  obtain ⟨x, -, h⟩ := bind_eq_ok.1 h
  obtain ⟨⟨t, rfl⟩, ht⟩ := readWord_eq_value (pure_eq_ok.1 h)
  exact congrArg Except.ok ht

theorem not_mem_names_of_areProper {required : Bool} {others : Fields}
    (hp : areProper (.field key required shape others) = true) : key ∉ others.names := by
  simp only [areProper, Bool.and_eq_true, decide_eq_true_eq] at hp
  exact hp.1.1

theorem field?_of_not_mem_names (h : readFields fields entries = .ok (.value known)) (hkey : key ∉ fields.names) :
    field? known key = none := by
  have hknown := field?_readFields h key
  rwa [Fields.shape?_eq_none_iff.2 hkey] at hknown

mutual

/-- What a plain value comes to is a plain value. -/
theorem isJson_read : (shape : Shape) → shape.isProper = true → {raw v : Value} → raw.IsJson →
    shape.read raw = .ok (.value v) → v.IsJson
  | .list item, hp, raw, v, hj, h => by
    obtain ⟨vs, ws, rfl | rfl, rfl, hitems⟩ := read_list_eq_value.1 h
    · refine isJson_list_iff.2 fun y hy => ?_
      obtain ⟨x, hx, hxy⟩ := partner_of_mem_right hitems hy
      exact isJson_read item hp (hj.item hx) hxy
    · exact absurd hj not_isJson_set
  | .dictionary item, hp, raw, v, hj, h => by
    obtain ⟨entries, read, rfl, rfl, hread⟩ := read_dictionary_of_isJson hj h
    refine isJson_map_iff.2 ⟨fun r hr => ?_, ?_, fun r hr => ?_⟩
    · obtain ⟨e, he, hkey, -⟩ := partner_of_mem_right hread hr
      rw [hkey]
      exact hj.keys e he
    · rw [map_fst_eq hread fun e r her => her.1]
      exact hj.nodup
    · obtain ⟨e, -, -, hjson, hvalue⟩ := partner_of_mem_right hread hr
      exact isJson_read item hp hjson hvalue
  | .record label fields, hp, raw, v, hj, h => by
    obtain ⟨entries, known, further, rfl, rfl, hknown, hfurther⟩ := read_record_eq_value.1 h
    obtain ⟨-, rfl⟩ := readFurther_eq_value.1 hfurther
    -- the entries that are kept as they are have other names than the fields
    refine (isJson_readFields fields hp hj hknown).append (hj.sublist List.filter_sublist) fun a ha b hb => ?_
    obtain ⟨s, hs, hkey⟩ := key_of_mem_readFields hknown ha
    rw [hkey]
    exact (not_mem_names_of_mem_bag hb s hs).symm
  | .nullable shape, hp, raw, v, hj, h => by
    rcases read_nullable_eq_value h with ⟨-, rfl⟩ | h
    · exact isJson_null
    · exact isJson_read shape hp hj h
  | .textOr shape, hp, raw, v, hj, h => by
    rcases read_textOr_of_isJson hj h with ⟨s, -, rfl⟩ | h
    · exact isJson_str
    · exact isJson_read shape hp hj h
  | .anything, _, raw, v, hj, h => by
    rw [read] at h
    cases h
    exact hj
  | .text, _, raw, v, _, h => by
    obtain ⟨t, rfl⟩ := read_text_eq_value h
    exact isJson_str
  | .flag, _, raw, v, _, h => by
    obtain ⟨b, rfl⟩ := read_flag_eq_value h
    exact isJson_bool
  | .whole, _, raw, v, _, h => by
    obtain ⟨n, rfl⟩ := read_whole_eq_value h
    exact isJson_int
  | .word allowed, _, raw, v, _, h => by
    obtain ⟨⟨t, rfl⟩, -⟩ := read_word_eq_value h
    exact isJson_str
  | .version allowed, _, raw, v, _, h => by
    obtain ⟨t, rfl⟩ := read_version_eq_value h
    exact isJson_str

/-- What the fields of a plain record come to is plain. -/
theorem isJson_readFields : (fields : Fields) → areProper fields = true → {entries known : List (Value × Value)} →
    (Value.map entries).IsJson → readFields fields entries = .ok (.value known) → (Value.map known).IsJson
  | .none, _, entries, known, _, h => by
    rw [readFields_none] at h
    cases h
    exact isJson_map_iff.2 ⟨nofun, List.nodup_nil, nofun⟩
  | .field name required shape others, hp, entries, known, hj, h => by
    obtain ⟨hshape, hothers, -⟩ := others_of_areProper hp fun _ _ => rfl
    obtain ⟨rest, hrest, hcases⟩ := readFields_cases h
    have hplain := isJson_readFields others hothers hj hrest
    rcases hcases with ⟨-, -, rfl⟩ | ⟨x, y, hx, hy, rfl⟩
    · exact hplain
    · have hvalue := isJson_read shape hshape (hj.value (mem_of_field? hx)) hy
      refine (isJson_entry hvalue).append hplain fun a ha b hb => ?_
      obtain ⟨s, hs, hkey⟩ := key_of_mem_readFields hrest hb
      rw [List.mem_singleton.1 ha, hkey]
      intro heq
      exact not_mem_names_of_areProper hp (Value.str.inj heq ▸ hs)

end

/-! ## What has been read is read as it is -/

theorem Fits.dictionary (hj : (Value.map entries).IsJson) (h : ∀ e ∈ entries, item.Fits e.2) :
    (dictionary item).Fits (.map entries) := by
  have hput : entries.foldl (fun done e => put done e.1 e.2) [] = entries := foldl_put_of_nodup hj.keys hj.nodup
  refine read_dictionary_iff.2 ⟨entries, entries, rfl, congrArg Value.map hput.symm, List.forall₂_same.2 fun e he => ?_⟩
  obtain ⟨s, hs⟩ := hj.keys e he
  exact ⟨⟨s, by rw [hs]; rfl, hs⟩, h e he⟩

theorem Fits.textOr (hj : v.IsJson) (h : shape.Fits v) : (textOr shape).Fits v := by
  rw [Fits] at h
  cases v with
  | str s => rfl
  | bytes bs => exact absurd hj not_isJson_bytes
  | _ =>
    rw [Fits, read, h]
    rfl

mutual

/-- What a plain value comes to is left as it is when it is read. -/
theorem fits_of_read : (shape : Shape) → shape.isProper = true → {raw v : Value} → raw.IsJson →
    shape.read raw = .ok (.value v) → shape.Fits v
  | .list item, hp, raw, v, hj, h => by
    obtain ⟨vs, ws, rfl | rfl, rfl, hitems⟩ := read_list_eq_value.1 h
    · refine Fits.list fun y hy => ?_
      obtain ⟨x, hx, hxy⟩ := partner_of_mem_right hitems hy
      exact fits_of_read item hp (hj.item hx) hxy
    · exact absurd hj not_isJson_set
  | .dictionary item, hp, raw, v, hj, h => by
    have hplain := isJson_read _ hp hj h
    obtain ⟨entries, read, rfl, rfl, hread⟩ := read_dictionary_of_isJson hj h
    refine Fits.dictionary hplain fun r hr => ?_
    obtain ⟨e, -, -, hjson, hvalue⟩ := partner_of_mem_right hread hr
    exact fits_of_read item hp hjson hvalue
  | .record label fields, hp, raw, v, hj, h => by
    have hplain := isJson_read _ hp hj h
    obtain ⟨entries, known, further, rfl, rfl, hknown, hfurther⟩ := read_record_eq_value.1 h
    have hbag := (bag_of_read h).symm
    obtain ⟨-, rfl⟩ := readFurther_eq_value.1 hfurther
    -- the fields are looked for among all entries, and the unrecognized ones have none of their names
    have hagain : readFields fields (known ++ bag fields.names entries) = .ok (.value known) := by
      refine readFields_again fields hp hj hknown fun key hkey => ?_
      rw [field?_append, field?_bag, if_pos hkey, Option.or_none]
    exact read_record_eq_value.2 ⟨_, known, _, rfl, rfl, hagain, readFurther_eq_value.2 ⟨hplain.keys, hbag⟩⟩
  | .nullable shape, hp, raw, v, hj, h => by
    rcases read_nullable_eq_value h with ⟨-, rfl⟩ | h
    · exact read_null
    · exact (fits_of_read shape hp hj h).nullable
  | .textOr shape, hp, raw, v, hj, h => by
    rcases read_textOr_of_isJson hj h with ⟨s, -, rfl⟩ | h
    · exact rfl
    · -- bytes would be taken for a text the second time, but a plain value has none
      exact (fits_of_read shape hp hj h).textOr (isJson_read shape hp hj h)
  | .anything, _, raw, v, _, _ => fits_anything
  | .text, _, raw, v, _, h => by
    obtain ⟨t, rfl⟩ := read_text_eq_value h
    exact fits_text
  | .flag, _, raw, v, _, h => by
    obtain ⟨b, rfl⟩ := read_flag_eq_value h
    exact fits_flag
  | .whole, _, raw, v, _, h => by
    obtain ⟨n, rfl⟩ := read_whole_eq_value h
    rfl
  | .word allowed, _, raw, v, _, h => congrArg Except.ok (read_word_eq_value h).2
  | .version allowed, _, raw, v, _, h => version_fits_of_read h

/-- Entries with the same under the names of the fields come to the same again. -/
theorem readFields_again : (fields : Fields) → areProper fields = true → {entries known all : List (Value × Value)} →
    (Value.map entries).IsJson → readFields fields entries = .ok (.value known) →
    (∀ key ∈ fields.names, field? all key = field? known key) → readFields fields all = .ok (.value known)
  | .none, _, entries, known, all, _, h, _ => h
  | .field name required shape others, hp, entries, known, all, hj, h, hsame => by
    obtain ⟨hshape, hothers, -⟩ := others_of_areProper hp fun _ _ => rfl
    obtain ⟨rest, hrest, hcases⟩ := readFields_cases h
    have hfree := not_mem_names_of_areProper hp
    rcases hcases with ⟨-, hoptional, rfl⟩ | ⟨x, y, hx, hy, rfl⟩
    · have hagain := readFields_again others hothers hj hrest fun key hkey => hsame key (List.mem_cons_of_mem _ hkey)
      -- a field that was left out is left out again
      have hnone : field? all name = none := (hsame name List.mem_cons_self).trans (field?_of_not_mem_names hrest hfree)
      refine readFields_eq_value.2 ⟨[], known, rfl, hagain, ?_⟩
      rw [hnone]
      exact ⟨hoptional, rfl⟩
    · have hagain := readFields_again others hothers hj hrest fun key hkey => by
        have hne : name ≠ key := fun heq => hfree (heq ▸ hkey)
        rw [hsame key (List.mem_cons_of_mem _ hkey), field?_str_cons, if_neg hne]
      -- a field that was read is there with what it came to, and that is of its shape already
      have hsome : field? all name = some y := by
        rw [hsame name List.mem_cons_self, field?_str_cons, if_pos rfl]
      refine readFields_eq_value.2 ⟨[(.str name, y)], rest, rfl, hagain, ?_⟩
      rw [hsome]
      exact ⟨y, fits_of_read shape hshape (hj.value (mem_of_field? hx)) hy, rfl⟩

end

/-! ## Place by place -/

/-- The shape without the alternatives to its lists, mappings and records. -/
def core : Shape → Shape
  | .nullable shape | .textOr shape => shape.core
  | shape => shape

/-- The part of a value that a step leads to, with the shape that it is read by: an element, or the value under a key.
Nothing is read under a key that a record has no field for. -/
def part? (shape : Shape) (v : Value) (step : Step) : Option (Shape × Value) :=
  match shape.core, v, step with
  | .list item, .list vs, .element i => vs[i]?.map fun x => (item, x)
  | .dictionary item, .map entries, .entry key => (field? entries key).map fun x => (item, x)
  | .record _ fields, .map entries, .entry key =>
    (fields.shape? key).bind fun shape => (field? entries key).map fun x => (shape, x)
  | _, _, _ => none

/-- What stands at a place of a value, with the shape that it is read by. -/
def at? (shape : Shape) (v : Value) : Place → Option (Shape × Value)
  | [] => some (shape, v)
  | step :: place => (shape.part? v step).bind fun (shape, v) => shape.at? v place

/-- The names of the fields that are given in a record, and its unrecognized entries. -/
def record? (shape : Shape) (v : Value) : Option (List String × List (Value × Value)) :=
  match shape.core, v with
  | .record _ fields, .map entries =>
    some (fields.names.filter fun name => (field? entries name).isSome, bag fields.names entries)
  | _, _ => none

/-- The same for the record at a place. -/
def recordAt? (shape : Shape) (v : Value) (place : Place) : Option (List String × List (Value × Value)) :=
  (shape.at? v place).bind fun (shape, v) => shape.record? v

/-- The second value is what the first one comes to by its shape. -/
structure ReadsTo (before after : Shape × Value) : Prop where
  plain : before.2.IsJson
  shape : after.1 = before.1
  read : before.1.read before.2 = .ok (.value after.2)

/-- A plain value that has parts is read by the core of its shape. -/
theorem read_core : (shape : Shape) → {raw v : Value} → raw.IsJson → shape.read raw = .ok (.value v) →
    shape.core.read raw = .ok (.value v) ∨ (raw = .null ∨ ∃ s, raw = .str s) ∧ v = raw
  | .nullable shape, raw, v, hj, h => by
    rcases read_nullable_eq_value h with ⟨rfl, rfl⟩ | h
    · exact .inr ⟨.inl rfl, rfl⟩
    · exact read_core shape hj h
  | .textOr shape, raw, v, hj, h => by
    rcases read_textOr_of_isJson hj h with ⟨s, rfl, rfl⟩ | h
    · exact .inr ⟨.inr ⟨s, rfl⟩, rfl⟩
    · exact read_core shape hj h
  | .anything, _, _, _, h | .text, _, _, _, h | .flag, _, _, _, h | .whole, _, _, _, h | .word _, _, _, _, h
  | .version _, _, _, _, h | .list _, _, _, _, h | .dictionary _, _, _, _, h | .record _ _, _, _, _, h => .inl h

/-! What corresponds before and after, as far as there is anything. -/

theorem rel_getElem? {α β : Type} {R : α → β → Prop} {as : List α} {bs : List β} (h : List.Forall₂ R as bs) (i : Nat) :
    Option.Rel R as[i]? bs[i]? := by
  induction h generalizing i with
  | nil => exact .none
  | cons hab _ ih =>
    cases i with
    | zero => exact .some hab
    | succ i => exact ih i

theorem rel_map {α β γ δ : Type} {R : α → β → Prop} {S : γ → δ → Prop} {a : Option α} {b : Option β} {f : α → γ}
    {g : β → δ} (h : Option.Rel R a b) (hfg : ∀ x y, R x y → S (f x) (g y)) : Option.Rel S (a.map f) (b.map g) := by
  cases h with
  | none => exact .none
  | some hab => exact .some (hfg _ _ hab)

theorem rel_bind {α β γ δ : Type} {R : α → β → Prop} {S : γ → δ → Prop} {a : Option α} {b : Option β}
    {f : α → Option γ} {g : β → Option δ} (h : Option.Rel R a b) (hfg : ∀ x y, R x y → Option.Rel S (f x) (g y)) :
    Option.Rel S (a.bind f) (b.bind g) := by
  cases h with
  | none => exact .none
  | some hab => exact hfg _ _ hab

theorem isSome_eq_of_rel {α β : Type} {R : α → β → Prop} {a : Option α} {b : Option β} (h : Option.Rel R a b) :
    b.isSome = a.isSome := by
  cases h with
  | none => rfl
  | some => rfl

theorem rel_field? {R : Value → Value → Prop} {read : List (Value × Value)}
    (h : List.Forall₂ (fun e r => r.1 = e.1 ∧ R e.2 r.2) entries read) (key : String) :
    Option.Rel R (field? entries key) (field? read key) := by
  induction h with
  | nil => exact .none
  | @cons e r _ _ her _ ih =>
    rw [field?_cons, field?_cons, her.1]
    split
    · exact .some her.2
    · exact ih

theorem rel_field?_of_shape? (hj : (Value.map entries).IsJson)
    (h : (record label fields).read (.map entries) = .ok (.value (.map known))) (hs : fields.shape? key = some shape) :
    Option.Rel (fun x y => x.IsJson ∧ shape.read x = .ok (.value y)) (field? entries key) (field? known key) := by
  have hfield := field?_of_shape? h hs
  cases hx : field? entries key with
  | none =>
    rw [hx] at hfield
    rw [hfield]
    exact .none
  | some x =>
    rw [hx] at hfield
    obtain ⟨y, hy, hknown⟩ := hfield
    rw [hknown]
    exact .some ⟨hj.value (mem_of_field? hx), hy⟩

/-- A step leads to the same part before and after, or nowhere in both. -/
theorem part?_read (hj : raw.IsJson) (h : shape.read raw = .ok (.value v)) (step : Step) :
    Option.Rel ReadsTo (shape.part? raw step) (shape.part? v step) := by
  unfold part?
  -- what may be null or a text besides has no parts where it is one
  rcases read_core shape hj h with h | ⟨rfl | ⟨s, rfl⟩, rfl⟩
  · cases hcore : shape.core with
    | list item =>
      rw [hcore] at h
      obtain ⟨vs, ws, rfl | rfl, rfl, hitems⟩ := read_list_eq_value.1 h
      · cases step with
        | entry key => exact .none
        | element i =>
          have hboth := (List.forall₂_and_left vs ws).2 ⟨fun x hx => hj.item hx, hitems⟩
          exact rel_map (rel_getElem? hboth i) fun x y ⟨hplain, hxy⟩ => ⟨hplain, rfl, hxy⟩
      · exact absurd hj not_isJson_set
    | dictionary item =>
      rw [hcore] at h
      obtain ⟨entries, read, rfl, rfl, hread⟩ := read_dictionary_of_isJson hj h
      cases step with
      | entry key =>
        have hentries : Option.Rel (fun x y => x.IsJson ∧ item.read x = .ok (.value y)) (field? entries key)
            (field? read key) := rel_field? hread key
        exact rel_map hentries fun x y ⟨hplain, hxy⟩ => ⟨hplain, rfl, hxy⟩
      | element i => exact .none
    | record label fields =>
      rw [hcore] at h
      obtain ⟨entries, known, further, rfl, rfl, -, -⟩ := read_record_eq_value.1 h
      cases step with
      | entry key =>
        cases hs : fields.shape? key with
        | none =>
          simp only [hs, Option.bind_none]
          exact .none
        | some shape =>
          simp only [hs, Option.bind_some]
          exact rel_map (rel_field?_of_shape? hj h hs) fun x y ⟨hplain, hxy⟩ => ⟨hplain, rfl, hxy⟩
      | element i => exact .none
    | _ => exact .none
  · cases shape.core <;> exact .none
  · cases shape.core <;> exact .none

/-- What stands at a place afterwards is what its shape reads there, and it stands there with the same shape. -/
theorem at?_read (hj : raw.IsJson) (h : shape.read raw = .ok (.value v)) (place : Place) :
    Option.Rel ReadsTo (shape.at? raw place) (shape.at? v place) := by
  induction place generalizing shape raw v with
  | nil => exact .some ⟨hj, rfl, h⟩
  | cons step place ih =>
    refine rel_bind (part?_read hj h step) ?_
    rintro ⟨shape, x⟩ ⟨_, y⟩ ⟨hplain, rfl, hread⟩
    exact ih hplain hread

/-- Reading a record takes no field from it, gives it none, and leaves it its unrecognized entries. -/
theorem record?_read (hj : raw.IsJson) (h : shape.read raw = .ok (.value v)) : shape.record? v = shape.record? raw := by
  unfold record?
  rcases read_core shape hj h with h | ⟨-, rfl⟩
  · cases hcore : shape.core with
    | record label fields =>
      rw [hcore] at h
      obtain ⟨entries, known, further, rfl, rfl, -, -⟩ := read_record_eq_value.1 h
      have hgiven : ∀ name ∈ fields.names,
          (field? (known ++ further) name).isSome = (field? entries name).isSome := by
        intro name hname
        obtain ⟨shape, hs⟩ := Option.ne_none_iff_exists'.1 (mt Fields.shape?_eq_none_iff.1 (not_not_intro hname))
        exact isSome_eq_of_rel (rel_field?_of_shape? hj h hs)
      simp only [List.filter_congr hgiven, bag_of_read h]
    | _ => rfl
  · rfl

theorem recordAt?_read (hj : raw.IsJson) (h : shape.read raw = .ok (.value v)) (place : Place) :
    shape.recordAt? v place = shape.recordAt? raw place := by
  have hat := at?_read hj h place
  rw [recordAt?, recordAt?]
  generalize shape.at? raw place = before at hat ⊢
  generalize shape.at? v place = after at hat ⊢
  cases hat with
  | none => rfl
  | @some a b hab =>
    obtain ⟨shape, x⟩ := a
    obtain ⟨_, y⟩ := b
    obtain ⟨hplain, rfl, hread⟩ := hab
    exact record?_read hplain hread

end Shape

namespace Document

variable {raw v : Value}

/-- What a document of plain values comes to is a document of plain values again. In each of its records the fields
are given that were given in the document, with what their shapes read there, and all other entries are kept. It is
read as it is, and compiles to the same as the document under every advisory profile. -/
theorem read_again (hj : raw.IsJson) (h : Document.read raw = .ok v) :
    v.IsJson ∧ Document.read v = .ok v ∧
      (∀ place, Option.Rel Shape.ReadsTo (Schema.document.at? raw place) (Schema.document.at? v place) ∧
        Schema.document.recordAt? v place = Schema.document.recordAt? raw place) ∧
      ∀ profile, compiled v profile = compiled raw profile := by
  have hread := read_eq_ok.1 h
  have hagain : Document.read v = .ok v := read_eq_ok.2 (Shape.fits_of_read _ Schema.isProper_document hj hread)
  refine ⟨Shape.isJson_read _ Schema.isProper_document hj hread, hagain, fun place => ?_, fun profile => ?_⟩
  · exact ⟨Shape.at?_read hj hread place, Shape.recordAt?_read hj hread place⟩
  · rw [compiled_of_read hagain, compiled_of_read h]

/-- A document with flags, numbers and a version that are written in other ways, with an expected value that is null,
with a suggestion that is a record, and with entries that no field is named for. -/
def loose : Value := .record
  [("owner", .str "ops"),
   ("policies", .list [.record
    [("target", .record [("tool", .str "azure.create_subnet")]), ("id", .str "p"),
     ("checks", .list [.record [("value", .null), ("type", .str "notEquals"), ("path", .str "a"),
       ("ignore_case", .str "off")]]),
     ("suggest", .record [("text", .str "t"), ("fxi", .null)])]]),
   ("azure", .record
    [("create_storage_account", .record [("require_https_only", .int 1), ("min_tls_version", .int 1)]),
     ("create_log_analytics_workspace", .record
       [("retention_days_allowlist", .list [.str "030", .float (.ofInt 90)])])])]

/-- The same with flags for flags, numbers for numbers and texts for versions, and with the fields in their order. -/
def tight : Value := .record
  [("azure", .record
     [("create_storage_account", .record [("require_https_only", .bool true), ("min_tls_version", .str "1.0")]),
      ("create_log_analytics_workspace", .record [("retention_days_allowlist", .list [.int 30, .int 90])])]),
   ("policies", .list [.record
    [("id", .str "p"), ("target", .record [("tool", .str "azure.create_subnet")]),
     ("checks", .list [.record [("type", .str "notEquals"), ("path", .str "a"), ("ignore_case", .bool false),
       ("value", .null)]]),
     ("suggest", .record [("text", .str "t"), ("fxi", .null)])]]),
   ("owner", .str "ops")]

/-- What the first document comes to is written like the second one, and is read as it is. -/
theorem loose_read_again :
    ∃ v, Document.read loose = .ok v ∧ (Json.write .line v).toOption = (Json.write .line tight).toOption ∧
      v.IsJson ∧ Document.read v = .ok v ∧
      (∀ place, Option.Rel Shape.ReadsTo (Schema.document.at? loose place) (Schema.document.at? v place) ∧
        Schema.document.recordAt? v place = Schema.document.recordAt? loose place) ∧
      ∀ profile, compiled v profile = compiled loose profile := by
  have hjson : loose.IsJson := by
    simp [loose, isJson_record_iff, isJson_list_iff, isJson_str, isJson_int, isJson_float, isJson_null]
  have hread : ((Document.read loose).toOption.map fun v => (Json.write .line v).toOption) =
      some (Json.write .line tight).toOption := by decide +kernel
  simp only [Option.map_eq_some_iff, toOption_eq_some] at hread
  obtain ⟨v, hv, htext⟩ := hread
  exact ⟨v, hv, htext, read_again hjson hv⟩

end Document
end PolicyGate
