import Mathlib.Data.List.Nodup
import PolicyGate.Proofs.Document.Places
import PolicyGate.Proofs.Document.Stripping
import PolicyGate.Proofs.Value.Holding

/-!
# Where the unrecognized entries stand

The records of a document that have unrecognized entries, each with its place and those entries. The walk is the one
by which they are collected (`Shape.unrecognized_eq`), with places for paths. Reading a document of plain values
changes nothing about it (`Shape.unrecognizedAt_read`).
-/

namespace PolicyGate

namespace Value

variable {vs : List Value} {entries : List (Value × Value)} {k v : Value}

/-- The value itself is none that plain documents are made of: they have lists, mappings from texts, and single
values that are neither bytes nor dates. -/
def OffJson : Value → Prop
  | .day _ | .moment _ | .bytes _ | .set _ => True
  | .map entries => ¬ ((∀ e ∈ entries, ∃ s, e.1 = .str s) ∧ (entries.map (·.1)).Nodup)
  | _ => False

/-- The value is made of null, flags, numbers, texts, lists, and mappings with different texts for keys. -/
def IsJson (v : Value) : Prop := ¬ v.Holds OffJson

theorem IsJson.item (h : (Value.list vs).IsJson) (hv : v ∈ vs) : v.IsJson := fun hoff => h (.item hv hoff)

theorem IsJson.value (h : (Value.map entries).IsJson) (he : (k, v) ∈ entries) : v.IsJson :=
  fun hoff => h (.value he hoff)

theorem IsJson.keys (h : (Value.map entries).IsJson) : ∀ e ∈ entries, ∃ s, e.1 = .str s := by
  by_contra hkeys
  exact h (.here fun hboth => hkeys hboth.1)

theorem IsJson.nodup (h : (Value.map entries).IsJson) : (entries.map (·.1)).Nodup := by
  by_contra hnodup
  exact h (.here fun hboth => hnodup hboth.2)

theorem isJson_list_iff : (Value.list vs).IsJson ↔ ∀ v ∈ vs, v.IsJson := by
  rw [IsJson, holds_list_iff (by simp [OffJson])]
  simp [IsJson]

theorem isJson_str {s : String} : (Value.str s).IsJson := by
  rintro (h | _)
  exact h

/-- Plain values under different texts make a plain value. -/
theorem isJson_map_iff : (Value.map entries).IsJson ↔
    (∀ e ∈ entries, ∃ s, e.1 = .str s) ∧ (entries.map (·.1)).Nodup ∧ ∀ e ∈ entries, e.2.IsJson := by
  constructor
  · intro h
    exact ⟨h.keys, h.nodup, fun e he => h.value he⟩
  · rintro ⟨hkeys, hnodup, hvalues⟩ hoff
    obtain ⟨e, he, h | h⟩ := (holds_map_iff fun hnot => hnot ⟨hkeys, hnodup⟩).1 hoff
    · obtain ⟨s, hs⟩ := hkeys e he
      rw [hs] at h
      exact isJson_str h
    · exact hvalues e he h

/-- Plain values under different names make a plain value. -/
theorem isJson_record_iff {fields : List (String × Value)} :
    (Value.record fields).IsJson ↔ (fields.map (·.1)).Nodup ∧ ∀ f ∈ fields, f.2.IsJson := by
  have hkeys : (fields.map fun f => (Value.str f.1, f.2)).map (·.1) = (fields.map (·.1)).map Value.str := by
    rw [List.map_map, List.map_map]
    rfl
  have hstr : Function.Injective Value.str := fun _ _ h => Value.str.inj h
  have hrecord : Value.record fields = .map (fields.map fun f => (.str f.1, f.2)) := rfl
  rw [hrecord, isJson_map_iff, hkeys, List.nodup_map_iff hstr, List.forall_mem_map, List.forall_mem_map]
  exact and_iff_right fun f _ => ⟨f.1, rfl⟩

theorem isJson_bool {b : Bool} : (Value.bool b).IsJson := by
  rintro (h | _)
  exact h

theorem isJson_int {n : Int} : (Value.int n).IsJson := by
  rintro (h | _)
  exact h

theorem isJson_float {x : Binary64} : (Value.float x).IsJson := by
  rintro (h | _)
  exact h

theorem isJson_null : Value.null.IsJson := by
  rintro (h | _)
  exact h

theorem not_isJson_set : ¬ (Value.set vs).IsJson := fun h => h (.here trivial)

theorem not_isJson_bytes {bs : List UInt8} : ¬ (Value.bytes bs).IsJson := fun h => h (.here trivial)

end Value

namespace Document.Place

/-- A step in a path of keys after dots. -/
def dottedStep (path : String) : Step → String
  | .entry key => path ++ "." ++ key
  | .element i => path ++ "[" ++ toString i ++ "]"

/-- The path with all keys after dots, whatever they are made of. -/
def dotted (place : Place) : String := place.foldl dottedStep "$"

theorem dotted_append (place : Place) (step : Step) : dotted (place ++ [step]) = dottedStep place.dotted step := by
  rw [dotted, List.foldl_append]
  rfl

/-- The place of an entry of a mapping. -/
def entry (place : Place) (key : Value) : Place :=
  match key with
  | .str s => place ++ [.entry s]
  | _ => place

theorem dotted_entry (place : Place) (key : Value) : (place.entry key).dotted = Shape.entryPath place.dotted key := by
  cases key with
  | str s => exact dotted_append place (.entry s)
  | _ => rfl

end Document.Place

namespace Shape

open Attempt Value Document

mutual

/-- The unrecognized entries of a value of the shape and of everything in it, by place. -/
def unrecognizedAt : Shape → Place → Value → List (Place × List (Value × Value))
  | .list item, place, .list vs =>
    vs.zipIdx.flatMap fun (v, i) => item.unrecognizedAt (place ++ [.element i]) v
  | .dictionary item, place, .map entries =>
    entries.flatMap fun (k, v) => item.unrecognizedAt (place.entry k) v
  | .record _ fields, place, .map entries =>
    let own := bag fields.names entries
    (if own.isEmpty then [] else [(place, own)]) ++ fieldsUnrecognizedAt fields place entries
  | .nullable shape, place, v => shape.unrecognizedAt place v
  | .textOr shape, place, v => shape.unrecognizedAt place v
  | _, _, _ => []

/-- The unrecognized entries in the fields of a record, by place. -/
def fieldsUnrecognizedAt : Fields → Place → List (Value × Value) → List (Place × List (Value × Value))
  | .none, _, _ => []
  | .field name _ shape others, place, entries =>
    (match Value.field? entries name with
      | some v => shape.unrecognizedAt (place ++ [.entry name]) v
      | none => []) ++ fieldsUnrecognizedAt others place entries

end

variable {place : Place} {v w raw : Value} {entries known : List (Value × Value)} {fields : Fields}
  {shape : Shape} {label : String}

/-- Only in a collection is there something unrecognized. -/
theorem unrecognizedAt_eq_nil (hmap : ∀ es, v ≠ .map es) (hlist : ∀ vs, v ≠ .list vs) :
    (shape : Shape) → shape.unrecognizedAt place v = []
  | .nullable shape => by
    rw [unrecognizedAt]
    exact unrecognizedAt_eq_nil hmap hlist shape
  | .textOr shape => by
    rw [unrecognizedAt]
    exact unrecognizedAt_eq_nil hmap hlist shape
  | .list item => by
    cases v with
    | list vs => exact absurd rfl (hlist vs)
    | _ => simp [unrecognizedAt]
  | .dictionary item => by
    cases v with
    | map es => exact absurd rfl (hmap es)
    | _ => simp [unrecognizedAt]
  | .record label fields => by
    cases v with
    | map es => exact absurd rfl (hmap es)
    | _ => simp [unrecognizedAt]
  | .anything | .text | .flag | .whole | .word _ | .version _ => by simp [unrecognizedAt]

/-! ## The walk by paths -/

mutual

/-- All unrecognized entries are collected by path as they are by place. -/
theorem unrecognized_eq : (shape : Shape) → (place : Place) → (v : Value) →
    shape.unrecognized place.dotted v =
      (shape.unrecognizedAt place v).map fun found => (found.1.dotted, found.2)
  | .list item, place, v => by
    cases v with
    | list vs =>
      rw [unrecognized, unrecognizedAt, List.map_flatMap]
      refine List.flatMap_congr fun ⟨x, i⟩ _ => ?_
      rw [← unrecognized_eq item, Place.dotted_append]
      rfl
    | _ => simp [unrecognized, unrecognizedAt]
  | .dictionary item, place, v => by
    cases v with
    | map es =>
      rw [unrecognized, unrecognizedAt, List.map_flatMap]
      refine List.flatMap_congr fun ⟨k, x⟩ _ => ?_
      rw [← unrecognized_eq item, Place.dotted_entry]
    | _ => simp [unrecognized, unrecognizedAt]
  | .record label fields, place, v => by
    cases v with
    | map es =>
      rw [unrecognized, unrecognizedAt, List.map_append, ← fieldsUnrecognized_eq fields]
      refine congrArg (· ++ _) ?_
      split <;> rfl
    | _ => simp [unrecognized, unrecognizedAt]
  | .nullable shape, place, v => by
    rw [unrecognized, unrecognizedAt, unrecognized_eq shape]
  | .textOr shape, place, v => by
    rw [unrecognized, unrecognizedAt, unrecognized_eq shape]
  | .anything, _, v | .text, _, v | .flag, _, v | .whole, _, v | .word _, _, v | .version _, _, v => by
    simp [unrecognized, unrecognizedAt]

/-- The same for the fields of a record. -/
theorem fieldsUnrecognized_eq : (fields : Fields) → (place : Place) → (entries : List (Value × Value)) →
    fieldsUnrecognized fields place.dotted entries =
      (fieldsUnrecognizedAt fields place entries).map fun found => (found.1.dotted, found.2)
  | .none, _, _ => by simp [fieldsUnrecognized, fieldsUnrecognizedAt]
  | .field name required shape others, place, entries => by
    rw [fieldsUnrecognized, fieldsUnrecognizedAt, List.map_append, ← fieldsUnrecognized_eq others]
    refine congrArg (· ++ _) ?_
    cases hx : field? entries name with
    | none => rfl
    | some x =>
      have hfound := unrecognized_eq shape (place ++ [.entry name]) x
      rwa [Place.dotted_append] at hfound

end

/-! ## Before and after reading -/

/-- A walk over elements that correspond finds the same at each. -/
theorem flatMap_zipIdx_congr {α β γ : Type} {R : α → β → Prop} {xs : List α} {ys : List β} {f : α × Nat → List γ}
    {g : β × Nat → List γ} (h : List.Forall₂ R xs ys) (hfg : ∀ x y i, R x y → f (x, i) = g (y, i)) {start : Nat} :
    (xs.zipIdx start).flatMap f = (ys.zipIdx start).flatMap g := by
  induction h generalizing start with
  | nil => rfl
  | cons hxy _ ih =>
    rw [List.zipIdx_cons, List.zipIdx_cons, List.flatMap_cons, List.flatMap_cons, hfg _ _ _ hxy, ih]

theorem flatMap_congr₂ {α β γ : Type} {R : α → β → Prop} {xs : List α} {ys : List β} {f : α → List γ}
    {g : β → List γ} (h : List.Forall₂ R xs ys) (hfg : ∀ x y, R x y → f x = g y) :
    xs.flatMap f = ys.flatMap g := by
  induction h with
  | nil => rfl
  | cons hxy _ ih => rw [List.flatMap_cons, List.flatMap_cons, hfg _ _ hxy, ih]

theorem put_of_new {k : Value} (hk : ∀ e ∈ entries, sameKey e.1 k ≠ true) : put entries k v = entries ++ [(k, v)] := by
  induction entries with
  | nil => rfl
  | cons e es ih =>
    obtain ⟨hne, hes⟩ := List.forall_mem_cons.1 hk
    rw [put, if_neg hne, ih hes, List.cons_append]

/-- Entries with different texts for keys are put together as they are. -/
theorem foldl_put_of_nodup (hkeys : ∀ e ∈ entries, ∃ s, e.1 = .str s)
    (hnodup : ((known ++ entries).map (·.1)).Nodup) :
    entries.foldl (fun done (k, v) => put done k v) known = known ++ entries := by
  induction entries generalizing known with
  | nil => rw [List.foldl_nil, List.append_nil]
  | cons e rest ih =>
    obtain ⟨k, x⟩ := e
    obtain ⟨s, rfl⟩ : ∃ s, k = .str s := hkeys _ List.mem_cons_self
    have hnew : ∀ e ∈ known, sameKey e.1 (.str s) ≠ true := by
      intro e he hsame
      rw [sameKey_str] at hsame
      rw [List.map_append, List.map_cons, List.nodup_append] at hnodup
      exact hnodup.2.2 _ (List.mem_map_of_mem he) _ List.mem_cons_self (same_str_iff.1 hsame)
    have hsplit : known ++ (.str s, x) :: rest = put known (.str s) x ++ rest := by
      rw [put_of_new hnew, List.append_assoc, List.singleton_append]
    rw [hsplit] at hnodup ⊢
    rw [List.foldl_cons]
    exact ih (fun e he => hkeys e (List.mem_cons_of_mem _ he)) hnodup

theorem map_fst_eq {R : Value × Value → Value × Value → Prop} {read : List (Value × Value)}
    (h : List.Forall₂ R entries read) (hR : ∀ e r, R e r → r.1 = e.1) : read.map (·.1) = entries.map (·.1) := by
  rw [← List.forall₂_eq_eq_eq, List.forall₂_map_left_iff, List.forall₂_map_right_iff]
  exact (h.imp hR).flip

/-- A dictionary of plain values is read entry by entry, and nothing happens to its keys. -/
theorem read_dictionary_of_isJson {item : Shape} (hj : raw.IsJson)
    (h : (dictionary item).read raw = .ok (.value v)) :
    ∃ entries read, raw = .map entries ∧ v = .map read ∧
      List.Forall₂ (fun e r => r.1 = e.1 ∧ e.2.IsJson ∧ item.read e.2 = .ok (.value r.2)) entries read := by
  obtain ⟨entries, read, rfl, rfl, hread⟩ := read_dictionary_iff.1 h
  have hall : List.Forall₂ (fun e r => r.1 = e.1 ∧ e.2.IsJson ∧ item.read e.2 = .ok (.value r.2)) entries read := by
    have hplain : ∀ e ∈ entries, (∃ s, e.1 = .str s) ∧ e.2.IsJson := fun e he => ⟨hj.keys e he, hj.value he⟩
    refine ((List.forall₂_and_left entries read).2 ⟨hplain, hread⟩).imp ?_
    rintro e r ⟨⟨⟨s, hs⟩, hjson⟩, ⟨t, ht, hr⟩, hvalue⟩
    rw [hs] at ht
    cases ht
    exact ⟨by rw [hr, hs], hjson, hvalue⟩
  have hkeys : read.map (·.1) = entries.map (·.1) := map_fst_eq hall fun e r her => her.1
  have hput : read.foldl (fun done r => put done r.1 r.2) [] = read := by
    refine foldl_put_of_nodup (fun r hr => ?_) ?_
    · obtain ⟨e, -, ⟨s, -, hs⟩, -⟩ := partner_of_mem_right hread hr
      exact ⟨s, hs⟩
    · rw [List.nil_append, hkeys]
      exact hj.nodup
  exact ⟨entries, read, rfl, congrArg Value.map hput, hall⟩

/-- What fields add to a record stands under their names. -/
theorem key_of_mem_readFields (h : readFields fields entries = .ok (.value known)) {e : Value × Value}
    (he : e ∈ known) : ∃ s ∈ fields.names, e.1 = .str s := by
  induction fields using Fields.names.induct generalizing known with
  | case1 =>
    rw [readFields] at h
    cases h
    cases he
  | case2 name required shape others ih =>
    obtain ⟨rest, hrest, hcases⟩ := readFields_cases h
    have hthere : e ∈ rest → ∃ s ∈ (Fields.field name required shape others).names, e.1 = .str s := by
      intro he
      obtain ⟨s, hs, heq⟩ := ih hrest he
      exact ⟨s, List.mem_cons_of_mem _ hs, heq⟩
    rcases hcases with ⟨-, -, rfl⟩ | ⟨x, y, -, -, rfl⟩
    · exact hthere he
    · rcases List.mem_cons.1 he with rfl | he
      · exact ⟨name, List.mem_cons_self, rfl⟩
      · exact hthere he

/-- Reading a record leaves it the entries that no field is named for. -/
theorem bag_of_read (h : (record label fields).read (.map entries) = .ok (.value (.map known))) :
    bag fields.names known = bag fields.names entries := by
  obtain ⟨es, fs, further, hes, hk, hfields, hfurther⟩ := read_record_eq_value.1 h
  obtain rfl := Value.map.inj hes
  obtain rfl := Value.map.inj hk
  obtain ⟨-, rfl⟩ := readFurther_eq_value.1 hfurther
  have hnone : bag fields.names fs = [] := by
    rw [bag, List.filter_eq_nil_iff]
    intro e he
    obtain ⟨s, hs, heq⟩ := key_of_mem_readFields hfields he
    simp [heq, hs]
  have hagain : bag fields.names (bag fields.names entries) = bag fields.names entries := by
    rw [bag, bag, List.filter_filter]
    simp only [Bool.and_self]
  have happend : bag fields.names (fs ++ bag fields.names entries) =
      bag fields.names fs ++ bag fields.names (bag fields.names entries) := List.filter_append ..
  rw [happend, hnone, hagain, List.nil_append]

/-- A plain value is read as a text if it is one. -/
theorem read_textOr_of_isJson (hj : raw.IsJson) (h : (textOr shape).read raw = .ok (.value v)) :
    (∃ s, raw = .str s ∧ v = .str s) ∨ shape.read raw = .ok (.value v) := by
  rw [read] at h
  cases hraw : raw.asText with
  | ok s =>
    rw [hraw] at h
    cases h
    cases raw with
    | str t =>
      cases hraw
      exact .inl ⟨_, rfl, rfl⟩
    | bytes bs => exact absurd hj not_isJson_bytes
    | _ => cases hraw
  | error message =>
    rw [hraw] at h
    obtain ⟨r, hr, h⟩ := bind_eq_ok.1 h
    cases r with
    | value x =>
      cases h
      exact .inr hr
    | faulty cs => cases h

mutual

/-- What is unrecognized in a plain value is unrecognized in what the value comes to. -/
theorem unrecognizedAt_read : (shape : Shape) → shape.isProper = true → {raw v : Value} → raw.IsJson →
    (place : Place) → shape.read raw = .ok (.value v) →
    shape.unrecognizedAt place v = shape.unrecognizedAt place raw
  | .list item, hp, raw, v, hj, place, h => by
    obtain ⟨vs, ws, rfl | rfl, rfl, hitems⟩ := read_list_eq_value.1 h
    · rw [unrecognizedAt, unrecognizedAt]
      have hboth := (List.forall₂_and_left vs ws).2 ⟨fun x hx => hj.item hx, hitems⟩
      exact (flatMap_zipIdx_congr hboth fun x y i hxy => (unrecognizedAt_read item hp hxy.1 _ hxy.2).symm).symm
    · exact absurd hj not_isJson_set
  | .dictionary item, hp, raw, v, hj, place, h => by
    obtain ⟨entries, read, rfl, rfl, hread⟩ := read_dictionary_of_isJson hj h
    rw [unrecognizedAt, unrecognizedAt]
    refine (flatMap_congr₂ hread fun ⟨k, x⟩ ⟨k', y⟩ her => ?_).symm
    obtain ⟨rfl, hjson, hvalue⟩ := her
    exact (unrecognizedAt_read item hp hjson _ hvalue).symm
  | .record label fields, hp, raw, v, hj, place, h => by
    obtain ⟨entries, known, further, rfl, rfl, -, -⟩ := read_record_eq_value.1 h
    rw [unrecognizedAt, unrecognizedAt, bag_of_read h,
      fieldsUnrecognizedAt_read fields fields hp (fun _ _ => rfl) hj place h]
  | .nullable shape, hp, raw, v, hj, place, h => by
    rw [unrecognizedAt, unrecognizedAt]
    rcases read_nullable_eq_value h with ⟨rfl, rfl⟩ | h
    · rfl
    · exact unrecognizedAt_read shape hp hj place h
  | .textOr shape, hp, raw, v, hj, place, h => by
    rw [unrecognizedAt, unrecognizedAt]
    rcases read_textOr_of_isJson hj h with ⟨s, rfl, rfl⟩ | h
    · rfl
    · exact unrecognizedAt_read shape hp hj place h
  | .anything, _, raw, v, _, _, _ | .text, _, raw, v, _, _, _ | .flag, _, raw, v, _, _, _
  | .whole, _, raw, v, _, _, _ | .word _, _, raw, v, _, _, _ | .version _, _, raw, v, _, _, _ => by
    simp [unrecognizedAt]

/-- The same for some of the fields of a record. -/
theorem fieldsUnrecognizedAt_read {label : String} (whole : Fields) : (fields : Fields) →
    areProper fields = true → (∀ key ∈ fields.names, whole.shape? key = fields.shape? key) →
    {entries known : List (Value × Value)} → (Value.map entries).IsJson → (place : Place) →
    (record label whole).read (.map entries) = .ok (.value (.map known)) →
    fieldsUnrecognizedAt fields place known = fieldsUnrecognizedAt fields place entries
  | .none, _, _, entries, known, _, _, _ => by rw [fieldsUnrecognizedAt, fieldsUnrecognizedAt]
  | .field name required shape others, hp, hwhole, entries, known, hj, place, h => by
    obtain ⟨hshape, hothers, hwhole'⟩ := others_of_areProper hp hwhole
    rw [fieldsUnrecognizedAt, fieldsUnrecognizedAt,
      fieldsUnrecognizedAt_read whole others hothers hwhole' hj place h]
    refine congrArg (· ++ _) ?_
    have hfield := field?_of_shape? h (shape?_whole hwhole)
    cases hx : field? entries name with
    | none =>
      rw [hx] at hfield
      rw [hfield]
    | some x =>
      rw [hx] at hfield
      obtain ⟨y, hy, hknown⟩ := hfield
      rw [hknown]
      exact unrecognizedAt_read shape hshape (hj.value (mem_of_field? hx)) _ hy

end

end Shape
end PolicyGate
