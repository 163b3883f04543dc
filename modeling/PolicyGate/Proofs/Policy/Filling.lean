import PolicyGate.Proofs.Policy.Rendering

/-!
# What a filled template says

A template that is taken apart has a text in front, then placeholders with a text behind each (`Pieces`). Filled, it
has what the context says in the place of each placeholder, and is otherwise as it was (`render_written_eq_ok`). What
has been put in is not looked at again, so nothing in a value of the context is a placeholder. In a value, this is
what happens to each text inside, while the keys, the number and the order of its parts and everything that is no text
are kept (`fillsAt_partAt?`).
-/

namespace PolicyGate

open Attempt

/-- The context says the text in the place of the key: nothing where it has nothing or null, and else the text of what
it has. -/
def Context.Says (context : Context) (key text : String) : Prop :=
  match Value.field? context key with
  | none | some .null => text = ""
  | some v => v.text? = some text

namespace Context

variable {context : Context} {key text : String} {v : Value}

theorem null_or_value (context : Context) (key : String) :
    (Value.field? context key = none ∨ Value.field? context key = some .null) ∨
      ∃ v, Value.field? context key = some v ∧ v ≠ .null := by
  cases Value.field? context key with
  | none => exact .inl (.inl rfl)
  | some v =>
    by_cases hv : v = .null
    · exact .inl (.inr (congrArg some hv))
    · exact .inr ⟨v, rfl, hv⟩

theorem says_of_null (h : Value.field? context key = none ∨ Value.field? context key = some .null) :
    context.Says key text ↔ text = "" := by
  rcases h with h | h <;> rw [Says, h]

theorem says_of_value (h : Value.field? context key = some v) (hv : v ≠ .null) :
    context.Says key text ↔ v.text? = some text := by
  rw [Says, h]
  cases v with
  | null => exact absurd rfl hv
  | _ => exact Iff.rfl

/-- What the context has under the key can be written. -/
theorem exists_says_iff :
    (∃ text, context.Says key text) ↔ ∀ v, Value.field? context key = some v → v.text? ≠ none := by
  rcases null_or_value context key with hnull | ⟨v, hfound, hv⟩
  · simp only [says_of_null hnull, exists_eq, true_iff]
    intro v hfound
    rcases hnull with hnull | hnull
    · rw [hnull] at hfound
      cases hfound
    · rw [hnull] at hfound
      obtain rfl := Option.some.inj hfound
      simp [Value.text?, Value.literal?]
  · simp [says_of_value hfound hv, hfound, Option.ne_none_iff_exists']

end Context

/-- The part of a value at a position: an element, or what is under a key. -/
def Value.part? : Value → Nat → Option Value
  | .list items, i => items[i]?
  | .map entries, i => entries[i]?.map (·.2)
  | _, _ => none

/-- The part of a value at the end of a way, position by position. -/
def Value.partAt? (v : Value) : List Nat → Option Value
  | [] => some v
  | i :: place => (v.part? i).bind (·.partAt? place)

namespace Template

variable {context : Context} {key : String} {cs rest out : List Char} {p : Char → Bool} {v w : Value}
  {e : RenderError}

theorem valueText_of_null (h : Value.field? context key = none ∨ Value.field? context key = some .null) :
    valueText context key = .ok [] := by
  rcases h with h | h <;> rw [valueText, h]

theorem valueText_of_value (h : Value.field? context key = some v) (hv : v ≠ .null) :
    valueText context key = .ok cs ↔ v.text? = some (String.ofList cs) := by
  unfold valueText
  split
  · rename_i hfound
    rw [h] at hfound
    cases hfound
  · rename_i hfound
    rw [h] at hfound
    exact absurd (Option.some.inj hfound) hv
  · rename_i w _ hfound
    rw [h] at hfound
    obtain rfl := Option.some.inj hfound
    cases v.text? with
    | none => simp
    | some text => simp [← String.toList_inj]

theorem valueText_eq_ok : valueText context key = .ok cs ↔ context.Says key (String.ofList cs) := by
  rcases context.null_or_value key with hnull | ⟨v, hfound, hv⟩
  · rw [valueText_of_null hnull, Context.says_of_null hnull, Except.ok.injEq, ← String.toList_inj,
      String.toList_ofList, String.toList_empty, eq_comm]
  · rw [valueText_of_value hfound hv, Context.says_of_value hfound hv]

/-! ## Pieces of a template -/

/-- A placeholder as it is written, and the text between it and the next one. -/
structure Slot where
  left : String
  key : String
  right : String
  behind : String
  left_blank : left.toList.all Text.isBlank = true
  key_chars : key.toList.all isKeyChar = true
  key_ne_nil : key.toList ≠ []
  right_blank : right.toList.all Text.isBlank = true
  behind_plain : '\x7b' ∉ behind.toList

/-- The placeholder alone. -/
def Slot.text (s : Slot) : String := "\x7b\x7b" ++ s.left ++ s.key ++ s.right ++ "\x7d\x7d"

/-- A template taken apart: the text in front of the first placeholder, and the placeholders. -/
structure Pieces where
  front : String
  slots : List Slot
  front_plain : '\x7b' ∉ front.toList

/-- The template put together. -/
def Pieces.written (p : Pieces) : String :=
  p.front ++ String.join (p.slots.map fun s => s.text ++ s.behind)

/-- The template with some texts in the places of the placeholders. -/
def Pieces.filled (p : Pieces) (texts : List String) : String :=
  p.front ++ String.join (List.zipWith (fun s text => text ++ s.behind) p.slots texts)

/-! ## Reading one piece -/

theorem takeWhile_append_of_stop (hcs : ∀ c ∈ cs, p c = true) (hrest : ∀ c ∈ rest.head?, p c = false) :
    (cs ++ rest).takeWhile p = cs := by
  rw [List.takeWhile_append_of_pos hcs]
  cases rest with
  | nil => simp
  | cons c rest => rw [List.takeWhile_cons_of_neg (by simp [hrest c rfl]), List.append_nil]

theorem dropWhile_append_of_stop (hcs : ∀ c ∈ cs, p c = true) (hrest : ∀ c ∈ rest.head?, p c = false) :
    (cs ++ rest).dropWhile p = rest := by
  rw [List.dropWhile_append_of_pos hcs]
  cases rest with
  | nil => simp
  | cons c rest => rw [List.dropWhile_cons_of_neg (by simp [hrest c rfl])]

theorem toNat_of_isKeyChar {c : Char} (h : isKeyChar c = true) : 48 ≤ c.toNat ∧ c.toNat ≤ 122 := by
  rw [isKeyChar, Bool.or_eq_true, beq_iff_eq] at h
  rcases h with h | rfl
  · change ((decide (65 ≤ c.val ∧ c.val ≤ 90) || (decide (97 ≤ c.val) && decide (c.val ≤ 122))) ||
      (decide (48 ≤ c.val) && decide (c.val ≤ 57))) = true at h
    simp only [Bool.or_eq_true, Bool.and_eq_true, decide_eq_true_eq, UInt32.le_iff_toNat_le] at h
    change ((65 ≤ c.toNat ∧ c.toNat ≤ 90) ∨ (97 ≤ c.toNat ∧ c.toNat ≤ 122)) ∨ (48 ≤ c.toNat ∧ c.toNat ≤ 57) at h
    omega
  · decide

theorem not_isBlank_of_isKeyChar {c : Char} (h : isKeyChar c = true) : Text.isBlank c = false := by
  obtain ⟨hlow, hhigh⟩ := toNat_of_isKeyChar h
  simp only [Text.isBlank, Text.blankRanges, Text.inRanges]
  grind

theorem not_isKeyChar_of_isBlank {c : Char} (h : Text.isBlank c = true) : isKeyChar c = false := by
  rw [← Bool.not_eq_true]
  intro hkey
  rw [not_isBlank_of_isKeyChar hkey] at h
  cases h

/-- The key is told from the blanks around it and ends in front of the closing braces, whatever comes behind them. -/
theorem placeholder?_of_blanks {left key right : List Char} (hleft : ∀ c ∈ left, Text.isBlank c = true)
    (hkey : ∀ c ∈ key, isKeyChar c = true) (hne : key ≠ []) (hright : ∀ c ∈ right, Text.isBlank c = true) :
    placeholder? ('\x7b' :: '\x7b' :: (left ++ (key ++ (right ++ '\x7d' :: '\x7d' :: rest)))) =
      some (String.ofList key, rest) := by
  have hclose : (right ++ '\x7d' :: '\x7d' :: rest).dropWhile Text.isBlank = '\x7d' :: '\x7d' :: rest := by
    refine dropWhile_append_of_stop hright fun c hc => ?_
    obtain rfl := Option.some.inj hc
    decide
  have hinner : (left ++ (key ++ (right ++ '\x7d' :: '\x7d' :: rest))).dropWhile Text.isBlank =
      key ++ (right ++ '\x7d' :: '\x7d' :: rest) := by
    refine dropWhile_append_of_stop hleft fun c hc => not_isBlank_of_isKeyChar (hkey c ?_)
    rw [List.head?_append_of_ne_nil _ hne] at hc
    exact List.mem_of_head? hc
  have hstop : ∀ c ∈ (right ++ '\x7d' :: '\x7d' :: rest).head?, isKeyChar c = false := by
    intro c hc
    cases right with
    | nil =>
      obtain rfl := Option.some.inj hc
      decide
    | cons d right =>
      obtain rfl := Option.some.inj hc
      exact not_isKeyChar_of_isBlank (hright d List.mem_cons_self)
  have hnonempty : key.isEmpty = false := by simpa using hne
  rw [placeholder?]
  simp only [hinner, takeWhile_append_of_stop hkey hstop, dropWhile_append_of_stop hkey hstop, hclose, hnonempty,
    Bool.false_eq_true, if_false]

theorem placeholder?_slot (s : Slot) (rest : List Char) :
    placeholder? (s.text.toList ++ rest) = some (s.key, rest) := by
  have hwritten : s.text.toList ++ rest = '\x7b' :: '\x7b' ::
      (s.left.toList ++ (s.key.toList ++ (s.right.toList ++ '\x7d' :: '\x7d' :: rest))) := by
    simp [Slot.text]
  rw [hwritten, placeholder?_of_blanks (List.all_eq_true.1 s.left_blank) (List.all_eq_true.1 s.key_chars) s.key_ne_nil
    (List.all_eq_true.1 s.right_blank), String.ofList_toList]

theorem placeholder?_cons_of_ne {c : Char} (h : c ≠ '\x7b') : placeholder? (c :: cs) = none := by
  unfold placeholder?
  split
  · rename_i heq
    exact absurd (List.cons.inj heq).1 h
  · rfl

/-- What has no opening brace is passed over. -/
theorem renderChars_append_of_plain (h : '\x7b' ∉ cs) :
    renderChars context (cs ++ rest) = (renderChars context rest).map (cs ++ ·) := by
  induction cs with
  | nil => cases hrest : renderChars context rest <;> simp [hrest, Except.map]
  | cons c cs ih =>
    obtain ⟨hc, hcs⟩ := not_or.1 (List.mem_cons.not.1 h)
    rw [List.cons_append, renderChars_cons (placeholder?_cons_of_ne (Ne.symm hc)), ih hcs]
    cases renderChars context rest <;> rfl

theorem renderChars_nil : renderChars context [] = .ok [] := by
  rw [renderChars]
  rfl

/-! ## Filling the pieces -/

theorem renderChars_slot_eq_ok {s : Slot} :
    renderChars context (s.text.toList ++ (s.behind.toList ++ rest)) = .ok out ↔
      ∃ text others, context.Says s.key text ∧ renderChars context rest = .ok others ∧
        out = text.toList ++ (s.behind.toList ++ others) := by
  rw [renderChars_of_placeholder (placeholder?_slot s _), renderChars_append_of_plain s.behind_plain]
  simp only [bind_eq_ok, map_eq_ok, pure_eq_ok, valueText_eq_ok]
  constructor
  · rintro ⟨cs, hcs, _, ⟨others, hothers, rfl⟩, rfl⟩
    exact ⟨String.ofList cs, others, hcs, hothers, by simp⟩
  · rintro ⟨text, others, htext, hothers, rfl⟩
    exact ⟨text.toList, by simpa using htext, _, ⟨others, hothers, rfl⟩, rfl⟩

/-- Slots in a row are filled one after the other. -/
theorem renderChars_slots_eq_ok {slots : List Slot} :
    renderChars context (String.join (slots.map fun s => s.text ++ s.behind)).toList = .ok out ↔
      ∃ texts, List.Forall₂ (fun s text => context.Says s.key text) slots texts ∧
        out = (String.join (List.zipWith (fun s text => text ++ s.behind) slots texts)).toList := by
  induction slots generalizing out with
  | nil => simp [renderChars_nil, eq_comm]
  | cons s slots ih =>
    rw [List.map_cons, String.join_cons, String.toList_append, String.toList_append, List.append_assoc,
      renderChars_slot_eq_ok]
    simp only [ih, List.forall₂_cons_left_iff]
    constructor
    · rintro ⟨text, _, htext, ⟨texts, htexts, rfl⟩, rfl⟩
      exact ⟨text :: texts, ⟨text, texts, htext, htexts, rfl⟩, by simp⟩
    · rintro ⟨_, ⟨text, texts, htext, htexts, rfl⟩, rfl⟩
      exact ⟨text, _, htext, ⟨texts, htexts, rfl⟩, by simp⟩

theorem render_written_eq_ok {p : Pieces} {text : String} : render context p.written = .ok text ↔
    ∃ texts, List.Forall₂ (fun s t => context.Says s.key t) p.slots texts ∧ text = p.filled texts := by
  rw [render, map_eq_ok, Pieces.written, String.toList_append, renderChars_append_of_plain p.front_plain]
  simp only [map_eq_ok, renderChars_slots_eq_ok]
  constructor
  · rintro ⟨_, ⟨_, ⟨texts, htexts, rfl⟩, rfl⟩, rfl⟩
    exact ⟨texts, htexts, by simp [Pieces.filled, ← String.toList_inj]⟩
  · rintro ⟨texts, htexts, rfl⟩
    exact ⟨_, ⟨_, ⟨texts, htexts, rfl⟩, rfl⟩, by simp [Pieces.filled, ← String.toList_inj]⟩

theorem exists_render_written {p : Pieces} : (∃ text, render context p.written = .ok text) ↔
    ∀ s ∈ p.slots, ∀ v, Value.field? context s.key = some v → v.text? ≠ none := by
  simp only [render_written_eq_ok, ← Context.exists_says_iff]
  constructor
  · rintro ⟨_, texts, htexts, -⟩ s hs
    obtain ⟨text, -, htext⟩ := partner_of_mem_left htexts hs
    exact ⟨text, htext⟩
  · intro h
    obtain ⟨texts, htexts⟩ := exists_forall₂ h
    exact ⟨_, texts, htexts, rfl⟩

/-! ## Texts in values -/

/-- One value is what filling makes of the other, but for what their parts are: a text is filled, lists have the same
length and mappings the same keys in the same order, and all else is the same. -/
def FillsAt (context : Context) : Value → Value → Prop
  | .str s, w => ∃ text, render context s = .ok text ∧ w = .str text
  | .list items, w => ∃ others, w = .list others ∧ others.length = items.length
  | .map entries, w => ∃ others, w = .map others ∧ others.map (·.1) = entries.map (·.1)
  | v, w => w = v

theorem renderItems_eq_mapM (items : List Value) : renderItems context items = items.mapM (renderValue context) := by
  induction items with
  | nil => rfl
  | cons v rest ih => rw [renderItems, ih, List.mapM_cons]

theorem renderEntries_eq_mapM (entries : List (Value × Value)) :
    renderEntries context entries = entries.mapM fun e => (renderValue context e.2).map (e.1, ·) := by
  induction entries with
  | nil => rfl
  | cons e rest ih =>
    obtain ⟨k, v⟩ := e
    rw [renderEntries, ih, List.mapM_cons]
    cases renderValue context v <;> rfl

theorem renderValue_list_eq_ok {items : List Value} : renderValue context (.list items) = .ok w ↔
    ∃ others, List.Forall₂ (fun a b => renderValue context a = .ok b) items others ∧ w = .list others := by
  rw [renderValue, map_eq_ok, renderItems_eq_mapM]
  simp only [mapM_eq_ok, eq_comm (b := w)]

theorem renderValue_map_eq_ok {entries : List (Value × Value)} : renderValue context (.map entries) = .ok w ↔
    ∃ others, List.Forall₂ (fun e f => f.1 = e.1 ∧ renderValue context e.2 = .ok f.2) entries others ∧
      w = .map others := by
  have hentry : ∀ e f : Value × Value, (renderValue context e.2).map (e.1, ·) = .ok f ↔
      f.1 = e.1 ∧ renderValue context e.2 = .ok f.2 := by
    rintro ⟨k, v⟩ ⟨j, w⟩
    rw [map_eq_ok]
    constructor
    · rintro ⟨_, hv, heq⟩
      cases heq
      exact ⟨rfl, hv⟩
    · rintro ⟨rfl, hv⟩
      exact ⟨w, hv, rfl⟩
  rw [renderValue, map_eq_ok, renderEntries_eq_mapM]
  simp only [mapM_eq_ok, hentry, eq_comm (b := w)]

theorem fillsAt_of_renderValue (h : renderValue context v = .ok w) : FillsAt context v w := by
  cases v with
  | str s =>
    rw [renderValue, map_eq_ok] at h
    obtain ⟨text, htext, rfl⟩ := h
    exact ⟨text, htext, rfl⟩
  | list items =>
    obtain ⟨others, hothers, rfl⟩ := renderValue_list_eq_ok.1 h
    exact ⟨others, rfl, hothers.length_eq.symm⟩
  | map entries =>
    obtain ⟨others, hothers, rfl⟩ := renderValue_map_eq_ok.1 h
    have hkeys : List.Forall₂ (fun e f => e.1 = f.1) others entries := hothers.flip.imp fun _ _ he => he.1
    rw [← List.forall₂_map_right_iff, ← List.forall₂_map_left_iff, List.forall₂_eq_eq_eq] at hkeys
    exact ⟨others, rfl, hkeys⟩
  | _ => exact (Except.ok.inj h).symm

/-- Filling a value fills each of its parts. -/
theorem renderValue_part? (h : renderValue context v = .ok w) (i : Nat) :
    Option.Rel (fun a b => renderValue context a = .ok b) (v.part? i) (w.part? i) := by
  cases v with
  | str s =>
    rw [renderValue, map_eq_ok] at h
    obtain ⟨text, -, rfl⟩ := h
    exact .none
  | list items =>
    obtain ⟨others, hothers, rfl⟩ := renderValue_list_eq_ok.1 h
    exact getElem?_of_forall₂ hothers i
  | map entries =>
    obtain ⟨others, hothers, rfl⟩ := renderValue_map_eq_ok.1 h
    have hentry := getElem?_of_forall₂ hothers i
    show Option.Rel _ (entries[i]?.map (·.2)) (others[i]?.map (·.2))
    generalize entries[i]? = e at hentry ⊢
    generalize others[i]? = f at hentry ⊢
    cases hentry with
    | some hentry => exact .some hentry.2
    | none => exact .none
  | _ =>
    obtain rfl := Except.ok.inj h
    exact .none

/-- And so it fills what is at the end of each way. -/
theorem renderValue_partAt? (h : renderValue context v = .ok w) (place : List Nat) :
    Option.Rel (fun a b => renderValue context a = .ok b) (v.partAt? place) (w.partAt? place) := by
  induction place generalizing v w with
  | nil => exact .some h
  | cons i place ih =>
    have hpart := renderValue_part? h i
    rw [Value.partAt?, Value.partAt?]
    generalize v.part? i = a at hpart ⊢
    generalize w.part? i = b at hpart ⊢
    cases hpart with
    | some hpart => exact ih hpart
    | none => exact .none

theorem fillsAt_partAt? (h : renderValue context v = .ok w) (place : List Nat) :
    Option.Rel (FillsAt context) (v.partAt? place) (w.partAt? place) := by
  have hpart := renderValue_partAt? h place
  generalize v.partAt? place = a at hpart ⊢
  generalize w.partAt? place = b at hpart ⊢
  cases hpart with
  | some hpart => exact .some (fillsAt_of_renderValue hpart)
  | none => exact .none

/-- A value that cannot be filled has a text in it that cannot. -/
theorem exists_text_of_renderValue_error {v : Value} (h : renderValue context v = .error e) :
    ∃ place s, v.partAt? place = some (.str s) ∧ render context s = .error e := by
  -- the recursion of filling: lists and mappings pass on the first failure inside them
  match v with
  | .str s =>
    rw [renderValue, map_eq_error] at h
    exact ⟨[], s, rfl, h⟩
  | .list items =>
    rw [renderValue, map_eq_error, renderItems_eq_mapM] at h
    obtain ⟨a, ha, hfails⟩ := mapM_eq_error h
    obtain ⟨i, hi⟩ := List.mem_iff_getElem?.1 ha
    have hsize := List.sizeOf_lt_of_mem ha
    obtain ⟨place, s, hplace, hs⟩ := exists_text_of_renderValue_error hfails
    exact ⟨i :: place, s, by rw [Value.partAt?, Value.part?, hi]; exact hplace, hs⟩
  | .map entries =>
    rw [renderValue, map_eq_error, renderEntries_eq_mapM] at h
    obtain ⟨⟨k, a⟩, ha, hfails⟩ := mapM_eq_error h
    obtain ⟨i, hi⟩ := List.mem_iff_getElem?.1 ha
    have hsize := List.sizeOf_lt_of_mem ha
    obtain ⟨place, s, hplace, hs⟩ := exists_text_of_renderValue_error (map_eq_error.1 hfails)
    exact ⟨i :: place, s, by rw [Value.partAt?, Value.part?, hi]; exact hplace, hs⟩
  | .null | .bool _ | .int _ | .float _ | .day _ | .moment _ | .bytes _ | .set _ => cases h
termination_by sizeOf v
decreasing_by
  · rw [Value.list.sizeOf_spec]
    omega
  · rw [Prod.mk.sizeOf_spec] at hsize
    rw [Value.map.sizeOf_spec]
    omega

/-- A value can be filled if each text in it can. -/
theorem exists_renderValue_iff_partAt? : (∃ w, renderValue context v = .ok w) ↔
    ∀ place s, v.partAt? place = some (.str s) → ∃ text, render context s = .ok text := by
  constructor
  · rintro ⟨w, hw⟩ place s hplace
    have hpart := fillsAt_partAt? hw place
    rw [hplace] at hpart
    generalize w.partAt? place = b at hpart
    cases hpart with
    | some hfills =>
      obtain ⟨text, htext, -⟩ := hfills
      exact ⟨text, htext⟩
  · intro h
    rcases exists_ok_or_error (renderValue context v) with hok | ⟨e, he⟩
    · exact hok
    · obtain ⟨place, s, hplace, hfails⟩ := exists_text_of_renderValue_error he
      obtain ⟨text, htext⟩ := h place s hplace
      rw [hfails] at htext
      cases htext

/-- Filling goes over a template once. In the place of each placeholder stands what the context says for its key,
whatever that looks like, and between them stands what stood there. It fails only if the context has something for a
key that has no text. A value is filled text by text, where all keys, lengths and other parts are kept, and this fails
only if one of its texts cannot be filled. -/
theorem fills_once (context : Context) :
    (∀ p : Pieces,
      (∀ text, render context p.written = .ok text ↔
        ∃ texts, List.Forall₂ (fun s t => context.Says s.key t) p.slots texts ∧ text = p.filled texts) ∧
      ((∃ text, render context p.written = .ok text) ↔
        ∀ s ∈ p.slots, ∀ v, Value.field? context s.key = some v → v.text? ≠ none)) ∧
    ∀ v : Value,
      (∀ w, renderValue context v = .ok w →
        ∀ place, Option.Rel (FillsAt context) (v.partAt? place) (w.partAt? place)) ∧
      ((∃ w, renderValue context v = .ok w) ↔
        ∀ place s, v.partAt? place = some (.str s) → ∃ text, render context s = .ok text) := by
  exact ⟨fun p => ⟨fun text => render_written_eq_ok, exists_render_written⟩,
    fun v => ⟨fun w => fillsAt_partAt?, exists_renderValue_iff_partAt?⟩⟩

/-- A greeting with two placeholders. -/
def greeting : Pieces where
  front := "Dear "
  slots :=
    [{ left := " ", key := "name", right := "\t", behind := ", see ", left_blank := by decide, key_chars := by decide,
       key_ne_nil := by decide, right_blank := by decide, behind_plain := by decide },
     { left := "", key := "link", right := "", behind := "!\x7d", left_blank := by decide, key_chars := by decide,
       key_ne_nil := by decide, right_blank := by decide, behind_plain := by decide }]
  front_plain := by decide

/-- A context in which a name looks like a placeholder for something that is to stay secret. -/
def sly : Context :=
  [(.str "name", .str "\x7b\x7b secret \x7d\x7d"), (.str "secret", .str "4711"), (.str "link", .null)]

/-- The greeting shows the name as it is. -/
theorem render_greeting :
    render sly "Dear \x7b\x7b name\t\x7d\x7d, see \x7b\x7blink\x7d\x7d!\x7d" =
      .ok "Dear \x7b\x7b secret \x7d\x7d, see !\x7d" := by
  have hname : Value.field? sly "name" = some (.str "\x7b\x7b secret \x7d\x7d") := by
    simp [sly, Value.field?, Value.get?, Value.same]
  have hlink : Value.field? sly "link" = some .null := by
    simp [sly, Value.field?, Value.get?, Value.same]
  have hsays : sly.Says "name" "\x7b\x7b secret \x7d\x7d" := (Context.says_of_value hname (by simp)).2 rfl
  have hsilent : sly.Says "link" "" := (Context.says_of_null (.inr hlink)).2 rfl
  exact (((fills_once sly).1 greeting).1 _).2
    ⟨["\x7b\x7b secret \x7d\x7d", ""], .cons hsays (.cons hsilent .nil), by decide⟩

end Template
end PolicyGate
