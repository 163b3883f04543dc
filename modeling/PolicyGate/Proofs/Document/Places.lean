import Mathlib.Data.List.Basic
import PolicyGate.Document.Drift

/-!
# Places in a document

A place is the way from the whole document to one of its parts, entry by entry and element by element. The path
that is written for it says which place it is, whatever the keys on the way are made of, and even if more text
follows (`Place.path_injective`): each step starts with a dot or a bracket, and what is between quotes is escaped.
-/

namespace PolicyGate.Document

/-- A step from a value to a part of it. -/
inductive Step where
  | entry (key : String)
  | element (index : Nat)
deriving DecidableEq, Repr

/-- The way from a whole document to one of its parts. -/
abbrev Place := List Step

namespace Step

/-- The step as it is written. -/
def text : Step → String
  | .entry key => if DriftPath.isPlain key then "." ++ key else DriftPath.quotedKey key
  | .element i => "[" ++ toString i ++ "]"

end Step

namespace Place

/-- The steps as they are written, one after the other. -/
def steps : Place → String
  | [] => ""
  | step :: rest => step.text ++ steps rest

/-- The path of the place. -/
def path (place : Place) : String := "$" ++ place.steps

theorem steps_append (place rest : Place) : steps (place ++ rest) = place.steps ++ steps rest := by
  induction place with
  | nil => simp [steps]
  | cons step place ih => rw [List.cons_append, steps, steps, ih, String.append_assoc]

theorem entry_path (place : Place) (key : String) :
    DriftPath.entry (.ok place.path) (.str key) = .ok (path (place ++ [.entry key])) := by
  rw [path, path, steps_append, steps, steps, String.append_empty, Step.text, ← String.append_assoc]
  rfl

theorem element_path (place : Place) (i : Nat) :
    DriftPath.element (.ok place.path) i = .ok (path (place ++ [.element i])) := by
  rw [path, path, steps_append, steps, steps, String.append_empty, Step.text, ← String.append_assoc,
    ← String.append_assoc, ← String.append_assoc]
  rfl

end Place

/-! ## Reading a path back -/

section Reading

variable {p : Char → Bool} {as bs rest rest' : List Char} {c d : Char}

/-- Two texts agree up to the first character of another kind. -/
theorem eq_of_append_cons (has : ∀ x ∈ as, p x = true) (hbs : ∀ x ∈ bs, p x = true) (hc : p c = false)
    (hd : p d = false) (h : as ++ c :: rest = bs ++ d :: rest') : as = bs ∧ c :: rest = d :: rest' := by
  have hspan : ∀ {xs : List Char} {e : Char} {tail : List Char}, (∀ x ∈ xs, p x = true) → p e = false →
      (xs ++ e :: tail).takeWhile p = xs := by
    intro xs e tail hxs he
    rw [List.takeWhile_append_of_pos hxs, List.takeWhile_cons_of_neg (by simp [he]), List.append_nil]
  have heq : as = bs := by rw [← hspan has hc, h, hspan hbs hd]
  subst heq
  exact ⟨rfl, List.append_cancel_left h⟩

/-- The characters that no plain key has, and that start a step or end a path. -/
def isStop (c : Char) : Bool := c = '.' || c = '[' || c = ':'

theorem not_isStop_of_alphanum (h : (c.isAlphanum || c == '_') = true) : (!isStop c) = true := by
  by_contra hstop
  simp only [isStop, Bool.not_eq_true, Bool.not_eq_false', Bool.or_eq_true, decide_eq_true_eq] at hstop
  rcases hstop with (rfl | rfl) | rfl <;> revert h <;> decide

theorem not_isStop_of_body {cs : List Char} (h : (match cs with
      | c :: rest => c.isAlpha && rest.all fun d => d.isAlphanum || d == '_'
      | [] => false) = true) :
    ∀ c ∈ cs, (!isStop c) = true := by
  intro c hc
  cases cs with
  | nil => cases hc
  | cons first tail =>
    simp only [Bool.and_eq_true, List.all_eq_true] at h
    rcases List.mem_cons.1 hc with rfl | hc
    · exact not_isStop_of_alphanum (by simp [Char.isAlphanum, h.1])
    · exact not_isStop_of_alphanum (h.2 c hc)

theorem not_isStop_of_isPlain {key : String} (h : DriftPath.isPlain key = true) :
    ∀ c ∈ key.toList, (!isStop c) = true := by
  intro c hc
  have hplain := not_isStop_of_body h
  by_cases hlast : key.toList.getLast? = some '\n'
  · -- a line feed at the end stands behind the body
    rw [if_pos hlast] at hplain
    rw [← List.dropLast_append_getLast? _ hlast] at hc
    rcases List.mem_append.1 hc with hc | hc
    · exact hplain c hc
    · obtain rfl := List.mem_singleton.1 hc
      decide
  · rw [if_neg hlast] at hplain
    exact hplain c hc

/-- A key between quotes, without the quotes. -/
def escaped (cs : List Char) : List Char :=
  cs.flatMap fun c => if c = '\\' || c = '\'' then ['\\', c] else [c]

theorem escaped_cons_append : escaped (c :: as) ++ rest =
    if c = '\\' || c = '\'' then '\\' :: c :: (escaped as ++ rest) else c :: (escaped as ++ rest) := by
  rw [escaped, List.flatMap_cons]
  split <;> rfl

/-- What is escaped does not start with a quote. -/
theorem quote_ne_escaped : '\'' :: rest ≠ escaped (c :: as) ++ rest' := by
  intro heq
  rw [escaped_cons_append] at heq
  split at heq
  · cases heq
  · rename_i hplain
    obtain rfl := (List.cons.inj heq).1
    simp at hplain

/-- A quote that is not escaped ends the key. -/
theorem eq_of_escaped (h : escaped as ++ '\'' :: rest = escaped bs ++ '\'' :: rest') :
    as = bs ∧ rest = rest' := by
  induction as generalizing bs with
  | nil =>
    cases bs with
    | nil => exact ⟨rfl, (List.cons.inj h).2⟩
    | cons d bs => exact absurd h quote_ne_escaped
  | cons c as ih =>
    cases bs with
    | nil => exact absurd h.symm quote_ne_escaped
    | cons d bs =>
      rw [escaped_cons_append, escaped_cons_append] at h
      -- a character that is escaped is written as two, so both are escaped or neither is
      split at h <;> split at h
      · obtain ⟨rfl, htail⟩ := List.cons.inj (List.cons.inj h).2
        obtain ⟨rfl, hrest⟩ := ih htail
        exact ⟨rfl, hrest⟩
      · rename_i hplain
        obtain rfl := (List.cons.inj h).1
        simp at hplain
      · rename_i hplain _
        obtain rfl := (List.cons.inj h).1
        simp at hplain
      · obtain ⟨rfl, htail⟩ := List.cons.inj h
        obtain ⟨rfl, hrest⟩ := ih htail
        exact ⟨rfl, hrest⟩

/-- What follows a step starts the next one or ends the path. -/
def Follows (cs : List Char) : Prop := ∃ c tail, cs = c :: tail ∧ isStop c = true

theorem Step.toList_text (step : Step) : step.text.toList = match step with
    | .entry key => if DriftPath.isPlain key then '.' :: key.toList
      else '[' :: '\'' :: (escaped key.toList ++ ['\'', ']'])
    | .element i => '[' :: ((toString i).toList ++ [']']) := by
  cases step with
  | entry key =>
    simp only [text, DriftPath.quotedKey]
    split
    · simp
    · simp [escaped]
  | element i => simp [text]

theorem Step.exists_start (step : Step) : ∃ c tail, step.text.toList = c :: tail ∧ (c = '.' ∨ c = '[') := by
  rw [toList_text]
  cases step with
  | entry key =>
    dsimp only
    split
    · exact ⟨'.', _, rfl, .inl rfl⟩
    · exact ⟨'[', _, rfl, .inr rfl⟩
  | element i => exact ⟨'[', _, rfl, .inr rfl⟩

theorem Place.follows_steps (place : Place) : Follows (place.steps.toList ++ ':' :: rest) := by
  cases place with
  | nil => exact ⟨':', rest, rfl, rfl⟩
  | cons step place =>
    obtain ⟨c, tail, hstep, hc⟩ := step.exists_start
    rw [steps, String.toList_append, hstep]
    refine ⟨c, _, rfl, ?_⟩
    rcases hc with rfl | rfl <;> rfl

theorem Place.steps_cons_ne (step : Step) (place : Place) :
    ':' :: rest ≠ (steps (step :: place)).toList ++ rest' := by
  intro h
  obtain ⟨c, tail, hstep, hc⟩ := step.exists_start
  rw [steps, String.toList_append, hstep] at h
  obtain rfl := (List.cons.inj h).1
  rcases hc with hc | hc <;> cases hc

/-- A whole number is written in digits, of which there is at least one. -/
theorem toString_digits (i : Nat) : (∀ c ∈ (toString i).toList, c.isDigit = true) ∧ (toString i).toList ≠ [] := by
  rw [Nat.toString_eq_ofList_toDigits, String.toList_ofList]
  exact ⟨fun c hc => Nat.isDigit_of_mem_toDigits (by decide) (by decide) hc, Nat.toDigits_ne_nil⟩

/-- A number does not start like a key between quotes. -/
theorem toString_ne_quote (i : Nat) : (toString i).toList ++ rest ≠ '\'' :: rest' := by
  intro heq
  obtain ⟨hdigits, hne⟩ := toString_digits i
  obtain ⟨e, es, hes⟩ := List.exists_cons_of_ne_nil hne
  rw [hes] at heq hdigits
  obtain rfl := (List.cons.inj heq).1
  exact absurd (hdigits _ List.mem_cons_self) (by decide)

/-- A bracket ends the number. -/
theorem eq_of_toString {i j : Nat} (h : (toString i).toList ++ ']' :: rest = (toString j).toList ++ ']' :: rest') :
    i = j ∧ rest = rest' := by
  have hdigit : ∀ i : Nat, ∀ c ∈ (toString i).toList, (c != ']') = true := by
    intro i c hc
    rw [bne_iff_ne]
    intro heq
    subst heq
    exact absurd ((toString_digits i).1 _ hc) (by decide)
  obtain ⟨hi, htail⟩ := eq_of_append_cons (hdigit i) (hdigit j) rfl rfl h
  have hij := congrArg (fun ds => Nat.ofDigitChars 10 ds 0) hi
  rw [Nat.toString_eq_ofList_toDigits, Nat.toString_eq_ofList_toDigits, String.toList_ofList,
    String.toList_ofList, Nat.ofDigitChars_ten_toDigits, Nat.ofDigitChars_ten_toDigits] at hij
  exact ⟨hij, (List.cons.inj htail).2⟩

/-- The text of a step says which step it is. -/
theorem Step.eq_of_text {s t : Step} (h : s.text.toList ++ rest = t.text.toList ++ rest') (hrest : Follows rest)
    (hrest' : Follows rest') : s = t ∧ rest = rest' := by
  obtain ⟨c, tail, rfl, hc⟩ := hrest
  obtain ⟨d, tail', rfl, hd⟩ := hrest'
  rw [toList_text, toList_text] at h
  -- a text that is a name stops where the name does, one in quotes at the quote, one in digits at the bracket
  cases s with
  | entry key =>
    cases t with
    | entry key' =>
      dsimp only at h
      split at h <;> split at h
      · rename_i hplain hplain'
        obtain ⟨hkey, htail⟩ := eq_of_append_cons (not_isStop_of_isPlain hplain) (not_isStop_of_isPlain hplain')
          (by simp [hc]) (by simp [hd]) (List.cons.inj h).2
        rw [String.toList_injective hkey]
        exact ⟨rfl, htail⟩
      · cases (List.cons.inj h).1
      · cases (List.cons.inj h).1
      · obtain ⟨hkey, htail⟩ := eq_of_escaped (by simpa using h)
        rw [String.toList_injective hkey]
        exact ⟨rfl, (List.cons.inj htail).2⟩
    | element i =>
      dsimp only at h
      split at h
      · cases (List.cons.inj h).1
      · exact absurd (by simpa using h.symm) (toString_ne_quote i)
  | element i =>
    cases t with
    | entry key' =>
      dsimp only at h
      split at h
      · cases (List.cons.inj h).1
      · exact absurd (by simpa using h) (toString_ne_quote i)
    | element j =>
      have h : (toString i).toList ++ ']' :: c :: tail = (toString j).toList ++ ']' :: d :: tail' := by
        simpa using h
      obtain ⟨rfl, htail⟩ := eq_of_toString h
      exact ⟨rfl, htail⟩

end Reading

/-- The path of a place, with a colon behind it, says which place it is. -/
theorem Place.path_injective {place other : Place} {rest rest' : String}
    (h : place.path ++ (":" ++ rest) = other.path ++ (":" ++ rest')) : place = other := by
  have hsteps : place.steps.toList ++ ':' :: rest.toList = other.steps.toList ++ ':' :: rest'.toList := by
    have h := congrArg String.toList h
    simpa [path] using h
  clear h
  induction place generalizing other with
  | nil =>
    cases other with
    | nil => rfl
    | cons step other => exact absurd hsteps (steps_cons_ne step other)
  | cons step place ih =>
    cases other with
    | nil => exact absurd hsteps.symm (steps_cons_ne step place)
    | cons step' other =>
      rw [steps, steps, String.toList_append, String.toList_append, List.append_assoc, List.append_assoc] at hsteps
      obtain ⟨rfl, htail⟩ := Step.eq_of_text hsteps (follows_steps place) (follows_steps other)
      rw [ih htail]

end PolicyGate.Document
