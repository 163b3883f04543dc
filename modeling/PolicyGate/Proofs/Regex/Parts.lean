import PolicyGate.Proofs.Regex.Surroundings

/-!
# Parts of expressions in their surroundings

The readers of escapes, character sets, references, conditions, repetitions, switches and the bounds of groups mirror
themselves in the surroundings of a text. The one thing to watch is the number of a group that is written in the
text: it is not raised there, so it must not be used there unless no groups are in front.
-/

namespace PolicyGate.Regex.Reader

section

variable {c : Surroundings} {s e : Progress}

/-- The second reading gives the node of the first one with the numbers of groups raised. -/
abbrev Raised (c : Surroundings) (m m' : Reader Node) : Prop := Mirrors c Node.IsProper (Node.raise c.shift) m m'

theorem failBack_ne_ok {α : Type} {problem : Problem} {back : Nat} (s : Progress) (r : α × Progress) :
    failBack problem back s ≠ .ok r := by
  intro h
  have herror : Except.error (Fault.malformed problem (s.position - back)) = Except.ok r := h
  cases herror

theorem failBack_bind_ne_ok {α β : Type} {problem : Problem} {back : Nat} {k : α → Reader β} (s : Progress)
    (r : β × Progress) : (failBack problem back >>= k) s ≠ .ok r := by
  intro h
  have herror : Except.error (Fault.malformed problem (s.position - back)) = Except.ok r := h
  cases herror

/-! ## Escapes and character sets -/

theorem same_pure {α : Type} {a : α} : Same c (pure a) (pure a) := Mirrors.pure (f := id) trivial

/-- A node without groups stays as it is. -/
theorem raised_pure {node : Node} (hproper : node.IsProper) (hraise : node.raise c.shift = node) :
    Raised c (pure node) (pure node) := by
  have hpure : Raised c (pure node) (pure (node.raise c.shift)) := .pure hproper
  rwa [hraise] at hpure

theorem badEscape_mirrors {α β : Type} {P : α → Prop} {f : α → β} {cause : String → Problem} {text : List Char}
    {m : Reader β} : Mirrors c P f (badEscape cause text) m := .failBack

theorem hexEscape_mirrors {letter : Char} {count : Nat} : Same c (hexEscape letter count) (hexEscape letter count) := by
  refine (takeUpTo_mirrors (by decide)).bind fun digits _ => ?_
  simp only [id]
  split
  · exact badEscape_mirrors
  · split
    · exact badEscape_mirrors
    · exact same_pure

theorem namedEscape_mirrors : Same c namedEscape namedEscape := by
  refine (accept_mirrors (by decide)).bind fun found _ => ?_
  cases found with
  | false => exact .failBack
  | true =>
    refine name_mirrors.bind fun chars _ => ?_
    simp only [id]
    split
    · exact same_pure
    · exact .failBack

theorem pointEscape?_mirrors {d : Char} : Same c (pointEscape? d) (pointEscape? d) := by
  unfold pointEscape?
  split
  · exact hexEscape_mirrors.bind fun _ _ => same_pure
  · exact hexEscape_mirrors.bind fun _ _ => same_pure
  · exact hexEscape_mirrors.bind fun _ _ => same_pure
  · exact namedEscape_mirrors.bind fun _ _ => same_pure
  · exact same_pure

theorem octalPoint_mirrors {digits : List Char} : Same c (octalPoint digits) (octalPoint digits) := by
  simp only [octalPoint]
  split
  · exact badEscape_mirrors
  · exact same_pure

theorem otherEscape_mirrors {d : Char} : Same c (otherEscape d) (otherEscape d) := by
  unfold otherEscape
  split
  · exact badEscape_mirrors
  · exact same_pure

theorem setEscape_mirrors {d : Char} : Same c (setEscape d) (setEscape d) := by
  rw [setEscape]
  split
  · exact same_pure
  split
  · exact same_pure
  refine pointEscape?_mirrors.bind fun point _ => ?_
  cases point with
  | some point => exact same_pure
  | none =>
    simp only [id]
    split
    · exact (takeUpTo_mirrors (by decide)).bind fun _ _ => octalPoint_mirrors.bind fun _ _ => same_pure
    · exact otherEscape_mirrors.bind fun _ _ => same_pure

theorem setMember_mirrors {token : Token} : Same c (setMember token) (setMember token) := by
  cases token with
  | plain d => exact same_pure
  | escaped d => exact setEscape_mirrors

theorem setMembers_mirrors {start start' fuel fuel' : Nat} (henough : c.Enough fuel fuel') (members : List Member) :
    Same c (setMembers start members fuel) (setMembers start' members fuel') := by
  refine Mirrors.of_steps (m := setMembers start) (k := setMembers start')
    (fun _ _ _ h => nomatch h) (fun _ _ => ⟨_, rfl⟩) ?_ henough members
  intro fuel fuel' ih members
  refine .take_bind (fun _ _ h => nomatch h) fun token => ?_
  simp only
  split
  · exact same_pure
  refine setMember_mirrors.bind fun low _ => (accept_mirrors (by decide)).bind fun isRange _ => ?_
  cases isRange with
  | false => exact ih _
  | true =>
    refine .take_bind (fun _ _ h => nomatch h) fun upper => ?_
    simp only [id]
    split
    · contradiction
    · exact same_pure
    · refine setMember_mirrors.bind fun high _ => ?_
      simp only [id]
      split
      · split
        · exact .failBack
        · exact ih _
      · exact .failBack

theorem characterSet_mirrors {start start' : Nat} : Raised c (characterSet start) (characterSet start') := by
  refine (accept_mirrors (by decide)).bind fun negated _ => ?_
  refine .of_length_bind (fun henough => setMembers_mirrors henough []) fun members _ => ?_
  simp only [id]
  split
  · split
    · exact raised_pure trivial rfl
    · exact raised_pure trivial rfl
  · exact raised_pure trivial rfl

/-! ## References -/

/-- Is the group complete where the reader is? -/
def completeAt (s : Progress) (group : Nat) : Bool := 0 < group && (s.groups[group - 1]?).join.isSome

theorem isComplete_eq {group : Nat} : isComplete group s = .ok (completeAt s group, s) := rfl

theorem Placed.completeAt {group : Nat} (h : Placed c s e) (hcomplete : completeAt s group = true) :
    Reader.completeAt e (group + c.shift) = true := by
  rw [Reader.completeAt, Bool.and_eq_true, decide_eq_true_eq] at hcomplete
  have hplace : group + c.shift - 1 = c.shift + (group - 1) := by omega
  rw [Reader.completeAt, h.groups, hplace, List.getElem?_append_right (Nat.le_add_right _ _), Nat.add_sub_cancel_left,
    hcomplete.2, Bool.and_true, decide_eq_true_eq]
  omega

/-- What needs a complete group is refused or goes on. -/
theorem Mirrors.of_isComplete {γ δ : Type} {Q : γ → Prop} {g : γ → δ} {group : Nat} {stop k : Reader γ}
    {stop' k' : Reader δ} (hstop : ∀ s r, stop s ≠ .ok r) (hk : 0 < group → Mirrors c Q g k k') :
    Mirrors c Q g (isComplete group >>= fun done => if (!done) = true then stop else k)
      (isComplete (group + c.shift) >>= fun done => if (!done) = true then stop' else k') := by
  intro s e
  cases hcomplete : completeAt s group with
  | false =>
    refine .of_fails fun r hr => hstop s r ?_
    have hrun : (isComplete group >>= fun done => if (!done) = true then stop else k) s =
        (if (!completeAt s group) = true then stop else k) s := rfl
    rw [hrun, hcomplete] at hr
    exact hr
  | true =>
    have hpositive : 0 < group := by
      rw [completeAt, Bool.and_eq_true, decide_eq_true_eq] at hcomplete
      exact hcomplete.1
    intro a s' ha
    have hrun : (isComplete group >>= fun done => if (!done) = true then stop else k) s =
        (if (!completeAt s group) = true then stop else k) s := rfl
    rw [hrun, hcomplete] at ha
    obtain ⟨hQ, hend, hmirror⟩ := hk hpositive s e a s' ha
    refine ⟨hQ, hend, fun hplaced => ?_⟩
    have hrun' : (isComplete (group + c.shift) >>= fun done => if (!done) = true then stop' else k') e =
        (if (!completeAt e (group + c.shift)) = true then stop' else k') e := rfl
    rw [hrun', hplaced.completeAt hcomplete]
    exact hmirror hplaced

/-- May the group be referred to where the reader is, as far as a look-behind is concerned? -/
def mayRefer (s : Progress) (group : Nat) : Bool :=
  s.behindFrom.all fun count => completeAt s group && group < count

theorem checkBehind_cases (group : Nat) (s : Progress) :
    (mayRefer s group = true ∧ checkBehind group s = .ok ((), s)) ∨
      (mayRefer s group = false ∧ ∃ fault, checkBehind group s = .error fault) := by
  have hhere : (get : Reader Progress) s = .ok (s, s) := rfl
  rw [checkBehind, run_bind hhere, mayRefer]
  cases s.behindFrom with
  | none => exact .inl ⟨rfl, rfl⟩
  | some count =>
    simp only [Option.all_some]
    rw [run_bind isComplete_eq]
    cases completeAt s group with
    | false => exact .inr ⟨rfl, _, rfl⟩
    | true =>
      by_cases hcount : count ≤ group
      · refine .inr ⟨by simp [hcount], ?_⟩
        simp only [if_pos hcount]
        exact ⟨_, rfl⟩
      · refine .inl ⟨by simpa using hcount, ?_⟩
        simp only [if_neg hcount]
        rfl

/-- In a group a reference may be refused that is accepted in the text by itself. -/
theorem checkBehind_mirrors {group : Nat} : Same c (checkBehind group) (checkBehind (group + c.shift)) := by
  intro s e _ s' hs
  rcases checkBehind_cases group s with ⟨hmay, hrun⟩ | ⟨-, fault, hrun⟩
  · rw [hrun] at hs
    cases hs
    refine ⟨trivial, id, fun hplaced => ?_⟩
    rcases checkBehind_cases (group + c.shift) e with ⟨-, hrun'⟩ | ⟨hmay', fault, hrun'⟩
    · rw [hrun']
      exact .placed hplaced
    · rw [hrun']
      refine .refused ?_
      rw [← Bool.not_eq_false]
      intro houtside
      have hgroups : e.groups = s.groups := by
        rw [hplaced.groups, (c.whole houtside).2.1]
        rfl
      rw [c.shift_of_outside houtside, Nat.add_zero, mayRefer, hplaced.behindFrom houtside] at hmay'
      rw [mayRefer] at hmay
      simp only [completeAt, hgroups] at hmay'
      simp only [completeAt] at hmay
      exact absurd (hmay.symm.trans hmay') (by simp)
  · rw [hrun] at hs
    cases hs

theorem groupCount_mirrors : Mirrors c (0 < ·) (· + c.shift) groupCount groupCount := by
  intro s e count s' hs
  cases hs
  refine ⟨Nat.succ_pos _, id, fun hplaced => ?_⟩
  have hcount : groupCount e = .ok (s.groups.length + 1 + c.shift, e) := by
    have hlength : e.groups.length + 1 = s.groups.length + 1 + c.shift := by
      have hshift : c.shift = c.groups.length := rfl
      rw [hplaced.groups, List.length_append]
      omega
    rw [← hlength]
    rfl
  rw [hcount]
  exact .placed hplaced

/-- What is left of a reference once its group is known. -/
theorem reference_mirrors {group group' : Nat} {stop stop' : Reader Node} (hgroup : group' = group + c.shift)
    (hstop : ∀ s r, stop s ≠ .ok r) :
    Raised c
      (isComplete group >>= fun done =>
        if (!done) = true then stop else checkBehind group >>= fun _ => pure (.reference group))
      (isComplete group' >>= fun done =>
        if (!done) = true then stop' else checkBehind group' >>= fun _ => pure (.reference group')) := by
  subst hgroup
  refine .of_isComplete hstop fun hpositive => checkBehind_mirrors.bind fun _ _ => ?_
  have hpure : Raised c (pure (.reference group)) (pure (.reference (group + c.shift))) := .pure hpositive
  exact hpure

/-- Digits stand for the same group if no groups are in front. -/
theorem numberedReference_mirrors {digits : List Char} (h : c.groups = []) :
    Raised c (numberedReference digits) (numberedReference digits) := by
  have hshift : c.shift = 0 := by rw [Surroundings.shift, h]; rfl
  refine groupCount_mirrors.bind fun count _ => ?_
  have hcount : count + c.shift = count := by rw [hshift, Nat.add_zero]
  simp only [hcount]
  split
  · have hgroup : number 10 digits = number 10 digits + c.shift := by rw [hshift, Nat.add_zero]
    exact reference_mirrors hgroup failBack_bind_ne_ok
  · exact .failBack

theorem digitEscape_mirrors {d : Char} (h : c.groups = []) : Raised c (digitEscape d) (digitEscape d) := by
  refine (takeUpTo_mirrors (by decide)).bind fun digits _ => ?_
  simp only [id]
  split
  · split
    · refine (takeUpTo_mirrors (by decide)).bind fun more _ => ?_
      simp only [id]
      split
      · exact octalPoint_mirrors.bind fun _ _ => raised_pure trivial rfl
      · exact numberedReference_mirrors h
    · exact numberedReference_mirrors h
  · exact numberedReference_mirrors h

theorem escape_mirrors {d : Char} (h : d.isDigit = true → d ≠ '0' → c.groups = []) :
    Raised c (escape d) (escape d) := by
  rw [escape]
  split
  · exact raised_pure trivial rfl
  split
  · exact raised_pure trivial rfl
  split
  · exact raised_pure trivial rfl
  refine pointEscape?_mirrors.bind fun point _ => ?_
  cases point with
  | some point => exact raised_pure trivial rfl
  | none =>
    simp only [id]
    by_cases hzero : d = '0'
    · rw [if_pos hzero]
      exact (takeUpTo_mirrors (by decide)).bind fun _ _ => raised_pure trivial rfl
    · simp only [if_neg hzero]
      split
      · rename_i hdigit
        exact digitEscape_mirrors (h hdigit hzero)
      · exact otherEscape_mirrors.bind fun _ _ => raised_pure trivial rfl

theorem groupName_mirrors {terminator : Char} : Same c (groupName terminator) (groupName terminator) := by
  refine name_mirrors.bind fun chars _ => ?_
  simp only [id]
  split
  · exact same_pure
  · exact .failBack

/-- A name that the text has given to a group stands there for the group with its number raised. -/
theorem find?_named {names : List (String × Nat)} {key : String} {name : String × Nat}
    (h : names.find? (·.1 == key) = some name) :
    (c.named names).find? (·.1 == key) = some (name.1, name.2 + c.shift) := by
  rw [Surroundings.named, List.find?_append, List.find?_map]
  show Option.or (Option.map _ (names.find? (·.1 == key))) _ = _
  rw [h]
  rfl

/-- Looking up the group of a name that the text must have given. -/
theorem lookup_mirrors {γ δ : Type} {Q : γ → Prop} {g : γ → δ} {key : String} {stop : Reader γ} {stop' : Reader δ}
    {k : Nat → Reader γ} {k' : Nat → Reader δ} (hstop : ∀ s r, stop s ≠ .ok r)
    (hk : ∀ group, Mirrors c Q g (k group) (k' (group + c.shift))) :
    Mirrors c Q g
      (get >>= fun p => match p.names.find? (·.1 == key) with | none => stop | some (_, group) => k group)
      (get >>= fun p => match p.names.find? (·.1 == key) with | none => stop' | some (_, group) => k' group) := by
  intro s e
  refine .get_bind (fun p => p.names = c.named s.names) (fun h => h.names) ⟨{ s with names := _ }, rfl⟩ fun p hp => ?_
  simp only [hp]
  cases hfind : s.names.find? (·.1 == key) with
  | none => exact .of_fails (hstop s)
  | some name =>
    rw [find?_named hfind]
    exact hk name.2 s e

theorem namedReference_mirrors : Raised c namedReference namedReference :=
  groupName_mirrors.bind fun _ _ =>
    lookup_mirrors (fun _ _ h => nomatch h) fun _ => reference_mirrors rfl failBack_bind_ne_ok

/-! ## Conditions -/

/-- A name without backslashes goes up to the first terminator. -/
theorem nameUpTo_eq_takeWhile {terminator : Char} {what : String} {sofar chars : List Char} {fuel : Nat}
    {s s' : Progress} (hterminator : '\\' ≠ terminator) (hplain : '\\' ∉ s.rest.takeWhile (· ≠ terminator))
    (h : nameUpTo terminator what sofar fuel s = .ok (chars, s')) :
    chars = sofar ++ s.rest.takeWhile (· ≠ terminator) := by
  induction fuel generalizing sofar s with
  | zero => cases h
  | succ fuel ih =>
    rw [nameUpTo] at h
    obtain ⟨token, s₁, htake, hrest⟩ := bind_eq_ok.1 h
    rcases of_take_eq_ok htake with ⟨rfl, -, rfl⟩ | ⟨token, rfl, htoken, rfl⟩
    · simp only at hrest
      split at hrest <;> cases hrest
    simp only at hrest
    rcases token?_eq_some.1 htoken with ⟨d, more, hs, rfl⟩ | ⟨d, more, hs, rfl, -⟩
    · rw [hs, List.takeWhile_cons, if_pos (by simpa using hterminator)] at hplain
      exact absurd List.mem_cons_self hplain
    · by_cases hend : d = terminator
      · subst hend
        rw [if_pos rfl] at hrest
        split at hrest
        · cases hrest
        · cases hrest
          rw [hs]
          simp
      · have hwhile : s.rest.takeWhile (· ≠ terminator) = d :: more.takeWhile (· ≠ terminator) := by
          rw [hs, List.takeWhile_cons, if_pos (by simpa using hend)]
        have hmore : (pastToken s (.plain d)).rest = more := by
          rw [pastToken, hs]
          rfl
        rw [hwhile] at hplain
        rw [if_neg (by simpa using hend)] at hrest
        have htail := ih (by rw [hmore]; exact fun h => hplain (List.mem_cons_of_mem _ h)) hrest
        rw [htail, hmore, hwhile, List.append_assoc]
        rfl

theorem not_mem_of_isIdentifier {chars : List Char} (h : Text.isIdentifier chars = true) : '\\' ∉ chars := by
  intro hmem
  cases chars with
  | nil => cases hmem
  | cons d more =>
    rw [Text.isIdentifier, Bool.and_eq_true, List.all_eq_true] at h
    rcases List.mem_cons.1 hmem with rfl | hmem
    · exact absurd h.1 (by decide)
    · exact absurd (h.2 _ hmem) (by decide)

/-- An identifier in front of the terminator is the name. -/
theorem isIdentifier_of_name {chars : List Char} {s' : Progress} {what : String}
    (h : Text.isIdentifier (s.rest.takeWhile (· ≠ ')')) = true) (hname : name ')' what s = .ok (chars, s')) :
    Text.isIdentifier chars = true := by
  have hchars := nameUpTo_eq_takeWhile (by decide) (not_mem_of_isIdentifier h) hname
  rw [hchars]
  exact h

/-- Takes down the number of a condition. -/
theorem noteCondition_mirrors {group start start' : Nat} :
    Same c
      (modify fun p => if p.conditions.any (·.1 == group) then p
        else { p with conditions := p.conditions ++ [(group, start)] })
      (modify fun p => if p.conditions.any (·.1 == group) then p
        else { p with conditions := p.conditions ++ [(group, start')] }) := by
  have hnote : ∀ (p : Progress) (place : Nat), (if p.conditions.any (·.1 == group) then p
      else { p with conditions := p.conditions ++ [(group, place)] }) =
      { p with conditions := if (p.conditions.map (·.1)).any (· == group) then p.conditions
          else p.conditions ++ [(group, place)] } := by
    intro p place
    rw [List.any_map]
    show (if p.conditions.any (·.1 == group) then p else _) =
      { p with conditions := if p.conditions.any (·.1 == group) then p.conditions else _ }
    split <;> rfl
  intro s e
  refine .modify (by rw [hnote]) fun h => ?_
  rw [hnote, hnote]
  refine { h with conditions := fun houtside => ?_ }
  have hsame := h.conditions houtside
  rw [hsame]
  split
  · exact hsame
  · simp [hsame]

/-- The group of a condition, whose number is raised unless it was written. -/
theorem conditionGroup_mirrorsAt
    (h : c.groups = [] ∨ Text.isIdentifier (s.rest.takeWhile (· ≠ ')')) = true) :
    MirrorsAt c (fun _ => True) (· + c.shift) conditionGroup conditionGroup s e := by
  refine (name_mirrors s e).bind fun chars s' e' hs _ => ?_
  by_cases hidentifier : Text.isIdentifier chars = true
  · simp only [id, hidentifier, if_true]
    exact lookup_mirrors failBack_ne_ok (fun group => Mirrors.pure trivial) s' e'
  · have hshift : c.shift = 0 := by
      rcases h with h | h
      · rw [Surroundings.shift, h]
        rfl
      · exact absurd (isIdentifier_of_name h hs) hidentifier
    simp only [id, if_neg hidentifier]
    generalize (if (Text.signedDigits? chars).any (fun signed => digitLimit < signed.2.length) then none
      else Text.wholeNumber? chars) = written
    split
    · exact Mirrors.failBack s' e'
    · rename_i group _
      have hgroup : group + c.shift = group := by rw [hshift, Nat.add_zero]
      have hpure : Mirrors c (fun _ => True) (· + c.shift) (pure group) (pure (group + c.shift)) := .pure trivial
      rw [hgroup] at hpure
      split
      · exact .of_fails (failBack_bind_ne_ok s')
      · refine .position_bind fun _ _ => ?_
        exact (noteCondition_mirrors.bind fun _ _ => hpure) s' e'
    · exact Mirrors.failBack s' e'

/-! ## Repetitions -/

theorem count_mirrors {digits : List Char} : Same c (bounds?.count digits) (bounds?.count digits) := by
  unfold bounds?.count
  split
  · exact same_pure
  split
  · exact fun _ _ => .of_fails fun _ h => nomatch h
  split
  · exact fun _ _ => .of_fails fun _ h => nomatch h
  · exact same_pure

theorem closedBounds_mirrors {start start' : Nat} {low high : List Char} :
    Same c
      (do
        if !(← accept '\x7d') then return none
        let least ← bounds?.count low
        let most ← bounds?.count high
        if let some n := most then
          if n < least.getD 0 then fail .boundsReversed start
        return some (least.getD 0, most))
      (do
        if !(← accept '\x7d') then return none
        let least ← bounds?.count low
        let most ← bounds?.count high
        if let some n := most then
          if n < least.getD 0 then fail .boundsReversed start'
        return some (least.getD 0, most)) := by
  refine (accept_mirrors (by decide)).bind fun closed _ => ?_
  cases closed with
  | false => exact same_pure
  | true =>
    refine count_mirrors.bind fun least _ => count_mirrors.bind fun most _ => ?_
    simp only [id]
    split
    · split
      · exact fun _ _ => .of_fails fun _ h => nomatch h
      · exact same_pure
    · exact same_pure

theorem bounds?_mirrors {start start' : Nat} : Same c (bounds? start) (bounds? start') := by
  have hdigit : Char.isDigit ')' = false := by decide
  refine (takeAll_mirrors hdigit).bind fun low _ => (accept_mirrors (by decide)).bind fun comma _ => ?_
  cases comma with
  | true => exact (takeAll_mirrors hdigit).bind fun high _ => closedBounds_mirrors
  | false => exact closedBounds_mirrors

/-- The reading leaves a closing parenthesis in the text if there is one. -/
def LeavesParenthesis {α : Type} (m : Reader α) : Prop :=
  ∀ s a s', m s = .ok (a, s') → ')' ∈ s.rest → ')' ∈ s'.rest

namespace LeavesParenthesis

variable {α β : Type} {m : Reader α} {k : α → Reader β}

theorem pure {a : α} : LeavesParenthesis (pure a) := by
  intro s b s' h hmem
  cases h
  exact hmem

theorem of_fails (h : ∀ s r, m s ≠ .ok r) : LeavesParenthesis m := fun s _ _ hm => absurd hm (h s _)

theorem bind (hm : LeavesParenthesis m) (hk : ∀ a, LeavesParenthesis (k a)) : LeavesParenthesis (m >>= k) := by
  intro s b s'' h hmem
  obtain ⟨a, s', ha, hb⟩ := bind_eq_ok.1 h
  exact hk a s' b s'' hb (hm s a s' ha hmem)

theorem advance {s s' : Progress} {d : Char} (hd : d ≠ ')') (htoken : token? s.rest = some (.plain d))
    (h : advance s = .ok ((), s')) (hmem : ')' ∈ s.rest) : ')' ∈ s'.rest := by
  rw [advance_eq htoken] at h
  split at h
  · cases h
  · cases h
    rw [eq_append_of_token? htoken] at hmem
    rcases List.mem_append.1 hmem with hfirst | hrest
    · exact absurd (List.mem_singleton.1 hfirst).symm hd
    · exact hrest

theorem accept {d : Char} (hd : d ≠ ')') : LeavesParenthesis (accept d) := by
  intro s found s' h hmem
  rw [Reader.accept] at h
  obtain ⟨token, s₁, hpeek, h⟩ := bind_eq_ok.1 h
  cases hpeek
  split at h
  · rename_i htoken
    obtain ⟨⟨⟩, s₂, hadvance, h⟩ := bind_eq_ok.1 h
    cases h
    exact advance hd htoken hadvance hmem
  · cases h
    exact hmem

theorem takeUpTo {inClass : Char → Bool} (hclass : inClass ')' = false) {n : Nat} :
    LeavesParenthesis (takeUpTo inClass n) := by
  induction n with
  | zero => exact pure
  | succ n ih =>
    intro s taken s' h hmem
    rw [Reader.takeUpTo] at h
    obtain ⟨token, s₁, hpeek, h⟩ := bind_eq_ok.1 h
    obtain ⟨htoken, rfl⟩ : token? s.rest = token ∧ s = s₁ := by
      cases hpeek
      exact ⟨rfl, rfl⟩
    cases token with
    | none =>
      cases h
      exact hmem
    | some token =>
      cases token with
      | escaped d =>
        cases h
        exact hmem
      | plain d =>
        by_cases hd : inClass d = true
        · have hne : d ≠ ')' := by
            rintro rfl
            exact absurd hd (by simp [hclass])
          simp only [if_pos hd] at h
          obtain ⟨⟨⟩, s₂, hadvance, h⟩ := bind_eq_ok.1 h
          obtain ⟨more, s₃, hmore, h⟩ := bind_eq_ok.1 h
          cases h
          exact ih s₂ more _ hmore (advance hne htoken hadvance hmem)
        · simp only [if_neg hd] at h
          cases h
          exact hmem

theorem takeAll {inClass : Char → Bool} (hclass : inClass ')' = false) : LeavesParenthesis (takeAll inClass) :=
  fun s => takeUpTo hclass s

theorem count {digits : List Char} : LeavesParenthesis (bounds?.count digits) := by
  unfold bounds?.count
  split
  · exact pure
  split
  · exact of_fails fun _ _ h => nomatch h
  split
  · exact of_fails fun _ _ h => nomatch h
  · exact pure

theorem bounds? {start : Nat} : LeavesParenthesis (bounds? start) := by
  have hclosed : ∀ low high : List Char, LeavesParenthesis (do
      if !(← Reader.accept '\x7d') then return none
      let least ← bounds?.count low
      let most ← bounds?.count high
      if let some n := most then
        if n < least.getD 0 then fail .boundsReversed start
      return some (least.getD 0, most)) := by
    intro low high
    refine (accept (by decide)).bind fun closed => ?_
    cases closed with
    | false => exact pure
    | true =>
      refine count.bind fun least => count.bind fun most => ?_
      split
      · split
        · exact of_fails fun _ _ h => nomatch h
        · exact pure
      · exact pure
  refine (takeAll (by decide)).bind fun low => (accept (by decide)).bind fun comma => ?_
  cases comma with
  | true => exact (takeAll (by decide)).bind fun high => hclosed low high
  | false => exact hclosed low low

end LeavesParenthesis

theorem Placed.mem_of_closed (h : Placed c s e) (hclosed : c.closed = true) : ')' ∈ s.rest := by
  have hcontinues := h.continues
  rw [Surroundings.Continues, if_pos hclosed] at hcontinues
  obtain ⟨⟨front, hfront⟩, -⟩ := hcontinues
  rw [hfront]
  exact List.mem_append_right _ (List.mem_singleton_self _)

/-- What braces are, bounds or characters that stand for themselves. -/
theorem MirrorsAt.bounds?_bind {γ δ : Type} {Q : γ → Prop} {g : γ → δ} {m : Reader γ} {m' : Reader δ}
    {k : Nat → Option Nat → Reader γ} {k' : Nat → Option Nat → Reader δ} (hm : MirrorsAt c Q g m m' s e)
    (hk : ∀ least most, Mirrors c Q g (k least most) (k' least most)) (start start' : Nat) :
    MirrorsAt c Q g
      (Reader.bounds? start >>= fun bounds => match bounds with
        | none => set s >>= fun _ => m
        | some (least, most) => k least most)
      (Reader.bounds? start' >>= fun bounds => match bounds with
        | none => set e >>= fun _ => m'
        | some (least, most) => k' least most)
      s e := by
  intro a s' ha
  obtain ⟨bounds, s₁, hbounds, hrest⟩ := bind_eq_ok.1 ha
  have hsame : Same c (Reader.bounds? start) (Reader.bounds? start') := bounds?_mirrors
  obtain ⟨-, hend, hmirror⟩ := hsame s e bounds s₁ hbounds
  -- bounds never take the parenthesis that closes the text, so that it cannot be spent
  have hleaves := LeavesParenthesis.bounds? s bounds s₁ hbounds
  cases bounds with
  | none =>
    obtain ⟨hQ, hend', hmirror'⟩ := hm a s' hrest
    refine ⟨hQ, hend', fun hplaced => ?_⟩
    cases hthere : Reader.bounds? start' e with
    | error fault =>
      rw [run_bind_error hthere]
      have houtcome := hmirror hplaced
      rw [hthere] at houtcome
      cases houtcome with
      | refused hinside => exact .refused hinside
      | spent hclosed hspent => exact absurd (hleaves (hplaced.mem_of_closed hclosed)) (by simp [hspent])
    | ok r =>
      rw [run_bind hthere]
      have houtcome := hmirror hplaced
      rw [hthere] at houtcome
      cases houtcome with
      | spent hclosed hspent => exact absurd (hleaves (hplaced.mem_of_closed hclosed)) (by simp [hspent])
      | placed _ => exact hmirror' hplaced
  | some bounds =>
    refine MirrorsAt.bind (hsame s e) (fun found s' e' hfound _ => ?_) a s' ha
    rw [hbounds] at hfound
    cases hfound
    exact hk bounds.1 bounds.2 s₁ e'

/-- Behind an opening brace: bounds, or else the brace and what follows it stand for themselves. -/
theorem MirrorsAt.braces {γ δ : Type} {Q : γ → Prop} {g : γ → δ} {m : Reader γ} {m' : Reader δ}
    {k : Nat → Option Nat → Reader γ} {k' : Nat → Option Nat → Reader δ} (hm : MirrorsAt c Q g m m' s e)
    (hk : ∀ least most, Mirrors c Q g (k least most) (k' least most)) :
    MirrorsAt c Q g
      (get >>= fun here => peek >>= fun next =>
        if next = some (.plain '\x7d') then m
        else Reader.bounds? here.position >>= fun bounds => match bounds with
          | none => set here >>= fun _ => m
          | some (least, most) => k least most)
      (get >>= fun here => peek >>= fun next =>
        if next = some (.plain '\x7d') then m'
        else Reader.bounds? here.position >>= fun bounds => match bounds with
          | none => set here >>= fun _ => m'
          | some (least, most) => k' least most)
      s e := by
  refine .get_bind_here (.peek_bind (fun _ token htoken => ?_) fun token _ => ?_)
  · have hbrace : token ≠ some (.plain '\x7d') := by
      rcases htoken with rfl | rfl <;> simp
    simp only [if_neg hbrace]
    exact .bounds?_bind hm hk _ _
  · by_cases hbrace : some token = some (.plain '\x7d')
    · simp only [if_pos hbrace]
      exact hm
    · simp only [if_neg hbrace]
      exact .bounds?_bind hm hk _ _

/-- Several nodes with the numbers of their groups raised. -/
abbrev RaisedAll (c : Surroundings) (m m' : Reader (List Node)) : Prop :=
  Mirrors c (fun nodes => ∀ node ∈ nodes, node.IsProper) (List.map (Node.raise c.shift)) m m'

theorem greed_mirrors : Same c greed greed := by
  refine (accept_mirrors (by decide)).bind fun reluctant _ => ?_
  cases reluctant with
  | true => exact same_pure
  | false =>
    refine (accept_mirrors (by decide)).bind fun possessive _ => ?_
    cases possessive <;> exact same_pure

theorem repetition_mirrors {sign sign' least : Nat} {most : Option Nat} {done : List Node}
    (hdone : ∀ node ∈ done, node.IsProper) :
    RaisedAll c (repetition sign least most done) (repetition sign' least most (done.map (Node.raise c.shift))) := by
  have hrepeat : ∀ last earlier, (∀ node ∈ last :: earlier, node.IsProper) →
      RaisedAll c (greed >>= fun greed => pure (.times greed least most last :: earlier))
        (greed >>= fun greed =>
          pure (.times greed least most (last.raise c.shift) :: earlier.map (Node.raise c.shift))) := by
    intro last earlier h
    refine greed_mirrors.bind fun greed _ => ?_
    have hproper : ∀ node ∈ Node.times greed least most last :: earlier, node.IsProper := by
      rw [List.forall_mem_cons] at h ⊢
      exact h
    exact Mirrors.pure hproper
  cases done with
  | nil => exact .fail
  | cons last earlier =>
    cases last with
    | anchor kind => exact .fail
    | times greed least most body => exact .fail
    | _ => exact hrepeat _ _ hdone

/-! ## Switches -/

theorem notFlag_mirrors {α β : Type} {P : α → Prop} {f : α → β} {token : Token} {otherwise : Problem}
    {m : Reader β} : Mirrors c P f (notFlag token otherwise) m := .failBack

theorem flagsOn_mirrors {fuel fuel' : Nat} (henough : c.Enough fuel fuel') (sofar : Flags) (d : Char) :
    Same c (flagsOn sofar d fuel) (flagsOn sofar d fuel') := by
  refine Mirrors.of_steps (m := fun i : Flags × Char => flagsOn i.1 i.2) (k := fun i => flagsOn i.1 i.2)
    (fun _ _ _ h => nomatch h) (fun _ _ => ⟨_, rfl⟩) ?_ henough (sofar, d)
  rintro fuel fuel' ih ⟨sofar, d⟩
  simp only [flagsOn]
  split
  · exact .failBack
  split
  · exact fun s e => .of_fails (failBack_bind_ne_ok s)
  refine .take_bind failBack_ne_ok fun token => ?_
  cases token with
  | escaped d => exact notFlag_mirrors
  | plain d =>
    simp only
    split
    · exact same_pure
    split
    · exact ih (_, d)
    · exact notFlag_mirrors

theorem flagsOff_mirrors {fuel fuel' : Nat} (henough : c.Enough fuel fuel') (sofar : Flags) (d : Char) :
    Same c (flagsOff sofar d fuel) (flagsOff sofar d fuel') := by
  refine Mirrors.of_steps (m := fun i : Flags × Char => flagsOff i.1 i.2) (k := fun i => flagsOff i.1 i.2)
    (fun _ _ _ h => nomatch h) (fun _ _ => ⟨_, rfl⟩) ?_ henough (sofar, d)
  rintro fuel fuel' ih ⟨sofar, d⟩
  simp only [flagsOff]
  split
  · exact .failBack
  split
  · exact fun s e => .of_fails (failBack_bind_ne_ok s)
  refine .take_bind failBack_ne_ok fun token => ?_
  split
  · contradiction
  · exact same_pure
  · split
    · exact ih (_, _)
    · exact notFlag_mirrors
  · exact notFlag_mirrors

/-- The end of a group of switches, once it is known which ones to turn on and off. -/
theorem flagsOnAndOff_mirrors {on off : Flags} :
    Same c
      (do
        if off.template then failBack .globalFlagOff 1
        if on.meets off then failBack .flagOnAndOff 1
        return (.inr (on, off) : Flags ⊕ (Flags × Flags)))
      (do
        if off.template then failBack .globalFlagOff 1
        if on.meets off then failBack .flagOnAndOff 1
        return (.inr (on, off) : Flags ⊕ (Flags × Flags))) := by
  cases off.template with
  | true => exact fun s e => .of_fails (failBack_bind_ne_ok s)
  | false =>
    cases on.meets off with
    | true => exact fun s e => .of_fails (failBack_bind_ne_ok s)
    | false => exact same_pure

theorem ite_bind {α β : Type} {p : Prop} [Decidable p] {m m' : Reader α} {k : α → Reader β} :
    (if p then m >>= k else m' >>= k) = (if p then m else m') >>= k := by
  split <;> rfl

theorem flagGroup_mirrors {d : Char} : Same c (flagGroup d) (flagGroup d) := by
  intro s e
  refine .get_bind (fun p => s.rest.length ≤ p.rest.length) (fun h => h.continues.length_le) ⟨s, Nat.le_refl _⟩
    fun p hlength => ?_
  have henough : c.Enough (s.rest.length + 1) (p.rest.length + 1) := .inr (Nat.succ_le_succ hlength)
  have hfirst : Same c (if d = '-' then pure (({} : Flags), d) else flagsOn {} d (s.rest.length + 1))
      (if d = '-' then pure (({} : Flags), d) else flagsOn {} d (p.rest.length + 1)) := by
    split
    · exact same_pure
    · exact flagsOn_mirrors henough _ _
  simp only [ite_bind]
  refine (hfirst.bind fun x _ => ?_) s e
  obtain ⟨on, close⟩ := x
  simp only [id]
  by_cases hclose : close = ')'
  · simp only [if_pos hclose]
    exact same_pure
  simp only [if_neg hclose]
  cases on.template with
  | true => exact fun s e => .of_fails (failBack_bind_ne_ok s)
  | false =>
    simp only [Bool.false_eq_true, if_false]
    by_cases hoff : close = '-'
    · simp only [if_pos hoff]
      refine .take_bind (fun s r => failBack_bind_ne_ok s r) fun token => ?_
      cases token with
      | escaped d => exact fun s e => .of_fails fun r => failBack_bind_ne_ok s r
      | plain d =>
        simp only
        cases isFlagLetter d with
        | true => exact (flagsOff_mirrors henough _ _).bind fun off _ => flagsOnAndOff_mirrors
        | false => exact fun s e => .of_fails fun r => failBack_bind_ne_ok s r
    · simp only [if_neg hoff]
      exact same_pure.bind fun off _ => flagsOnAndOff_mirrors

/-! ## The bounds of a group -/

theorem find?_named_of_none {names : List (String × Nat)} {key : String}
    (h : names.find? (·.1 == key) = none) : (c.named names).find? (·.1 == key) = c.names.find? (·.1 == key) := by
  rw [Surroundings.named, List.find?_append, List.find?_map]
  show Option.or (Option.map _ (names.find? (·.1 == key))) _ = _
  rw [h]
  rfl

/-- A group that is opened has its number raised, unless its name has been taken. -/
theorem openGroup_mirrors {name : Option (List Char)} :
    Mirrors c (0 < ·) (· + c.shift) (openGroup name) (openGroup name) := by
  refine groupCount_mirrors.bind fun group hgroup => ?_
  have hopen : Mirrors c (0 < ·) (· + c.shift)
      (modify (fun p => { p with groups := p.groups ++ [none] }) >>= fun _ => pure group)
      (modify (fun p => { p with groups := p.groups ++ [none] }) >>= fun _ => pure (group + c.shift)) := by
    intro s e
    refine MirrorsAt.bind (.modify rfl fun h => ?_) fun _ _ _ _ _ => .pure hgroup
    exact { h with groups := by rw [h.groups, List.append_assoc] }
  cases name with
  | none => exact hopen
  | some chars =>
    intro s e
    refine .get_bind (fun p => p.names = c.named s.names) (fun h => h.names) ⟨{ s with names := _ }, rfl⟩ fun p hp => ?_
    simp only [hp]
    cases hfind : s.names.find? (·.1 == String.ofList chars) with
    | some named => exact .of_fails fun r => failBack_bind_ne_ok s r
    | none =>
      have hname : MirrorsAt c (0 < ·) (· + c.shift)
          (modify (fun p => { p with names := (String.ofList chars, group) :: p.names }) >>= fun _ =>
            modify (fun p => { p with groups := p.groups ++ [none] }) >>= fun _ => pure group)
          (modify (fun p => { p with names := (String.ofList chars, group + c.shift) :: p.names }) >>= fun _ =>
            modify (fun p => { p with groups := p.groups ++ [none] }) >>= fun _ => pure (group + c.shift)) s e := by
        refine MirrorsAt.bind (.modify rfl fun h => ?_) fun _ s' e' _ _ => hopen s' e'
        exact { h with names := by rw [h.names]; rfl }
      rw [find?_named_of_none hfind]
      cases htaken : c.names.find? (·.1 == String.ofList chars) with
      | none => exact hname
      | some named =>
        -- a name is taken by the surroundings only inside a group, and there a refusal is allowed
        have hinside : c.inside = true := by
          rw [← Bool.not_eq_false]
          intro houtside
          rw [(c.whole houtside).2.2.1] at htaken
          cases htaken
        exact hname.of_refuses hinside rfl

/-- A group that is closed is as wide there. -/
theorem closeGroup_mirrors {group : Nat} {body : Node} (hgroup : 0 < group) (hbody : body.IsProper) :
    Same c (closeGroup group body) (closeGroup (group + c.shift) (body.raise c.shift)) := by
  intro s e
  refine .modify rfl fun h => { h with groups := ?_ }
  have hplace : group + c.shift - 1 = c.groups.length + (group - 1) := by
    have hshift : c.shift = c.groups.length := rfl
    omega
  show e.groups.set (group + c.shift - 1) _ = _
  rw [h.groups, Node.width_raise body hbody, hplace, List.set_append_right _ _ (Nat.le_add_right _ _),
    Nat.add_sub_cancel_left]

end

end PolicyGate.Regex.Reader
