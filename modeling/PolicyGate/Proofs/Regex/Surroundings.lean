import PolicyGate.Proofs.Regex.Renumbering

/-!
# Reading a text in its surroundings

The text of an expression can be put into a larger one, where other groups stand in front of it and more text
behind it. What the reader does there is compared with what it does to the text by itself: `Mirrors` says that a
reading there comes to the same, with the numbers of groups raised, and leaves the reader at the corresponding place.

Three things can go wrong in a group, and the comparison is open about each. Reading there can be *refused* where
the text by itself is accepted, since switches for the whole expression must stand at its start and names must not
be taken. A verbose comment that is still open where the text ends swallows what stands behind it. And a text that is
already closed by its own parenthesis can be *spent* before that parenthesis was found.
-/

namespace PolicyGate.Regex

namespace Reader

/-- Can a text that goes on like this, behind an opening parenthesis, have a condition on a numbered group? -/
def startsNumberedCondition : List Char → Bool
  | '?' :: '(' :: rest => !Text.isIdentifier (rest.takeWhile (· ≠ ')'))
  | _ => false

/-- Does the text have a part that can stand for a group by its number? -/
def numbersGroup : List Char → Bool
  | [] => false
  | '\\' :: c :: rest => (c.isDigit && c != '0') || numbersGroup rest
  | c :: rest => (c == '(' && startsNumberedCondition rest) || numbersGroup rest

/-- What stands around a text when it is read as a part of another one. -/
structure Surroundings where
  /-- What follows the text. -/
  suffix : List Char
  /-- The groups in front of the text. -/
  groups : List (Option Width)
  /-- The names of groups in front of the text. -/
  names : List (String × Nat)
  /-- Is the text in a group? If it is not, it is the whole text. -/
  inside : Bool
  /-- Does the text end with the parenthesis that closes the group? -/
  closed : Bool
  /-- In a group, the switches of the text by itself. -/
  own : Flags
  /-- In a group the switches of the whole text, else the switches that are on besides those of the text. -/
  switches : Flags
  suffix_of_open : closed = false → suffix = [] ∨ ∃ more, suffix = ')' :: more ∧ '\n' ∉ more ∧ '\\' ∉ more
  whole : inside = false →
    suffix = [] ∧ groups = [] ∧ names = [] ∧ closed = false ∧ switches.verbose = false

namespace Surroundings

variable (c : Surroundings)

/-- How much the numbers of groups are raised. -/
abbrev shift : Nat := c.groups.length

theorem shift_of_outside (h : c.inside = false) : c.shift = 0 := by
  rw [shift, (c.whole h).2.1]
  rfl

/-- The names of groups there, given the names of the text by itself. -/
def named (names : List (String × Nat)) : List (String × Nat) :=
  names.map (fun name => (name.1, name.2 + c.shift)) ++ c.names

/-- The text that is left there, given the text that is left of the text by itself. -/
def Continues (rest rest' : List Char) : Prop :=
  if c.closed then (∃ front, rest = front ++ [')']) ∧ rest' = rest ++ c.suffix
  else rest' = rest ++ c.suffix ∨ (rest = [] ∧ rest' = [])

/-- The switches there, given the switches of the text by itself. -/
def Switches (flags flags' : Flags) : Prop :=
  if c.inside then flags = c.own ∧ flags' = c.switches else flags' = flags.union c.switches

/-- There are no fewer steps there, unless reading may be refused there. -/
def Enough (fuel fuel' : Nat) : Prop := c.inside = true ∨ fuel ≤ fuel'

end Surroundings

/-- The reader has come as far in the surroundings as in the text by itself. -/
structure Placed (c : Surroundings) (s e : Progress) : Prop where
  danglingFree : s.rest ≠ ['\\']
  continues : c.Continues s.rest e.rest
  unnumbered : c.groups = [] ∨ numbersGroup s.rest = false
  groups : e.groups = c.groups ++ s.groups
  names : e.names = c.named s.names
  behindFrom : c.inside = false → e.behindFrom = s.behindFrom
  switches : c.Switches s.flags e.flags
  conditions : c.inside = false → e.conditions.map (·.1) = s.conditions.map (·.1)

/-- What a reading in the surroundings comes to, when the text by itself gives `a` and leaves the reader at `s'`. -/
inductive Outcome (c : Surroundings) {α β : Type} (f : α → β) (a : α) (s' : Progress) :
    Except Fault (β × Progress) → Prop where
  | refused {fault : Fault} (h : c.inside = true) : Outcome c f a s' (.error fault)
  | spent {r : Except Fault (β × Progress)} (h : c.closed = true) (hrest : s'.rest = []) : Outcome c f a s' r
  | placed {e' : Progress} (h : Placed c s' e') : Outcome c f a s' (.ok (f a, e'))

/-- The second reading does from `e` on in the surroundings what the first one does from `s` on with the text by
itself. All results of the first one have a property, and it reads nothing at the end. -/
def MirrorsAt (c : Surroundings) {α β : Type} (P : α → Prop) (f : α → β) (m : Reader α) (m' : Reader β)
    (s e : Progress) : Prop :=
  ∀ a s', m s = .ok (a, s') → P a ∧ (s.rest = [] → s'.rest = []) ∧ (Placed c s e → Outcome c f a s' (m' e))

/-- The second reading does everywhere in the surroundings what the first one does with the text by itself. -/
def Mirrors (c : Surroundings) {α β : Type} (P : α → Prop) (f : α → β) (m : Reader α) (m' : Reader β) : Prop :=
  ∀ s e, MirrorsAt c P f m m' s e

/-- The readings give the same, whatever it is. -/
abbrev Same (c : Surroundings) {α : Type} (m m' : Reader α) : Prop := Mirrors c (fun _ => True) id m m'

/-! ## Texts and their continuations -/

theorem token?_eq_none {rest : List Char} : token? rest = none ↔ rest = [] := by
  constructor
  · intro h
    unfold token? at h
    split at h <;> simp_all
  · rintro rfl
    rfl

/-- A token is a backslash with the character behind it, or any other character, or a backslash that stands last. -/
theorem token?_eq_some {rest : List Char} {token : Token} : token? rest = some token ↔
    (∃ d more, rest = '\\' :: d :: more ∧ token = .escaped d) ∨
      (∃ d more, rest = d :: more ∧ token = .plain d ∧ (d = '\\' → more = [])) := by
  constructor
  · intro h
    unfold token? at h
    split at h
    · cases h
    · cases h
      exact .inl ⟨_, _, rfl, rfl⟩
    · rename_i d more hescape
      cases h
      refine .inr ⟨d, more, rfl, rfl, ?_⟩
      rintro rfl
      cases more with
      | nil => rfl
      | cons c cs => exact (hescape c cs rfl rfl).elim
  · rintro (⟨d, more, rfl, rfl⟩ | ⟨d, more, rfl, rfl, hlast⟩)
    · rfl
    · by_cases hd : d = '\\'
      · subst hd
        rw [hlast rfl]
        rfl
      · unfold token?
        split <;> simp_all

theorem eq_append_of_token? {rest : List Char} {token : Token} (h : token? rest = some token) :
    rest = token.chars ++ rest.drop token.chars.length := by
  rcases token?_eq_some.1 h with ⟨d, more, rfl, rfl⟩ | ⟨d, more, rfl, rfl, -⟩ <;> rfl

theorem token?_append {rest suffix : List Char} {token : Token} (h : token? rest = some token)
    (hdangling : rest ≠ ['\\']) : token? (rest ++ suffix) = some token := by
  rcases token?_eq_some.1 h with ⟨d, more, rfl, rfl⟩ | ⟨d, more, rfl, rfl, hlast⟩
  · rfl
  · refine token?_eq_some.2 (.inr ⟨d, more ++ suffix, rfl, rfl, ?_⟩)
    rintro rfl
    exact absurd (by rw [hlast rfl]) hdangling

theorem numbersGroup_drop {rest : List Char} {token : Token} (h : token? rest = some token)
    (hfree : numbersGroup rest = false) : numbersGroup (rest.drop token.chars.length) = false := by
  rcases token?_eq_some.1 h with ⟨d, more, rfl, rfl⟩ | ⟨d, more, rfl, rfl, hlast⟩
  · rw [numbersGroup, Bool.or_eq_false_iff] at hfree
    exact hfree.2
  · by_cases hd : d = '\\'
    · rw [hlast hd]
      rfl
    · have hstep : numbersGroup (d :: more) = ((d == '(' && startsNumberedCondition more) || numbersGroup more) := by
        rw [numbersGroup]
        exact fun _ _ h _ => hd h
      rw [hstep, Bool.or_eq_false_iff] at hfree
      exact hfree.2

namespace Surroundings

variable {c : Surroundings} {rest rest' : List Char}

/-- The next token is the same there. -/
theorem Continues.token? {token : Token} (h : c.Continues rest rest') (hdangling : rest ≠ ['\\'])
    (htoken : token? rest = some token) : Reader.token? rest' = some token := by
  unfold Continues at h
  split at h
  · rw [h.2]
    exact token?_append htoken hdangling
  · rcases h with rfl | ⟨rfl, rfl⟩
    · exact token?_append htoken hdangling
    · cases htoken

/-- At the end of the text there is nothing there either, or a closing parenthesis. -/
theorem Continues.token?_of_end (h : c.Continues [] rest') :
    Reader.token? rest' = none ∨ Reader.token? rest' = some (.plain ')') := by
  unfold Continues at h
  split at h
  · obtain ⟨⟨front, hfront⟩, -⟩ := h
    simp at hfront
  · rename_i hopen
    rcases h with rfl | ⟨-, rfl⟩
    · rcases c.suffix_of_open (by simpa using hopen) with hsuffix | ⟨more, hsuffix, -⟩
      · left
        rw [hsuffix]
        rfl
      · right
        rw [hsuffix]
        rfl
    · exact .inl rfl

/-- Past a token the texts correspond, unless the text is spent. -/
theorem Continues.drop {token : Token} (h : c.Continues rest rest') (htoken : Reader.token? rest = some token) :
    (c.closed = true ∧ rest.drop token.chars.length = []) ∨
      c.Continues (rest.drop token.chars.length) (rest'.drop token.chars.length) := by
  have hrest := eq_append_of_token? htoken
  have hdrop : ∀ suffix, (rest ++ suffix).drop token.chars.length = rest.drop token.chars.length ++ suffix := by
    intro suffix
    rw [List.drop_append_of_le_length]
    rw [hrest]
    simp
  unfold Continues at h
  split at h
  · rename_i hclosed
    obtain ⟨⟨front, hfront⟩, rfl⟩ := h
    -- the closing parenthesis stays last, unless it was the token
    by_cases hspent : rest.drop token.chars.length = []
    · exact .inl ⟨hclosed, hspent⟩
    · right
      unfold Continues
      rw [if_pos hclosed, hdrop]
      refine ⟨?_, rfl⟩
      have hlast : rest.drop token.chars.length = (rest.drop token.chars.length).dropLast ++ [')'] := by
        have hmem : (rest.drop token.chars.length).getLast hspent = ')' := by
          rw [List.getLast_drop]
          simp [hfront]
        rw [← hmem, List.dropLast_concat_getLast]
      exact ⟨_, hlast⟩
  · rename_i hopen
    right
    unfold Continues
    rw [if_neg hopen]
    rcases h with rfl | ⟨rfl, rfl⟩
    · exact .inl (hdrop _)
    · cases htoken

end Surroundings

/-! ## Joining readings -/

/-- What one reading after another comes to. -/
theorem bind_eq_ok {α β : Type} {m : Reader α} {k : α → Reader β} {s s'' : Progress} {b : β} :
    (m >>= k) s = .ok (b, s'') ↔ ∃ a s', m s = .ok (a, s') ∧ k a s' = .ok (b, s'') := by
  show (m s).bind (fun r => k r.1 r.2) = _ ↔ _
  cases m s with
  | error fault => simp [Except.bind]
  | ok r =>
    constructor
    · exact fun h => ⟨r.1, r.2, rfl, h⟩
    · rintro ⟨a, s', hr, h⟩
      cases hr
      exact h

theorem run_bind {α β : Type} {m : Reader α} {k : α → Reader β} {s s' : Progress} {a : α} (h : m s = .ok (a, s')) :
    (m >>= k) s = k a s' := by
  show (m s).bind (fun r => k r.1 r.2) = _
  rw [h]
  rfl

theorem run_bind_error {α β : Type} {m : Reader α} {k : α → Reader β} {s : Progress} {fault : Fault}
    (h : m s = .error fault) : (m >>= k) s = .error fault := by
  show (m s).bind (fun r => k r.1 r.2) = _
  rw [h]
  rfl

theorem Placed.token?_of_end {c : Surroundings} {s e : Progress} (h : Placed c s e) (hend : s.rest = []) :
    token? e.rest = none ∨ token? e.rest = some (.plain ')') := by
  have hcontinues := h.continues
  rw [hend] at hcontinues
  exact hcontinues.token?_of_end

section

variable {c : Surroundings} {α β γ δ : Type} {P : α → Prop} {Q : γ → Prop} {f : α → β} {g : γ → δ}
  {m : Reader α} {m' : Reader β} {k : α → Reader γ} {k' : β → Reader δ} {s e : Progress}

theorem MirrorsAt.of_fails (h : ∀ r, m s ≠ .ok r) : MirrorsAt c P f m m' s e :=
  fun _ _ hm => absurd hm (h _)

theorem MirrorsAt.pure {a : α} (h : P a) : MirrorsAt c P f (pure a) (pure (f a)) s e := by
  intro b s' hb
  cases hb
  exact ⟨h, id, .placed⟩

/-- One reading after another. -/
theorem MirrorsAt.bind (hm : MirrorsAt c P f m m' s e)
    (hk : ∀ a s' e', m s = .ok (a, s') → P a → MirrorsAt c Q g (k a) (k' (f a)) s' e') :
    MirrorsAt c Q g (m >>= k) (m' >>= k') s e := by
  intro b s'' hb
  obtain ⟨a, s', ha, hb⟩ := bind_eq_ok.1 hb
  obtain ⟨hPa, hend, hmirror⟩ := hm a s' ha
  obtain ⟨hQb, hend', -⟩ := hk a s' e ha hPa b s'' hb
  refine ⟨hQb, fun h => hend' (hend h), fun hplaced => ?_⟩
  cases hr : m' e with
  | error fault =>
    rw [run_bind_error hr]
    have houtcome := hmirror hplaced
    rw [hr] at houtcome
    cases houtcome with
    | refused hinside => exact .refused hinside
    | spent hclosed hrest => exact .spent hclosed (hend' hrest)
  | ok r =>
    rw [run_bind hr]
    have houtcome := hmirror hplaced
    rw [hr] at houtcome
    cases houtcome with
    | spent hclosed hrest => exact .spent hclosed (hend' hrest)
    | placed hplaced' => exact (hk a s' _ ha hPa b s'' hb).2.2 hplaced'

theorem Mirrors.bind (hm : Mirrors c P f m m') (hk : ∀ a, P a → Mirrors c Q g (k a) (k' (f a))) :
    Mirrors c Q g (m >>= k) (m' >>= k') :=
  fun s e => (hm s e).bind fun a s' e' _ hPa => hk a hPa s' e'

theorem Mirrors.pure {a : α} (h : P a) : Mirrors c P f (pure a) (pure (f a)) := fun _ _ => .pure h

theorem Mirrors.fail {problem : Problem} {position : Nat} : Mirrors c P f (fail problem position) m' :=
  fun _ _ => .of_fails fun _ h => nomatch h

theorem Mirrors.failBack {problem : Problem} {back : Nat} : Mirrors c P f (failBack problem back) m' :=
  fun _ _ => .of_fails fun _ h => nomatch h

/-- A change of what the reader has learnt. -/
theorem MirrorsAt.modify {u u' : Progress → Progress} (hrest : (u s).rest = s.rest)
    (hplaced : Placed c s e → Placed c (u s) (u' e)) :
    MirrorsAt c (fun _ => True) id (modify u) (modify u') s e := by
  intro _ s' hs
  cases hs
  exact ⟨trivial, fun hend => hrest.trans hend, fun h => .placed (hplaced h)⟩

/-- A reading may be refused in a group. -/
theorem MirrorsAt.of_refuses {m₀ : Reader β} (hm : MirrorsAt c P f m m₀ s e) {fault : Fault} (hinside : c.inside = true)
    (h : m' e = .error fault) : MirrorsAt c P f m m' s e := by
  intro a s' ha
  obtain ⟨hP, hend, -⟩ := hm a s' ha
  refine ⟨hP, hend, fun _ => ?_⟩
  rw [h]
  exact .refused hinside

/-- Where the reader cannot be in the surroundings, only the text by itself counts. -/
theorem MirrorsAt.of_not_placed {c₀ : Surroundings} {f₀ : α → β} {m₀ : Reader β} {e₀ : Progress}
    (hm : MirrorsAt c₀ P f₀ m m₀ s e₀) (h : ¬ Placed c s e) : MirrorsAt c P f m m' s e := by
  intro a s' ha
  obtain ⟨hP, hend, -⟩ := hm a s' ha
  exact ⟨hP, hend, fun hplaced => absurd hplaced h⟩

/-- There is nothing to show where there are too few steps in a group. -/
theorem MirrorsAt.of_fuel {m' : Nat → Reader β} {fuel fuel' : Nat} (henough : c.Enough (fuel + 1) fuel')
    (hzero : ∃ fault, m' 0 e = .error fault)
    (hsucc : ∀ fuel', c.Enough fuel fuel' → MirrorsAt c P f m (m' (fuel' + 1)) s e) :
    MirrorsAt c P f m (m' fuel') s e := by
  cases fuel' with
  | zero =>
    obtain ⟨fault, hfault⟩ := hzero
    have hinside : c.inside = true := henough.resolve_right (by omega)
    exact (hsucc fuel (.inr (Nat.le_refl fuel))).of_refuses hinside hfault
  | succ fuel' => exact hsucc fuel' (henough.imp_right Nat.le_of_succ_le_succ)

/-- Remembering where the reader is. -/
theorem MirrorsAt.get_bind_here {k : Progress → Reader γ} {k' : Progress → Reader δ}
    (hk : MirrorsAt c Q g (k s) (k' e) s e) : MirrorsAt c Q g (get >>= k) (get >>= k') s e := hk

/-- Looking at where the reader is; only what is common to all places that the reader may have there counts. -/
theorem MirrorsAt.get_bind {k : Progress → Reader γ} {k' : Progress → Reader δ} (R : Progress → Prop)
    (hplaced : Placed c s e → R e) (hsome : ∃ p, R p) (hk : ∀ p, R p → MirrorsAt c Q g (k s) (k' p) s e) :
    MirrorsAt c Q g (get >>= k) (get >>= k') s e := by
  intro a s' ha
  obtain ⟨p, hp⟩ := hsome
  obtain ⟨hQ, hend, -⟩ := hk p hp a s' ha
  exact ⟨hQ, hend, fun h => (hk e (hplaced h) a s' ha).2.2 h⟩

/-- Positions count for messages only. -/
theorem MirrorsAt.position_bind {k : Nat → Reader γ} {k' : Nat → Reader δ}
    (hk : ∀ place place', MirrorsAt c Q g (k place) (k' place') s e) :
    MirrorsAt c Q g (position >>= k) (position >>= k') s e :=
  hk s.position e.position

/-- Looking at the next token. At the end of the text there may be a closing parenthesis instead of nothing. -/
theorem MirrorsAt.peek_bind {k : Option Token → Reader γ} {k' : Option Token → Reader δ}
    (hnone : s.rest = [] → ∀ token, token = none ∨ token = some (.plain ')') →
      MirrorsAt c Q g (k none) (k' token) s e)
    (hsome : ∀ token, token? s.rest = some token → MirrorsAt c Q g (k (some token)) (k' (some token)) s e) :
    MirrorsAt c Q g (peek >>= k) (peek >>= k') s e := by
  intro a s' ha
  have hpeek : (peek >>= k) s = k (token? s.rest) s := rfl
  have hpeek' : (peek >>= k') e = k' (token? e.rest) e := rfl
  rw [hpeek] at ha
  rw [hpeek']
  cases htoken : token? s.rest with
  | none =>
    rw [htoken] at ha
    have hend := token?_eq_none.1 htoken
    refine ⟨(hnone hend none (.inl rfl) a s' ha).1, (hnone hend none (.inl rfl) a s' ha).2.1, fun hplaced => ?_⟩
    exact (hnone hend _ (hplaced.token?_of_end hend) a s' ha).2.2 hplaced
  | some token =>
    rw [htoken] at ha
    obtain ⟨hQ, hend, hmirror⟩ := hsome token htoken a s' ha
    refine ⟨hQ, hend, fun hplaced => ?_⟩
    rw [hplaced.continues.token? hplaced.danglingFree htoken]
    exact hmirror hplaced

end

/-! ## Going on by a token -/

/-- The reader past a token. -/
def pastToken (s : Progress) (token : Token) : Progress :=
  { s with position := s.position + token.chars.length, rest := s.rest.drop token.chars.length }

theorem advance_eq {s : Progress} {token : Token} (h : token? s.rest = some token) :
    advance s = if (pastToken s token).rest = ['\\'] then
      .error (.malformed .danglingEscape (pastToken s token).position) else .ok ((), pastToken s token) := by
  have hadvance : advance s = (if (pastToken s token).rest = ['\\'] then
      (throw (.malformed .danglingEscape (pastToken s token).position) : Reader Unit)
      else set (pastToken s token)) s := by
    show _ = _
    unfold advance
    simp only [bind, StateT.bind, get, getThe, MonadStateOf.get, StateT.get, pure, Except.pure, Except.bind, h]
    rfl
  rw [hadvance]
  split <;> rfl

theorem Surroundings.Continues.danglingFree {c : Surroundings} {rest rest' : List Char} (h : c.Continues rest rest')
    (hdangling : rest ≠ ['\\']) : rest' ≠ ['\\'] := by
  intro hlast
  unfold Continues at h
  split at h
  · obtain ⟨⟨front, rfl⟩, rfl⟩ := h
    have hmem : ')' ∈ ['\\'] := hlast ▸ List.mem_append_left _ (List.mem_append_right _ (List.mem_singleton_self _))
    simp at hmem
  · rename_i hopen
    rcases h with rfl | ⟨-, rfl⟩
    · rcases c.suffix_of_open (by simpa using hopen) with hsuffix | ⟨more, hsuffix, -⟩
      · rw [hsuffix, List.append_nil] at hlast
        exact hdangling hlast
      · have hmem : ')' ∈ ['\\'] := by
          rw [← hlast, hsuffix]
          exact List.mem_append_right _ List.mem_cons_self
        simp at hmem
    · cases hlast

/-- Past the next token the reader has come as far there, unless the text is spent. -/
theorem Placed.pastToken {c : Surroundings} {s e : Progress} {token : Token} (h : Placed c s e)
    (htoken : token? s.rest = some token) (hdangling : (pastToken s token).rest ≠ ['\\']) :
    (c.closed = true ∧ (pastToken s token).rest = []) ∨ Placed c (pastToken s token) (pastToken e token) := by
  rcases h.continues.drop htoken with hspent | hcontinues
  · exact .inl hspent
  · right
    exact { h with
      danglingFree := hdangling
      continues := hcontinues
      unnumbered := h.unnumbered.imp_right (numbersGroup_drop htoken) }

section

variable {c : Surroundings} {α β γ δ : Type} {Q : γ → Prop} {g : γ → δ} {s e : Progress}

theorem advance_mirrors {token : Token} (htoken : token? s.rest = some token) :
    MirrorsAt c (fun _ => True) id advance advance s e := by
  intro _ s' hs
  rw [advance_eq htoken] at hs
  by_cases hdangling : (pastToken s token).rest = ['\\']
  · rw [if_pos hdangling] at hs
    cases hs
  rw [if_neg hdangling] at hs
  cases hs
  refine ⟨trivial, fun hend => ?_, fun hplaced => ?_⟩
  · rw [hend] at htoken
    cases htoken
  rcases hplaced.pastToken htoken hdangling with ⟨hclosed, hspent⟩ | hplaced'
  · exact .spent hclosed hspent
  rw [advance_eq (hplaced.continues.token? hplaced.danglingFree htoken),
    if_neg (hplaced'.continues.danglingFree hdangling)]
  exact .placed hplaced'

theorem rest_of_advance {d : Char} {s' : Progress} (htoken : token? s.rest = some (.plain d))
    (h : advance s = .ok ((), s')) : s.rest = d :: s'.rest := by
  rw [advance_eq htoken] at h
  split at h
  · cases h
  · cases h
    exact eq_append_of_token? htoken

theorem take_eq (s : Progress) :
    take s = match token? s.rest with
      | none => .ok (none, s)
      | some token => (advance s).map fun r => (some token, r.2) := by
  have htake : take s = (advance s).bind fun r => .ok (token? s.rest, r.2) := rfl
  rw [htake]
  cases htoken : token? s.rest with
  | none =>
    obtain ⟨position, rest, flags, names, groups, behindFrom, conditions⟩ := s
    cases token?_eq_none.1 htoken
    rfl
  | some token => cases advance s <;> rfl

/-- What has been taken is the next token, if there was one. -/
theorem of_take_eq_ok {taken : Option Token} {s' : Progress} (h : take s = .ok (taken, s')) :
    (taken = none ∧ s.rest = [] ∧ s' = s) ∨
      ∃ token, taken = some token ∧ token? s.rest = some token ∧ s' = pastToken s token := by
  rw [take_eq] at h
  cases htoken : token? s.rest with
  | none =>
    rw [htoken] at h
    cases h
    exact .inl ⟨rfl, token?_eq_none.1 htoken, rfl⟩
  | some token =>
    rw [htoken] at h
    simp only [advance_eq htoken] at h
    split at h
    · cases h
    · cases h
      exact .inr ⟨token, rfl, rfl, rfl⟩

theorem take_of_end (h : s.rest = []) : take s = .ok (none, s) := by
  rw [take_eq, token?_eq_none.2 h]

/-- Taking the next token where there must be one. -/
theorem MirrorsAt.take_bind {k : Option Token → Reader γ} {k' : Option Token → Reader δ}
    (hnone : s.rest = [] → ∀ r, k none s ≠ .ok r)
    (hsome : ∀ token s' e', token? s.rest = some token → advance s = .ok ((), s') →
      MirrorsAt c Q g (k (some token)) (k' (some token)) s' e') :
    MirrorsAt c Q g (take >>= k) (take >>= k') s e := by
  cases htoken : token? s.rest with
  | none =>
    refine .of_fails fun r hr => hnone (token?_eq_none.1 htoken) r ?_
    have htake : (take >>= k) s = (take s).bind fun r => k r.1 r.2 := rfl
    rw [htake, take_eq, htoken] at hr
    exact hr
  | some token =>
    have hmirrors : MirrorsAt c Q g (advance >>= fun _ => k (some token)) (advance >>= fun _ => k' (some token)) s e :=
      (advance_mirrors htoken).bind fun _ s' e' hs _ => hsome token s' e' htoken hs
    have htake : (take >>= k) s = (advance >>= fun _ => k (some token)) s := by
      show (take s).bind (fun r => k r.1 r.2) = (advance s).bind fun r => k (some token) r.2
      rw [take_eq, htoken]
      cases advance s <;> rfl
    intro a s' ha
    rw [htake] at ha
    obtain ⟨hQ, hend, hmirror⟩ := hmirrors a s' ha
    refine ⟨hQ, hend, fun hplaced => ?_⟩
    have htake' : (take >>= k') e = (advance >>= fun _ => k' (some token)) e := by
      show (take e).bind (fun r => k' r.1 r.2) = (advance e).bind fun r => k' (some token) r.2
      rw [take_eq, hplaced.continues.token? hplaced.danglingFree htoken]
      cases advance e <;> rfl
    rw [htake']
    exact hmirror hplaced

theorem Mirrors.take_bind {k : Option Token → Reader γ} {k' : Option Token → Reader δ}
    (hnone : ∀ s r, k none s ≠ .ok r) (hsome : ∀ token, Mirrors c Q g (k (some token)) (k' (some token))) :
    Mirrors c Q g (take >>= k) (take >>= k') :=
  fun _ _ => .take_bind (fun _ => hnone _) fun token s' e' _ _ => hsome token s' e'

/-- Only a closing parenthesis can be in the surroundings where the text has nothing. -/
theorem accept_mirrorsAt {d : Char} (hd : s.rest = [] → d ≠ ')') :
    MirrorsAt c (fun _ => True) id (accept d) (accept d) s e := by
  refine .peek_bind (fun hend token htoken => ?_) fun token htoken => ?_
  · have hnot : token ≠ some (.plain d) := by
      rintro rfl
      rcases htoken with h | h
      · cases h
      · cases h
        exact hd hend rfl
    rw [if_neg (by simp), if_neg hnot]
    exact .pure (f := id) trivial
  · by_cases h : some token = some (.plain d)
    · rw [if_pos h]
      exact (advance_mirrors htoken).bind fun _ _ _ _ _ => .pure (f := id) trivial
    · rw [if_neg h]
      exact .pure (f := id) trivial

theorem accept_mirrors {d : Char} (hd : d ≠ ')') : Same c (accept d) (accept d) :=
  fun _ _ => accept_mirrorsAt fun _ => hd

/-- The closing parenthesis of a group is there if it is in the text. -/
theorem closing_mirrors {start start' : Nat} : Same c (closing start) (closing start') := by
  intro s e
  by_cases hend : s.rest = []
  · refine .of_fails fun r hr => ?_
    have haccept : accept ')' s = .ok (false, s) := by
      show (if token? s.rest = some (.plain ')') then advance >>= fun _ => pure true else pure false : Reader Bool) s = _
      rw [hend]
      rfl
    have hclosing : closing start s =
        (accept ')' s).bind fun r => (if !r.1 then fail .unterminatedGroup start else pure ()) r.2 := rfl
    rw [hclosing, haccept] at hr
    cases hr
  · refine (accept_mirrorsAt fun h => absurd h hend).bind fun found s' e' _ _ => ?_
    cases found with
    | false => exact Mirrors.fail s' e'
    | true => exact .pure (f := id) trivial

/-! ## Stretches of characters -/

theorem takeUpTo_of_end {inClass : Char → Bool} (hclass : inClass ')' = false)
    (h : token? s.rest = none ∨ token? s.rest = some (.plain ')')) (n : Nat) :
    takeUpTo inClass n s = .ok ([], s) := by
  cases n with
  | zero => rfl
  | succ n =>
    have hpeek : peek s = .ok (token? s.rest, s) := rfl
    rw [takeUpTo, run_bind hpeek]
    rcases h with h | h
    · rw [h]
      rfl
    · rw [h]
      simp only [hclass]
      rfl

theorem takeUpTo_mirrorsAt_of_end {inClass : Char → Bool} (hclass : inClass ')' = false) (hend : s.rest = [])
    {n n' : Nat} : MirrorsAt c (fun _ => True) id (takeUpTo inClass n) (takeUpTo inClass n') s e := by
  intro taken s' hs
  rw [takeUpTo_of_end hclass (.inl (token?_eq_none.2 hend))] at hs
  cases hs
  refine ⟨trivial, id, fun hplaced => ?_⟩
  rw [takeUpTo_of_end hclass (hplaced.token?_of_end hend)]
  exact .placed hplaced

/-- A character that has been accepted was the next one. -/
theorem of_accept_eq_true {d : Char} {s' : Progress} (h : accept d s = .ok (true, s')) :
    s.rest = d :: s'.rest := by
  rw [accept] at h
  obtain ⟨token, s₁, hpeek, h⟩ := bind_eq_ok.1 h
  obtain ⟨rfl, rfl⟩ : token = token? s.rest ∧ s = s₁ := by
    cases hpeek
    exact ⟨rfl, rfl⟩
  by_cases htoken : token? s.rest = some (.plain d)
  · simp only [if_pos htoken] at h
    obtain ⟨⟨⟩, s₂, hadvance, h⟩ := bind_eq_ok.1 h
    cases h
    exact rest_of_advance htoken hadvance
  · simp only [if_neg htoken] at h
    cases h

theorem length_rest_of_advance {token : Token} {s' : Progress} (htoken : token? s.rest = some token)
    (hs : advance s = .ok ((), s')) : s'.rest.length + token.chars.length = s.rest.length := by
  rw [advance_eq htoken] at hs
  split at hs
  · cases hs
  · cases hs
    have hlength := congrArg List.length (eq_append_of_token? htoken)
    rw [List.length_append] at hlength
    show (s.rest.drop token.chars.length).length + _ = _
    omega

/-- A stretch of characters of a class ends in front of the closing parenthesis. -/
theorem takeUpTo_mirrorsAt {inClass : Char → Bool} (hclass : inClass ')' = false) {n n' : Nat}
    (hn : n = n' ∨ (s.rest.length ≤ n ∧ s.rest.length ≤ n')) :
    MirrorsAt c (fun _ => True) id (takeUpTo inClass n) (takeUpTo inClass n') s e := by
  by_cases hend : s.rest = []
  · exact takeUpTo_mirrorsAt_of_end hclass hend
  have hpositive : 0 < s.rest.length := List.length_pos_iff.2 hend
  induction n generalizing n' s e with
  | zero =>
    obtain rfl : 0 = n' := by omega
    exact .pure (f := id) trivial
  | succ n ih =>
    obtain ⟨n', rfl⟩ : ∃ k, n' = k + 1 := ⟨n' - 1, by omega⟩
    refine .peek_bind (fun h => absurd h hend) fun token htoken => ?_
    cases token with
    | escaped d => exact .pure (f := id) trivial
    | plain d =>
      by_cases hd : inClass d = true
      · simp only [hd, if_true]
        refine (advance_mirrors htoken).bind fun _ s' e' hs _ => ?_
        have hlength : s'.rest.length + 1 = s.rest.length := length_rest_of_advance htoken hs
        have hmore : MirrorsAt c (fun _ => True) id (takeUpTo inClass n) (takeUpTo inClass n') s' e' := by
          by_cases hend' : s'.rest = []
          · exact takeUpTo_mirrorsAt_of_end hclass hend'
          · exact ih (by omega) hend' (List.length_pos_iff.2 hend')
        exact hmore.bind fun _ _ _ _ _ => .pure (f := id) trivial
      · simp only [hd]
        exact .pure (f := id) trivial

theorem takeUpTo_mirrors {inClass : Char → Bool} (hclass : inClass ')' = false) {n : Nat} :
    Same c (takeUpTo inClass n) (takeUpTo inClass n) := fun _ _ => takeUpTo_mirrorsAt hclass (.inl rfl)

theorem Surroundings.Continues.length_le {rest rest' : List Char} (h : c.Continues rest rest') :
    rest.length ≤ rest'.length := by
  unfold Surroundings.Continues at h
  split at h
  · rw [h.2, List.length_append]
    omega
  · rcases h with rfl | ⟨rfl, rfl⟩
    · rw [List.length_append]
      omega
    · exact Nat.le_refl _

theorem takeAll_mirrors {inClass : Char → Bool} (hclass : inClass ')' = false) :
    Same c (takeAll inClass) (takeAll inClass) := by
  intro s e taken s' hs
  have hread : takeAll inClass s = takeUpTo inClass s.rest.length s := rfl
  have hread' : takeAll inClass e = takeUpTo inClass e.rest.length e := rfl
  rw [hread] at hs
  have hself := takeUpTo_mirrorsAt (c := c) (e := e) hclass (.inl rfl) taken s' hs
  refine ⟨trivial, hself.2.1, fun hplaced => ?_⟩
  rw [hread']
  exact (takeUpTo_mirrorsAt hclass (.inr ⟨Nat.le_refl _, hplaced.continues.length_le⟩) taken s' hs).2.2 hplaced

/-! ## Names and comments -/

theorem Placed.enough (h : Placed c s e) : c.Enough (s.rest.length + 1) (e.rest.length + 1) :=
  .inr (Nat.succ_le_succ h.continues.length_le)

/-- Readings that count their steps mirror each other if each step does. -/
theorem Mirrors.of_steps {ι α β : Type} {P : α → Prop} {f : α → β} {m : ι → Nat → Reader α} {k : ι → Nat → Reader β}
    (hzero : ∀ i s r, m i 0 s ≠ .ok r) (hzero' : ∀ i e, ∃ fault, k i 0 e = .error fault)
    (hsucc : ∀ fuel fuel', (∀ i, Mirrors c P f (m i fuel) (k i fuel')) →
      ∀ i, Mirrors c P f (m i (fuel + 1)) (k i (fuel' + 1)))
    {fuel fuel' : Nat} (henough : c.Enough fuel fuel') (i : ι) : Mirrors c P f (m i fuel) (k i fuel') := by
  have hsame : ∀ fuel i, Mirrors c P f (m i fuel) (k i fuel) := by
    intro fuel
    induction fuel with
    | zero => exact fun i s e => .of_fails (hzero i s)
    | succ fuel ih => exact hsucc fuel fuel ih
  induction fuel generalizing fuel' i with
  | zero => exact fun s e => .of_fails (hzero i s)
  | succ fuel ih =>
    cases fuel' with
    | zero =>
      intro s e
      obtain ⟨fault, hfault⟩ := hzero' i e
      have hinside : c.inside = true := henough.resolve_right (by omega)
      exact (hsame (fuel + 1) i s e).of_refuses hinside hfault
    | succ fuel' => exact hsucc fuel fuel' (fun i => ih (henough.imp_right Nat.le_of_succ_le_succ) i) i

/-- A reading by as many steps as there are characters, and one more. -/
theorem Mirrors.of_length {m : Nat → Reader γ} {m' : Nat → Reader δ}
    (h : ∀ {fuel fuel'}, c.Enough fuel fuel' → Mirrors c Q g (m fuel) (m' fuel')) :
    Mirrors c Q g (get >>= fun p => m (p.rest.length + 1)) (get >>= fun p => m' (p.rest.length + 1)) := by
  intro s e a s' hs
  have hself := h (.inr (Nat.le_refl (s.rest.length + 1))) s e a s' hs
  exact ⟨hself.1, hself.2.1, fun hplaced => (h hplaced.enough s e a s' hs).2.2 hplaced⟩

theorem Mirrors.of_length_bind {α β : Type} {P : α → Prop} {f : α → β} {m : Nat → Reader α} {m' : Nat → Reader β}
    {k : α → Reader γ} {k' : β → Reader δ}
    (hm : ∀ {fuel fuel'}, c.Enough fuel fuel' → Mirrors c P f (m fuel) (m' fuel'))
    (hk : ∀ a, P a → Mirrors c Q g (k a) (k' (f a))) :
    Mirrors c Q g (get >>= fun p => m (p.rest.length + 1) >>= k) (get >>= fun p => m' (p.rest.length + 1) >>= k') :=
  .of_length (m := fun fuel => m fuel >>= k) fun henough => (hm henough).bind hk

theorem nameUpTo_mirrors {terminator : Char} {what : String} {fuel fuel' : Nat} (henough : c.Enough fuel fuel')
    (sofar : List Char) : Same c (nameUpTo terminator what sofar fuel) (nameUpTo terminator what sofar fuel') := by
  refine Mirrors.of_steps (m := nameUpTo terminator what) (k := nameUpTo terminator what)
    (fun _ _ _ h => nomatch h) (fun _ _ => ⟨_, rfl⟩) ?_ henough sofar
  intro fuel fuel' ih sofar
  refine .take_bind ?_ fun token => ?_
  · intro s r
    simp only
    split <;> exact fun h => nomatch h
  · simp only
    split
    · split
      · exact .failBack
      · exact .pure (f := id) trivial
    · exact ih _

theorem name_mirrors {terminator : Char} {what : String} : Same c (name terminator what) (name terminator what) :=
  .of_length fun henough => nameUpTo_mirrors henough []

theorem skipComment_mirrors {start start' fuel fuel' : Nat} (henough : c.Enough fuel fuel') :
    Same c (skipComment start fuel) (skipComment start' fuel') := by
  refine Mirrors.of_steps (m := fun _ : Unit => skipComment start) (k := fun _ => skipComment start')
    (fun _ _ _ h => nomatch h) (fun _ _ => ⟨_, rfl⟩) ?_ henough ()
  intro fuel fuel' ih _ s e
  refine .peek_bind (fun _ token _ => Mirrors.fail s e) fun token htoken => ?_
  refine (advance_mirrors htoken).bind fun _ s' e' _ _ => ?_
  split
  · exact .pure (f := id) trivial
  · exact ih () s' e'

theorem skipLine_succ (fuel : Nat) : skipLine (fuel + 1) =
    take >>= fun token => if token = none ∨ token = some (.plain '\n') then pure () else skipLine fuel := by
  rw [skipLine]
  congr 1
  funext token
  split <;> simp_all

theorem skipLine_of_take {fuel : Nat} {token : Option Token} {s' : Progress} (htake : take s = .ok (token, s')) :
    skipLine (fuel + 1) s =
      if token = none ∨ token = some (.plain '\n') then .ok ((), s') else skipLine fuel s' := by
  rw [skipLine_succ]
  show (take s).bind (fun r =>
    (if r.1 = none ∨ r.1 = some (.plain '\n') then pure () else skipLine fuel : Reader Unit) r.2) = _
  rw [htake]
  by_cases hend : token = none ∨ token = some (.plain '\n')
  · rw [if_pos hend, Except.bind, if_pos hend]
    rfl
  · rw [if_neg hend, Except.bind, if_neg hend]

/-- In a text without line feeds and backslashes a comment goes on to the end. -/
theorem skipLine_of_flat {n : Nat} (hline : '\n' ∉ s.rest) (hescape : '\\' ∉ s.rest) :
    (∃ fault, skipLine n s = .error fault) ∨
      ∃ position, skipLine n s = .ok ((), { s with position, rest := [] }) := by
  induction n generalizing s with
  | zero => exact .inl ⟨_, rfl⟩
  | succ n ih =>
    cases htoken : token? s.rest with
    | none =>
      right
      have hend := token?_eq_none.1 htoken
      refine ⟨s.position, ?_⟩
      rw [skipLine_of_take (take_of_end hend), if_pos (.inl rfl), ← hend]
    | some token =>
      rcases token?_eq_some.1 htoken with ⟨d, more, hrest, -⟩ | ⟨d, more, hrest, rfl, -⟩
      · rw [hrest] at hescape
        exact absurd List.mem_cons_self hescape
      · rw [hrest] at hline hescape
        have hpast : (pastToken s (.plain d)).rest = more := by
          rw [pastToken, hrest]
          rfl
        have hdangling : (pastToken s (.plain d)).rest ≠ ['\\'] := by
          rw [hpast]
          rintro rfl
          exact hescape (List.mem_cons_of_mem _ List.mem_cons_self)
        have htake : take s = .ok (some (.plain d), pastToken s (.plain d)) := by
          rw [take_eq, htoken]
          show Except.map _ (advance s) = _
          rw [advance_eq htoken, if_neg hdangling]
          rfl
        rw [skipLine_of_take htake, if_neg]
        · exact ih (hpast ▸ fun h => hline (List.mem_cons_of_mem _ h))
            (hpast ▸ fun h => hescape (List.mem_cons_of_mem _ h))
        · rintro (h | h)
          · cases h
          · cases h
            exact hline List.mem_cons_self

theorem Surroundings.Continues.of_end {rest' : List Char} (h : c.Continues [] rest') :
    c.closed = false ∧ (rest' = [] ∨ rest' = c.suffix) := by
  unfold Surroundings.Continues at h
  split at h
  · obtain ⟨⟨front, hfront⟩, -⟩ := h
    simp at hfront
  · rename_i hopen
    exact ⟨by simpa using hopen, h.symm.imp And.right id⟩

/-- Where the text has ended, what stands behind it may be gone. -/
theorem Placed.swallow (h : Placed c s e) (hend : s.rest = []) (position : Nat) :
    Placed c s { e with position, rest := [] } := by
  have hopen : c.closed = false := (Surroundings.Continues.of_end (hend ▸ h.continues)).1
  refine { h with continues := ?_ }
  rw [Surroundings.Continues, if_neg (by simp [hopen])]
  exact .inr ⟨hend, rfl⟩

/-- A comment that the text leaves open swallows what stands behind the text. -/
theorem skipLine_mirrors {fuel fuel' : Nat} (henough : c.Enough fuel fuel') :
    Same c (skipLine fuel) (skipLine fuel') := by
  refine Mirrors.of_steps (m := fun _ : Unit => skipLine) (k := fun _ => skipLine)
    (fun _ _ _ h => nomatch h) (fun _ _ => ⟨_, rfl⟩) ?_ henough ()
  intro fuel fuel' ih _ s e
  by_cases hend : s.rest = []
  · intro _ s' hs
    rw [skipLine_of_take (take_of_end hend), if_pos (.inl rfl)] at hs
    cases hs
    refine ⟨trivial, id, fun hplaced => ?_⟩
    obtain ⟨hopen, hrest⟩ := Surroundings.Continues.of_end (hend ▸ hplaced.continues)
    by_cases hend' : e.rest = []
    · rw [skipLine_of_take (take_of_end hend'), if_pos (.inl rfl)]
      exact .placed hplaced
    · rcases c.suffix_of_open hopen with hsuffix | ⟨more, hsuffix, hline, hescape⟩
      · exact absurd (hrest.elim id fun h => h.trans hsuffix) hend'
      -- the comment is at the end here; there it swallows the parenthesis and all that stands behind it
      have hthere : e.rest = ')' :: more := (hrest.resolve_left hend').trans hsuffix
      have hinside : c.inside = true := by
        rw [← Bool.not_eq_false]
        intro houtside
        rw [(c.whole houtside).1] at hsuffix
        cases hsuffix
      rcases skipLine_of_flat (s := e) (n := fuel' + 1) (by simp [hthere, hline]) (by simp [hthere, hescape]) with
        ⟨fault, hskip⟩ | ⟨position, hskip⟩
      · rw [hskip]
        exact .refused hinside
      · rw [hskip]
        exact .placed (hplaced.swallow hend position)
  · rw [skipLine_succ, skipLine_succ]
    refine .take_bind (fun h => absurd h hend) fun token s' e' _ _ => ?_
    split
    · exact .pure (f := id) trivial
    · exact ih () s' e'

end

end Reader
end PolicyGate.Regex
