import PolicyGate.Proofs.Regex.Parts

/-!
# Expressions within expressions

The readers of pieces and of alternatives mirror themselves in the surroundings of a text, by induction on the number
of steps. So an expression that is put into a larger one is read there as what it is by itself.
-/

namespace PolicyGate.Regex.Reader

/-- The text is the whole text, read with further switches on. -/
def Surroundings.plain (switches : Flags) (h : switches.verbose = false) : Surroundings where
  suffix := []
  groups := []
  names := []
  inside := false
  closed := false
  own := {}
  switches := switches
  suffix_of_open _ := .inl rfl
  whole _ := ⟨rfl, rfl, rfl, rfl, h⟩

/-- The readers of groups, pieces and alternatives mirror themselves if they make at most so many steps. -/
structure MirrorUpTo (fuel : Nat) : Prop where
  alternatives : ∀ {c : Surroundings} {fuel' : Nat}, c.Enough fuel fuel' → ∀ {outermost verbose : Bool},
    (c.inside = true → outermost = true → c.own.verbose = verbose) →
    Raised c (alternatives outermost verbose fuel) (alternatives (outermost && !c.inside) verbose fuel')
  furtherAlternatives : ∀ {c : Surroundings} {fuel' : Nat}, c.Enough fuel fuel' →
    ∀ {outermost verbose : Bool} {first : Node}, first.IsProper →
    (c.inside = true → outermost = true → c.own.verbose = verbose) →
    Raised c (furtherAlternatives outermost verbose first fuel)
      (furtherAlternatives (outermost && !c.inside) verbose (first.raise c.shift) fuel')
  pieces : ∀ {c : Surroundings} {fuel' : Nat}, c.Enough fuel fuel' →
    ∀ {atStart verbose : Bool} {done : List Node}, (∀ node ∈ done, node.IsProper) →
    Raised c (pieces atStart verbose done fuel)
      (pieces (atStart && !c.inside) verbose (done.map (Node.raise c.shift)) fuel')
  parenthesis : ∀ {c : Surroundings} {fuel' : Nat}, c.Enough fuel fuel' →
    ∀ {start start' : Nat} {atStart verbose : Bool} {done : List Node}, (∀ node ∈ done, node.IsProper) →
    ∀ {s e : Progress}, c.groups = [] ∨ startsNumberedCondition s.rest = false →
    MirrorsAt c (fun r => ∀ node ∈ r.1, node.IsProper) (fun r => (r.1.map (Node.raise c.shift), r.2))
      (parenthesis start atStart verbose done fuel)
      (parenthesis start' (atStart && !c.inside) verbose (done.map (Node.raise c.shift)) fuel') s e
  capture : ∀ {c : Surroundings} {fuel' : Nat}, c.Enough fuel fuel' →
    ∀ {start start' : Nat} {name : Option (List Char)} {verbose : Bool},
    Raised c (capture start name verbose fuel) (capture start' name verbose fuel')
  lookahead : ∀ {c : Surroundings} {fuel' : Nat}, c.Enough fuel fuel' →
    ∀ {start start' : Nat} {negated verbose : Bool},
    Raised c (lookahead start negated verbose fuel) (lookahead start' negated verbose fuel')
  lookbehind : ∀ {c : Surroundings} {fuel' : Nat}, c.Enough fuel fuel' →
    ∀ {start start' : Nat} {negated verbose : Bool},
    Raised c (lookbehind start negated verbose fuel) (lookbehind start' negated verbose fuel')

namespace MirrorUpTo

section

variable {c : Surroundings} {fuel fuel' : Nat} {s e : Progress}

/-! ## Groups -/

/-- The body of a group, which is no place for switches of the whole expression. -/
theorem body (ih : MirrorUpTo fuel) (henough : c.Enough fuel fuel') {verbose : Bool} :
    Raised c (Reader.alternatives false verbose fuel) (Reader.alternatives false verbose fuel') :=
  ih.alternatives henough fun _ h => nomatch h

theorem capture_succ (ih : MirrorUpTo fuel) (henough : c.Enough fuel fuel') {start start' : Nat}
    {name : Option (List Char)} {verbose : Bool} :
    Raised c (Reader.capture start name verbose (fuel + 1)) (Reader.capture start' name verbose (fuel' + 1)) := by
  refine openGroup_mirrors.bind fun group hgroup => (ih.body henough).bind fun body hbody => ?_
  refine closing_mirrors.bind fun _ _ => (closeGroup_mirrors hgroup hbody).bind fun _ _ => ?_
  have hpure : Raised c (pure (.capture group body)) (pure ((Node.capture group body).raise c.shift)) := .pure hbody
  exact hpure

theorem lookahead_succ (ih : MirrorUpTo fuel) (henough : c.Enough fuel fuel') {start start' : Nat}
    {negated verbose : Bool} :
    Raised c (Reader.lookahead start negated verbose (fuel + 1))
      (Reader.lookahead start' negated verbose (fuel' + 1)) := by
  refine (ih.body henough).bind fun body hbody => closing_mirrors.bind fun _ _ => ?_
  have hpure : Raised c (pure (.ahead negated body)) (pure ((Node.ahead negated body).raise c.shift)) := .pure hbody
  exact hpure

theorem lookbehind_succ (ih : MirrorUpTo fuel) (henough : c.Enough fuel fuel') {start start' : Nat}
    {negated verbose : Bool} :
    Raised c (Reader.lookbehind start negated verbose (fuel + 1))
      (Reader.lookbehind start' negated verbose (fuel' + 1)) := by
  intro s e
  refine .get_bind (fun p => c.inside = false → p.behindFrom = s.behindFrom) (fun h => h.behindFrom)
    ⟨s, fun _ => rfl⟩ fun p hp => ?_
  refine (groupCount_mirrors s e).bind fun count s₁ e₁ _ _ => ?_
  have hbegin : MirrorsAt c (fun _ => True) id
      (modify fun q => { q with behindFrom := some (s.behindFrom.getD count) })
      (modify fun q => { q with behindFrom := some (p.behindFrom.getD (count + c.shift)) }) s₁ e₁ := by
    refine .modify rfl fun h => { h with behindFrom := fun houtside => ?_ }
    rw [hp houtside, c.shift_of_outside houtside]
    rfl
  refine hbegin.bind fun _ s₂ e₂ _ _ => (ih.body henough s₂ e₂).bind fun body s₃ e₃ _ hbody => ?_
  have hend : MirrorsAt c (fun _ => True) id (modify fun q => { q with behindFrom := s.behindFrom })
      (modify fun q => { q with behindFrom := p.behindFrom }) s₃ e₃ :=
    .modify rfl fun h => { h with behindFrom := hp }
  refine hend.bind fun _ s₄ e₄ _ _ => (closing_mirrors s₄ e₄).bind fun _ s₅ e₅ _ _ => ?_
  refine .get_bind (fun p => p.groups = c.groups ++ s₅.groups) (fun h => h.groups)
    ⟨{ s with groups := _ }, rfl⟩ fun p hp => ?_
  rw [hp, Node.width_raise body hbody]
  have hpure : MirrorsAt c Node.IsProper (Node.raise c.shift) (pure (.behind negated (body.width s₅.groups) body))
      (pure ((Node.behind negated (body.width s₅.groups) body).raise c.shift)) s₅ e₅ := .pure hbody
  exact hpure

/-! ## What follows an opening parenthesis -/

/-- Nodes with one more. -/
theorem raised_cons {m m' : Reader Node} {done : List Node} {verbose : Bool} (h : Raised c m m')
    (hdone : ∀ node ∈ done, node.IsProper) :
    Mirrors c (fun r : List Node × Bool => ∀ node ∈ r.1, node.IsProper)
      (fun r => (r.1.map (Node.raise c.shift), r.2))
      (m >>= fun node => pure (node :: done, verbose))
      (m' >>= fun node => pure (node :: done.map (Node.raise c.shift), verbose)) := by
  refine h.bind fun node hnode => ?_
  have hproper : ∀ node' ∈ node :: done, node'.IsProper := List.forall_mem_cons.2 ⟨hnode, hdone⟩
  exact Mirrors.pure (a := (node :: done, verbose)) hproper

/-- A group that is kept as it is apart from its body. -/
theorem closed_cons (ih : MirrorUpTo fuel) (henough : c.Enough fuel fuel') {start start' : Nat}
    {inner verbose : Bool} {done : List Node} (hdone : ∀ node ∈ done, node.IsProper) (wrap : Node → Node)
    (hproper : ∀ body : Node, body.IsProper → (wrap body).IsProper)
    (hraise : ∀ body : Node, (wrap body).raise c.shift = wrap (body.raise c.shift)) :
    Mirrors c (fun r : List Node × Bool => ∀ node ∈ r.1, node.IsProper)
      (fun r => (r.1.map (Node.raise c.shift), r.2))
      (Reader.alternatives false inner fuel >>= fun body => closing start >>= fun _ =>
        pure (wrap body :: done, verbose))
      (Reader.alternatives false inner fuel' >>= fun body => closing start' >>= fun _ =>
        pure (wrap body :: done.map (Node.raise c.shift), verbose)) := by
  refine (ih.body henough).bind fun body hbody => closing_mirrors.bind fun _ _ => ?_
  have hall : ∀ node ∈ wrap body :: done, node.IsProper := List.forall_mem_cons.2 ⟨hproper body hbody, hdone⟩
  have hpure : Mirrors c (fun r : List Node × Bool => ∀ node ∈ r.1, node.IsProper)
      (fun r => (r.1.map (Node.raise c.shift), r.2)) (pure (wrap body :: done, verbose)) _ := .pure hall
  rw [List.map_cons, hraise] at hpure
  exact hpure

/-- The branches of a condition. -/
theorem branches_mirrors (ih : MirrorUpTo fuel) (henough : c.Enough fuel fuel') {start start' group : Nat}
    {verbose : Bool} {done : List Node} (hdone : ∀ node ∈ done, node.IsProper) :
    Mirrors c (fun r : List Node × Bool => ∀ node ∈ r.1, node.IsProper)
      (fun r => (r.1.map (Node.raise c.shift), r.2))
      (do
        let yes ← Reader.pieces false verbose [] fuel
        let no ←
          if ← accept '|' then
            let no ← Reader.pieces false verbose [] fuel
            if (← peek) = some (.plain '|') then failBack .tooManyBranches 0
            pure no
          else pure .empty
        closing start
        return (.condition group yes no :: done, verbose))
      (do
        let yes ← Reader.pieces false verbose [] fuel'
        let no ←
          if ← accept '|' then
            let no ← Reader.pieces false verbose [] fuel'
            if (← peek) = some (.plain '|') then failBack .tooManyBranches 0
            pure no
          else pure .empty
        closing start'
        return (.condition (group + c.shift) yes no :: done.map (Node.raise c.shift), verbose)) := by
  have hbranch : Raised c (Reader.pieces false verbose [] fuel) (Reader.pieces false verbose [] fuel') :=
    ih.pieces henough fun _ h => nomatch h
  have hend : ∀ yes no : Node, yes.IsProper → no.IsProper →
      Mirrors c (fun r : List Node × Bool => ∀ node ∈ r.1, node.IsProper)
        (fun r => (r.1.map (Node.raise c.shift), r.2))
        (closing start >>= fun _ => pure (.condition group yes no :: done, verbose))
        (closing start' >>= fun _ => pure (.condition (group + c.shift) (yes.raise c.shift) (no.raise c.shift) ::
          done.map (Node.raise c.shift), verbose)) := by
    intro yes no hyes hno
    have hall : ∀ node ∈ Node.condition group yes no :: done, node.IsProper :=
      List.forall_mem_cons.2 ⟨⟨hyes, hno⟩, hdone⟩
    exact closing_mirrors.bind fun _ _ => Mirrors.pure (a := (Node.condition group yes no :: done, verbose)) hall
  refine hbranch.bind fun yes hyes => (accept_mirrors (by decide)).bind fun branched _ => ?_
  cases branched with
  | false => exact hend yes .empty hyes trivial
  | true =>
    refine hbranch.bind fun no hno => fun s e => ?_
    refine .peek_bind (fun _ token htoken => ?_) fun token _ => ?_
    · have hbar : token ≠ some (.plain '|') := by
        rcases htoken with rfl | rfl <;> simp
      simp only [if_neg hbar]
      exact hend yes no hyes hno s e
    · -- a second bar is refused on both sides
      by_cases hbar : some token = some (.plain '|')
      · simp only [if_pos hbar]
        exact .of_fails (failBack_bind_ne_ok s)
      · simp only [if_neg hbar]
        exact hend yes no hyes hno s e

/-- Switches for the whole expression, which a group may not set. -/
theorem globalFlags_mirrors {start start' : Nat} {flags : Flags} {atStart : Bool} {done : List Node}
    (hdone : ∀ node ∈ done, node.IsProper) :
    Mirrors c (fun r : List Node × Bool => ∀ node ∈ r.1, node.IsProper)
      (fun r => (r.1.map (Node.raise c.shift), r.2))
      (do
        modify fun p => { p with flags := p.flags.union flags }
        if !atStart || !done.isEmpty then fail .flagsNotAtStart start
        return (done, (← get).flags.verbose))
      (do
        modify fun p => { p with flags := p.flags.union flags }
        if !(atStart && !c.inside) || !(done.map (Node.raise c.shift)).isEmpty then fail .flagsNotAtStart start'
        return (done.map (Node.raise c.shift), (← get).flags.verbose)) := by
  intro s e
  cases hstart : !atStart || !done.isEmpty with
  | true =>
    refine .of_fails fun r hr => ?_
    simp only [if_true] at hr
    cases hr
  | false =>
    intro a s' ha
    simp only [Bool.false_eq_true, if_false] at ha
    cases ha
    refine ⟨hdone, id, fun hplaced => ?_⟩
    simp only [Bool.or_eq_false_iff, Bool.not_eq_false'] at hstart
    cases hinside : c.inside with
    | true =>
      simp only [Bool.not_true, Bool.and_false, Bool.not_false, Bool.true_or, if_true]
      -- inside a group these switches are not at the start
      exact .refused hinside
    | false =>
      have hflags : e.flags = s.flags.union c.switches := by
        have hswitches := hplaced.switches
        rwa [Surroundings.Switches, hinside] at hswitches
      have hunion : e.flags.union flags = (s.flags.union flags).union c.switches := by
        rw [hflags]
        simp only [Flags.union, Flags.mk.injEq]
        refine ⟨?_, ?_, ?_, ?_, ?_, ?_, ?_⟩ <;> exact Bool.or_right_comm _ _ _
      have hverbose : (e.flags.union flags).verbose = (s.flags.union flags).verbose := by
        rw [hunion]
        show ((s.flags.union flags).verbose || c.switches.verbose) = _
        rw [(c.whole hinside).2.2.2.2, Bool.or_false]
      simp only [hstart, List.isEmpty_map, Bool.not_false, Bool.and_true, Bool.not_true, Bool.or_false,
        Bool.false_eq_true, if_false]
      show Outcome c _ _ _ (.ok ((done.map (Node.raise c.shift), (e.flags.union flags).verbose),
        { e with flags := e.flags.union flags }))
      rw [hverbose]
      refine .placed { hplaced with switches := ?_ }
      rw [Surroundings.Switches, hinside]
      exact hunion

theorem parenthesis_succ (ih : MirrorUpTo fuel) (henough : c.Enough fuel fuel') {start start' : Nat}
    {atStart verbose : Bool} {done : List Node} (hdone : ∀ node ∈ done, node.IsProper)
    (h : c.groups = [] ∨ startsNumberedCondition s.rest = false) :
    MirrorsAt c (fun r => ∀ node ∈ r.1, node.IsProper) (fun r => (r.1.map (Node.raise c.shift), r.2))
      (Reader.parenthesis start atStart verbose done (fuel + 1))
      (Reader.parenthesis start' (atStart && !c.inside) verbose (done.map (Node.raise c.shift)) (fuel' + 1)) s e := by
  refine (accept_mirrors (by decide) s e).bind fun extended s₁ e₁ haccept _ => ?_
  cases extended with
  | false => exact raised_cons (ih.capture henough) hdone s₁ e₁
  | true =>
    refine .take_bind (fun _ => failBack_ne_ok s₁) fun token s₂ e₂ htoken hadvance => ?_
    simp only
    split
    · contradiction
    · -- a name, or a reference to one
      refine ((accept_mirrors (by decide)).bind fun named _ => ?_) s₂ e₂
      cases named with
      | true => exact groupName_mirrors.bind fun chars _ => raised_cons (ih.capture henough) hdone
      | false =>
        refine (accept_mirrors (by decide)).bind fun refers _ => ?_
        cases refers with
        | true => exact raised_cons namedReference_mirrors hdone
        | false => exact .take_bind failBack_ne_ok fun token => .failBack
    · exact ih.closed_cons henough hdone (Node.scope {} {}) (fun _ h => h) (fun _ => rfl) s₂ e₂
    · -- a comment
      have hpure : Mirrors c (fun r : List Node × Bool => ∀ node ∈ r.1, node.IsProper)
          (fun r => (r.1.map (Node.raise c.shift), r.2)) (pure (done, verbose)) _ := .pure hdone
      exact Mirrors.of_length_bind (fun henough => skipComment_mirrors henough) (fun _ _ => hpure) s₂ e₂
    · exact raised_cons (ih.lookahead henough) hdone s₂ e₂
    · exact raised_cons (ih.lookahead henough) hdone s₂ e₂
    · -- a look-behind
      refine Mirrors.take_bind failBack_ne_ok (fun token => ?_) s₂ e₂
      split
      · contradiction
      · exact raised_cons (ih.lookbehind henough) hdone
      · exact raised_cons (ih.lookbehind henough) hdone
      · exact .failBack
    · -- a condition, by the name of a group if groups are in front
      rename_i hparenthesis
      cases hparenthesis
      have hnamed : c.groups = [] ∨ Text.isIdentifier (s₂.rest.takeWhile (· ≠ ')')) = true := by
        refine h.imp_right fun hnumbered => ?_
        rw [of_accept_eq_true haccept, rest_of_advance htoken hadvance] at hnumbered
        simpa [startsNumberedCondition] using hnumbered
      refine (conditionGroup_mirrorsAt hnamed).bind fun group s₃ e₃ _ _ => ?_
      exact (checkBehind_mirrors.bind fun _ _ => ih.branches_mirrors henough hdone) s₃ e₃
    · exact ih.closed_cons henough hdone Node.atomic (fun _ h => h) (fun _ => rfl) s₂ e₂
    · -- switches
      split
      · split
        · refine (flagGroup_mirrors.bind fun switches _ => ?_) s₂ e₂
          rcases switches with flags | ⟨on, off⟩
          · exact globalFlags_mirrors hdone
          · exact ih.closed_cons henough hdone (Node.scope on off) (fun _ h => h) (fun _ => rfl)
        · exact Mirrors.failBack s₂ e₂
      · exact Mirrors.failBack s₂ e₂

/-! ## Pieces -/

/-- The pieces, where no number stands for a group or no groups are in front. -/
theorem pieces_succ_of_unnumbered (ih : MirrorUpTo fuel) (henough : c.Enough fuel fuel') {atStart verbose : Bool}
    {done : List Node} (hdone : ∀ node ∈ done, node.IsProper) (h : c.groups = [] ∨ numbersGroup s.rest = false) :
    MirrorsAt c Node.IsProper (Node.raise c.shift) (Reader.pieces atStart verbose done (fuel + 1))
      (Reader.pieces (atStart && !c.inside) verbose (done.map (Node.raise c.shift)) (fuel' + 1)) s e := by
  have hchain : Raised c (pure (Node.chain done)) (pure (Node.chain (done.map (Node.raise c.shift)))) := by
    rw [Node.chain_raise]
    exact .pure (Node.isProper_chain hdone)
  have hmore : ∀ {done : List Node}, (∀ node ∈ done, node.IsProper) → Raised c
      (Reader.pieces atStart verbose done fuel)
      (Reader.pieces (atStart && !c.inside) verbose (done.map (Node.raise c.shift)) fuel') :=
    fun hdone => ih.pieces henough hdone
  have hone : ∀ node : Node, node.IsProper → node.raise c.shift = node → Raised c
      (Reader.pieces atStart verbose (node :: done) fuel)
      (Reader.pieces (atStart && !c.inside) verbose (node :: done.map (Node.raise c.shift)) fuel') := by
    intro node hnode hraise
    have hmore' := hmore (List.forall_mem_cons.2 ⟨hnode, hdone⟩)
    rwa [List.map_cons, hraise] at hmore'
  have hrepeat : ∀ (start start' least : Nat) (most : Option Nat), Raised c
      (repetition start least most done >>= fun done => Reader.pieces atStart verbose done fuel)
      (repetition start' least most (done.map (Node.raise c.shift)) >>= fun done =>
        Reader.pieces (atStart && !c.inside) verbose done fuel') :=
    fun start start' least most => (repetition_mirrors hdone).bind fun _ hdone => hmore hdone
  refine .peek_bind (fun _ token htoken => ?_) fun token htoken => ?_
  · rcases htoken with rfl | rfl <;> exact hchain s e
  cases token with
  | escaped d =>
    have hnumber : d.isDigit = true → d ≠ '0' → c.groups = [] := by
      intro hdigit hzero
      refine h.resolve_right fun hfree => ?_
      rw [eq_append_of_token? htoken] at hfree
      simp [Token.chars, numbersGroup, hdigit, hzero] at hfree
    refine .position_bind fun start start' => (advance_mirrors htoken).bind fun _ s₁ e₁ _ _ => ?_
    refine ((escape_mirrors hnumber).bind fun node hnode => ?_) s₁ e₁
    exact hmore (List.forall_mem_cons.2 ⟨hnode, hdone⟩)
  | plain d =>
    simp only
    split
    · contradiction
    · exact hchain s e
    · exact hchain s e
    rename_i hplain
    cases hplain
    refine .position_bind fun start start' => (advance_mirrors htoken).bind fun _ s₁ e₁ hadvance _ => ?_
    simp only
    cases verbose && isSkipped d with
    | true => exact hmore hdone s₁ e₁
    | false =>
      cases verbose && decide (d = '#') with
      | true => exact Mirrors.of_length_bind (fun henough => skipLine_mirrors henough) (fun _ _ => hmore hdone) s₁ e₁
      | false =>
        simp only [Bool.false_eq_true, if_false]
        split
        · refine (characterSet_mirrors.bind fun node hnode => ?_) s₁ e₁
          exact hmore (List.forall_mem_cons.2 ⟨hnode, hdone⟩)
        · exact hone .any trivial rfl s₁ e₁
        · exact hone (.anchor .lineStart) trivial rfl s₁ e₁
        · exact hone (.anchor .lineEnd) trivial rfl s₁ e₁
        · exact hrepeat _ _ _ _ s₁ e₁
        · exact hrepeat _ _ _ _ s₁ e₁
        · exact hrepeat _ _ _ _ s₁ e₁
        · exact .braces (hone (.literal _) trivial rfl s₁ e₁) fun _ _ => hrepeat _ _ _ _
        · -- a group
          have hcondition : c.groups = [] ∨ startsNumberedCondition s₁.rest = false := by
            refine h.imp_right fun hfree => ?_
            rw [rest_of_advance htoken hadvance] at hfree
            simp [numbersGroup] at hfree
            exact hfree.1
          refine (ih.parenthesis henough hdone hcondition).bind fun r s₂ e₂ _ hr => ?_
          exact ih.pieces henough hr s₂ e₂
        · exact hone (.literal _) trivial rfl s₁ e₁

/-- The pieces; where the text has a number for a group and groups are in front, there is nothing to compare. -/
theorem pieces_succ (ih : MirrorUpTo fuel) (henough : c.Enough fuel fuel') {atStart verbose : Bool}
    {done : List Node} (hdone : ∀ node ∈ done, node.IsProper) :
    Raised c (Reader.pieces atStart verbose done (fuel + 1))
      (Reader.pieces (atStart && !c.inside) verbose (done.map (Node.raise c.shift)) (fuel' + 1)) := by
  intro s e
  by_cases h : c.groups = [] ∨ numbersGroup s.rest = false
  · exact ih.pieces_succ_of_unnumbered henough hdone h
  · have hplain : MirrorsAt (.plain {} rfl) Node.IsProper (Node.raise 0)
        (Reader.pieces atStart verbose done (fuel + 1)) _ s e :=
      ih.pieces_succ_of_unnumbered (.inr (Nat.le_refl fuel)) hdone (.inl rfl)
    exact hplain.of_not_placed fun hplaced => h hplaced.unnumbered

/-! ## Alternatives -/

theorem alternatives_succ (ih : MirrorUpTo fuel) (henough : c.Enough fuel fuel') {outermost verbose : Bool}
    (hverbose : c.inside = true → outermost = true → c.own.verbose = verbose) :
    Raised c (Reader.alternatives outermost verbose (fuel + 1))
      (Reader.alternatives (outermost && !c.inside) verbose (fuel' + 1)) :=
  (ih.pieces henough (List.forall_mem_nil _)).bind fun _ hfirst => ih.furtherAlternatives henough hfirst hverbose

/-- A further alternative with those behind it. -/
theorem choice_mirrors (ih : MirrorUpTo fuel) (henough : c.Enough fuel fuel') (outermost verbose : Bool)
    {first : Node} (hfirst : first.IsProper)
    (hverbose : c.inside = true → outermost = true → c.own.verbose = verbose) :
    Raised c
      (Reader.pieces false verbose [] fuel >>= fun second =>
        Reader.furtherAlternatives outermost verbose second fuel >>= fun rest => pure (.choice first rest))
      (Reader.pieces false verbose [] fuel' >>= fun second =>
        Reader.furtherAlternatives (outermost && !c.inside) verbose second fuel' >>= fun rest =>
          pure (.choice (first.raise c.shift) rest)) := by
  refine (ih.pieces henough (List.forall_mem_nil _)).bind fun second hsecond => ?_
  refine (ih.furtherAlternatives henough hsecond hverbose).bind fun rest hrest => ?_
  have hpure : Raised c (pure (.choice first rest)) (pure ((Node.choice first rest).raise c.shift)) :=
    .pure ⟨hfirst, hrest⟩
  exact hpure

theorem furtherAlternatives_succ (ih : MirrorUpTo fuel) (henough : c.Enough fuel fuel') {outermost verbose : Bool}
    {first : Node} (hfirst : first.IsProper)
    (hverbose : c.inside = true → outermost = true → c.own.verbose = verbose) :
    Raised c (Reader.furtherAlternatives outermost verbose first (fuel + 1))
      (Reader.furtherAlternatives (outermost && !c.inside) verbose (first.raise c.shift) (fuel' + 1)) := by
  refine (accept_mirrors (by decide)).bind fun bar _ => ?_
  cases bar with
  | false => exact .pure hfirst
  | true =>
    intro s e
    cases outermost with
    | false => exact .get_bind_here (ih.choice_mirrors henough false verbose hfirst hverbose s e)
    | true =>
      cases hinside : c.inside with
      | false =>
        refine .get_bind (fun p => p.flags.verbose = s.flags.verbose) (fun h => ?_) ⟨s, rfl⟩ fun p hp => ?_
        · have hswitches := h.switches
          rw [Surroundings.Switches, hinside] at hswitches
          have hunion : e.flags.verbose = (s.flags.verbose || c.switches.verbose) := congrArg Flags.verbose hswitches
          rw [hunion, (c.whole hinside).2.2.2.2, Bool.or_false]
        · have hchoice := ih.choice_mirrors henough true s.flags.verbose hfirst
            (fun h => absurd (hinside.symm.trans h) (by simp)) s e
          rw [hinside] at hchoice
          simp only [Bool.not_false, Bool.and_true, if_true, hp]
          exact hchoice
      | true =>
        by_cases hsame : s.flags.verbose = verbose
        · have hchoice := ih.choice_mirrors henough true verbose hfirst hverbose s e
          rw [hinside, ← hsame] at hchoice
          rw [← hsame]
          exact .get_bind_here hchoice
        · -- the reader cannot be here there, since the switches are those of the text by itself
          have hplain := ih.choice_mirrors (.inr (Nat.le_refl fuel) : (Surroundings.plain {} rfl).Enough fuel fuel)
            true s.flags.verbose hfirst (fun h => nomatch h) s e
          refine .get_bind_here (hplain.of_not_placed fun hplaced => hsame ?_)
          have hswitches := hplaced.switches
          rw [Surroundings.Switches, if_pos hinside] at hswitches
          rw [hswitches.1, hverbose hinside rfl]

end

/-- The readers mirror themselves however many steps they make. -/
theorem all (fuel : Nat) : MirrorUpTo fuel := by
  induction fuel with
  | zero =>
    constructor
    -- without fuel no reader gives anything
    all_goals intros
    all_goals first
      | exact fun s e => .of_fails fun _ h => nomatch h
      | exact .of_fails fun _ h => nomatch h
  | succ fuel ih =>
    exact
      { alternatives := fun henough _ _ hverbose s e =>
          .of_fuel henough ⟨_, rfl⟩ fun _ henough => ih.alternatives_succ henough hverbose s e
        furtherAlternatives := fun henough _ _ _ hfirst hverbose s e =>
          .of_fuel henough ⟨_, rfl⟩ fun _ henough => ih.furtherAlternatives_succ henough hfirst hverbose s e
        pieces := fun henough _ _ _ hdone s e =>
          .of_fuel henough ⟨_, rfl⟩ fun _ henough => ih.pieces_succ henough hdone s e
        parenthesis := fun henough _ _ _ _ _ hdone _ _ h =>
          .of_fuel henough ⟨_, rfl⟩ fun _ henough => ih.parenthesis_succ henough hdone h
        capture := fun henough _ _ _ _ s e =>
          .of_fuel henough ⟨_, rfl⟩ fun _ henough => ih.capture_succ henough s e
        lookahead := fun henough _ _ _ _ s e =>
          .of_fuel henough ⟨_, rfl⟩ fun _ henough => ih.lookahead_succ henough s e
        lookbehind := fun henough _ _ _ _ s e =>
          .of_fuel henough ⟨_, rfl⟩ fun _ henough => ih.lookbehind_succ henough s e }

end MirrorUpTo

end PolicyGate.Regex.Reader
