import PolicyGate.Regex.Escape
import PolicyGate.Proofs.Regex.Framing

/-!
# Terms

An escaped text is read as its characters, one after the other, whatever they are; several of them with bars between
are a choice. This is shown with enough steps for the reader, so an expression that is put together from terms can
always be used.
-/

namespace PolicyGate.Regex

namespace Node

/-- Characters that stand for themselves. -/
def literals (cs : List Char) : List Node := cs.map fun c => .literal c.toNat

/-- A term as it stands. -/
def term (cs : List Char) : Node := chain (literals cs).reverse

/-- Any of several terms. -/
def anyTerm : List (List Char) → Node
  | [] => .empty
  | [cs] => term cs
  | cs :: rest => .choice (term cs) (anyTerm rest)

/-- A character of a word. -/
def wordCharacter : Node := .oneOf false [.category .word false]

theorem term_cons_cons {c d : Char} {cs : List Char} :
    term (c :: d :: cs) = .sequence (.literal c.toNat) (term (d :: cs)) := by
  have hne : (literals (d :: cs)).reverse ≠ [] := by simp [literals]
  obtain ⟨last, earlier, hreverse⟩ := List.exists_cons_of_ne_nil hne
  have hsplit : (literals (c :: d :: cs)).reverse = last :: (earlier ++ [.literal c.toNat]) := by
    rw [← List.cons_append, ← hreverse]
    exact List.reverse_cons
  rw [term, term, hsplit, hreverse, chain, chain, List.foldl_append]
  rfl

/-- Terms with no character of a word just before or behind. -/
def wordTerms (terms : List (List Char)) : Node :=
  .sequence (.behind true .one wordCharacter) (.sequence (.scope {} {} (anyTerm terms)) (.ahead true wordCharacter))

/-! ## Use -/

theorem usable_term {cs : List Char} : (term cs).usable {} = .ok () := by
  induction cs with
  | nil => rfl
  | cons c cs ih =>
    cases cs with
    | nil => rfl
    | cons d cs =>
      rw [term_cons_cons, usable, ih]
      rfl

theorem usable_anyTerm {terms : List (List Char)} : (anyTerm terms).usable {} = .ok () := by
  induction terms with
  | nil => rfl
  | cons first rest ih =>
    cases rest with
    | nil => exact usable_term
    | cons second rest =>
      have hchoice : (anyTerm (first :: second :: rest)).usable {} =
          (term first).usable {} >>= fun _ => (anyTerm (second :: rest)).usable {} := rfl
      rw [hchoice, usable_term, ih]
      rfl

theorem usable_wordTerms {terms : List (List Char)} : (wordTerms terms).usable {} = .ok () := by
  have hwords : (wordTerms terms).usable {} = (anyTerm terms).usable {} >>= fun _ => .ok () := rfl
  rw [hwords, usable_anyTerm]
  rfl

theorem usable_absent {node : Node} (h : node.usable {} = .ok ()) : node.absent.usable {} = .ok () := by
  have habsent : node.absent.usable {} = node.usable {} >>= fun _ => .ok () := rfl
  rw [habsent, h]
  rfl

end Node

namespace Reader

variable {s : Progress} {d : Char} {cs more : List Char} {atStart : Bool} {done : List Node} {fuel : Nat}

/-! ## Escaped characters -/

theorem escape_of_special (h : d ∈ specialChars) (s : Progress) : escape d s = .ok (.literal d.toNat, s) := by
  simp only [specialChars, List.mem_cons, List.not_mem_nil, or_false] at h
  rcases h with rfl | rfl | rfl | rfl | rfl | rfl | rfl | rfl | rfl | rfl | rfl | rfl | rfl | rfl | rfl | rfl | rfl |
    rfl | rfl | rfl | rfl | rfl | rfl | rfl <;> rfl

theorem nodeOf?_of_not_special (h : d ∉ specialChars) : nodeOf? d = some (.literal d.toNat) := by
  unfold nodeOf?
  split <;> first | rfl | exact absurd (by decide) h

theorem escapeChars_cons {c : Char} :
    escapeChars (c :: cs) = (if c ∈ specialChars then ['\\', c] else [c]) ++ escapeChars cs := by
  simp [escapeChars]

/-- An escaped text in front of a bar or a closing parenthesis is read as its characters. -/
theorem pieces_of_escapeChars (hd : d ≠ '\\') (hs : s.rest = escapeChars cs ++ d :: more) :
    ∃ position, pieces atStart false done (fuel + cs.length) s =
      pieces atStart false ((Node.literals cs).reverse ++ done) fuel (goTo s position (d :: more)) := by
  induction cs generalizing s done with
  | nil =>
    refine ⟨s.position, ?_⟩
    have hstay : goTo s s.position (d :: more) = s := by
      rw [goTo, ← show s.rest = d :: more from hs]
    rw [hstay]
    rfl
  | cons c cs ih =>
    have hmore : escapeChars cs ++ d :: more ≠ ['\\'] := append_ne_backslash hd
    have hdone : (Node.literals (c :: cs)).reverse ++ done = (Node.literals cs).reverse ++ .literal c.toNat :: done := by
      simp [Node.literals]
    rw [escapeChars_cons] at hs
    by_cases hspecial : c ∈ specialChars
    · rw [if_pos hspecial] at hs
      have hescaped : s.rest = '\\' :: c :: (escapeChars cs ++ d :: more) := hs
      obtain ⟨position, hpieces⟩ :=
        @ih (goTo s (s.position + 2) (escapeChars cs ++ d :: more)) (.literal c.toNat :: done) rfl
      refine ⟨position, ?_⟩
      rw [hdone, List.length_cons, ← Nat.add_assoc, pieces_of_escaped hescaped hmore (escape_of_special hspecial _)]
      exact hpieces
    · rw [if_neg hspecial] at hs
      have hplain : s.rest = c :: (escapeChars cs ++ d :: more) := hs
      obtain ⟨position, hpieces⟩ :=
        @ih (goTo s (s.position + 1) (escapeChars cs ++ d :: more)) (.literal c.toNat :: done) rfl
      refine ⟨position, ?_⟩
      rw [hdone, List.length_cons, ← Nat.add_assoc, pieces_of_node (nodeOf?_of_not_special hspecial) hplain hmore]
      exact hpieces

theorem length_le_escapeChars (cs : List Char) : cs.length ≤ (escapeChars cs).length := by
  induction cs with
  | nil => exact Nat.le_refl _
  | cons c cs ih =>
    rw [escapeChars_cons, List.length_append, List.length_cons]
    split <;> simp only [List.length_cons, List.length_nil] <;> omega

/-- A term in front of a bar or a closing parenthesis. -/
theorem pieces_of_term {term : List Char} (hd : d = '|' ∨ d = ')') (hs : s.rest = escapeChars term ++ d :: more)
    (hfuel : (escapeChars term).length < fuel) :
    ∃ position, pieces atStart false [] fuel s = .ok (Node.term term, goTo s position (d :: more)) := by
  have hslash : d ≠ '\\' := by rcases hd with rfl | rfl <;> decide
  have hlength := length_le_escapeChars term
  obtain ⟨steps, rfl⟩ : ∃ steps, fuel = steps + 1 + term.length := ⟨fuel - 1 - term.length, by omega⟩
  obtain ⟨position, hpieces⟩ := pieces_of_escapeChars hslash hs
  refine ⟨position, ?_⟩
  rw [hpieces, List.append_nil, pieces_of_end (.inr ⟨more, ?_⟩)]
  · rfl
  · rcases hd with rfl | rfl
    · exact .inl rfl
    · exact .inr rfl

/-- Terms with bars between them. -/
def alternation (terms : List (List Char)) : List Char := ['|'].intercalate (terms.map escapeChars)

theorem alternation_cons_cons {first second : List Char} {rest : List (List Char)} :
    alternation (first :: second :: rest) = escapeChars first ++ '|' :: alternation (second :: rest) := by
  rw [alternation, List.map_cons, List.map_cons, List.intercalate_cons_cons, List.append_assoc]
  rfl

/-- Terms with bars between them, in front of a closing parenthesis, are read as a choice. -/
theorem choice_of_alternation {first : List Char} {rest : List (List Char)} {fuel' : Nat}
    (hs : s.rest = alternation (first :: rest) ++ ')' :: more) (hfuel : (alternation (first :: rest)).length < fuel)
    (hfuel' : (alternation (first :: rest)).length < fuel') :
    ∃ position, (pieces atStart false [] fuel >>= fun piece => furtherAlternatives false false piece fuel') s =
      .ok (Node.anyTerm (first :: rest), goTo s position (')' :: more)) := by
  induction rest generalizing first atStart s fuel fuel' with
  | nil =>
    rw [alternation, List.map_singleton, List.intercalate_singleton] at hs hfuel hfuel'
    obtain ⟨position, hpieces⟩ := pieces_of_term (.inr rfl) hs hfuel
    obtain ⟨steps, rfl⟩ : ∃ steps, fuel' = steps + 1 := ⟨fuel' - 1, by omega⟩
    refine ⟨position, ?_⟩
    rw [run_bind hpieces]
    exact furtherAlternatives_of_last (by simp [goTo, token?])
  | cons second rest ih =>
    rw [alternation_cons_cons] at hs hfuel hfuel'
    rw [List.length_append, List.length_cons] at hfuel hfuel'
    have hs' : s.rest = escapeChars first ++ '|' :: (alternation (second :: rest) ++ ')' :: more) := by
      rw [hs, List.append_assoc, List.cons_append]
    have hfirst : (escapeChars first).length < fuel := by omega
    obtain ⟨position, hpieces⟩ := pieces_of_term (.inl rfl) hs' hfirst
    obtain ⟨steps, rfl⟩ : ∃ steps, fuel' = steps + 1 := ⟨fuel' - 1, by omega⟩
    have hrest : (alternation (second :: rest)).length < steps := by omega
    have hmore : alternation (second :: rest) ++ ')' :: more ≠ ['\\'] := append_ne_backslash (by decide)
    obtain ⟨position', hchoice⟩ := ih (s := goTo s (position + 1) (alternation (second :: rest) ++ ')' :: more)) rfl
      hrest hrest
    refine ⟨position', ?_⟩
    rw [run_bind hpieces, furtherAlternatives_of_bar rfl hmore]
    simp only [Bool.false_eq_true, if_false]
    rw [← bind_assoc]
    exact run_bind hchoice

/-! ## Terms in a frame -/

/-- Any of the terms, as a group. -/
def termGroup (terms : List (List Char)) : List Char := '(' :: '?' :: ':' :: (alternation terms ++ [')'])

theorem pieces_of_termGroup {terms : List (List Char)} (hne : terms ≠ []) (hs : s.rest = termGroup terms ++ d :: more)
    (hd : d ≠ '\\') (hfuel : (alternation terms).length + 3 ≤ fuel) :
    ∃ position, pieces atStart false done (fuel + 1) s =
      pieces atStart false (.scope {} {} (Node.anyTerm terms) :: done) fuel (goTo s position (d :: more)) := by
  obtain ⟨first, rest, rfl⟩ := List.exists_cons_of_ne_nil hne
  have hs' : s.rest = '(' :: '?' :: ':' :: (alternation (first :: rest) ++ ')' :: d :: more) := by
    rw [hs, termGroup]
    simp
  have hinner : alternation (first :: rest) ++ ')' :: d :: more ≠ ['\\'] := append_ne_backslash (by decide)
  have hmore : d :: more ≠ ['\\'] := by simp [hd]
  obtain ⟨steps, rfl⟩ : ∃ steps, fuel = steps + 2 := ⟨fuel - 2, by omega⟩
  have hsteps : (alternation (first :: rest)).length < steps := by omega
  obtain ⟨position, hbody⟩ : ∃ position, alternatives false false (steps + 1) (goTo s (s.position + 3)
      (alternation (first :: rest) ++ ')' :: d :: more)) =
      .ok (Node.anyTerm (first :: rest), goTo s position (')' :: d :: more)) := by
    rw [alternatives]
    exact choice_of_alternation rfl hsteps hsteps
  have hgroup : parenthesis s.position atStart false done (steps + 2)
      (goTo s (s.position + 1) ('?' :: ':' :: (alternation (first :: rest) ++ ')' :: d :: more))) =
      .ok ((.scope {} {} (Node.anyTerm (first :: rest)) :: done, false), goTo s (position + 1) (d :: more)) := by
    rw [parenthesis_of_colon rfl hinner]
    refine (run_bind hbody).trans ?_
    rw [run_bind (closing_of_plain rfl hmore)]
    rfl
  refine ⟨position + 1, ?_⟩
  rw [pieces_of_parenthesis hs' (by simp), run_bind hgroup]

/-- A character of a word. -/
theorem alternatives_of_wordCharacter (hs : s.rest = '\\' :: 'w' :: ')' :: more) :
    alternatives false false (fuel + 3) s = .ok (Node.wordCharacter, goTo s (s.position + 2) (')' :: more)) := by
  have hmore : ')' :: more ≠ ['\\'] := by simp
  have hpieces : pieces false false [] (fuel + 2) s =
      .ok (Node.wordCharacter, goTo s (s.position + 2) (')' :: more)) := by
    rw [pieces_of_escaped hs hmore rfl, pieces_of_end (.inr ⟨more, .inr rfl⟩)]
    rfl
  rw [alternatives, run_bind hpieces]
  exact furtherAlternatives_of_last (by simp [goTo, token?])

/-- No character of a word just before. -/
theorem pieces_of_notBehindWord (hs : s.rest = "(?<!\\w)".toList ++ d :: more) (hd : d ≠ '\\') :
    pieces atStart false done (fuel + 6) s =
      pieces atStart false (.behind true .one Node.wordCharacter :: done) (fuel + 5)
        (goTo s (s.position + 7) (d :: more)) := by
  have hs' : s.rest = '(' :: '?' :: '<' :: '!' :: '\\' :: 'w' :: ')' :: d :: more := hs
  have hmore : d :: more ≠ ['\\'] := by simp [hd]
  have hbehind : lookbehind s.position true false (fuel + 4)
      (goTo s (s.position + 4) ('\\' :: 'w' :: ')' :: d :: more)) =
      .ok (.behind true .one Node.wordCharacter, goTo s (s.position + 7) (d :: more)) := by
    let begun : Progress :=
      { goTo s (s.position + 4) ('\\' :: 'w' :: ')' :: d :: more) with
        behindFrom := some (s.behindFrom.getD (s.groups.length + 1)) }
    have hbody : alternatives false false (fuel + 3) begun =
        .ok (Node.wordCharacter, goTo begun (s.position + 6) (')' :: d :: more)) := alternatives_of_wordCharacter rfl
    have hclosing : closing s.position (goTo s (s.position + 6) (')' :: d :: more)) =
        .ok ((), goTo s (s.position + 7) (d :: more)) := closing_of_plain rfl hmore
    have hrun : lookbehind s.position true false (fuel + 4)
        (goTo s (s.position + 4) ('\\' :: 'w' :: ')' :: d :: more)) =
        (alternatives false false (fuel + 3) begun).bind fun r =>
          (closing s.position >>= fun _ => get >>= fun p => pure (.behind true (r.1.width p.groups) r.1))
            { r.2 with behindFrom := s.behindFrom } := rfl
    rw [hrun, hbody]
    exact run_bind hclosing
  have hgroup : parenthesis s.position atStart false done (fuel + 5)
      (goTo s (s.position + 1) ('?' :: '<' :: '!' :: '\\' :: 'w' :: ')' :: d :: more)) =
      .ok ((.behind true .one Node.wordCharacter :: done, false), goTo s (s.position + 7) (d :: more)) := by
    rw [parenthesis_of_lookbehind rfl (by simp)]
    exact run_bind hbehind
  rw [pieces_of_parenthesis hs' (by simp), run_bind hgroup]

/-- No character of a word just behind. -/
theorem pieces_of_notAheadWord (hs : s.rest = "(?!\\w)".toList ++ d :: more) (hd : d ≠ '\\') :
    pieces atStart false done (fuel + 6) s =
      pieces atStart false (.ahead true Node.wordCharacter :: done) (fuel + 5)
        (goTo s (s.position + 6) (d :: more)) := by
  have hs' : s.rest = '(' :: '?' :: '!' :: '\\' :: 'w' :: ')' :: d :: more := hs
  have hmore : d :: more ≠ ['\\'] := by simp [hd]
  have hahead : lookahead s.position true false (fuel + 4) (goTo s (s.position + 3) ('\\' :: 'w' :: ')' :: d :: more)) =
      .ok (.ahead true Node.wordCharacter, goTo s (s.position + 6) (d :: more)) := by
    rw [lookahead, run_bind (alternatives_of_wordCharacter rfl), run_bind (closing_of_plain rfl hmore)]
    rfl
  have hgroup : parenthesis s.position atStart false done (fuel + 5)
      (goTo s (s.position + 1) ('?' :: '!' :: '\\' :: 'w' :: ')' :: d :: more)) =
      .ok ((.ahead true Node.wordCharacter :: done, false), goTo s (s.position + 6) (d :: more)) := by
    rw [parenthesis_of_exclamation rfl (by simp)]
    exact run_bind hahead
  rw [pieces_of_parenthesis hs' (by simp), run_bind hgroup]

/-- What has been read between the start and the end of a frame is an expression in that frame. -/
theorem expression_of_frame {text : List Char} {node : Node}
    (h : ∃ position, pieces false false [Node.dots 0] (4 * (frameStart ++ '(' :: text).length)
      (goTo (start {} (frameStart ++ '(' :: text)) 6 ('(' :: text)) =
        .ok (.sequence (Node.dots 0) node, goTo (start {} (frameStart ++ '(' :: text)) position frameEnd)) :
    expression {} (frameStart ++ '(' :: text) = .ok (node.absent, {}) := by
  obtain ⟨position, h⟩ := h
  refine expression_eq_ok.2 ⟨append_ne_backslash (by decide),
    goTo (start {} (frameStart ++ '(' :: text)) (position + 4) [], ?_, rfl, rfl, List.forall_mem_nil _, rfl⟩
  refine (alternatives_of_frameStart rfl).trans ((run_bind h).trans ?_)
  exact frame_of_frameEnd rfl

section

variable {terms : List (List Char)}

/-- Names in which no term occurs. -/
theorem expression_of_framedTerms (hne : terms ≠ []) :
    expression {} (frameStart ++ (termGroup terms ++ frameEnd)) =
      .ok ((Node.scope {} {} (Node.anyTerm terms)).absent, {}) := by
  have hlength : (frameStart ++ (termGroup terms ++ frameEnd)).length = (alternation terms).length + 14 := by
    simp [frameStart, frameEnd, termGroup]
  obtain ⟨steps, hsteps⟩ : ∃ steps, 4 * (frameStart ++ (termGroup terms ++ frameEnd)).length = steps + 2 :=
    ⟨4 * (frameStart ++ (termGroup terms ++ frameEnd)).length - 2, by omega⟩
  have henough : (alternation terms).length + 3 ≤ steps + 1 := by omega
  obtain ⟨position, hgroup⟩ : ∃ position, pieces false false [Node.dots 0] (steps + 2)
      (goTo (start {} (frameStart ++ (termGroup terms ++ frameEnd))) 6 (termGroup terms ++ frameEnd)) =
      pieces false false [.scope {} {} (Node.anyTerm terms), Node.dots 0] (steps + 1)
        (goTo (start {} (frameStart ++ (termGroup terms ++ frameEnd))) position frameEnd) :=
    pieces_of_termGroup hne rfl (by decide) henough
  refine expression_of_frame ⟨position, ?_⟩
  refine (congrArg (fun fuel => pieces false false [Node.dots 0] fuel _) hsteps).trans (hgroup.trans ?_)
  exact pieces_of_end (.inr ⟨_, .inr rfl⟩)

/-- Names in which no term stands as a word of its own. -/
theorem expression_of_framedWords (hne : terms ≠ []) :
    expression {} (frameStart ++ ("(?<!\\w)".toList ++ (termGroup terms ++ ("(?!\\w)".toList ++ frameEnd)))) =
      .ok ((Node.wordTerms terms).absent, {}) := by
  let text := frameStart ++ ("(?<!\\w)".toList ++ (termGroup terms ++ ("(?!\\w)".toList ++ frameEnd)))
  have hlength : text.length = (alternation terms).length + 27 := by
    simp [text, frameStart, frameEnd, termGroup]
  obtain ⟨steps, hsteps⟩ : ∃ steps, 4 * text.length = steps + 8 := ⟨4 * text.length - 8, by omega⟩
  have hbehind : pieces false false [Node.dots 0] (steps + 8)
      (goTo (start {} text) 6 ("(?<!\\w)".toList ++ (termGroup terms ++ ("(?!\\w)".toList ++ frameEnd)))) =
      pieces false false [.behind true .one Node.wordCharacter, Node.dots 0] (steps + 7)
        (goTo (start {} text) 13 (termGroup terms ++ ("(?!\\w)".toList ++ frameEnd))) :=
    pieces_of_notBehindWord rfl (by decide)
  have henough : (alternation terms).length + 3 ≤ steps + 6 := by omega
  obtain ⟨position, hgroup⟩ : ∃ position,
      pieces false false [.behind true .one Node.wordCharacter, Node.dots 0] (steps + 7)
        (goTo (start {} text) 13 (termGroup terms ++ ("(?!\\w)".toList ++ frameEnd))) =
      pieces false false [.scope {} {} (Node.anyTerm terms), .behind true .one Node.wordCharacter, Node.dots 0]
        (steps + 6) (goTo (start {} text) position ("(?!\\w)".toList ++ frameEnd)) :=
    pieces_of_termGroup hne rfl (by decide) henough
  have hahead : pieces false false
      [.scope {} {} (Node.anyTerm terms), .behind true .one Node.wordCharacter, Node.dots 0] (steps + 6)
        (goTo (start {} text) position ("(?!\\w)".toList ++ frameEnd)) =
      pieces false false [.ahead true Node.wordCharacter, .scope {} {} (Node.anyTerm terms),
        .behind true .one Node.wordCharacter, Node.dots 0] (steps + 5) (goTo (start {} text) (position + 6) frameEnd) :=
    pieces_of_notAheadWord rfl (by decide)
  refine expression_of_frame ⟨position + 6, ?_⟩
  refine (congrArg (fun fuel => pieces false false [Node.dots 0] fuel _) hsteps).trans ?_
  refine hbehind.trans (hgroup.trans (hahead.trans ?_))
  exact pieces_of_end (.inr ⟨_, .inr rfl⟩)

end

end Reader

end PolicyGate.Regex
