import PolicyGate.Proofs.Regex.Compilation

/-!
# What the reader does with known text

Equations for the reader in front of text whose first characters are known. With them an expression that has been put
together from known parts is read part by part.
-/

namespace PolicyGate.Regex.Reader

variable {s : Progress} {d : Char} {more : List Char}

/-- The reader at another place. -/
def goTo (s : Progress) (position : Nat) (rest : List Char) : Progress := { s with position, rest }

/-- No backslash is left alone at the end if a later character is none. -/
theorem append_ne_backslash {front : List Char} (hd : d ≠ '\\') : front ++ d :: more ≠ ['\\'] := by
  intro hslash
  have hmem : d ∈ ['\\'] := hslash ▸ List.mem_append_right _ List.mem_cons_self
  exact hd (List.mem_singleton.1 hmem)

theorem token?_of_plain (hd : d ≠ '\\') (h : s.rest = d :: more) : token? s.rest = some (.plain d) :=
  token?_eq_some.2 (.inr ⟨d, more, h, rfl, fun hslash => absurd hslash hd⟩)

theorem advance_of_plain (hd : d ≠ '\\') (h : s.rest = d :: more) (hmore : more ≠ ['\\']) :
    advance s = .ok ((), goTo s (s.position + 1) more) := by
  have hpast : pastToken s (.plain d) = goTo s (s.position + 1) more := by
    rw [pastToken, h]
    rfl
  rw [advance_eq (token?_of_plain hd h), hpast]
  exact if_neg hmore

theorem take_of_plain (hd : d ≠ '\\') (h : s.rest = d :: more) (hmore : more ≠ ['\\']) :
    take s = .ok (some (.plain d), goTo s (s.position + 1) more) := by
  rw [take_eq, token?_of_plain hd h]
  show Except.map _ (advance s) = _
  rw [advance_of_plain hd h hmore]
  rfl

theorem accept_of_plain (hd : d ≠ '\\') (h : s.rest = d :: more) (hmore : more ≠ ['\\']) :
    accept d s = .ok (true, goTo s (s.position + 1) more) := by
  have hpeek : peek s = .ok (some (.plain d), s) := by
    rw [← token?_of_plain hd h]
    rfl
  rw [accept, run_bind hpeek, if_pos rfl, run_bind (advance_of_plain hd h hmore)]
  rfl

theorem accept_of_other (h : token? s.rest ≠ some (.plain d)) : accept d s = .ok (false, s) := by
  have hpeek : peek s = .ok (token? s.rest, s) := rfl
  rw [accept, run_bind hpeek, if_neg h]
  rfl

theorem closing_of_plain {start : Nat} (h : s.rest = ')' :: more) (hmore : more ≠ ['\\']) :
    closing start s = .ok ((), goTo s (s.position + 1) more) := by
  rw [closing, run_bind (accept_of_plain (by decide) h hmore)]
  rfl

section

variable {atStart verbose : Bool} {done : List Node} {fuel : Nat}

theorem pieces_of_end (h : s.rest = [] ∨ ∃ more, s.rest = '|' :: more ∨ s.rest = ')' :: more) :
    pieces atStart verbose done (fuel + 1) s = .ok (Node.chain done, s) := by
  have hpeek : peek s = .ok (token? s.rest, s) := rfl
  show (peek >>= _) s = _
  rw [run_bind hpeek]
  rcases h with h | ⟨more, h | h⟩ <;> rw [h] <;> rfl

theorem pieces_of_parenthesis (h : s.rest = '(' :: more) (hmore : more ≠ ['\\']) :
    pieces atStart verbose done (fuel + 1) s =
      (parenthesis s.position atStart verbose done fuel >>= fun r => pieces atStart r.2 r.1 fuel)
        (goTo s (s.position + 1) more) := by
  have hpeek : peek s = .ok (some (.plain '('), s) := by
    rw [← token?_of_plain (by decide) h]
    rfl
  have hskipped : (verbose && isSkipped '(') = false := by cases verbose <;> decide
  have hcomment : (verbose && decide ('(' = '#')) = false := by cases verbose <;> decide
  show (peek >>= _) s = _
  rw [run_bind hpeek]
  show (advance >>= fun _ => _) s = _
  rw [run_bind (advance_of_plain (by decide) h hmore)]
  simp only [hskipped, hcomment]
  rfl

/-- The node of a character that stands for itself, for any character or for a place. -/
def nodeOf? : Char → Option Node
  | '.' => some .any
  | '^' => some (.anchor .lineStart)
  | '$' => some (.anchor .lineEnd)
  | '[' | '?' | '*' | '+' | '\x7b' | '(' | ')' | '|' | '\\' => none
  | d => some (.literal d.toNat)

theorem pieces_of_node {node : Node} (hnode : nodeOf? d = some node) (h : s.rest = d :: more) (hmore : more ≠ ['\\']) :
    pieces atStart false done (fuel + 1) s =
      pieces atStart false (node :: done) fuel (goTo s (s.position + 1) more) := by
  have hslash : d ≠ '\\' := by
    rintro rfl
    cases hnode
  have hpeek : peek s = .ok (some (.plain d), s) := by
    rw [← token?_of_plain hslash h]
    rfl
  show (peek >>= _) s = _
  rw [run_bind hpeek]
  unfold nodeOf? at hnode
  split at hnode
  · cases hnode
    show (advance >>= fun _ => _) s = _
    rw [run_bind (advance_of_plain hslash h hmore)]
    rfl
  · cases hnode
    show (advance >>= fun _ => _) s = _
    rw [run_bind (advance_of_plain hslash h hmore)]
    rfl
  · cases hnode
    show (advance >>= fun _ => _) s = _
    rw [run_bind (advance_of_plain hslash h hmore)]
    rfl
  all_goals try cases hnode
  generalize htoken : some (Token.plain d) = token
  split
  · cases htoken
  · simp_all
  · simp_all
  · cases htoken
    show (advance >>= fun _ => _) s = _
    rw [run_bind (advance_of_plain hslash h hmore)]
    simp only [Bool.false_and, Bool.false_eq_true, if_false]

/-- A dot that is repeated, as often as possible. -/
theorem pieces_of_repeatedDot {earlier : List Node} {least : Nat}
    (hsign : (d = '*' ∧ least = 0) ∨ (d = '+' ∧ least = 1)) (h : s.rest = d :: more) (hmore : more ≠ ['\\'])
    (hgreedy : token? more ≠ some (.plain '?') ∧ token? more ≠ some (.plain '+')) :
    pieces atStart false (.any :: earlier) (fuel + 1) s =
      pieces atStart false (.times .greedy least none .any :: earlier) fuel (goTo s (s.position + 1) more) := by
  have hgreed : greed (goTo s (s.position + 1) more) = .ok (.greedy, goTo s (s.position + 1) more) := by
    rw [greed, run_bind (accept_of_other hgreedy.1)]
    show (accept '+' >>= fun _ => _) _ = _
    rw [run_bind (accept_of_other hgreedy.2)]
    rfl
  have hrepetition : repetition s.position least none (.any :: earlier) (goTo s (s.position + 1) more) =
      .ok (.times .greedy least none .any :: earlier, goTo s (s.position + 1) more) := by
    show (greed >>= fun _ => _) _ = _
    rw [run_bind hgreed]
    rfl
  have hslash : d ≠ '\\' := by
    rcases hsign with ⟨rfl, -⟩ | ⟨rfl, -⟩ <;> decide
  have hpeek : peek s = .ok (some (.plain d), s) := by
    rw [← token?_of_plain hslash h]
    rfl
  rcases hsign with ⟨rfl, rfl⟩ | ⟨rfl, rfl⟩
  · show (peek >>= _) s = _
    rw [run_bind hpeek]
    show (advance >>= fun _ => _) s = _
    rw [run_bind (advance_of_plain hslash h hmore)]
    show (repetition s.position 0 none _ >>= fun _ => _) _ = _
    rw [run_bind hrepetition]
  · show (peek >>= _) s = _
    rw [run_bind hpeek]
    show (advance >>= fun _ => _) s = _
    rw [run_bind (advance_of_plain hslash h hmore)]
    show (repetition s.position 1 none _ >>= fun _ => _) _ = _
    rw [run_bind hrepetition]

theorem advance_of_escaped (h : s.rest = '\\' :: d :: more) (hmore : more ≠ ['\\']) :
    advance s = .ok ((), goTo s (s.position + 2) more) := by
  have htoken : token? s.rest = some (.escaped d) := by rw [h]; rfl
  have hpast : pastToken s (.escaped d) = goTo s (s.position + 2) more := by
    rw [pastToken, h]
    rfl
  rw [advance_eq htoken, hpast]
  exact if_neg hmore

theorem pieces_of_escaped {node : Node} (h : s.rest = '\\' :: d :: more) (hmore : more ≠ ['\\'])
    (hescape : escape d (goTo s (s.position + 2) more) = .ok (node, goTo s (s.position + 2) more)) :
    pieces atStart verbose done (fuel + 1) s =
      pieces atStart verbose (node :: done) fuel (goTo s (s.position + 2) more) := by
  have hpeek : peek s = .ok (some (.escaped d), s) := by
    have htoken : token? s.rest = some (.escaped d) := by rw [h]; rfl
    rw [← htoken]
    rfl
  show (peek >>= _) s = _
  rw [run_bind hpeek]
  show (advance >>= fun _ => _) s = _
  rw [run_bind (advance_of_escaped h hmore)]
  show (escape d >>= fun _ => _) _ = _
  rw [run_bind hescape]

/-! ## Alternatives -/

theorem furtherAlternatives_of_last {outermost : Bool} {first : Node} (h : token? s.rest ≠ some (.plain '|')) :
    furtherAlternatives outermost verbose first (fuel + 1) s = .ok (first, s) := by
  show (accept '|' >>= _) s = _
  rw [run_bind (accept_of_other h)]
  rfl

/-- Behind a bar the alternatives outside groups are verbose if the whole expression is. -/
theorem furtherAlternatives_of_bar {outermost : Bool} {first : Node} (h : s.rest = '|' :: more)
    (hmore : more ≠ ['\\']) :
    furtherAlternatives outermost verbose first (fuel + 1) s =
      (pieces false (if outermost then s.flags.verbose else verbose) [] fuel >>= fun second =>
        furtherAlternatives outermost (if outermost then s.flags.verbose else verbose) second fuel >>= fun rest =>
          pure (.choice first rest)) (goTo s (s.position + 1) more) := by
  show (accept '|' >>= _) s = _
  rw [run_bind (accept_of_plain (by decide) h hmore)]
  rfl

/-! ## Groups -/

section

variable {start : Nat}

theorem parenthesis_of_colon (h : s.rest = '?' :: ':' :: more) (hmore : more ≠ ['\\']) :
    parenthesis start atStart verbose done (fuel + 1) s =
      (alternatives false verbose fuel >>= fun body => closing start >>= fun _ =>
        pure (.scope {} {} body :: done, verbose)) (goTo s (s.position + 2) more) := by
  show (accept '?' >>= _) s = _
  rw [run_bind (accept_of_plain (by decide) h (by simp))]
  show (take >>= fun _ => _) _ = _
  rw [run_bind (take_of_plain (by decide) rfl hmore)]
  rfl

theorem parenthesis_of_exclamation (h : s.rest = '?' :: '!' :: more) (hmore : more ≠ ['\\']) :
    parenthesis start atStart verbose done (fuel + 1) s =
      (lookahead start true verbose fuel >>= fun node => pure (node :: done, verbose))
        (goTo s (s.position + 2) more) := by
  show (accept '?' >>= _) s = _
  rw [run_bind (accept_of_plain (by decide) h (by simp))]
  show (take >>= fun _ => _) _ = _
  rw [run_bind (take_of_plain (by decide) rfl hmore)]
  rfl

theorem parenthesis_of_lookbehind (h : s.rest = '?' :: '<' :: '!' :: more) (hmore : more ≠ ['\\']) :
    parenthesis start atStart verbose done (fuel + 1) s =
      (lookbehind start true verbose fuel >>= fun node => pure (node :: done, verbose))
        (goTo s (s.position + 3) more) := by
  show (accept '?' >>= _) s = _
  rw [run_bind (accept_of_plain (by decide) h (by simp))]
  show (take >>= fun _ => _) _ = _
  rw [run_bind (take_of_plain (by decide) rfl (by simp))]
  show (take >>= fun _ => _) _ = _
  rw [run_bind (take_of_plain (by decide) rfl hmore)]
  rfl

end

end

end PolicyGate.Regex.Reader
