import PolicyGate.Proofs.Regex.Grouping
import PolicyGate.Proofs.Regex.Matching

/-!
# Reading a frame

What the reader makes of `^(?!.*` in front of an expression and of `).+$` behind it: the frame `Node.absent` around
what it makes of the expression.
-/

namespace PolicyGate.Regex.Reader

variable {s : Progress} {more : List Char} {fuel : Nat}

/-- What is in front of an expression that must not be found. -/
def frameStart : List Char := "^(?!.*".toList

/-- What is behind it. -/
def frameEnd : List Char := ").+$".toList

theorem run_bind_congr {α β : Type} {m m' : Reader α} {k : α → Reader β} {s s' : Progress} (h : m s = m' s') :
    (m >>= k) s = (m' >>= k) s' := by
  show (m s).bind _ = (m' s').bind _
  rw [h]

/-- The start of the frame. What follows is read behind the dots, and the frame is closed when it ends. -/
theorem alternatives_of_frameStart (h : s.rest = frameStart ++ '(' :: more) :
    alternatives true false (fuel + 8) s =
      (pieces false false [Node.dots 0] fuel >>= fun first =>
        furtherAlternatives false false first (fuel + 2) >>= fun body =>
          closing (s.position + 1) >>= fun _ =>
            pieces true false [.ahead true body, .anchor .lineStart] (fuel + 5) >>= fun node =>
              furtherAlternatives true false node (fuel + 7)) (goTo s (s.position + 6) ('(' :: more)) := by
  have hstart : s.rest = '^' :: '(' :: '?' :: '!' :: '.' :: '*' :: '(' :: more := h
  have hdots : ∀ position, pieces false false [] (fuel + 2) (goTo s position ('.' :: '*' :: '(' :: more)) =
      pieces false false [Node.dots 0] fuel (goTo s (position + 2) ('(' :: more)) := by
    intro position
    rw [pieces_of_node (d := '.') rfl rfl (by simp),
      pieces_of_repeatedDot (.inl ⟨rfl, rfl⟩) rfl (by simp) ⟨by simp [token?], by simp [token?]⟩]
    rfl
  have hahead : ∀ start position, lookahead start true false (fuel + 4) (goTo s position ('.' :: '*' :: '(' :: more)) =
      (pieces false false [Node.dots 0] fuel >>= fun first => furtherAlternatives false false first (fuel + 2) >>=
        fun body => closing start >>= fun _ => pure (.ahead true body)) (goTo s (position + 2) ('(' :: more)) := by
    intro start position
    rw [lookahead, alternatives, bind_assoc]
    exact run_bind_congr (hdots position)
  have hparenthesis : parenthesis (s.position + 1) true false [.anchor .lineStart] (fuel + 5)
      (goTo s (s.position + 2) ('?' :: '!' :: '.' :: '*' :: '(' :: more)) =
      (pieces false false [Node.dots 0] fuel >>= fun first => furtherAlternatives false false first (fuel + 2) >>=
        fun body => closing (s.position + 1) >>= fun _ =>
          pure ([.ahead true body, .anchor .lineStart], false)) (goTo s (s.position + 6) ('(' :: more)) := by
    rw [parenthesis_of_exclamation rfl (by simp)]
    refine (run_bind_congr (hahead _ _)).trans ?_
    simp only [bind_assoc, pure_bind]
    rfl
  have hpieces : pieces true false [] (fuel + 7) s =
      (pieces false false [Node.dots 0] fuel >>= fun first => furtherAlternatives false false first (fuel + 2) >>=
        fun body => closing (s.position + 1) >>= fun _ =>
          pieces true false [.ahead true body, .anchor .lineStart] (fuel + 5))
        (goTo s (s.position + 6) ('(' :: more)) := by
    rw [pieces_of_node (d := '^') rfl hstart (by simp), pieces_of_parenthesis rfl (by simp)]
    refine (run_bind_congr hparenthesis).trans ?_
    simp only [bind_assoc, pure_bind]
  rw [alternatives]
  refine (run_bind_congr hpieces).trans ?_
  simp only [bind_assoc]

/-- The end of the frame around what has been read. -/
theorem frame_of_frameEnd {node : Node} {start : Nat} (h : s.rest = frameEnd) :
    (furtherAlternatives false false (.sequence (Node.dots 0) node) (fuel + 2) >>= fun body =>
      closing start >>= fun _ =>
        pieces true false [.ahead true body, .anchor .lineStart] (fuel + 5) >>= fun node =>
          furtherAlternatives true false node (fuel + 7)) s = .ok (node.absent, goTo s (s.position + 4) []) := by
  have hend : s.rest = ')' :: '.' :: '+' :: '$' :: [] := h
  have hbar : token? s.rest ≠ some (.plain '|') := by
    rw [hend]
    simp [token?]
  have hpieces : pieces true false [.ahead true (.sequence (Node.dots 0) node), .anchor .lineStart] (fuel + 5)
      (goTo s (s.position + 1) ['.', '+', '$']) = .ok (node.absent, goTo s (s.position + 4) []) := by
    rw [pieces_of_node (d := '.') rfl rfl (by simp),
      pieces_of_repeatedDot (.inr ⟨rfl, rfl⟩) rfl (by simp) ⟨by simp [token?], by simp [token?]⟩,
      pieces_of_node (d := '$') rfl rfl (by simp), pieces_of_end (.inl rfl)]
    rfl
  rw [run_bind (furtherAlternatives_of_last hbar), run_bind (closing_of_plain hend (by simp)), run_bind hpieces]
  exact furtherAlternatives_of_last (by simp [token?, goTo])

end PolicyGate.Regex.Reader
