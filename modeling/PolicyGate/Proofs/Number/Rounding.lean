import Mathlib.Algebra.Order.Field.Power
import Mathlib.Tactic.Linarith
import Mathlib.Tactic.Positivity
import Mathlib.Tactic.Ring
import PolicyGate.Number.Reading
import PolicyGate.Number.Written
import PolicyGate.Proofs.Value.Keys

/-!
# Rounding

A quotient is rounded to the nearest whole number, and of two that are equally near to the even one
(`roundDiv_eq_iff`). A binary number is written with one digit after the point by rounding its tenfold to a whole
number, so its text says which one is nearest (`Binary64.fixed_one_eq_iff_isNearest`). A whole number that becomes a
binary one is rounded, too, but not so far that one of a few tenths could come out of a larger number
(`Binary64.isNearest_ofInt_iff`).
-/

namespace PolicyGate

variable {n d m k : Nat} {q : ℚ}

/-! ## Rounding a quotient -/

/-- The quotient of `n` and `d` is at most a half away from `m`, and `m` is even if it is a half away. -/
structure RoundsTo (n d m : Nat) : Prop where
  low : 2 * (m * d) ≤ 2 * n + d
  high : 2 * n ≤ 2 * (m * d) + d
  tie : 2 * (m * d) = 2 * n + d ∨ 2 * n = 2 * (m * d) + d → m % 2 = 0

theorem roundsTo_roundDiv (hd : 0 < d) : RoundsTo n d (roundDiv n d) := by
  have hn : n / d * d + n % d = n := Nat.div_add_mod' n d
  have hr : n % d < d := Nat.mod_lt n hd
  have hnext : (n / d + 1) * d = n / d * d + d := Nat.succ_mul _ _
  unfold roundDiv
  dsimp only
  split
  · constructor <;> omega
  · split
    · constructor <;> rw [hnext] <;> omega
    · split
      · constructor <;> omega
      · constructor <;> rw [hnext] <;> omega

/-- Two numbers that are both at most a half away are neighbours, and one of these is odd. -/
theorem RoundsTo.unique (hd : 0 < d) (hm : RoundsTo n d m) (hk : RoundsTo n d k) : m = k := by
  have hle : ∀ {a b : Nat}, RoundsTo n d a → RoundsTo n d b → ¬ a < b := by
    intro a b ha hb hlt
    have hmul : (a + 1) * d ≤ b * d := Nat.mul_le_mul_right d hlt
    rw [Nat.succ_mul] at hmul
    obtain ⟨hlow, hhigh, htie⟩ := ha
    obtain ⟨hlow', hhigh', htie'⟩ := hb
    have hnext : b * d = (a + 1) * d := by rw [Nat.succ_mul]; omega
    have hneighbours : b = a + 1 := Nat.eq_of_mul_eq_mul_right hd hnext
    have ha := htie (by omega)
    have hb := htie' (by omega)
    omega
  have h := hle hm hk
  have h' := hle hk hm
  omega

theorem roundDiv_eq_iff (hd : 0 < d) : roundDiv n d = m ↔ RoundsTo n d m :=
  ⟨fun h => h ▸ roundsTo_roundDiv hd, fun h => (roundsTo_roundDiv hd).unique hd h⟩

/-- What is at least a whole number is not rounded below it. -/
theorem le_roundDiv (hd : 0 < d) (h : k * d ≤ n) : k ≤ roundDiv n d := by
  obtain ⟨-, hhigh, -⟩ := roundsTo_roundDiv (n := n) hd
  by_contra hlt
  have hmul : (roundDiv n d + 1) * d ≤ k * d := Nat.mul_le_mul_right d (by omega)
  rw [Nat.succ_mul] at hmul
  omega

/-- The whole number is the nearest one, or one of the two nearest ones and even. -/
structure IsNearest (q : ℚ) (k : Nat) : Prop where
  low : (k : ℚ) - 1 / 2 ≤ q
  high : q ≤ k + 1 / 2
  tie : q = k - 1 / 2 ∨ q = k + 1 / 2 → k % 2 = 0

theorem isNearest_of_even (hk : k % 2 = 0) : IsNearest q k ↔ (k : ℚ) - 1 / 2 ≤ q ∧ q ≤ k + 1 / 2 :=
  ⟨fun h => ⟨h.low, h.high⟩, fun h => ⟨h.1, h.2, fun _ => hk⟩⟩

theorem isNearest_of_odd (hk : k % 2 = 1) : IsNearest q k ↔ (k : ℚ) - 1 / 2 < q ∧ q < k + 1 / 2 := by
  constructor
  · rintro ⟨hlow, hhigh, htie⟩
    have hne : ¬ (q = k - 1 / 2 ∨ q = k + 1 / 2) := fun h => by have heven := htie h; omega
    rw [not_or] at hne
    exact ⟨lt_of_le_of_ne hlow (Ne.symm hne.1), lt_of_le_of_ne hhigh hne.2⟩
  · rintro ⟨hlow, hhigh⟩
    exact ⟨hlow.le, hhigh.le, fun h => (h.elim hlow.ne' hhigh.ne).elim⟩

theorem roundsTo_iff (hd : 0 < d) : RoundsTo n d k ↔ IsNearest ((n : ℚ) / d) k := by
  have hd' : (0 : ℚ) < d := by exact_mod_cast hd
  -- each condition is divided by the denominator, which is positive
  have hlow : 2 * (k * d) ≤ 2 * n + d ↔ (k : ℚ) - 1 / 2 ≤ n / d := by
    rw [le_div_iff₀ hd', ← Nat.cast_le (α := ℚ)]
    push_cast
    constructor <;> intro h <;> linarith
  have hhigh : 2 * n ≤ 2 * (k * d) + d ↔ (n : ℚ) / d ≤ k + 1 / 2 := by
    rw [div_le_iff₀ hd', ← Nat.cast_le (α := ℚ)]
    push_cast
    constructor <;> intro h <;> linarith
  have hlow' : 2 * (k * d) = 2 * n + d ↔ (n : ℚ) / d = k - 1 / 2 := by
    rw [div_eq_iff hd'.ne', ← Nat.cast_inj (R := ℚ)]
    push_cast
    constructor <;> intro h <;> linarith
  have hhigh' : 2 * n = 2 * (k * d) + d ↔ (n : ℚ) / d = k + 1 / 2 := by
    rw [div_eq_iff hd'.ne', ← Nat.cast_inj (R := ℚ)]
    push_cast
    constructor <;> intro h <;> linarith
  constructor
  · rintro ⟨h, h', htie⟩
    exact ⟨hlow.1 h, hhigh.1 h', fun hq => htie (hq.imp hlow'.2 hhigh'.2)⟩
  · rintro ⟨h, h', htie⟩
    exact ⟨hlow.2 h, hhigh.2 h', fun hq => htie (hq.imp hlow'.1 hhigh'.1)⟩

/-! ## One digit after the point -/

/-- The text of a number of tenths. -/
def tenthsText (tenths : Nat) : String :=
  let digits := padLeft 2 (Nat.repr tenths)
  (digits.take (digits.length - 1)).toString ++ "." ++ (digits.drop (digits.length - 1)).toString

theorem toList_padLeft (width : Nat) (s : String) :
    (padLeft width s).toList = List.replicate (width - s.length) '0' ++ s.toList := by
  rw [padLeft, String.toList_append, String.toList_ofList]

/-- The digits of a number of tenths, with a zero before the point if there are no others. -/
def tenthsDigits (tenths : Nat) : List Char :=
  List.replicate (2 - (Nat.toDigits 10 tenths).length) '0' ++ Nat.toDigits 10 tenths

theorem two_le_length_tenthsDigits (tenths : Nat) : 2 ≤ (tenthsDigits tenths).length := by
  rw [tenthsDigits, List.length_append, List.length_replicate]
  omega

theorem isDigit_of_mem_tenthsDigits {tenths : Nat} {c : Char} (h : c ∈ tenthsDigits tenths) : c.isDigit = true := by
  rcases List.mem_append.1 h with h | h
  · rw [List.eq_of_mem_replicate h]
    rfl
  · exact Nat.isDigit_of_mem_toDigits (by decide) (by decide) h

theorem asciiNumber_tenthsDigits (tenths : Nat) : asciiNumber (tenthsDigits tenths) = tenths := by
  have hzeros : ∀ width, (List.replicate width '0').foldl (fun n c => 10 * n + (c.toNat - 48)) 0 = 0 := by
    intro width
    induction width with
    | zero => rfl
    | succ width ih =>
      rw [List.replicate_succ, List.foldl_cons]
      exact ih
  rw [asciiNumber, tenthsDigits, List.foldl_append, hzeros]
  exact Nat.ofDigitChars_ten_toDigits

theorem toList_tenthsText (tenths : Nat) : ∃ whole last,
    (tenthsText tenths).toList = whole ++ ['.', last] ∧ tenthsDigits tenths = whole ++ [last] := by
  have hdigits : (padLeft 2 (Nat.repr tenths)).toList = tenthsDigits tenths := by
    rw [toList_padLeft, tenthsDigits, Nat.repr, String.toList_ofList, String.length_ofList]
  have hne : tenthsDigits tenths ≠ [] := by
    intro h
    have hlength := two_le_length_tenthsDigits tenths
    rw [h] at hlength
    cases hlength
  refine ⟨(tenthsDigits tenths).dropLast, (tenthsDigits tenths).getLast hne, ?_, ?_⟩
  · have hlength : (padLeft 2 (Nat.repr tenths)).length = (tenthsDigits tenths).length := by
      rw [← String.length_toList, hdigits]
    have hwhole : ∀ count, ((padLeft 2 (Nat.repr tenths)).take count).toString.toList =
        (tenthsDigits tenths).take count := fun count => by rw [← hdigits]; exact String.toList_copy_take
    have hrest : ∀ count, ((padLeft 2 (Nat.repr tenths)).drop count).toString.toList =
        (tenthsDigits tenths).drop count := fun count => by rw [← hdigits]; exact String.toList_copy_drop
    rw [tenthsText, String.toList_append, String.toList_append, hwhole, hrest, hlength, ← List.dropLast_eq_take,
      List.drop_length_sub_one hne, List.append_assoc]
    rfl
  · exact (List.dropLast_append_getLast hne).symm

theorem tenthsText_inj {a b : Nat} : tenthsText a = tenthsText b ↔ a = b := by
  refine ⟨fun h => ?_, congrArg tenthsText⟩
  obtain ⟨whole, last, htext, hdigits⟩ := toList_tenthsText a
  obtain ⟨whole', last', htext', hdigits'⟩ := toList_tenthsText b
  rw [← String.toList_inj, htext, htext'] at h
  obtain ⟨hwhole, hlast⟩ := List.append_inj' h rfl
  have hlast : last = last' := (List.cons.inj (List.cons.inj hlast).2).1
  rw [← asciiNumber_tenthsDigits a, ← asciiNumber_tenthsDigits b, hdigits, hdigits', hwhole, hlast]

/-- The text of a number of tenths starts with a digit, so it has no sign. -/
theorem minus_append_ne_tenthsText (s : String) (tenths : Nat) : "-" ++ s ≠ tenthsText tenths := by
  intro h
  obtain ⟨whole, last, htext, hdigits⟩ := toList_tenthsText tenths
  have hlength := two_le_length_tenthsDigits tenths
  rw [← String.toList_inj, htext, String.toList_append] at h
  cases whole with
  | nil =>
    rw [hdigits] at hlength
    simp at hlength
  | cons c whole =>
    have hc : c = '-' := (List.cons.inj h).1.symm
    have hmem : c ∈ tenthsDigits tenths := by simp [hdigits]
    have hdigit := isDigit_of_mem_tenthsDigits hmem
    rw [hc] at hdigit
    cases hdigit

namespace Binary64

variable {negative : Bool} {e : Int} {x : Binary64}

theorem fixed_one : (finite negative m e).fixed 1 =
    (if negative then "-" else "") ++ tenthsText (roundDiv ((magnitude m e).1 * 10) (magnitude m e).2) := by
  rw [fixed, tenthsText]
  simp only [String.append_assoc]
  rfl

/-- A number is written like a number of tenths if it has no sign and its tenfold is rounded to that. -/
theorem fixed_one_eq_iff : (finite negative m e).fixed 1 = tenthsText k ↔
    negative = false ∧ RoundsTo ((magnitude m e).1 * 10) (magnitude m e).2 k := by
  have hd : 0 < (magnitude m e).2 := ratio?_den_pos (x := finite negative m e) rfl
  rw [fixed_one, ← roundDiv_eq_iff hd]
  cases negative with
  | true => simp [minus_append_ne_tenthsText]
  | false => simp [tenthsText_inj]

/-! ## Values -/

theorem magnitude_eq (m : Nat) (e : Int) : ((magnitude m e).1 : ℚ) / (magnitude m e).2 = m * 2 ^ e := by
  rw [magnitude]
  split
  · rename_i he
    obtain ⟨count, rfl⟩ := Int.eq_ofNat_of_zero_le he
    simp
  · rename_i he
    obtain ⟨count, hcount⟩ := Int.eq_ofNat_of_zero_le (show 0 ≤ -e by omega)
    obtain rfl : e = -count := by omega
    simp [div_eq_mul_inv]

theorem value?_finite : (finite negative m e).value? = some ((if negative then -1 else 1) * ((m : ℚ) * 2 ^ e)) := by
  rw [← magnitude_eq]
  cases negative <;> simp [value?, ratio?, neg_div]

/-- The text with one digit after the point is that of the whole number that is nearest to the tenfold. -/
theorem fixed_one_eq_iff_isNearest (hx : x.value? = some q) (hk : 0 < k) :
    x.fixed 1 = tenthsText k ↔ IsNearest (10 * q) k := by
  cases x with
  | nan => cases hx
  | inf negative => cases hx
  | finite negative m e =>
    have hd : 0 < (magnitude m e).2 := ratio?_den_pos (x := finite negative m e) rfl
    have htenfold : (((magnitude m e).1 * 10 : Nat) : ℚ) / (magnitude m e).2 = 10 * (m * 2 ^ e) := by
      rw [← magnitude_eq]
      push_cast
      ring
    rw [fixed_one_eq_iff, roundsTo_iff hd, htenfold]
    rw [value?_finite, Option.some.injEq] at hx
    subst hx
    cases negative with
    | false => simp
    | true =>
      -- a number below zero has a sign, and one that is nearest to a positive one is not below zero
      have hpos : (0 : ℚ) ≤ m * 2 ^ e := by positivity
      have hk' : (1 : ℚ) ≤ k := by exact_mod_cast hk
      refine iff_of_false (fun h => by cases h.1) fun h => ?_
      have hlow := h.low
      simp only [if_true] at hlow
      linarith

/-! ## Whole numbers -/

theorem exponentFor_le {num : Nat} : exponentFor num 1 ≤ num.log2 := by
  have hone : Nat.log2 1 = 0 := by decide
  unfold exponentFor
  dsimp only
  rw [hone]
  split <;> simp only [minExponent, precision] <;> omega

/-- What is at least two is not rounded below it: two is a number of the format, too. -/
theorem two_le_roundDiv {num : Nat} {e : Int} (hnum : 2 ≤ num) (he : e ≤ num.log2) :
    (2 : ℚ) ≤ roundDiv (scaledRatio num 1 e).1 (scaledRatio num 1 e).2 * 2 ^ e := by
  have hpow : 2 ^ num.log2 ≤ num := Nat.log2_self_le (by omega)
  rw [scaledRatio]
  split
  · -- with a factor of at least two a significand of one is enough
    rename_i hsign
    obtain ⟨count, rfl⟩ := Int.eq_ofNat_of_zero_le hsign
    have hcount : 2 ^ count ≤ num := by
      refine le_trans (Nat.pow_le_pow_right (by decide) ?_) hpow
      exact_mod_cast he
    have hquotient : ∀ k, k * 2 ^ count ≤ num → k ≤ roundDiv num (1 * Nat.pow 2 count) := by
      intro k hk
      refine le_roundDiv (by rw [Nat.one_mul]; exact Nat.pow_pos (by decide)) ?_
      rwa [Nat.one_mul]
    cases count with
    | zero =>
      have htwo : (2 : ℚ) ≤ roundDiv num (1 * Nat.pow 2 0) := by exact_mod_cast hquotient 2 (by omega)
      simpa using htwo
    | succ count =>
      have hone : (1 : ℚ) ≤ roundDiv num (1 * Nat.pow 2 (count + 1)) := by
        exact_mod_cast hquotient 1 (by omega)
      have hscale : (2 : ℚ) ≤ 2 ^ (count + 1) := by
        have h : 2 ^ 1 ≤ 2 ^ (count + 1) := Nat.pow_le_pow_right (by decide) (by omega)
        exact_mod_cast h
      calc (2 : ℚ) ≤ 1 * 2 ^ (count + 1) := by rwa [one_mul]
        _ ≤ roundDiv num (1 * Nat.pow 2 (count + 1)) * 2 ^ (count + 1) := by gcongr
  · -- nothing is lost where the number is multiplied
    rename_i hsign
    obtain ⟨count, hcount⟩ := Int.eq_ofNat_of_zero_le (show 0 ≤ -e by omega)
    obtain rfl : e = -count := by omega
    have hexact : ((num * Nat.pow 2 (- -(count : Int)).toNat : Nat) : ℚ) * 2 ^ (-(count : Int)) = num := by
      simp
    rw [roundDiv_one, hexact]
    exact_mod_cast hnum

theorem value?_of_bounded (hx : (if maxExponent < e then inf false else finite false m e).value? = some q) :
    q = m * 2 ^ e := by
  split at hx
  · cases hx
  · rw [value?_finite, Option.some.injEq] at hx
    simpa using hx.symm

/-- A whole number from two on is two or more as a binary number. -/
theorem two_le_of_ofInt {n : Int} (hn : 2 ≤ n) (hx : (ofInt n).value? = some q) : 2 ≤ q := by
  have hne : n.natAbs ≠ 0 := by omega
  have htwo := two_le_roundDiv (show 2 ≤ n.natAbs by omega) exponentFor_le
  have hsign : decide (n < 0) = false := by simp; omega
  rw [ofInt, hsign, ofRatio, if_neg hne] at hx
  dsimp only at hx
  generalize exponentFor n.natAbs 1 = e at hx htwo
  generalize roundDiv (scaledRatio n.natAbs 1 e).1 (scaledRatio n.natAbs 1 e).2 = m at hx htwo
  by_cases hm : m = Nat.pow 2 precision
  · -- one bit too many: half the significand with the next exponent
    rw [if_pos hm] at hx
    have hhalf : ((Nat.pow 2 (precision - 1) : Nat) : ℚ) * 2 ^ (e + 1) = m * 2 ^ e := by
      rw [hm, zpow_add_one₀ two_ne_zero]
      simp only [precision, Nat.pow_eq]
      norm_num
      ring
    rwa [value?_of_bounded hx, hhalf]
  · rw [if_neg hm] at hx
    rwa [value?_of_bounded hx]

theorem sign_of_ofRatio {s : Bool} {num den : Nat} (h : ofRatio s num den = finite negative m e) : negative = s := by
  rw [ofRatio] at h
  split at h
  · cases h
    rfl
  · -- a significand with one bit too many does not touch the sign
    dsimp only at h
    split at h <;> split at h <;> cases h
    all_goals rfl

/-- A whole number becomes an infinite one or one that has a value. -/
theorem ofInt_cases (n : Int) : (∃ negative, ofInt n = .inf negative) ∨ ∃ q, (ofInt n).value? = some q := by
  rw [ofInt, ofRatio]
  split
  · exact .inr ⟨_, value?_finite⟩
  · dsimp only
    split <;> split
    all_goals first | exact .inl ⟨_, rfl⟩ | exact .inr ⟨_, value?_finite⟩

/-- Whole numbers from two on are too large, and those below zero have a sign. Only two are left, and these are binary
numbers as they stand. -/
theorem isNearest_ofInt_iff {n : Int} (hx : (ofInt n).value? = some q) (hk : 0 < k) (hk' : k < 15) :
    IsNearest (10 * q) k ↔ IsNearest (10 * n) k := by
  have hlarge : ∀ {r : ℚ}, 2 ≤ r → ¬ IsNearest (10 * r) k := by
    intro r hr h
    have hhigh := h.high
    have hk' : (k : ℚ) < 15 := by exact_mod_cast hk'
    linarith
  have hsmall : ∀ {r : ℚ}, r ≤ 0 → ¬ IsNearest (10 * r) k := by
    intro r hr h
    have hlow := h.low
    have hk : (1 : ℚ) ≤ k := by exact_mod_cast hk
    linarith
  rcases lt_or_ge n 0 with hn | hn
  · refine iff_of_false (hsmall ?_) (hsmall (by exact_mod_cast hn.le))
    cases hfinite : ofInt n with
    | nan => rw [hfinite] at hx; cases hx
    | inf negative => rw [hfinite] at hx; cases hx
    | finite negative m e =>
      have hsign := sign_of_ofRatio hfinite
      rw [hfinite, value?_finite, hsign, decide_eq_true hn, Option.some.injEq] at hx
      have hpos : (0 : ℚ) ≤ m * 2 ^ e := by positivity
      rw [← hx]
      simpa using hpos
  · rcases lt_or_ge n 2 with hn' | hn'
    · -- nothing is rounded
      have hexact : (ofInt n).value? = some (n : ℚ) := by
        obtain rfl | rfl : n = 0 ∨ n = 1 := by omega
        · decide +kernel
        · decide +kernel
      rw [Option.some.inj (hx.symm.trans hexact)]
    · exact iff_of_false (hlarge (two_le_of_ofInt hn' hx)) (hlarge (by exact_mod_cast hn'))

end Binary64

end PolicyGate
