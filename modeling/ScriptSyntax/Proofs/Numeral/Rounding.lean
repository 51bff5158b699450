/-
ScriptSyntax.Proofs.Numeral.Rounding — a quotient is rounded to the
magnitude nearest to it.

The quotient is divided once, by the step of the grid that it falls on, so
it lies between two neighbouring magnitudes, and the remainder tells which
of them is nearer. Because bits go up with what they stand for, nothing
else has to be compared: any other magnitude lies beyond one of the two.

* `Rounds` is what rounding to nearest means, with ties to the even
  significand and overflow from the middle above the largest finite
  magnitude.
* `log2Ratio_bounds` — the power of two below a quotient.
* `nearestBits_of_between` — of two neighbours the nearer is nearest.
* `rounds_ofRatio`, `rounds_ofScaled` — the magnitudes that are computed
  are the ones meant.
-/
import ScriptSyntax.Proofs.Numeral.Magnitudes
import Mathlib.Tactic.FieldSimp

namespace ScriptSyntax

/-! ## 1. Quotients of natural numbers -/

/-- A quotient lies between its whole part and the next number. -/
theorem div_le_ratio {num den : Nat} (pos : 0 < den) :
    ((num / den : Nat) : ℚ) ≤ num / den ∧ (num : ℚ) / den < (num / den : Nat) + 1 := by
  have pos' : (0 : ℚ) < den := by exact_mod_cast pos
  constructor
  · rw [le_div_iff₀ pos']
    exact_mod_cast Nat.div_mul_le_self num den
  · rw [div_lt_iff₀ pos']
    exact_mod_cast Nat.lt_mul_of_div_lt (Nat.lt_succ_self _) pos

/-- Whether `rounded` is the nearer of two neighbours, `low` at some
distance below and `low + 1` at some distance above; it is the even one if
both are equally near. -/
def IsNearer (below above : ℚ) (low rounded : Nat) : Prop :=
  (rounded = low ∧ (below < above ∨ (below = above ∧ low % 2 = 0)))
    ∨ (rounded = low + 1 ∧ (above < below ∨ (above = below ∧ (low + 1) % 2 = 0)))

/-- Twice the remainder against the divisor tells which neighbour is
nearer. -/
theorem isNearer_roundHalfEven {num den : Nat} (pos : 0 < den) :
    IsNearer ((num : ℚ) / den - (num / den : Nat)) ((num / den : Nat) + 1 - (num : ℚ) / den)
      (num / den) (roundHalfEven num den) := by
  have pos' : (0 : ℚ) < den := by exact_mod_cast pos
  have split : (num : ℚ) / den = (num / den : Nat) + ((num % den : Nat) : ℚ) / den := by
    have parts : (num : ℚ) = (num / den : Nat) * den + (num % den : Nat) := by
      exact_mod_cast (Nat.div_add_mod' num den).symm
    rw [← mul_div_cancel_right₀ ((num / den : Nat) : ℚ) pos'.ne', ← add_div, ← parts]
  have scaled : ((num % den : Nat) : ℚ) / den * den = (num % den : Nat) :=
    div_mul_cancel₀ _ pos'.ne'
  rw [IsNearer, split, roundHalfEven]
  generalize ((num % den : Nat) : ℚ) / den = part at scaled
  generalize num / den = low
  generalize num % den = rest at scaled
  rcases Nat.lt_trichotomy (2 * rest) den with less | same | more
  · have less' : (2 * rest : ℚ) < den := by exact_mod_cast less
    refine .inl ⟨if_pos (.inl less), .inl ?_⟩
    nlinarith
  · have same' : (2 * rest : ℚ) = den := by exact_mod_cast same
    have half : part = 1 / 2 := by
      have : (2 * part - 1) * den = 0 := by linarith
      rcases mul_eq_zero.1 this with h | h
      · linarith
      · exact absurd h pos'.ne'
    rcases Nat.mod_two_eq_zero_or_one low with even | odd
    · refine .inl ⟨if_pos (.inr ⟨same, even⟩), .inr ⟨?_, even⟩⟩
      linarith
    · refine .inr ⟨if_neg ?_, .inr ⟨?_, by omega⟩⟩
      · omega
      · linarith
  · have more' : (den : ℚ) < 2 * rest := by exact_mod_cast more
    refine .inr ⟨if_neg (by omega), .inl ?_⟩
    nlinarith

/-- Factors on either side of a quotient, of which one is one, are a power
with a whole exponent. -/
theorem ratio_scaled (base : Nat) (pos : 0 < base) (num den : Nat) (power : Int) :
    ((num * Nat.pow base (-power).toNat : Nat) : ℚ) / (den * Nat.pow base power.toNat : Nat)
      = (num : ℚ) / den / (base : ℚ) ^ power := by
  have pos' : (base : ℚ) ≠ 0 := by exact_mod_cast pos.ne'
  have up : ((Nat.pow base power.toNat : Nat) : ℚ) = (base : ℚ) ^ power.toNat := Nat.cast_pow _ _
  have down : ((Nat.pow base (-power).toNat : Nat) : ℚ) = (base : ℚ) ^ (-power).toNat :=
    Nat.cast_pow _ _
  rw [Nat.cast_mul, Nat.cast_mul, up, down, mul_div_mul_comm, ← zpow_natCast, ← zpow_natCast,
    ← zpow_sub₀ pos', div_eq_mul_inv _ ((base : ℚ) ^ power), ← zpow_neg]
  congr 2
  omega

namespace Magnitude

/-! ## 2. The grid of a quotient -/

/-- The logarithms of two numbers bound their quotient. -/
theorem ratio_log2_bounds {num den : Nat} (num_ne : num ≠ 0) (den_ne : den ≠ 0) :
    (2 : ℚ) ^ ((num.log2 : Int) - den.log2 - 1) ≤ num / den
      ∧ (num : ℚ) / den < 2 ^ ((num.log2 : Int) - den.log2 + 1) := by
  have num_low : (2 : ℚ) ^ num.log2 ≤ num := by exact_mod_cast Nat.log2_self_le num_ne
  have num_high : (num : ℚ) < 2 ^ (num.log2 + 1) := by exact_mod_cast Nat.lt_log2_self
  have den_low : (2 : ℚ) ^ den.log2 ≤ den := by exact_mod_cast Nat.log2_self_le den_ne
  have den_high : (den : ℚ) < 2 ^ (den.log2 + 1) := by exact_mod_cast Nat.lt_log2_self
  have den_pos : (0 : ℚ) < den := lt_of_lt_of_le (by positivity) den_low
  constructor
  · have power : (2 : ℚ) ^ ((num.log2 : Int) - den.log2 - 1) * 2 ^ (den.log2 + 1) = 2 ^ num.log2 := by
      rw [← zpow_natCast, ← zpow_natCast, ← zpow_add₀ two_ne_zero]
      congr 1
      push_cast
      ring
    rw [le_div_iff₀ den_pos]
    calc (2 : ℚ) ^ ((num.log2 : Int) - den.log2 - 1) * den
        ≤ 2 ^ ((num.log2 : Int) - den.log2 - 1) * 2 ^ (den.log2 + 1) := by gcongr
      _ = 2 ^ num.log2 := power
      _ ≤ num := num_low
  · have power : (2 : ℚ) ^ ((num.log2 : Int) - den.log2 + 1) * 2 ^ den.log2 = 2 ^ (num.log2 + 1) := by
      rw [← zpow_natCast, ← zpow_natCast, ← zpow_add₀ two_ne_zero]
      congr 1
      push_cast
      ring
    rw [div_lt_iff₀ den_pos]
    calc (num : ℚ) < 2 ^ (num.log2 + 1) := num_high
      _ = 2 ^ ((num.log2 : Int) - den.log2 + 1) * 2 ^ den.log2 := power.symm
      _ ≤ 2 ^ ((num.log2 : Int) - den.log2 + 1) * den := by gcongr

/-- A quotient lies between the power of two that is found for it and the
next. -/
theorem log2Ratio_bounds {num den : Nat} (num_ne : num ≠ 0) (den_ne : den ≠ 0) :
    (2 : ℚ) ^ log2Ratio num den ≤ num / den ∧ (num : ℚ) / den < 2 ^ (log2Ratio num den + 1) := by
  obtain ⟨low, high⟩ := ratio_log2_bounds num_ne den_ne
  rw [log2Ratio]
  generalize (num.log2 : Int) - den.log2 = guess at low high
  have below : num * Nat.pow 2 (-guess).toNat < den * Nat.pow 2 guess.toNat
      ↔ (num : ℚ) / den < 2 ^ guess := by
    have pos : 0 < den * Nat.pow 2 guess.toNat :=
      Nat.mul_pos (Nat.pos_of_ne_zero den_ne) (Nat.pow_pos (by decide))
    have pos' : (0 : ℚ) < (den * Nat.pow 2 guess.toNat : Nat) := by exact_mod_cast pos
    have scaled := ratio_scaled 2 (by decide) num den guess
    rw [Nat.cast_ofNat] at scaled
    rw [← div_lt_one (by positivity : (0 : ℚ) < 2 ^ guess), ← scaled, div_lt_one pos', Nat.cast_lt]
  by_cases small : num * Nat.pow 2 (-guess).toNat < den * Nat.pow 2 guess.toNat
  · rw [if_pos small, sub_add_cancel]
    exact ⟨low, below.1 small⟩
  · rw [if_neg small]
    exact ⟨not_lt.1 (below.not.1 small), high⟩

/-! ## 3. Rounding to nearest -/

/-- Whether some bits are the nearest to a number, where exponents have no
end. Of two that are equally near it has to be the even ones. -/
def NearestBits (q : ℚ) (bits : Nat) : Prop :=
  ∀ other, |worth bits - q| ≤ |worth other - q|
    ∧ (|worth bits - q| = |worth other - q| → other = bits ∨ bits % 2 = 0)

/-- Of the two neighbours of a number the nearer one is nearest: any others
lie beyond them. -/
theorem nearestBits_of_between {q : ℚ} {low bits : Nat} (below : worth low ≤ q)
    (above : q < worth (low + 1))
    (nearer : IsNearer (q - worth low) (worth (low + 1) - q) low bits) :
    NearestBits q bits := by
  intro other
  have far_low (h : other < low) : q - worth low < |worth other - q| := by
    have := worth_strictMono h
    rw [abs_of_nonpos (by linarith)]
    linarith
  have far_high (h : low + 1 < other) : worth (low + 1) - q < |worth other - q| := by
    have := worth_strictMono h
    rw [abs_of_pos (by linarith)]
    linarith
  have at_low : |worth low - q| = q - worth low := by
    rw [abs_of_nonpos (by linarith)]
    ring
  have at_high : |worth (low + 1) - q| = worth (low + 1) - q := abs_of_pos (by linarith)
  have place : other < low ∨ other = low ∨ other = low + 1 ∨ low + 1 < other := by omega
  rcases nearer with ⟨rfl, side⟩ | ⟨rfl, side⟩
  · have least : q - worth bits ≤ worth (bits + 1) - q := by
      rcases side with h | h <;> linarith
    rw [at_low]
    rcases place with h | rfl | rfl | h
    · exact ⟨(far_low h).le, fun tie => absurd tie (far_low h).ne⟩
    · exact ⟨at_low.ge, fun _ => .inl rfl⟩
    · rw [at_high]
      exact ⟨least, fun tie => .inr (side.resolve_left (by rw [tie]; exact lt_irrefl _)).2⟩
    · have := far_high h
      exact ⟨by linarith, fun tie => by linarith⟩
  · have least : worth (low + 1) - q ≤ q - worth low := by
      rcases side with h | h <;> linarith
    rw [at_high]
    rcases place with h | rfl | rfl | h
    · have := far_low h
      exact ⟨by linarith, fun tie => by linarith⟩
    · rw [at_low]
      exact ⟨least, fun tie => .inr (side.resolve_left (by rw [tie]; exact lt_irrefl _)).2⟩
    · exact ⟨at_high.ge, fun _ => .inl rfl⟩
    · exact ⟨(far_high h).le, fun tie => absurd tie (far_high h).ne⟩

/-- Steps on a grid that are rounded to the nearest whole number make up
the nearest bits. -/
theorem nearestBits_of_steps {q : ℚ} {grid low steps : Nat} (top : low < 2 * binade)
    (bottom : grid = 0 ∨ binade ≤ low)
    (below : (low : ℚ) ≤ q / 2 ^ ((grid : Int) - 1074))
    (above : q / 2 ^ ((grid : Int) - 1074) < low + 1)
    (nearer : IsNearer (q / 2 ^ ((grid : Int) - 1074) - low)
      (low + 1 - q / 2 ^ ((grid : Int) - 1074)) low steps) :
    NearestBits q (grid * binade + steps) := by
  have pos : (0 : ℚ) < 2 ^ ((grid : Int) - 1074) := by positivity
  have here := worth_grid top.le bottom
  have next : worth (grid * binade + low + 1) = ((low + 1 : Nat) : ℚ) * 2 ^ ((grid : Int) - 1074) := by
    rw [Nat.add_assoc]
    exact worth_grid top (bottom.imp_right Nat.le_succ_of_le)
  have parity : ∀ steps, (grid * binade + steps) % 2 = steps % 2 := by
    intro steps
    rw [binade_eq]
    omega
  -- Everything is measured in steps of the grid.
  have scaled : q = q / 2 ^ ((grid : Int) - 1074) * 2 ^ ((grid : Int) - 1074) :=
    (div_mul_cancel₀ q pos.ne').symm
  generalize q / 2 ^ ((grid : Int) - 1074) = x at below above nearer scaled
  generalize (2 : ℚ) ^ ((grid : Int) - 1074) = size at pos here next scaled
  have left : q - worth (grid * binade + low) = (x - low) * size := by
    rw [scaled, here]
    ring
  have right : worth (grid * binade + low + 1) - q = (low + 1 - x) * size := by
    rw [scaled, next]
    push_cast
    ring
  have below' : worth (grid * binade + low) ≤ q := by
    rw [← sub_nonneg, left]
    exact mul_nonneg (by linarith) pos.le
  have above' : q < worth (grid * binade + low + 1) := by
    rw [← sub_pos, right]
    exact mul_pos (by linarith) pos
  refine nearestBits_of_between below' above' ?_
  rw [IsNearer, left, right, mul_lt_mul_iff_left₀ pos, mul_lt_mul_iff_left₀ pos,
    mul_left_inj' pos.ne', mul_left_inj' pos.ne', Nat.add_assoc, parity, parity]
  rcases nearer with ⟨rfl, side⟩ | ⟨rfl, side⟩
  · exact .inl ⟨rfl, side⟩
  · exact .inr ⟨rfl, side⟩

/-- Whether a magnitude is what a number rounds to. It is infinity from
the middle between the largest finite magnitude and the next power of two,
and else it is the finite magnitude nearest to the number, the one with the
even significand of two that are equally near. -/
structure Rounds (q : ℚ) (magnitude : Magnitude) : Prop where
  infinite_iff : magnitude = infinity ↔ 2 ^ 1024 - 2 ^ 970 ≤ q
  nearest : magnitude ≠ infinity → ∀ other, other ≠ infinity →
    |magnitude.value - q| ≤ |other.value - q|
  even : magnitude ≠ infinity → ∀ other, other ≠ infinity → other ≠ magnitude →
    |magnitude.value - q| = |other.value - q| → magnitude.significand % 2 = 0

/-- The middle above the largest finite magnitude is where the nearest bits
begin to be too many: it is no nearer to that magnitude than to the even
one after it. -/
theorem infinity_le_iff {q : ℚ} {bits : Nat} (h : NearestBits q bits) :
    infinity.val ≤ bits ↔ (2 : ℚ) ^ 1024 - 2 ^ 970 ≤ q := by
  have double : (2 : ℚ) ^ 971 = 2 * 2 ^ 970 := pow_succ' 2 970
  have large : (2 : ℚ) * 2 ^ 970 < 2 ^ 1024 := by
    rw [← double]
    exact pow_lt_pow_right₀ (by norm_num) (by norm_num)
  have pos : (0 : ℚ) < 2 ^ 970 := by positivity
  have largest := worth_largest
  have infinite := worth_infinity
  rw [double] at largest
  clear double
  generalize (2 : ℚ) ^ 970 = half at *
  generalize (2 : ℚ) ^ 1024 = top at *
  constructor
  · intro many
    by_contra low
    have beyond := worth_strictMono.monotone many
    obtain ⟨near, -⟩ := h (infinity.val - 1)
    rw [abs_of_pos (by linarith), largest] at near
    rcases abs_cases (top - 2 * half - q) with ⟨eq, -⟩ | ⟨eq, -⟩ <;> linarith
  · intro high
    by_contra few
    have few' : bits ≤ infinity.val - 1 := by omega
    have within := worth_strictMono.monotone few'
    obtain ⟨near, tie⟩ := h infinity.val
    rw [largest] at within
    rw [abs_of_neg (by linarith), infinite] at near tie
    -- Only the largest finite magnitude could be as near, but it is odd.
    have odd : (infinity.val - 1) % 2 = 1 := by decide
    rcases abs_cases (top - q) with ⟨eq, -⟩ | ⟨eq, -⟩
    · have last : worth bits = worth (infinity.val - 1) := by linarith
      rw [worth_strictMono.injective last] at tie
      rcases tie (by linarith) with same | even
      · exact absurd same (by decide)
      · omega
    · linarith

/-- The nearest bits are the magnitude that is meant, or infinity if they
are too many. -/
theorem rounds_ofBits {q : ℚ} {bits : Nat} (h : NearestBits q bits) : Rounds q (ofBits bits) := by
  have overflow := infinity_le_iff h
  by_cases few : bits < infinity.val
  · have found : ofBits bits = ⟨bits, by omega⟩ := dif_pos few
    have finite : ofBits bits ≠ infinity := by
      rw [found]
      exact fun eq => absurd (congrArg Fin.val eq) few.ne
    rw [found] at finite ⊢
    refine ⟨?_, fun _ other _ => (h other.val).1, fun _ other _ differ tie => ?_⟩
    · simp only [finite, false_iff, ← overflow]
      omega
    · rw [significand_mod_two]
      exact ((h other.val).2 tie).resolve_left fun eq => differ (Fin.ext eq)
  · have found : ofBits bits = infinity := dif_neg few
    rw [found]
    exact ⟨by simpa [← overflow] using few, fun finite => absurd rfl finite,
      fun finite => absurd rfl finite⟩

/-- Of two magnitudes with even significands that are equally near, neither
is nearest: there is one between them. -/
theorem exists_nearer_of_even {q : ℚ} {low high : Magnitude} (rising : low.val < high.val)
    (even : low.significand % 2 = 0) (even' : high.significand % 2 = 0)
    (tie : |low.value - q| = |high.value - q|) :
    ∃ other, other ≠ infinity ∧ |other.value - q| < |low.value - q| := by
  rw [significand_mod_two] at even even'
  have inside : low.val + 1 < high.val := by omega
  let other : Magnitude := ⟨low.val + 1, inside.trans high.isLt⟩
  have above : low.value < other.value := worth_lt_succ low.val
  have below : other.value < high.value := worth_strictMono inside
  refine ⟨other, fun eq => ?_, ?_⟩
  · have top : other.val = infinity.val := congrArg Fin.val eq
    have := Nat.le_of_lt_succ high.isLt
    have last : infinity.val = 0x7ff0000000000000 := rfl
    have next : other.val = low.val + 1 := rfl
    omega
  · rcases abs_eq_abs.1 tie with same | opposite
    · linarith
    · rw [abs_of_neg (by linarith : low.value - q < 0), abs_lt]
      constructor <;> linarith

/-- A number rounds to one magnitude only. -/
theorem Rounds.unique {q : ℚ} {magnitude other : Magnitude} (h : Rounds q magnitude)
    (h' : Rounds q other) : other = magnitude := by
  by_cases top : magnitude = infinity
  · rw [top]
    exact h'.infinite_iff.2 (h.infinite_iff.1 top)
  · have top' : other ≠ infinity := fun eq => top (h.infinite_iff.2 (h'.infinite_iff.1 eq))
    have tie : |magnitude.value - q| = |other.value - q| :=
      le_antisymm (h.nearest top other top') (h'.nearest top' magnitude top)
    by_contra differ
    have even := h.even top other top' differ tie
    have even' := h'.even top' magnitude top (Ne.symm differ) tie.symm
    rcases Nat.lt_or_gt_of_ne fun eq => differ (Fin.ext eq) with less | more
    · obtain ⟨between, finite, nearer⟩ := exists_nearer_of_even less even' even tie.symm
      exact absurd (h'.nearest top' between finite) (not_le.2 nearer)
    · obtain ⟨between, finite, nearer⟩ := exists_nearer_of_even more even even' tie
      exact absurd (h.nearest top between finite) (not_le.2 nearer)

/-- Zero is the nearest to itself. -/
theorem nearestBits_zero : NearestBits 0 0 := by
  intro other
  rw [worth_zero, sub_zero, abs_zero]
  exact ⟨abs_nonneg _, fun _ => .inr rfl⟩

/-- A quotient is rounded to the nearest magnitude. -/
theorem rounds_ofRatio (num : Nat) {den : Nat} (den_ne : den ≠ 0) :
    Rounds ((num : ℚ) / den) (ofRatio num den) := by
  by_cases zero : num = 0
  · rw [zero, Nat.cast_zero, zero_div, ofRatio, if_pos rfl]
    exact rounds_ofBits nearestBits_zero
  · obtain ⟨low, high⟩ := log2Ratio_bounds zero den_ne
    obtain ⟨grid, grid_eq⟩ : ∃ grid : Nat, gridExponent num den = (grid : Int) - 1074 :=
      ⟨(gridExponent num den + 1074).toNat, by rw [gridExponent]; omega⟩
    have bits : ((grid : Int) - 1074 + 1074).toNat = grid := by omega
    rw [ofRatio, if_neg zero, grid_eq]
    simp only [bits]
    rw [gridExponent] at grid_eq
    have pos : 0 < den * Nat.pow 2 ((grid : Int) - 1074).toNat :=
      Nat.mul_pos (Nat.pos_of_ne_zero den_ne) (Nat.pow_pos (by decide))
    have scaled := ratio_scaled 2 (by decide) num den ((grid : Int) - 1074)
    rw [Nat.cast_ofNat] at scaled
    obtain ⟨below, above⟩ := scaled ▸ div_le_ratio pos
    have nearer := scaled ▸ isNearer_roundHalfEven pos
    have size : (0 : ℚ) < 2 ^ ((grid : Int) - 1074) := by positivity
    refine rounds_ofBits (nearestBits_of_steps ?_ ?_ below above nearer)
    · -- The step is no smaller than 53 bits below the power of two.
      have bound : (num : ℚ) / den / 2 ^ ((grid : Int) - 1074) < (2 * binade : Nat) := by
        have steps : ((2 * binade : Nat) : ℚ) = 2 ^ (53 : Int) := by rw [binade_eq]; norm_num
        rw [div_lt_iff₀ size, steps, ← zpow_add₀ two_ne_zero]
        exact high.trans_le (zpow_le_zpow_right₀ (by norm_num) (by omega))
      exact_mod_cast below.trans_lt bound
    · -- Nor is it larger, unless it is the smallest step of all.
      rcases le_or_gt (log2Ratio num den - 52) (-1074) with subnormal | normal
      · exact .inl (by omega)
      · have bound : ((binade : Nat) : ℚ) ≤ (num : ℚ) / den / 2 ^ ((grid : Int) - 1074) := by
          have steps : ((binade : Nat) : ℚ) = 2 ^ (52 : Int) := by rw [binade_eq]; norm_num
          rw [le_div_iff₀ size, steps, ← zpow_add₀ two_ne_zero]
          exact (zpow_le_zpow_right₀ (by norm_num) (by omega)).trans low
        have less := bound.trans_lt above
        exact .inr (Nat.lt_succ_iff.1 (by exact_mod_cast less))

/-- A number times a power of its base is rounded to the nearest
magnitude. -/
theorem rounds_ofScaled (base : Nat) (pos : 0 < base) (number : Nat) (power : Int) :
    Rounds (number * (base : ℚ) ^ power) (ofScaled base number power) := by
  have scaled := ratio_scaled base pos number 1 (-power)
  rw [neg_neg, Nat.one_mul, Nat.cast_one, div_one, zpow_neg, div_inv_eq_mul] at scaled
  rw [← scaled]
  exact rounds_ofRatio _ (Nat.pow_pos pos).ne'

end Magnitude

end ScriptSyntax
