/-
ScriptSyntax.Proofs.Numeral.Magnitudes — the numbers that binary64 can
tell apart.

The bits of a magnitude, as a natural number, go up with the number that
they stand for. `worth` continues that scale beyond the largest finite
magnitude, as if there were no end to the exponents: infinity comes where
two to the power 1024 would be. That makes rounding one question, whatever
the size of the result, and overflow a comparison afterwards.

* `worth_grid` — on the grid of one exponent the bits count the steps.
* `worth_strictMono` — more bits, a larger number.
* `Binary64.equals_eq_true_iff` — equality of numbers in binary64 is that
  they stand for one number.
-/
import ScriptSyntax.Numeral.Binary64
import Mathlib.Algebra.Order.Field.Power
import Mathlib.Algebra.Order.Field.Rat
import Mathlib.Data.Nat.Cast.Order.Ring
import Mathlib.Order.Monotone.Basic
import Mathlib.Tactic.Linarith
import Mathlib.Tactic.Positivity
import Mathlib.Tactic.Ring
import Mathlib.Tactic.NormNum

namespace ScriptSyntax

namespace Magnitude

/-! ## 1. What bits stand for -/

/-- The number that some bits stand for, where exponents have no end. -/
def worth (bits : Nat) : ℚ :=
  ((if bits < binade then bits else binade + bits % binade : Nat) : ℚ)
    * 2 ^ (if bits < binade then -1074 else (bits / binade : Nat) - 1075 : Int)

/-- The number that a magnitude stands for, if it is finite. Infinity
stands where the next power of two would be. -/
def value (magnitude : Magnitude) : ℚ :=
  (magnitude.significand : ℚ) * 2 ^ magnitude.exponent

/-- Two to the power 52, in decimal. -/
theorem binade_eq : binade = 4503599627370496 := rfl

/-- With `grid` bits of exponent in front, the lowest bits count steps of
one size: as many as fit below the next power of two, and one more. -/
theorem worth_grid {grid steps : Nat} (top : steps ≤ 2 * binade)
    (bottom : grid = 0 ∨ binade ≤ steps) :
    worth (grid * binade + steps) = steps * 2 ^ ((grid : Int) - 1074) := by
  rw [binade_eq] at top bottom
  rcases Nat.lt_or_ge (grid * binade + steps) binade with small | large
  · -- Subnormal numbers are all on the lowest grid.
    obtain rfl : grid = 0 := by rw [binade_eq] at small; omega
    rw [Nat.zero_mul, Nat.zero_add] at small ⊢
    rw [worth, if_pos small, if_pos small]
    norm_num
  · rcases Nat.lt_or_ge steps (2 * binade) with inside | last
    · obtain ⟨rest, rfl⟩ : ∃ rest, steps = binade + rest :=
        Nat.exists_eq_add_of_le (by rw [binade_eq] at large ⊢; omega)
      have exponent : (grid * binade + (binade + rest)) / binade = grid + 1 := by
        rw [binade_eq] at inside ⊢; omega
      have fraction : (grid * binade + (binade + rest)) % binade = rest := by
        rw [binade_eq] at inside ⊢; omega
      have power : ((grid + 1 : Nat) : Int) - 1075 = (grid : Int) - 1074 := by push_cast; ring
      rw [worth, if_neg (Nat.not_lt.2 large), if_neg (Nat.not_lt.2 large), exponent, fraction, power]
    · -- One step more than fits is the first on the next grid.
      obtain rfl : steps = 2 * binade := by rw [binade_eq] at last ⊢; omega
      have exponent : (grid * binade + 2 * binade) / binade = grid + 2 := by
        rw [binade_eq]; omega
      have fraction : (grid * binade + 2 * binade) % binade = 0 := by rw [binade_eq]; omega
      have power : ((grid + 2 : Nat) : Int) - 1075 = ((grid : Int) - 1074) + 1 := by
        push_cast; ring
      rw [worth, if_neg (Nat.not_lt.2 large), if_neg (Nat.not_lt.2 large), exponent, fraction, power,
        zpow_add_one₀ two_ne_zero]
      push_cast
      ring

/-- All bits are steps on some grid, and not the last of them. -/
theorem exists_grid (bits : Nat) :
    ∃ grid steps, bits = grid * binade + steps ∧ steps < 2 * binade
      ∧ (grid = 0 ∨ binade ≤ steps) := by
  rcases Nat.lt_or_ge bits binade with small | large
  · exact ⟨0, bits, by omega, by omega, .inl rfl⟩
  · refine ⟨bits / binade - 1, binade + bits % binade, ?_, ?_, .inr (Nat.le_add_right _ _)⟩
    · rw [binade_eq] at large ⊢; omega
    · rw [binade_eq]; omega

/-! ## 2. The order of magnitudes -/

/-- One bit more is one step more. -/
theorem worth_lt_succ (bits : Nat) : worth bits < worth (bits + 1) := by
  obtain ⟨grid, steps, rfl, top, bottom⟩ := exists_grid bits
  rw [Nat.add_assoc, worth_grid (Nat.le_of_lt top) bottom,
    worth_grid top (bottom.imp_right fun h => Nat.le_succ_of_le h)]
  have size : (0 : ℚ) < 2 ^ ((grid : Int) - 1074) := by positivity
  push_cast
  linarith

theorem worth_strictMono : StrictMono worth := strictMono_nat_of_lt_succ worth_lt_succ

theorem worth_zero : worth 0 = 0 := by simp [worth, binade_eq]

theorem worth_nonneg (bits : Nat) : 0 ≤ worth bits :=
  worth_zero ▸ worth_strictMono.monotone (Nat.zero_le bits)

theorem value_injective : Function.Injective value := fun _ _ h =>
  Fin.ext (worth_strictMono.injective h)

theorem value_nonneg (magnitude : Magnitude) : 0 ≤ magnitude.value := worth_nonneg _

/-- Only no bits at all stand for zero. -/
theorem value_eq_zero_iff (magnitude : Magnitude) : magnitude.value = 0 ↔ magnitude = ofBits 0 :=
  ⟨fun h => value_injective (h.trans worth_zero.symm), fun h => h ▸ worth_zero⟩

/-- Significands are even where the bits are. -/
theorem significand_mod_two (magnitude : Magnitude) :
    magnitude.significand % 2 = magnitude.val % 2 := by
  rw [significand, binade_eq]
  split <;> omega

/-- Infinity comes where two to the power 1024 would be, -/
theorem worth_infinity : worth infinity.val = 2 ^ 1024 := by
  have steps : worth (2046 * binade + binade) = _ := worth_grid (by decide) (.inr (by decide))
  have power : ((2046 : Nat) : Int) - 1074 = (972 : Nat) := by norm_num
  have digits : (binade : ℚ) = 2 ^ 52 := by rw [binade_eq]; norm_num
  rw [show infinity.val = 2046 * binade + binade from rfl, steps, power, zpow_natCast, digits,
    ← pow_add]

/-- and the largest finite magnitude is the last step before it. -/
theorem worth_largest : worth (infinity.val - 1) = 2 ^ 1024 - 2 ^ 971 := by
  have steps : worth (2045 * binade + (2 * binade - 1)) = _ :=
    worth_grid (by decide) (.inr (by decide))
  have power : ((2045 : Nat) : Int) - 1074 = (971 : Nat) := by norm_num
  have digits : ((2 * binade - 1 : Nat) : ℚ) = 2 ^ 53 - 1 := by rw [binade_eq]; norm_num
  rw [show infinity.val - 1 = 2045 * binade + (2 * binade - 1) from rfl, steps, power,
    zpow_natCast, digits, sub_one_mul, ← pow_add]

end Magnitude

/-! ## 3. Equality of numbers -/

/-- A number on the extended line. -/
inductive Number where
  | finite (value : ℚ)
  | infinite (negative : Bool)

namespace Binary64

open Magnitude

/-- The number that a value in binary64 stands for, if it is one. -/
def number? : Binary64 → Option Number
  | .nan => none
  | .signed negative magnitude =>
    if magnitude = infinity then some (.infinite negative)
    else some (.finite (if negative then -magnitude.value else magnitude.value))

/-- Whether two values stand for one number. What is no number does not,
not even with itself. -/
def SameNumber (x y : Binary64) : Prop :=
  ∃ number, x.number? = some number ∧ y.number? = some number

/-- Values with a sign are the same number if they are the same, or if
they are zeros. -/
theorem signed_value_inj {m m' : Magnitude} {s s' : Bool} :
    (if s then -m.value else m.value) = (if s' then -m'.value else m'.value)
      ↔ m = m' ∧ (m = ofBits 0 ∨ s = s') := by
  have low := m.value_nonneg
  have low' := m'.value_nonneg
  have zero : m.value = -m'.value ↔ m = m' ∧ m = ofBits 0 := by
    rw [← value_eq_zero_iff, ← value_injective.eq_iff]
    constructor
    · intro h; constructor <;> linarith
    · rintro ⟨h, h'⟩; linarith
  have zero' : -m.value = m'.value ↔ m = m' ∧ m = ofBits 0 := by
    rw [← zero, neg_eq_iff_eq_neg]
  have same : m.value = m'.value ↔ m = m' := value_injective.eq_iff
  cases s <;> cases s' <;> simp [zero, zero', same]

/-- Values are equal just if they stand for one number. -/
theorem equals_eq_true_iff (x y : Binary64) : x.equals y = true ↔ x.SameNumber y := by
  cases x with
  | nan => simp [equals, SameNumber, number?]
  | signed s m =>
    cases y with
    | nan => simp [equals, SameNumber, number?]
    | signed s' m' =>
      have finite : infinity ≠ ofBits 0 := by decide
      simp only [equals, Bool.and_eq_true, Bool.or_eq_true, beq_iff_eq, SameNumber, number?]
      by_cases top : m = infinity <;> by_cases top' : m' = infinity
      · simp [top, top', finite, eq_comm]
      · simp [top, top', Ne.symm top']
      · simp [top, top']
      · simp [top, top', signed_value_inj, eq_comm]

theorem sameNumber_comm {x y : Binary64} : x.SameNumber y ↔ y.SameNumber x := by
  simp only [SameNumber, and_comm]

theorem SameNumber.trans {x y z : Binary64} (h : x.SameNumber y) (h' : y.SameNumber z) :
    x.SameNumber z := by
  obtain ⟨number, first, second⟩ := h
  obtain ⟨number', first', second'⟩ := h'
  obtain rfl : number = number' := Option.some.inj (second.symm.trans first')
  exact ⟨number, first, second'⟩

/-- Only what is no number is not the same number as itself. -/
theorem sameNumber_self_iff (x : Binary64) : x.SameNumber x ↔ x ≠ .nan := by
  rw [← equals_eq_true_iff, equals_self_iff]

end Binary64

end ScriptSyntax
