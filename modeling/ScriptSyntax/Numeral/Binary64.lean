/-
ScriptSyntax.Numeral.Binary64 — the numbers of the IEEE 754 format
binary64.

A number is kept as its sign and its other 63 bits. Read as a natural
number those bits are in the order of the magnitudes that they stand
for: zero, the subnormal and the normal numbers, and last infinity. So
the magnitudes are an initial segment of the naturals, and rounding is
integer arithmetic: `Magnitude.ofRatio` divides once, on the grid that
the quotient falls on, and rounds to the nearest grid point.
-/
import ScriptSyntax.Text.Hex

namespace ScriptSyntax

/-- The number nearest to a quotient, the even one of two that are
equally near. -/
def roundHalfEven (num den : Nat) : Nat :=
  let whole := num / den
  let twice := 2 * (num % den)
  if twice < den ∨ (twice = den ∧ whole % 2 = 0) then whole else whole + 1

/-! ## 1. Magnitudes -/

/-- The bits below the sign. Infinity has the largest. -/
abbrev Magnitude : Type := Fin (0x7ff0000000000000 + 1)

namespace Magnitude

/-- The magnitude above all finite ones. -/
def infinity : Magnitude := ⟨0x7ff0000000000000, by decide⟩

/-- The magnitude of these bits, or infinity if they are too many. -/
def ofBits (bits : Nat) : Magnitude :=
  if h : bits < 0x7ff0000000000000 then ⟨bits, by omega⟩ else infinity

/-- Two to the power 52, the least magnitude that is not subnormal, and the
number of magnitudes between neighbouring powers of two. -/
def binade : Nat := 0x10000000000000

/-- The significand of a finite magnitude, a whole number: the lowest 52
bits, with a bit above them unless the magnitude is subnormal. -/
def significand (magnitude : Magnitude) : Nat :=
  if magnitude.val < binade then magnitude.val else binade + magnitude.val % binade

/-- The exponent of a finite magnitude, which is worth its significand
times two to this power. -/
def exponent (magnitude : Magnitude) : Int :=
  if magnitude.val < binade then -1074 else (magnitude.val / binade : Nat) - 1075

/-- The largest power of two that is at most the quotient of two positive
numbers. -/
def log2Ratio (num den : Nat) : Int :=
  let guess : Int := (num.log2 : Int) - den.log2
  if num * Nat.pow 2 (-guess).toNat < den * Nat.pow 2 guess.toNat then guess - 1 else guess

/-- The power of two that separates neighbouring magnitudes near a
quotient: 53 bits fit between it and the quotient, but it is never below
the smallest magnitude. -/
def gridExponent (num den : Nat) : Int :=
  max (-1074) (log2Ratio num den - 52)

/-- The magnitude nearest to a quotient, the one with the even
significand of two that are equally near. A quotient at or beyond the
middle between the largest finite magnitude and the next power of two
goes to infinity. -/
def ofRatio (num den : Nat) : Magnitude :=
  if num = 0 then ofBits 0
  else
    let grid := gridExponent num den
    let steps := roundHalfEven (num * Nat.pow 2 (-grid).toNat) (den * Nat.pow 2 grid.toNat)
    ofBits ((grid + 1074).toNat * binade + steps)

/-- The magnitude nearest to a number times a power of the base. -/
def ofScaled (base number : Nat) (power : Int) : Magnitude :=
  ofRatio (number * Nat.pow base power.toNat) (Nat.pow base (-power).toNat)

end Magnitude

/-! ## 2. Numbers -/

/-- A number in binary64. There is one value that is not a number, with
neither sign nor payload. -/
inductive Binary64 where
  | nan
  | signed (negative : Bool) (magnitude : Magnitude)
  deriving DecidableEq

namespace Binary64

/-- Equality of numbers: the zeros are equal, and what is not a number
equals nothing. -/
def equals : Binary64 → Binary64 → Bool
  | .signed negative magnitude, .signed negative' magnitude' =>
    magnitude == magnitude' && (magnitude == Magnitude.ofBits 0 || negative == negative')
  | _, _ => false

/-- The bit that is set in negative numbers. -/
def signBit : Nat := 0x8000000000000000

/-- The 64 bits in sixteen hexadecimal digits, or `nan`. -/
def bits : Binary64 → String
  | .nan => "nan"
  | .signed negative magnitude =>
    String.ofList (Hex.padded 16 ((if negative then signBit else 0) + magnitude.val))

@[simp] theorem equals_self_iff (x : Binary64) : x.equals x = true ↔ x ≠ .nan := by
  cases x <;> simp [equals]

end Binary64

end ScriptSyntax
