/-
ScriptSyntax.Json.Number — JSON numbers, where none is wanted.

No part of a token is a number, so a number is either skipped or in the
way. A skipped number only has to be well formed. One that is in the way
has to be a number that binary64 can hold as well, or the text counts as
malformed and not as a value of the wrong form.
-/
import ScriptSyntax.Json.Defect
import ScriptSyntax.Numeral.Decimal

namespace ScriptSyntax.Json

/-! ## 1. Well-formed numbers -/

/-- The digits of a number, and its power of ten. -/
structure NumberParts where
  whole : List Char
  fraction : List Char
  power : Int

/-- Reads one digit or more. -/
def readDigits : List Char → Except Defect (List Char × List Char)
  | [] => .error .truncated
  | c :: rest =>
    if c.isDigit then
      .ok (c :: rest.takeWhile Char.isDigit, rest.dropWhile Char.isDigit)
    else .error .malformed

/-- Reads the digits before the period, of which the first is zero only
if it is the last. -/
def readWhole (cs : List Char) : Except Defect (List Char × List Char) :=
  match cs with
  | [] => .error .truncated
  | c :: rest =>
    if c = '0' then
      if rest.head?.any Char.isDigit then .error .malformed else .ok ([c], rest)
    else readDigits cs

/-- Reads a period and the digits after it, if there is a period. -/
def readFraction (cs : List Char) : Except Defect (List Char × List Char) :=
  match cs with
  | [] => .ok ([], cs)
  | c :: rest => if c = '.' then readDigits rest else .ok ([], cs)

/-- Reads the letter of an exponent, its sign and its digits, if there is
such a letter. -/
def readPower (cs : List Char) : Except Defect (Int × List Char) :=
  match cs with
  | [] => .ok (0, cs)
  | c :: rest =>
    if c = 'e' ∨ c = 'E' then
      match readDigits (Numeral.splitSign rest).2 with
      | .error defect => .error defect
      | .ok (digits, after) =>
        let power : Int := Numeral.ofDigits digits
        .ok (if (Numeral.splitSign rest).1 then -power else power, after)
    else .ok (0, cs)

/-- Reads a number that stands at the front of the text `c :: rest`. -/
def readNumber (c : Char) (rest : List Char) : Except Defect (NumberParts × List Char) := do
  let (whole, rest) ← readWhole (if c = '-' then rest else c :: rest)
  let (fraction, rest) ← readFraction rest
  let (power, rest) ← readPower rest
  return (⟨whole, fraction, power⟩, rest)

theorem length_readDigits_lt {cs digits rest : List Char}
    (h : readDigits cs = .ok (digits, rest)) : rest.length < cs.length := by
  cases cs with
  | nil => cases h
  | cons c tail =>
    rw [readDigits] at h
    split at h
    · cases h
      exact Nat.lt_succ_of_le (List.dropWhile_sublist _).length_le
    · cases h

theorem length_readWhole_lt {cs digits rest : List Char}
    (h : readWhole cs = .ok (digits, rest)) : rest.length < cs.length := by
  unfold readWhole at h
  split at h
  · cases h
  · split at h
    · split at h
      · cases h
      · cases h
        exact Nat.lt_succ_self _
    · exact length_readDigits_lt h

theorem length_readFraction_le {cs digits rest : List Char}
    (h : readFraction cs = .ok (digits, rest)) : rest.length ≤ cs.length := by
  unfold readFraction at h
  split at h
  · cases h
    exact Nat.le_refl _
  · split at h
    · exact Nat.le_succ_of_le (Nat.le_of_lt (length_readDigits_lt h))
    · cases h
      exact Nat.le_refl _

theorem length_splitSign_le (cs : List Char) :
    (Numeral.splitSign cs).2.length ≤ cs.length := by
  unfold Numeral.splitSign
  split <;> simp

theorem length_readPower_le {cs rest : List Char} {power : Int}
    (h : readPower cs = .ok (power, rest)) : rest.length ≤ cs.length := by
  unfold readPower at h
  split at h
  · cases h
    exact Nat.le_refl _
  · next c tail =>
    split at h
    · split at h
      · cases h
      · next digits =>
        simp only [Except.ok.injEq, Prod.mk.injEq] at h
        have := length_readDigits_lt digits
        have := length_splitSign_le tail
        rw [← h.2, List.length_cons]
        omega
    · cases h
      exact Nat.le_refl _

/-- Reading a number uses up its first character. -/
theorem length_readNumber_le {c : Char} {cs rest : List Char} {parts : NumberParts}
    (h : readNumber c cs = .ok (parts, rest)) : rest.length ≤ cs.length := by
  obtain ⟨⟨whole, cs₁⟩, foundWhole, h⟩ := of_bind_eq_ok h
  obtain ⟨⟨fraction, cs₂⟩, foundFraction, h⟩ := of_bind_eq_ok h
  obtain ⟨⟨power, cs₃⟩, foundPower, h⟩ := of_bind_eq_ok h
  cases h
  have := length_readWhole_lt foundWhole
  have := length_readFraction_le foundFraction
  have := length_readPower_le foundPower
  have : (if c = '-' then cs else c :: cs).length ≤ cs.length + 1 := by
    split <;> simp
  omega

/-! ## 2. Numbers out of range

A number is taken in as a significand of at most 64 bits and a power of
ten. It is out of range if their product, each of the two rounded to
binary64 before and the product rounded after, is infinite. -/

/-- The first number that does not fit 64 bits. -/
def wordLimit : Nat := 0x10000000000000000

/-- The digits taken in so far: the significand, the power of ten that
belongs to it, and whether it has run out of bits. -/
structure Intake where
  significand : Nat
  power : Int
  full : Bool

/-- Takes in a digit before the period. One that finds no room raises
the power, and so do those after it. -/
def Intake.whole (intake : Intake) (c : Char) : Intake :=
  let next := 10 * intake.significand + Numeral.digitValue c
  if intake.full || wordLimit ≤ next then
    ⟨intake.significand, intake.power + 1, true⟩
  else ⟨next, intake.power, false⟩

/-- Takes in a digit after the period. One that finds no room is dropped,
and so are those after it. -/
def Intake.fraction (intake : Intake) (c : Char) : Intake :=
  let next := 10 * intake.significand + Numeral.digitValue c
  if intake.full || wordLimit ≤ next then ⟨intake.significand, intake.power, true⟩
  else ⟨next, intake.power - 1, false⟩

/-- All digits of a number. After the period there may be room again for
a smaller digit. -/
def NumberParts.intake (parts : NumberParts) : Intake :=
  let whole := parts.whole.foldl Intake.whole ⟨0, 0, false⟩
  let all := parts.fraction.foldl Intake.fraction { whole with full := false }
  { all with power := all.power + parts.power }

/-- The rounded product of two finite magnitudes. -/
def roundedProduct (a b : Magnitude) : Magnitude :=
  Magnitude.ofScaled 2 (a.significand * b.significand) (a.exponent + b.exponent)

/-- Whether a number is too large for binary64. Negative powers make a
number smaller, and a power above 308 has no binary64 number of its
own. -/
def NumberParts.outOfRange (parts : NumberParts) : Bool :=
  let intake := parts.intake
  intake.significand != 0 && 0 ≤ intake.power
    && (308 < intake.power
      || roundedProduct (Magnitude.ofScaled 10 intake.significand 0)
          (Magnitude.ofScaled 10 1 intake.power) == Magnitude.infinity)

end ScriptSyntax.Json
