/-
ScriptSyntax.Proofs.Tree.Numbers — what number tokens stand for, whatever
is in them.

A number token that is made by hand may hold any text. It is refused
unless that text is a numeral; and if it is a decimal, however many digits
it has, it stands for the number in binary64 nearest to what it says.

* `ofToken_number` — the outcome by what the numeral reader finds.
* `ofToken_number_rounds` — which texts are refused, and what decimals
  stand for.
-/
import ScriptSyntax.Tree.Leaf
import ScriptSyntax.Proofs.Numeral.Grammar
import ScriptSyntax.Proofs.Numeral.Rounding

namespace ScriptSyntax

open Numeral Magnitude

/-- A number token stands for its numeral, or is refused for want of
one. -/
theorem ofToken_number (value : String) :
    Expr.ofToken ⟨value, .number⟩
      = (ofChars? value.toList).elim (.error (.malformedNumber value))
          fun numeral => .ok (.numeric numeral.toBinary64) := by
  rw [Expr.ofToken, Numeral.read?]
  cases ofChars? value.toList <;> rfl

/-- A number token is refused, with its value, just if the value is no
numeral. A decimal, of which the exponent fits into sixteen bits, stands
for the one magnitude that its size rounds to, with the sign that is
written. -/
theorem ofToken_number_rounds (value : String) :
    (Expr.ofToken ⟨value, .number⟩ = .error (.malformedNumber value) ↔ ¬ IsWritten value.toList)
      ∧ ((∃ number, Expr.ofToken ⟨value, .number⟩ = .ok (.numeric number))
        ↔ IsWritten value.toList)
      ∧ ∀ negative significand power,
        IsDecimalText value.toList negative significand power → power.natAbs < 65536 →
        ∃ magnitude,
          (∀ other, Rounds |exactValue negative significand power| other ↔ other = magnitude)
            ∧ Expr.ofToken ⟨value, .number⟩
              = .ok (.numeric (.signed (value.toList.head? == some '-') magnitude)) := by
  have accepted := isSome_ofChars?_iff value.toList
  rw [ofToken_number]
  refine ⟨?_, ?_, fun negative significand power decimal small => ?_⟩
  · rw [← accepted]
    cases ofChars? value.toList <;> simp
  · rw [← accepted]
    cases ofChars? value.toList <;> simp
  · obtain ⟨number, scale, found, same⟩ := exists_ofChars?_of_isDecimalText decimal
    have rounds := rounds_ofScaled 10 (by decide) number scale
    rw [Nat.cast_ofNat, same small, ← abs_exactValue decimal] at rounds
    refine ⟨ofScaled 10 number scale, fun other => ⟨rounds.unique, fun eq => eq ▸ rounds⟩, ?_⟩
    rw [found, head?_of_isDecimalText decimal]
    rfl

/-- Two to the power 53 and one, which lies in the middle between two
magnitudes, with a period and an exponent. -/
theorem ofToken_number_rounds_tie :
    IsDecimalText "-90071992547409.93e+2".toList true (9007199254740993 / 100) 2
      ∧ (2 : Int).natAbs < 65536
      ∧ ∃ magnitude : Magnitude, magnitude.val = 0x4340000000000000
        ∧ (∀ other, Rounds |exactValue true (9007199254740993 / 100) 2| other
          ↔ other = magnitude)
        ∧ Expr.ofToken ⟨"-90071992547409.93e+2", .number⟩
          = .ok (.numeric (.signed true magnitude)) := by
  have digits {text : List Char} (h : text.all Char.isDigit = true) :
      ∀ c ∈ text, c.isDigit = true := List.all_eq_true.1 h
  have significand : IsSignificand "90071992547409.93".toList (9007199254740993 / 100) := by
    have whole : digitsValue "90071992547409".toList = 90071992547409 := by
      rw [← ofDigits_eq]
      decide +kernel
    have fraction : digitsValue "93".toList = 93 := by
      rw [← ofDigits_eq]
      decide +kernel
    have parts : IsSignificand ("90071992547409".toList ++ '.' :: "93".toList) _ :=
      .fractional (by decide) (digits (by decide))
    have sum : ((90071992547409 : Nat) : ℚ) + ((93 : Nat) : ℚ) / 10 ^ "93".toList.length
        = 9007199254740993 / 100 := by
      rw [show "93".toList.length = 2 from rfl]
      norm_num
    rw [whole, fraction, sum] at parts
    exact parts
  have exponent : IsExponent "e+2".toList 2 :=
    .some (.inl rfl) .plus (List.cons_ne_nil '2' []) (digits rfl)
  have decimal : IsDecimalText "-90071992547409.93e+2".toList true (9007199254740993 / 100) 2 :=
    .mk .minus significand exponent
  have small : (2 : Int).natAbs < 65536 := by decide
  obtain ⟨-, -, rounds⟩ := ofToken_number_rounds "-90071992547409.93e+2"
  obtain ⟨magnitude, only, came⟩ := rounds true _ _ decimal small
  have read : ofChars? "-90071992547409.93e+2".toList
      = some (.decimal true 9007199254740993 0) := by decide +kernel
  have bits : (Numeral.decimal true 9007199254740993 0).toBinary64
      = .signed true ⟨0x4340000000000000, by decide⟩ := by decide +kernel
  have found := came
  rw [ofToken_number, read, Option.elim_some, bits, Except.ok.injEq, Expr.numeric.injEq,
    Binary64.signed.injEq] at found
  exact ⟨decimal, small, magnitude, congrArg Fin.val found.2.symm, only, came⟩

end ScriptSyntax
