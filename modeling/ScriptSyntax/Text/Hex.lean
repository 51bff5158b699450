/-
ScriptSyntax.Text.Hex — hexadecimal numbers.

* `Hex.digits` writes a number with lower-case digits and no leading
  zero, `Hex.padded` with zeros up to a given width.
* `Hex.value?` reads one digit of either case.

Main statement: reading the digits of a number back gives the number
(`ofDigits_digits`), so no two numbers are written alike.
-/

namespace ScriptSyntax.Hex

/-! ## 1. Single digits -/

/-- The lower-case digit of a number below sixteen. -/
def digit (n : Nat) : Char :=
  Char.ofNat (if n < 10 then 0x30 + n else 0x57 + n)

/-- What a hexadecimal digit is worth; letters count in either case. -/
def value? (c : Char) : Option Nat :=
  if '0' ≤ c ∧ c ≤ '9' then some (c.toNat - 0x30)
  else if 'a' ≤ c ∧ c ≤ 'f' then some (c.toNat - 0x57)
  else if 'A' ≤ c ∧ c ≤ 'F' then some (c.toNat - 0x37)
  else none

theorem value?_digit {n : Nat} (h : n < 16) : value? (digit n) = some n := by
  have all : ∀ k : Fin 16, value? (digit k) = some k.val := by decide
  exact all ⟨n, h⟩

/-! ## 2. Whole numbers -/

/-- The digits of a number, most significant first. -/
def digits (n : Nat) : List Char :=
  if n < 16 then [digit n] else digits (n / 16) ++ [digit (n % 16)]

/-- The digits of a number after as many zeros as fill the width. A
number too long for the width is written in full. -/
def padded (width n : Nat) : List Char :=
  List.replicate (width - (digits n).length) '0' ++ digits n

/-- The number that digits spell; other characters count as zero. -/
def ofDigits (cs : List Char) : Nat :=
  cs.foldl (fun n c => 16 * n + (value? c).getD 0) 0

theorem ofDigits_append_singleton (cs : List Char) (c : Char) :
    ofDigits (cs ++ [c]) = 16 * ofDigits cs + (value? c).getD 0 := by
  simp [ofDigits]

theorem ofDigits_digits (n : Nat) : ofDigits (digits n) = n := by
  induction n using Nat.strongRecOn with
  | ind n ih =>
    rw [digits]
    split
    · next h => simp [ofDigits, value?_digit h]
    · next h =>
      rw [ofDigits_append_singleton, ih (n / 16) (by omega),
        value?_digit (Nat.mod_lt n (by decide)), Option.getD_some]
      omega

/-- Every character of a number's digits is a hexadecimal digit. -/
theorem isSome_value?_of_mem_digits {n : Nat} {c : Char} (h : c ∈ digits n) :
    (value? c).isSome := by
  induction n using Nat.strongRecOn with
  | ind n ih =>
    rw [digits] at h
    split at h
    · next hn =>
      rw [List.mem_singleton.1 h, value?_digit hn]
      rfl
    · next hn =>
      rcases List.mem_append.1 h with h | h
      · exact ih (n / 16) (by omega) h
      · rw [List.mem_singleton.1 h, value?_digit (Nat.mod_lt n (by decide))]
        rfl

/-- A number of two digits or fewer, after zeros up to four places. -/
theorem padded_four {n : Nat} (h : n < 0x100) :
    padded 4 n = ['0', '0', digit (n / 16), digit (n % 16)] := by
  have zero : digit 0 = '0' := by decide
  by_cases small : n < 16
  · rw [padded, digits, if_pos small, Nat.div_eq_of_lt small, Nat.mod_eq_of_lt small, zero]
    rfl
  · rw [padded, digits, if_neg small, digits, if_pos (by omega)]
    rfl

end ScriptSyntax.Hex
