/-
ScriptSyntax.Numeral.Decimal — numbers as they are written.

A numeral is an optional sign, then either the word `inf`, `infinity` or
`nan` in any case, or digits with at most one period among them and
perhaps an exponent. `Numeral.ofChars?` reads one, and
`Numeral.toBinary64` is the binary64 number nearest to it.
-/
import ScriptSyntax.Numeral.Binary64

namespace ScriptSyntax

/-- What a numeral stands for, exactly. -/
inductive Numeral where
  | nan
  | infinity (negative : Bool)
  /-- The whole number `digits` times ten to the power `exponent`. -/
  | decimal (negative : Bool) (digits : Nat) (exponent : Int)
  deriving DecidableEq

namespace Numeral

/-! ## 1. Digits -/

/-- What a decimal digit is worth. -/
def digitValue (c : Char) : Nat := c.toNat - '0'.toNat

/-- The number that decimal digits spell. -/
def ofDigits (cs : List Char) : Nat :=
  cs.foldl (fun n c => 10 * n + digitValue c) 0

/-- The number that the digits of an exponent spell. Digits are left out
once the number has passed sixteen bits: numbers that large differ by
nothing that binary64 can tell. -/
def exponentOfDigits (cs : List Char) : Nat :=
  cs.foldl (fun n c => if n < 0x10000 then 10 * n + digitValue c else n) 0

/-! ## 2. Reading -/

/-- Splits off a sign: whether it is a minus, and what comes after it. -/
def splitSign : List Char → Bool × List Char
  | '-' :: rest => (true, rest)
  | '+' :: rest => (false, rest)
  | cs => (false, cs)

/-- The power of ten given by the end of a numeral: nothing stands for
zero, and otherwise there must be the letter, perhaps a sign, and at
least one digit. -/
def exponent? : List Char → Option Int
  | [] => some 0
  | c :: rest =>
    if c = 'e' ∨ c = 'E' then
      let digits := (splitSign rest).2
      if !digits.isEmpty && digits.all Char.isDigit then
        let power : Int := exponentOfDigits digits
        some (if (splitSign rest).1 then -power else power)
      else none
    else none

/-- Splits off a period and the digits after it. -/
def splitFraction : List Char → List Char × List Char
  | '.' :: rest => (rest.takeWhile Char.isDigit, rest.dropWhile Char.isDigit)
  | cs => ([], cs)

/-- Reads digits, a fraction and an exponent. One digit there must be,
on either side of the period. -/
def decimal? (negative : Bool) (cs : List Char) : Option Numeral :=
  let whole := cs.takeWhile Char.isDigit
  let fraction := splitFraction (cs.dropWhile Char.isDigit)
  if whole.isEmpty && fraction.1.isEmpty then none
  else (exponent? fraction.2).map fun power =>
    .decimal negative (ofDigits (whole ++ fraction.1)) (power - fraction.1.length)

/-- The words for infinity, in lower case. -/
def infinityWords : List (List Char) :=
  [['i', 'n', 'f'], ['i', 'n', 'f', 'i', 'n', 'i', 't', 'y']]

/-- The word for what is not a number, in lower case. -/
def nanWord : List Char := ['n', 'a', 'n']

/-- Reads a numeral, which must be the whole text. -/
def ofChars? (cs : List Char) : Option Numeral :=
  let (negative, body) := splitSign cs
  let word := body.map Char.toLower
  if word ∈ infinityWords then some (.infinity negative)
  else if word = nanWord then some .nan
  else decimal? negative body

/-! ## 3. Rounding -/

/-- The binary64 number nearest to a numeral. The sign is kept, also by a
zero. -/
def toBinary64 : Numeral → Binary64
  | .nan => .nan
  | .infinity negative => .signed negative Magnitude.infinity
  | .decimal negative digits exponent =>
    .signed negative (Magnitude.ofScaled 10 digits exponent)

/-- The number that a text spells, if it spells one. -/
def read? (text : String) : Option Binary64 :=
  (ofChars? text.toList).map toBinary64

end Numeral

end ScriptSyntax
