/-
ScriptSyntax.Proofs.Numeral.Reading — the values of number tokens, read as
numerals.

A number token is written in digits, periods and a minus sign, so none of
the words for infinity and for what is no number can come of it, and no
exponent either. What is left is digits on one side of a period or on
both, and that is a numeral just if there is a digit.

* `ofChars?_eq_decimal?` — a text that goes on with a digit or a period
  behind its sign is read as digits.
* `decimal?_append` — where digits end, a period and an exponent may
  follow.
* `ofChars?_of_isDecimal`, `ofChars?_of_isFraction` — what the pieces of a
  run are read as.
-/
import ScriptSyntax.Numeral.Decimal
import ScriptSyntax.Proofs.Token.WellFormed

namespace ScriptSyntax.Numeral

open Vocabulary Lexeme

/-! ## 1. Words begin with letters -/

/-- Digits and periods have no capital form. -/
theorem toLower_of_isNumeric {c : Char} (h : isNumeric c = true) : c.toLower = c := by
  have top : c.val ≤ '9'.val := by
    rcases Bool.or_eq_true_iff.1 h with digit | period
    · exact of_decide_eq_true (Bool.and_eq_true_iff.1 digit).2
    · rw [eq_of_beq period]
      decide
  have below : ¬ (c.val ≥ 'A'.val ∧ c.val ≤ 'Z'.val) := fun upper =>
    absurd (UInt32.le_trans upper.1 top) (by decide)
  exact dif_neg below

/-- A text that begins with a digit or a period is no word, in any case of
its letters. -/
theorem ofChars?_eq_decimal? {cs : List Char}
    (start : ∀ c ∈ (splitSign cs).2.head?, isNumeric c = true) :
    ofChars? cs = decimal? (splitSign cs).1 (splitSign cs).2 := by
  cases split : splitSign cs with
  | mk negative body =>
    have no_word {word : List Char} (letter : ∀ c ∈ word.head?, isNumeric c = false)
        (ne : word ≠ []) : body.map Char.toLower ≠ word := by
      rintro rfl
      obtain ⟨c, rest, rfl⟩ := List.exists_cons_of_ne_nil (List.map_eq_nil_iff.not.1 ne)
      have numeric : isNumeric c = true := start c (by rw [split]; rfl)
      have not_numeric := letter c.toLower rfl
      rw [toLower_of_isNumeric numeric, numeric] at not_numeric
      cases not_numeric
    have finite : body.map Char.toLower ∉ infinityWords := by
      simp only [infinityWords, List.mem_cons, List.not_mem_nil, or_false, not_or]
      exact ⟨no_word (by simp; decide) (List.cons_ne_nil _ _),
        no_word (by simp; decide) (List.cons_ne_nil _ _)⟩
    have number : body.map Char.toLower ≠ nanWord :=
      no_word (by simp [nanWord]; decide) (List.cons_ne_nil _ _)
    rw [ofChars?, split]
    simp only [if_neg finite, if_neg number]

/-! ## 2. Digits, and what may follow them -/

/-- Digits are read to their end, and a fraction and an exponent behind
them. -/
theorem decimal?_append {whole after : List Char} (inside : ∀ c ∈ whole, c.isDigit = true)
    (stop : EndsBefore Char.isDigit after.head?) (negative : Bool) :
    decimal? negative (whole ++ after)
      = if whole.isEmpty && (splitFraction after).1.isEmpty then none
        else (exponent? (splitFraction after).2).map fun power =>
          .decimal negative (ofDigits (whole ++ (splitFraction after).1))
            (power - (splitFraction after).1.length) := by
  have taken := takeWhile_append_of_endsBefore inside stop
  have left : (whole ++ after).dropWhile Char.isDigit = after := by
    have parts := List.takeWhile_append_dropWhile (p := Char.isDigit) (l := whole ++ after)
    rwa [taken, List.append_cancel_left_eq] at parts
  rw [decimal?, taken, left]

/-- A fraction without an exponent is a period and the digits behind
it. -/
theorem splitFraction_period {digits : List Char} (inside : ∀ c ∈ digits, c.isDigit = true) :
    splitFraction ('.' :: digits) = (digits, []) := by
  have taken : digits.takeWhile Char.isDigit = digits := List.takeWhile_eq_self_iff.2 inside
  have left : digits.dropWhile Char.isDigit = [] := List.dropWhile_eq_nil_iff.2 inside
  rw [splitFraction, taken, left]

theorem endsBefore_fraction {fraction : List Char} (h : fraction = [] ∨ IsFraction fraction) :
    EndsBefore Char.isDigit fraction.head? := by
  rcases h with rfl | ⟨digits, rfl, -⟩
  · exact nofun
  · rintro c ⟨rfl⟩
    rfl

/-- Digits and a fraction or none are a numeral, if there is a digit. -/
theorem exists_decimal?_eq_some {whole fraction : List Char}
    (inside : ∀ c ∈ whole, c.isDigit = true) (tail : fraction = [] ∨ IsFraction fraction)
    (some_digit : whole = [] → fraction ≠ [] ∧ fraction ≠ ['.']) (negative : Bool) :
    ∃ digits exponent,
      decimal? negative (whole ++ fraction) = some (.decimal negative digits exponent) := by
  rw [decimal?_append inside (endsBefore_fraction tail)]
  rcases tail with rfl | ⟨digits, rfl, digits_ok⟩
  · have here : whole.isEmpty = false := by simpa using fun empty => (some_digit empty).1
    rw [here]
    exact ⟨_, _, rfl⟩
  · have here : (whole.isEmpty && digits.isEmpty) = false := by
      simpa using fun empty => (some_digit empty).2
    rw [splitFraction_period digits_ok, here]
    exact ⟨_, _, rfl⟩

/-! ## 3. The pieces of a run -/

theorem splitSign_of_isDigit {c : Char} (h : c.isDigit = true) (rest : List Char) :
    splitSign (c :: rest) = (false, c :: rest) := by
  unfold splitSign
  split
  · next eq =>
    rw [(List.cons.inj eq).1] at h
    cases h
  · next eq =>
    rw [(List.cons.inj eq).1] at h
    cases h
  · rfl

/-- The first piece of a run is a numeral, and negative just if there is
a minus sign. -/
theorem ofChars?_of_isDecimal {value : List Char} (h : IsDecimal value) :
    ∃ digits exponent,
      ofChars? value = some (.decimal (value.head? == some '-') digits exponent) := by
  obtain ⟨sign, whole, fraction, rfl, sign_eq, ne, inside, tail⟩ := h
  obtain ⟨c, rest, rfl⟩ := List.exists_cons_of_ne_nil ne
  have digit := inside c List.mem_cons_self
  have split : splitSign (sign ++ (c :: rest) ++ fraction)
      = ((sign ++ (c :: rest) ++ fraction).head? == some '-', c :: rest ++ fraction) := by
    rcases sign_eq with rfl | rfl
    · have other : (c == '-') = false := by
        rw [beq_eq_false_iff_ne]
        rintro rfl
        cases digit
      simpa [other] using splitSign_of_isDigit digit (rest ++ fraction)
    · rfl
  rw [ofChars?_eq_decimal?, split]
  · exact exists_decimal?_eq_some inside tail (fun empty => absurd empty ne) _
  · rw [split]
    rintro d ⟨rfl⟩
    exact isNumeric_of_isDigit digit

theorem ne_nil_of_isFraction {value : List Char} (h : IsFraction value) : value ≠ [] := by
  obtain ⟨digits, rfl, -⟩ := h
  exact List.cons_ne_nil _ _

/-- A later piece of a run is a numeral unless it is a period alone, and
never negative. -/
theorem ofChars?_of_isFraction {value : List Char} (h : IsFraction value) (ne : value ≠ ['.']) :
    ∃ digits exponent, ofChars? value = some (.decimal false digits exponent) := by
  have inside : ∀ c ∈ ([] : List Char), c.isDigit = true := by simp
  have read := exists_decimal?_eq_some inside (.inr h)
    (fun _ => ⟨ne_nil_of_isFraction h, ne⟩) false
  obtain ⟨digits, rfl, -⟩ := h
  rw [ofChars?_eq_decimal?]
  · exact read
  · rintro c ⟨rfl⟩
    rfl

theorem ofChars?_period : ofChars? ['.'] = none := by
  decide

/-- The value of a number token is a numeral unless it is a period alone,
and negative just if it begins with a minus sign. -/
theorem ofChars?_of_isNumeral {value : List Char} (h : IsNumeral value) (ne : value ≠ ['.']) :
    ∃ digits exponent,
      ofChars? value = some (.decimal (value.head? == some '-') digits exponent) := by
  rcases h with decimal | fraction
  · exact ofChars?_of_isDecimal decimal
  · have read := ofChars?_of_isFraction fraction ne
    obtain ⟨digits, rfl, -⟩ := fraction
    exact read

end ScriptSyntax.Numeral
