/-
ScriptSyntax.Proofs.Numeral.Grammar — which texts are numerals, and what
number a decimal is.

The grammar says of each part of a numeral how it is written and what it is
worth, and is not told how a text is taken apart.

* `IsWritten` — a sign or none, and behind it a word for infinity or for
  what is no number, or a decimal.
* `IsDecimalText` — significand and exponent, with the numbers that they
  are worth.
* `isSome_ofChars?_iff` — the numerals that are read are those that are
  written so.
* `exists_ofChars?_of_isDecimalText` — and a decimal is read as its number,
  which the period and the saved digits of an exponent do not change.
-/
import ScriptSyntax.Proofs.Numeral.Reading
import Mathlib.Algebra.Order.Field.Power
import Mathlib.Algebra.Order.Field.Rat
import Mathlib.Data.List.Forall2
import Mathlib.Data.Nat.Digits.Defs
import Mathlib.Tactic.FieldSimp
import Mathlib.Tactic.Positivity
import Mathlib.Tactic.Ring

namespace ScriptSyntax.Numeral

open Vocabulary Lexeme

/-! ## 1. The grammar -/

/-- The number that decimal digits spell, of which the last is worth
least. -/
def digitsValue (digits : List Char) : Nat :=
  Nat.ofDigits 10 (digits.reverse.map digitValue)

/-- A sign or none, and whether it is a minus. -/
inductive IsSign : List Char → Bool → Prop where
  | none : IsSign [] false
  | plus : IsSign ['+'] false
  | minus : IsSign ['-'] true

/-- A significand and its number: digits, with a period among them, before
or behind them, or with none. -/
inductive IsSignificand : List Char → ℚ → Prop where
  | whole {digits : List Char} :
    digits ≠ [] → (∀ c ∈ digits, c.isDigit = true) → IsSignificand digits (digitsValue digits)
  | fractional {whole fraction : List Char} :
    whole ++ fraction ≠ [] → (∀ c ∈ whole ++ fraction, c.isDigit = true) →
      IsSignificand (whole ++ '.' :: fraction)
        (digitsValue whole + digitsValue fraction / 10 ^ fraction.length)

/-- An exponent and its number, which is zero where there is none. -/
inductive IsExponent : List Char → Int → Prop where
  | none : IsExponent [] 0
  | some {letter : Char} {sign digits : List Char} {negative : Bool} :
    letter = 'e' ∨ letter = 'E' → IsSign sign negative → digits ≠ [] →
      (∀ c ∈ digits, c.isDigit = true) →
      IsExponent (letter :: (sign ++ digits))
        (if negative then -(digitsValue digits : Int) else digitsValue digits)

/-- A decimal: whether it has a minus sign, its significand, and its
exponent. -/
inductive IsDecimalText : List Char → Bool → ℚ → Int → Prop where
  | mk {sign digits exponent : List Char} {negative : Bool} {significand : ℚ} {power : Int} :
    IsSign sign negative → IsSignificand digits significand → IsExponent exponent power →
      IsDecimalText (sign ++ (digits ++ exponent)) negative significand power

/-- The words that stand for infinity and for what is no number. -/
def words : List (List Char) :=
  [['i', 'n', 'f'], ['i', 'n', 'f', 'i', 'n', 'i', 't', 'y'], ['n', 'a', 'n']]

/-- Whether a text is a word with each of its letters in either case. -/
def SpellsWord (word text : List Char) : Prop :=
  List.Forall₂ (fun letter c => c = letter ∨ c = letter.toUpper) word text

/-- Whether a text is a numeral. -/
inductive IsWritten : List Char → Prop where
  | word {sign word text : List Char} {negative : Bool} :
    IsSign sign negative → word ∈ words → SpellsWord word text → IsWritten (sign ++ text)
  | decimal {text : List Char} {negative : Bool} {significand : ℚ} {power : Int} :
    IsDecimalText text negative significand power → IsWritten text

/-! ## 2. Digits -/

theorem digitsValue_append (digits more : List Char) :
    digitsValue (digits ++ more) = digitsValue digits * 10 ^ more.length + digitsValue more := by
  simp only [digitsValue, List.reverse_append, List.map_append, Nat.ofDigits_append,
    List.length_map, List.length_reverse]
  ring

theorem digitsValue_append_singleton (digits : List Char) (c : Char) :
    digitsValue (digits ++ [c]) = 10 * digitsValue digits + digitValue c := by
  simp [digitsValue, Nat.ofDigits_cons, Nat.add_comm]

theorem ofDigits_eq (digits : List Char) : ofDigits digits = digitsValue digits := by
  induction digits using List.reverseRecOn with
  | nil => rfl
  | append_singleton digits c ih =>
    rw [digitsValue_append_singleton, ← ih, ofDigits, List.foldl_append]
    rfl

/-- An exponent of sixteen bits is read to its last digit. -/
theorem exponentOfDigits_eq {digits : List Char} (small : digitsValue digits < 0x10000) :
    exponentOfDigits digits = digitsValue digits := by
  induction digits using List.reverseRecOn with
  | nil => rfl
  | append_singleton digits c ih =>
    rw [digitsValue_append_singleton] at small ⊢
    have shorter : digitsValue digits < 0x10000 := by omega
    have step : exponentOfDigits (digits ++ [c])
        = if exponentOfDigits digits < 0x10000 then 10 * exponentOfDigits digits + digitValue c
          else exponentOfDigits digits := by
      rw [exponentOfDigits, List.foldl_append]
      rfl
    rw [step, ih shorter, if_pos shorter]

/-! ## 3. Letters in either case -/

theorem toNat_toLower (c : Char) :
    c.toLower.toNat = if 65 ≤ c.toNat ∧ c.toNat ≤ 90 then c.toNat + 32 else c.toNat := by
  by_cases upper : c.val ≥ 'A'.val ∧ c.val ≤ 'Z'.val
  · have up : c.toLower = ⟨c.val + ('a'.val - 'A'.val), _⟩ := dif_pos upper
    have range : 65 ≤ c.toNat ∧ c.toNat ≤ 90 := upper
    rw [up, if_pos range]
    change (c.val + 32).toNat = c.toNat + 32
    rw [UInt32.toNat_add]
    change (c.toNat + 32) % 2 ^ 32 = _
    omega
  · have same : c.toLower = c := dif_neg upper
    have range : ¬ (65 ≤ c.toNat ∧ c.toNat ≤ 90) := upper
    rw [same, if_neg range]

theorem toNat_toUpper {c : Char} (lower : c.isLower = true) :
    c.toUpper.toNat + 32 = c.toNat ∧ 97 ≤ c.toNat ∧ c.toNat ≤ 122 := by
  have range : 97 ≤ c.toNat ∧ c.toNat ≤ 122 := by
    have both := Bool.and_eq_true_iff.1 lower
    exact ⟨of_decide_eq_true both.1, of_decide_eq_true both.2⟩
  have up : c.toUpper = ⟨c.val + ('A'.val - 'a'.val), _⟩ := dif_pos range
  have below : ('A'.val - 'a'.val).toNat = 2 ^ 32 - 32 := by decide
  refine ⟨?_, range⟩
  rw [up]
  change (c.val + ('A'.val - 'a'.val)).toNat + 32 = c.toNat
  rw [UInt32.toNat_add]
  change (c.toNat + ('A'.val - 'a'.val).toNat) % 2 ^ 32 + 32 = _
  omega

/-- What has a small letter for its small form is that letter or its
capital. -/
theorem toLower_eq_iff {c letter : Char} (lower : letter.isLower = true) :
    c.toLower = letter ↔ c = letter ∨ c = letter.toUpper := by
  have small := toNat_toLower c
  have capital := toNat_toUpper lower
  rw [← Char.toNat_inj, ← Char.toNat_inj, ← Char.toNat_inj]
  split at small <;> omega

theorem spellsWord_iff {word text : List Char} (lower : ∀ letter ∈ word, letter.isLower = true) :
    SpellsWord word text ↔ text.map Char.toLower = word := by
  induction word generalizing text with
  | nil => simp [SpellsWord]
  | cons letter word ih =>
    cases text with
    | nil => simp [SpellsWord]
    | cons c text =>
      have later : SpellsWord word text ↔ text.map Char.toLower = word :=
        ih fun l hl => lower l (List.mem_cons_of_mem _ hl)
      rw [SpellsWord, List.forall₂_cons, ← toLower_eq_iff (lower letter List.mem_cons_self),
        ← SpellsWord, later, List.map_cons, List.cons.injEq]

theorem isLower_of_mem_words {word : List Char} (listed : word ∈ words) :
    ∀ letter ∈ word, letter.isLower = true := by
  have each : ∀ word ∈ words, word.all Char.isLower = true := by decide
  exact List.all_eq_true.1 (each word listed)

/-! ## 4. What is read is a numeral -/

/-- A sign is split off where one is written. -/
theorem isSign_splitSign (cs : List Char) :
    ∃ sign, IsSign sign (splitSign cs).1 ∧ cs = sign ++ (splitSign cs).2 := by
  unfold splitSign
  split
  · exact ⟨['-'], .minus, rfl⟩
  · exact ⟨['+'], .plus, rfl⟩
  · exact ⟨[], .none, rfl⟩

theorem isExponent_of_exponent? {cs : List Char} (h : (exponent? cs).isSome) :
    ∃ power, IsExponent cs power := by
  cases cs with
  | nil => exact ⟨0, .none⟩
  | cons c rest =>
    rw [exponent?] at h
    split at h
    · next letter =>
      simp only at h
      split at h
      · next digits =>
        rw [Bool.and_eq_true, Bool.not_eq_true', List.isEmpty_eq_false_iff, List.all_eq_true]
          at digits
        obtain ⟨sign, is_sign, split⟩ := isSign_splitSign rest
        rw [split]
        exact ⟨_, .some letter is_sign digits.1 digits.2⟩
      · cases h
    · cases h

/-- What digits and a period were taken from, with what comes after. -/
theorem splitFraction_spec (cs : List Char) :
    (cs = (splitFraction cs).2 ∧ (splitFraction cs).1 = [])
      ∨ (cs = '.' :: (splitFraction cs).1 ++ (splitFraction cs).2
        ∧ ∀ c ∈ (splitFraction cs).1, c.isDigit = true) := by
  unfold splitFraction
  split
  · next rest =>
    refine .inr ⟨?_, fun _ => List.mem_takeWhile_imp⟩
    rw [List.cons_append, List.takeWhile_append_dropWhile]
  · exact .inl ⟨rfl, rfl⟩

theorem isDecimal_of_decimal? {negative : Bool} {cs : List Char}
    (h : (decimal? negative cs).isSome) :
    ∃ digits exponent significand power, cs = digits ++ exponent
      ∧ IsSignificand digits significand ∧ IsExponent exponent power := by
  have whole : ∀ c ∈ cs.takeWhile Char.isDigit, c.isDigit = true :=
    fun _ => List.mem_takeWhile_imp
  have split : cs = cs.takeWhile Char.isDigit ++ cs.dropWhile Char.isDigit :=
    List.takeWhile_append_dropWhile.symm
  rw [decimal?] at h
  generalize cs.takeWhile Char.isDigit = front at whole split h
  generalize cs.dropWhile Char.isDigit = after at split h
  split at h
  · cases h
  · next some_digit =>
    rw [Option.isSome_map] at h
    obtain ⟨power, is_exponent⟩ := isExponent_of_exponent? h
    rw [Bool.and_eq_true, List.isEmpty_iff, List.isEmpty_iff, not_and_or] at some_digit
    rcases splitFraction_spec after with ⟨same, none⟩ | ⟨parts, digits⟩
    · refine ⟨front, _, _, power, ?_, .whole ?_ whole, is_exponent⟩
      · rw [← same, split]
      · exact some_digit.resolve_right fun other => other none
    · refine ⟨front ++ '.' :: (splitFraction after).1, _, _, power, ?_, .fractional ?_ ?_,
        is_exponent⟩
      · rw [List.append_assoc, ← parts, split]
      · rw [Ne, List.append_eq_nil_iff, not_and_or]
        exact some_digit
      · intro c mem
        exact (List.mem_append.1 mem).elim (whole c) (digits c)

/-- The words are those that are looked for. -/
theorem mem_words_iff {word : List Char} : word ∈ words ↔ word ∈ infinityWords ∨ word = nanWord := by
  simp [words, infinityWords, nanWord, or_assoc]

/-- What is read as a numeral is written as one. -/
theorem isWritten_of_ofChars? {cs : List Char} (h : (ofChars? cs).isSome) : IsWritten cs := by
  obtain ⟨sign, is_sign, text⟩ := isSign_splitSign cs
  cases split : splitSign cs with
  | mk negative body =>
    rw [split] at is_sign text
    rw [text]
    by_cases listed : body.map Char.toLower ∈ words
    · exact .word is_sign listed ((spellsWord_iff (isLower_of_mem_words listed)).2 rfl)
    · rw [mem_words_iff, not_or] at listed
      rw [ofChars?, split] at h
      simp only [if_neg listed.1, if_neg listed.2] at h
      obtain ⟨digits, exponent, significand, power, rfl, is_significand, is_exponent⟩ :=
        isDecimal_of_decimal? h
      exact .decimal (.mk is_sign is_significand is_exponent)

/-! ## 5. Numerals are read -/

theorem splitSign_append {sign : List Char} {negative : Bool} (h : IsSign sign negative)
    {body : List Char} (bare : ∀ c ∈ body.head?, c ≠ '-' ∧ c ≠ '+') :
    splitSign (sign ++ body) = (negative, body) := by
  cases h with
  | plus => rfl
  | minus => rfl
  | none =>
    rw [List.nil_append]
    unfold splitSign
    split
    · exact absurd rfl (bare _ rfl).1
    · exact absurd rfl (bare _ rfl).2
    · rfl

/-- Words are read in any case of their letters. -/
theorem isSome_ofChars?_of_spellsWord {sign word text : List Char} {negative : Bool}
    (is_sign : IsSign sign negative) (listed : word ∈ words) (spelled : SpellsWord word text) :
    (ofChars? (sign ++ text)).isSome := by
  have small := (spellsWord_iff (isLower_of_mem_words listed)).1 spelled
  have bare : ∀ c ∈ text.head?, c ≠ '-' ∧ c ≠ '+' := by
    have letters : ∀ letter ∈ text.map Char.toLower, letter.isLower = true :=
      small ▸ isLower_of_mem_words listed
    intro c first
    have lower := letters _ (List.mem_map_of_mem (List.mem_of_head? first))
    constructor <;> rintro rfl <;> cases lower
  rw [ofChars?, splitSign_append is_sign bare]
  simp only [small]
  rcases mem_words_iff.1 listed with infinite | number
  · rw [if_pos infinite]
    rfl
  · rw [if_pos number]
    split <;> rfl

/-- A sign is no digit, so an exponent is split as it is written. -/
theorem exists_exponent? {cs : List Char} {power : Int} (h : IsExponent cs power) :
    ∃ read, exponent? cs = some read ∧ (power.natAbs < 0x10000 → read = power) := by
  cases h with
  | none => exact ⟨0, rfl, fun _ => rfl⟩
  | @some letter sign digits negative is_letter is_sign ne inside =>
    have bare : ∀ c ∈ digits.head?, c ≠ '-' ∧ c ≠ '+' := by
      intro c first
      have digit := inside c (List.mem_of_head? first)
      constructor <;> rintro rfl <;> cases digit
    have accepted : (!digits.isEmpty && digits.all Char.isDigit) = true := by
      rw [Bool.and_eq_true, Bool.not_eq_true', List.isEmpty_eq_false_iff, List.all_eq_true]
      exact ⟨ne, inside⟩
    refine ⟨if negative then -(exponentOfDigits digits : Int) else exponentOfDigits digits, ?_, ?_⟩
    · rw [exponent?, if_pos is_letter, splitSign_append is_sign bare]
      simp only [accepted, if_true]
    · intro small
      have small' : digitsValue digits < 0x10000 := by
        cases negative <;> simpa using small
      rw [exponentOfDigits_eq small']

/-- What an exponent begins with ends digits, and is no period. -/
theorem head?_of_isExponent {cs : List Char} {power : Int} (h : IsExponent cs power) :
    ∀ c ∈ cs.head?, c.isDigit = false ∧ c ≠ '.' := by
  cases h with
  | none => exact nofun
  | some letter =>
    rintro c ⟨rfl⟩
    rcases letter with rfl | rfl <;> decide

/-- A period, digits, and what ends them are taken apart again. -/
theorem splitFraction_append {digits after : List Char} (inside : ∀ c ∈ digits, c.isDigit = true)
    (stop : EndsBefore Char.isDigit after.head?) :
    splitFraction ('.' :: (digits ++ after)) = (digits, after) := by
  have taken := takeWhile_append_of_endsBefore inside stop
  have parts := List.takeWhile_append_dropWhile (p := Char.isDigit) (l := digits ++ after)
  rw [taken, List.append_cancel_left_eq] at parts
  rw [splitFraction, taken, parts]

theorem splitFraction_of_ne {cs : List Char} (plain : ∀ c ∈ cs.head?, c ≠ '.') :
    splitFraction cs = ([], cs) := by
  unfold splitFraction
  split
  · exact absurd rfl (plain _ rfl)
  · rfl

/-- A significand and an exponent are read as the number that they are
worth, if the exponent is one of sixteen bits. -/
theorem exists_decimal? {digits exponent : List Char} {significand : ℚ} {power : Int}
    (is_significand : IsSignificand digits significand) (is_exponent : IsExponent exponent power)
    (negative : Bool) :
    ∃ number scale, decimal? negative (digits ++ exponent) = some (.decimal negative number scale)
      ∧ (power.natAbs < 0x10000 → (number : ℚ) * 10 ^ scale = significand * 10 ^ power) := by
  obtain ⟨read, found, exact⟩ := exists_exponent? is_exponent
  have stop : EndsBefore Char.isDigit exponent.head? := fun c mem =>
    (head?_of_isExponent is_exponent c mem).1
  cases is_significand with
  | whole ne inside =>
    have none := splitFraction_of_ne fun c mem => (head?_of_isExponent is_exponent c mem).2
    have here : digits.isEmpty = false := List.isEmpty_eq_false_iff.2 ne
    refine ⟨digitsValue digits, read, ?_, fun small => by rw [exact small]⟩
    rw [decimal?_append inside stop, none, here, found]
    simp [ofDigits_eq]
  | @fractional whole fraction ne inside =>
    have before : ∀ c ∈ whole, c.isDigit = true := fun c mem => inside c (List.mem_append_left _ mem)
    have behind : ∀ c ∈ fraction, c.isDigit = true := fun c mem =>
      inside c (List.mem_append_right _ mem)
    have parts := splitFraction_append behind stop
    have here : (whole.isEmpty && fraction.isEmpty) = false := by
      rw [← Bool.not_eq_true, Bool.and_eq_true, List.isEmpty_iff, List.isEmpty_iff]
      exact fun empty => ne (by rw [empty.1, empty.2]; rfl)
    have period : EndsBefore Char.isDigit ('.' :: (fraction ++ exponent)).head? := by
      rintro c ⟨rfl⟩
      rfl
    refine ⟨digitsValue (whole ++ fraction), read - fraction.length, ?_, fun small => ?_⟩
    · rw [List.append_assoc, List.cons_append, decimal?_append before period, parts, here, found]
      simp [ofDigits_eq]
    · rw [exact small, digitsValue_append, zpow_sub₀ (by norm_num), zpow_natCast]
      push_cast
      field_simp

/-- A significand begins with a digit or a period, -/
theorem head?_of_isSignificand {digits : List Char} {significand : ℚ}
    (h : IsSignificand digits significand) (after : List Char) :
    ∀ c ∈ (digits ++ after).head?, isNumeric c = true := by
  cases h with
  | whole ne inside =>
    obtain ⟨c, digits, rfl⟩ := List.exists_cons_of_ne_nil ne
    rintro d ⟨rfl⟩
    exact isNumeric_of_isDigit (inside _ List.mem_cons_self)
  | @fractional whole fraction ne inside =>
    cases whole with
    | nil =>
      rintro d ⟨rfl⟩
      rfl
    | cons c whole =>
      rintro d ⟨rfl⟩
      exact isNumeric_of_isDigit (inside _ List.mem_cons_self)

/-- and so with no sign. -/
theorem ne_sign_of_isSignificand {digits : List Char} {significand : ℚ}
    (h : IsSignificand digits significand) (after : List Char) :
    ∀ c ∈ (digits ++ after).head?, c ≠ '-' ∧ c ≠ '+' := by
  intro c mem
  have numeric := head?_of_isSignificand h after c mem
  constructor <;> rintro rfl <;> cases numeric

/-- A decimal is read as its number, with the sign that it has. -/
theorem exists_ofChars?_of_isDecimalText {cs : List Char} {negative : Bool} {significand : ℚ}
    {power : Int} (h : IsDecimalText cs negative significand power) :
    ∃ number scale, ofChars? cs = some (.decimal negative number scale)
      ∧ (power.natAbs < 0x10000 → (number : ℚ) * 10 ^ scale = significand * 10 ^ power) := by
  cases h with
  | @mk sign digits exponent _ _ _ is_sign is_significand is_exponent =>
    have first := head?_of_isSignificand is_significand exponent
    have bare := ne_sign_of_isSignificand is_significand exponent
    have split := splitSign_append is_sign bare
    rw [ofChars?_eq_decimal? (by rw [split]; exact first), split]
    exact exists_decimal? is_significand is_exponent negative

/-- The numerals that are read are those that are written. -/
theorem isSome_ofChars?_iff (cs : List Char) : (ofChars? cs).isSome ↔ IsWritten cs := by
  refine ⟨isWritten_of_ofChars?, fun h => ?_⟩
  cases h with
  | word is_sign listed spelled => exact isSome_ofChars?_of_spellsWord is_sign listed spelled
  | decimal text =>
    obtain ⟨number, scale, found, -⟩ := exists_ofChars?_of_isDecimalText text
    rw [found]
    rfl

/-! ## 6. Decimals and their numbers -/

/-- The number that a decimal is. -/
def exactValue (negative : Bool) (significand : ℚ) (power : Int) : ℚ :=
  (if negative then -significand else significand) * 10 ^ power

/-- Without its sign a decimal is its significand, scaled. -/
theorem abs_exactValue {cs : List Char} {negative : Bool} {significand : ℚ} {power : Int}
    (h : IsDecimalText cs negative significand power) :
    |exactValue negative significand power| = significand * 10 ^ power := by
  have nonneg : 0 ≤ significand := by
    cases h with
    | mk _ is_significand _ =>
      cases is_significand with
      | whole => exact Nat.cast_nonneg _
      | fractional => positivity
  have scale : (0 : ℚ) < 10 ^ power := by positivity
  rw [exactValue, abs_mul, abs_of_pos scale]
  cases negative <;> simp [abs_of_nonneg nonneg]

/-- A decimal is negative just if it begins with a minus sign. -/
theorem head?_of_isDecimalText {cs : List Char} {negative : Bool} {significand : ℚ} {power : Int}
    (h : IsDecimalText cs negative significand power) : (cs.head? == some '-') = negative := by
  cases h with
  | @mk sign digits exponent _ _ _ is_sign is_significand is_exponent =>
    cases is_sign with
    | plus => rfl
    | minus => rfl
    | none =>
      have bare := ne_sign_of_isSignificand is_significand exponent
      rw [List.nil_append, beq_eq_false_iff_ne]
      exact fun minus => (bare '-' minus).1 rfl

end ScriptSyntax.Numeral
