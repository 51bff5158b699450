/-
ScriptSyntax.Proofs.Json.Numbers — numbers are read just if they are
numbers of the grammar.

A number has no mark at its end, so how much of a text it takes depends on
what follows. Each part is read as far as it goes: what is read is a
number (`exists_number_of_readNumber`), and all of a number is read if the
text behind it does not go on with it (`readNumber_of_isNumber`).
-/
import ScriptSyntax.Proofs.Json.Literals

namespace ScriptSyntax.Json

open Vocabulary

/-! ## 1. Where a number may end -/

/-- The characters that a number may have behind a digit. -/
def continuesNumber (c : Char) : Bool :=
  c.isDigit || c == '.' || c == 'e' || c == 'E'

/-- Whether a number may end before a text. -/
def EndsNumber (after : List Char) : Prop :=
  EndsBefore continuesNumber after.head?

/-- A run of a class may end where one of a larger class may. -/
theorem endsBefore_mono {small large : Char → Bool} {next : Option Char}
    (h : EndsBefore large next) (within : ∀ c, small c = true → large c = true) :
    EndsBefore small next := by
  intro c hc
  have outside := h c hc
  cases inside : small c with
  | false => rfl
  | true => rw [within c inside] at outside; cases outside

theorem endsBefore_iff {inClass : Char → Bool} {next : Option Char} :
    EndsBefore inClass next ↔ ¬ next.any inClass = true := by
  cases next <;> simp [EndsBefore]

/-! ## 2. Digits -/

theorem isDigits_cons {c : Char} {digits : List Char} :
    IsDigits (c :: digits) ↔ c.isDigit = true ∧ ∀ d ∈ digits, d.isDigit = true := by
  simp [IsDigits]

/-- The longest run of digits is read, and it must not be empty. -/
theorem readDigits_eq_ok_iff {cs digits rest : List Char} :
    readDigits cs = .ok (digits, rest)
      ↔ cs = digits ++ rest ∧ IsDigits digits ∧ EndsBefore Char.isDigit rest.head? := by
  constructor
  · intro h
    cases cs with
    | nil => cases h
    | cons c tail =>
      rw [readDigits] at h
      split at h
      · next digit =>
        cases h
        obtain ⟨after, split, stop⟩ := exists_takeWhile_append Char.isDigit tail
        have left : tail.dropWhile Char.isDigit = after := by
          have whole := List.takeWhile_append_dropWhile (p := Char.isDigit) (l := tail)
          exact List.append_cancel_left (whole.trans split)
        rw [left, List.cons_append, ← split]
        exact ⟨rfl, isDigits_cons.2 ⟨digit, fun d hd => List.mem_takeWhile_imp hd⟩, stop⟩
      · cases h
  · rintro ⟨rfl, formed, stop⟩
    obtain ⟨c, digits, rfl⟩ := List.exists_cons_of_ne_nil formed.1
    obtain ⟨digit, inside⟩ := isDigits_cons.1 formed
    have run := takeWhile_append_of_endsBefore inside stop
    have left : (digits ++ rest).dropWhile Char.isDigit = rest := by
      have whole := List.takeWhile_append_dropWhile (p := Char.isDigit) (l := digits ++ rest)
      rwa [run, List.append_cancel_left_eq] at whole
    rw [List.cons_append, readDigits, if_pos digit, run, left]

/-- Digits before the period are read as far as they go, and a zero is
not read with others behind it. -/
theorem readWhole_eq_ok_iff {cs whole rest : List Char} :
    readWhole cs = .ok (whole, rest)
      ↔ cs = whole ++ rest ∧ IsWhole whole ∧ EndsBefore Char.isDigit rest.head? := by
  constructor
  · intro h
    unfold readWhole at h
    split at h
    · cases h
    · next c tail =>
      split at h
      · next zero =>
        subst zero
        split at h
        · cases h
        · next stop =>
          cases h
          exact ⟨rfl, ⟨isDigits_cons.2 ⟨rfl, by simp⟩, fun _ => rfl⟩, endsBefore_iff.2 stop⟩
      · next other =>
        obtain ⟨split, formed, stop⟩ := readDigits_eq_ok_iff.1 h
        refine ⟨split, ⟨formed, fun zero => ?_⟩, stop⟩
        obtain ⟨d, digits, rfl⟩ := List.exists_cons_of_ne_nil formed.1
        obtain rfl : d = '0' := by simpa using zero
        exact absurd (List.cons.inj split).1 other
  · rintro ⟨rfl, ⟨formed, alone⟩, stop⟩
    obtain ⟨c, digits, rfl⟩ := List.exists_cons_of_ne_nil formed.1
    by_cases zero : c = '0'
    · obtain ⟨-, rfl⟩ := List.cons.inj (alone (congrArg some zero))
      rw [List.cons_append, List.nil_append, readWhole, if_pos zero,
        if_neg (endsBefore_iff.1 stop)]
    · rw [List.cons_append, readWhole, if_neg zero]
      exact readDigits_eq_ok_iff.2 ⟨rfl, formed, stop⟩

/-! ## 3. What may be left out -/

theorem fraction_of_readFraction {cs digits rest : List Char}
    (h : readFraction cs = .ok (digits, rest)) :
    ∃ fraction, cs = fraction ++ rest ∧ (fraction = [] ∨ IsFractional fraction) := by
  unfold readFraction at h
  split at h
  · cases h
    exact ⟨[], rfl, .inl rfl⟩
  · split at h
    · next period =>
      obtain ⟨rfl, formed, -⟩ := readDigits_eq_ok_iff.1 h
      exact ⟨'.' :: digits, by rw [period, List.cons_append], .inr ⟨digits, rfl, formed⟩⟩
    · cases h
      exact ⟨[], rfl, .inl rfl⟩

theorem readFraction_append {fraction after : List Char}
    (formed : fraction = [] ∨ IsFractional fraction) (stop : EndsBefore isNumeric after.head?) :
    ∃ digits, readFraction (fraction ++ after) = .ok (digits, after) := by
  rcases formed with rfl | ⟨digits, rfl, formed⟩
  · refine ⟨[], ?_⟩
    cases after with
    | nil => rfl
    | cons c after =>
      have other : c ≠ '.' := by
        rintro rfl
        exact absurd (stop '.' rfl) (by decide)
      rw [List.nil_append, readFraction, if_neg other]
  · refine ⟨digits, ?_⟩
    rw [List.cons_append, readFraction, if_pos rfl]
    have stop_digits : EndsBefore Char.isDigit after.head? :=
      endsBefore_mono stop fun c digit => by simp [isNumeric, digit]
    exact readDigits_eq_ok_iff.2 ⟨rfl, formed, stop_digits⟩

/-- A sign is split off where there is one. -/
theorem exists_sign (cs : List Char) :
    ∃ sign, cs = sign ++ (Numeral.splitSign cs).2
      ∧ (sign = [] ∨ sign = ['+'] ∨ sign = ['-']) := by
  unfold Numeral.splitSign
  split
  · exact ⟨['-'], rfl, .inr (.inr rfl)⟩
  · exact ⟨['+'], rfl, .inr (.inl rfl)⟩
  · exact ⟨[], rfl, .inl rfl⟩

theorem splitSign_append {sign digits : List Char}
    (signed : sign = [] ∨ sign = ['+'] ∨ sign = ['-']) (formed : IsDigits digits)
    (after : List Char) :
    (Numeral.splitSign (sign ++ (digits ++ after))).2 = digits ++ after := by
  obtain ⟨c, digits, rfl⟩ := List.exists_cons_of_ne_nil formed.1
  have digit := (isDigits_cons.1 formed).1
  rcases signed with rfl | rfl | rfl
  · unfold Numeral.splitSign
    split
    · next eq =>
      rw [(List.cons.inj eq).1] at digit
      cases digit
    · next eq =>
      rw [(List.cons.inj eq).1] at digit
      cases digit
    · rfl
  · rfl
  · rfl

theorem exponent_of_readPower {cs rest : List Char} {power : Int}
    (h : readPower cs = .ok (power, rest)) :
    ∃ exponent, cs = exponent ++ rest ∧ (exponent = [] ∨ IsExponent exponent) := by
  unfold readPower at h
  split at h
  · cases h
    exact ⟨[], rfl, .inl rfl⟩
  · next c tail =>
    split at h
    · next letter =>
      split at h
      · cases h
      · next digits after found =>
        simp only [Except.ok.injEq, Prod.mk.injEq] at h
        obtain ⟨sign, split, signed⟩ := exists_sign tail
        obtain ⟨eq, formed, -⟩ := readDigits_eq_ok_iff.1 found
        refine ⟨c :: (sign ++ digits), ?_, .inr ⟨c, sign, digits, rfl, letter, signed, formed⟩⟩
        rw [← h.2, List.cons_append, List.append_assoc, ← eq, ← split]
    · cases h
      exact ⟨[], rfl, .inl rfl⟩

theorem readPower_append {exponent after : List Char}
    (formed : exponent = [] ∨ IsExponent exponent) (stop : EndsNumber after) :
    ∃ power, readPower (exponent ++ after) = .ok (power, after) := by
  rcases formed with rfl | ⟨letter, sign, digits, rfl, listed, signed, formed⟩
  · refine ⟨0, ?_⟩
    cases after with
    | nil => rfl
    | cons c after =>
      have other : ¬ (c = 'e' ∨ c = 'E') := by
        rintro (rfl | rfl)
        · exact absurd (stop 'e' rfl) (by decide)
        · exact absurd (stop 'E' rfl) (by decide)
      rw [List.nil_append, readPower, if_neg other]
  · have stop_digits : EndsBefore Char.isDigit after.head? :=
      endsBefore_mono stop fun c digit => by simp [continuesNumber, digit]
    have found : readDigits (digits ++ after) = .ok (digits, after) :=
      readDigits_eq_ok_iff.2 ⟨rfl, formed, stop_digits⟩
    rw [List.cons_append, List.append_assoc, readPower, if_pos listed,
      splitSign_append signed formed, found]
    exact ⟨_, rfl⟩

/-! ## 4. Whole numbers -/

/-- What is read is a number. -/
theorem exists_number_of_readNumber {c : Char} {cs rest : List Char} {parts : NumberParts}
    (h : readNumber c cs = .ok (parts, rest)) :
    ∃ number, c :: cs = number ++ rest ∧ IsNumber number := by
  obtain ⟨⟨whole, cs₁⟩, found_whole, h⟩ := of_bind_eq_ok h
  obtain ⟨⟨fraction, cs₂⟩, found_fraction, h⟩ := of_bind_eq_ok h
  obtain ⟨⟨power, cs₃⟩, found_power, h⟩ := of_bind_eq_ok h
  cases h
  obtain ⟨unsigned, whole_formed, -⟩ := readWhole_eq_ok_iff.1 found_whole
  obtain ⟨fraction_text, rfl, fraction_formed⟩ := fraction_of_readFraction found_fraction
  obtain ⟨exponent_text, rfl, exponent_formed⟩ := exponent_of_readPower found_power
  have signed : ∃ sign, c :: cs = sign ++ (whole ++ (fraction_text ++ (exponent_text ++ rest)))
      ∧ (sign = [] ∨ sign = ['-']) := by
    split at unsigned
    · next minus => exact ⟨['-'], by rw [minus, unsigned, List.singleton_append], .inr rfl⟩
    · exact ⟨[], unsigned, .inl rfl⟩
  obtain ⟨sign, split, signed⟩ := signed
  exact ⟨sign ++ (whole ++ (fraction_text ++ exponent_text)), by simp [split],
    sign, whole, fraction_text, exponent_text, rfl, signed, whole_formed, fraction_formed,
    exponent_formed⟩

/-- A number is read whole wherever it may end. -/
theorem readNumber_of_isNumber {number : List Char} (formed : IsNumber number) :
    ∃ c tail, number = c :: tail ∧ (c = '-' || c.isDigit) = true
      ∧ ∀ {after}, EndsNumber after →
        ∃ parts, readNumber c (tail ++ after) = .ok (parts, after) := by
  obtain ⟨sign, whole, fraction, exponent, rfl, signed, whole_formed, fraction_formed,
    exponent_formed⟩ := formed
  have found (c : Char) (tail : List Char)
      (unsigned : (if c = '-' then tail else c :: tail) = whole ++ (fraction ++ exponent))
      {after : List Char} (stop : EndsNumber after) :
      ∃ parts, readNumber c (tail ++ after) = .ok (parts, after) := by
    -- Each part stops the one before it, or is missing, and then the next one does.
    have stop_fraction : EndsBefore isNumeric (exponent ++ after).head? := by
      rcases exponent_formed with rfl | ⟨letter, _, _, rfl, rfl | rfl, -⟩
      · exact endsBefore_mono stop fun c numeric => by simp_all [isNumeric, continuesNumber]
      · simp [EndsBefore, isNumeric]
      · simp [EndsBefore, isNumeric]
    have stop_whole : EndsBefore Char.isDigit (fraction ++ (exponent ++ after)).head? := by
      rcases fraction_formed with rfl | ⟨digits, rfl, -⟩
      · exact endsBefore_mono stop_fraction fun c digit => by simp [isNumeric, digit]
      · simp [EndsBefore]
    obtain ⟨power, found_power⟩ := readPower_append exponent_formed stop
    obtain ⟨digits, found_fraction⟩ := readFraction_append fraction_formed stop_fraction
    have found_whole := readWhole_eq_ok_iff.2 ⟨rfl, whole_formed, stop_whole⟩
    have split : (if c = '-' then tail ++ after else c :: (tail ++ after))
        = whole ++ (fraction ++ (exponent ++ after)) := by
      simp only [← List.append_assoc, ← unsigned]
      split <;> simp
    refine ⟨⟨whole, digits, power⟩, ?_⟩
    rw [readNumber, split, found_whole]
    show (readFraction _ >>= _) = _
    rw [found_fraction]
    show (readPower _ >>= _) = _
    rw [found_power]
    rfl
  rcases signed with rfl | rfl
  · obtain ⟨c, later, rfl⟩ := List.exists_cons_of_ne_nil whole_formed.1.1
    have digit := (isDigits_cons.1 whole_formed.1).1
    have plain : c ≠ '-' := by
      rintro rfl
      cases digit
    exact ⟨c, later ++ (fraction ++ exponent), rfl, by simp [digit], found c _ (by simp [plain])⟩
  · exact ⟨'-', whole ++ (fraction ++ exponent), rfl, rfl, found '-' _ (by simp)⟩

end ScriptSyntax.Json
