/-
ScriptSyntax.Proofs.Token.WellFormed — which value a token of a kind may
have.

Most kinds fix the value, up to the choice of an operator; names, numbers
and strings do not, and each of them has a rule of its own.

* `TokenKind.spellings` — the values that a kind fixes.
* `IsNumeral` — the values of numbers: a decimal, or what is left of one
  behind a second period. `isDecimal_iff` and `isFraction_iff` say which
  pieces of a run of digits and periods these are.
* `Token.WellFormed` — the value of a token is one that its kind allows.
-/
import ScriptSyntax.Proofs.Lexeme.Cuts
import ScriptSyntax.Proofs.Lexeme.Sequence

namespace ScriptSyntax

open Vocabulary Lexeme

/-! ## 1. Kinds that fix their values -/

/-- The values that a token of a kind may have, where the kind fixes
them. -/
def TokenKind.spellings : TokenKind → List String
  | .number => []
  | .identifier => []
  | .string => []
  | .letWord => ["grant"]
  | .constWord => ["const"]
  | .funcWord => ["func"]
  | .ifWord => ["if"]
  | .elseWord => ["else"]
  | .forWord => ["for"]
  | .binaryOperator => ["+", "-", "*", "%", "/"]
  | .equals => ["="]
  | .comma => [","]
  | .colon => [":"]
  | .semicolon => [";"]
  | .dot => ["."]
  | .openParen => ["("]
  | .closeParen => [")"]
  | .openBrace => ["\x7b"]
  | .closeBrace => ["\x7d"]
  | .openBracket => ["["]
  | .closeBracket => ["]"]
  | .greater => [">"]
  | .lesser => ["<"]
  | .equalsCompare => ["is"]
  | .notEqualsCompare => ["!="]
  | .exclamation => ["!"]
  | .and => ["&&"]
  | .ampersand => ["&"]
  | .bar => ["|"]
  | .endOfFile => ["EndOfFile"]

/-! ## 2. Numerals -/

/-- A period, and digits after it or none. -/
def IsFraction (value : List Char) : Prop :=
  ∃ digits, value = '.' :: digits ∧ ∀ c ∈ digits, c.isDigit = true

/-- Digits, after a minus sign or not, and a fraction after them or
none. -/
def IsDecimal (value : List Char) : Prop :=
  ∃ sign whole fraction, value = sign ++ whole ++ fraction ∧ (sign = [] ∨ sign = ['-'])
    ∧ whole ≠ [] ∧ (∀ c ∈ whole, c.isDigit = true) ∧ (fraction = [] ∨ IsFraction fraction)

/-- The value of a number token. -/
def IsNumeral (value : List Char) : Prop :=
  IsDecimal value ∨ IsFraction value

theorem isNumeric_of_isDigit {c : Char} (h : c.isDigit = true) : isNumeric c = true := by
  simp [isNumeric, h]

theorem isDigit_of_isNumeric {c : Char} (h : isNumeric c = true) (plain : c ≠ '.') :
    c.isDigit = true := by
  simpa [isNumeric, plain] using h

theorem period_notMem_of_isDigit {digits : List Char} (h : ∀ c ∈ digits, c.isDigit = true) :
    '.' ∉ digits := by
  intro mem
  have := h '.' mem
  cases this

/-- Fractions are the numeric pieces that a run continues with. -/
theorem isFraction_iff {value : List Char} :
    IsFraction value ↔ IsContinuation value ∧ ∀ c ∈ value, isNumeric c = true := by
  constructor
  · rintro ⟨digits, rfl, inside⟩
    refine ⟨⟨digits, rfl, period_notMem_of_isDigit inside⟩, fun c hc => ?_⟩
    rcases List.mem_cons.1 hc with rfl | hc
    · rfl
    · exact isNumeric_of_isDigit (inside c hc)
  · rintro ⟨⟨digits, rfl, plain⟩, inside⟩
    refine ⟨digits, rfl, fun c hc => ?_⟩
    exact isDigit_of_isNumeric (inside c (List.mem_cons_of_mem _ hc)) fun h => plain (h ▸ hc)

/-- A numeric text with one period at most is digits, and a fraction or
none. -/
theorem exists_fraction {rest : List Char} (inside : ∀ c ∈ rest, isNumeric c = true)
    (once : rest.count '.' ≤ 1) :
    ∃ digits fraction, rest = digits ++ fraction ∧ (∀ c ∈ digits, c.isDigit = true)
      ∧ (fraction = [] ∨ IsFraction fraction) := by
  by_cases period : '.' ∈ rest
  · obtain ⟨digits, after, rfl, plain⟩ := List.eq_append_cons_of_mem period
    rw [List.count_append, List.count_cons_self] at once
    have plain' : '.' ∉ after := List.count_eq_zero.1 (by omega)
    have tail : IsFraction ('.' :: after) :=
      isFraction_iff.2 ⟨⟨after, rfl, plain'⟩, fun c hc => inside c (List.mem_append_right _ hc)⟩
    refine ⟨digits, '.' :: after, rfl, fun c hc => ?_, .inr tail⟩
    exact isDigit_of_isNumeric (inside c (List.mem_append_left _ hc)) fun h => plain (h ▸ hc)
  · refine ⟨rest, [], (List.append_nil rest).symm, fun c hc => ?_, .inl rfl⟩
    exact isDigit_of_isNumeric (inside c hc) fun h => period (h ▸ hc)

/-- Decimals are the runs with one period at most. -/
theorem isDecimal_iff {value : List Char} :
    IsDecimal value ↔ IsNumberRun value ∧ value.count '.' ≤ 1 := by
  constructor
  · rintro ⟨sign, whole, fraction, rfl, sign_eq, ne, inside, tail⟩
    obtain ⟨digit, rest, rfl⟩ := List.exists_cons_of_ne_nil ne
    have sign_count : sign.count '.' = 0 := by rcases sign_eq with rfl | rfl <;> rfl
    have whole_count := List.count_eq_zero.2 (period_notMem_of_isDigit inside)
    have tail_ok : (∀ c ∈ fraction, isNumeric c = true) ∧ fraction.count '.' ≤ 1 := by
      rcases tail with rfl | tail
      · exact ⟨nofun, by simp⟩
      · obtain ⟨⟨digits, rfl, plain⟩, numeric⟩ := isFraction_iff.1 tail
        exact ⟨numeric, by simp [List.count_eq_zero.2 plain]⟩
    refine ⟨⟨sign, digit, rest ++ fraction, by simp, sign_eq, inside digit (by simp), ?_⟩, ?_⟩
    · intro c hc
      rcases List.mem_append.1 hc with hc | hc
      · exact isNumeric_of_isDigit (inside c (List.mem_cons_of_mem _ hc))
      · exact tail_ok.1 c hc
    · rw [List.count_append, List.count_append, sign_count, whole_count]
      have := tail_ok.2
      omega
  · rintro ⟨⟨sign, digit, rest, rfl, sign_eq, digit_ok, inside⟩, once⟩
    have once' : rest.count '.' ≤ 1 := by
      rw [List.count_append, List.count_cons] at once
      omega
    obtain ⟨digits, fraction, rfl, digits_ok, tail⟩ := exists_fraction inside once'
    refine ⟨sign, digit :: digits, fraction, by simp, sign_eq, List.cons_ne_nil _ _, ?_, tail⟩
    intro c hc
    rcases List.mem_cons.1 hc with rfl | hc
    · exact digit_ok
    · exact digits_ok c hc

/-- A decimal begins with no period. -/
theorem head?_ne_of_isDecimal {value : List Char} (h : IsDecimal value) :
    value.head? ≠ some '.' := by
  obtain ⟨⟨sign, digit, rest, rfl, sign_eq, digit_ok, -⟩, -⟩ := isDecimal_iff.1 h
  rcases sign_eq with rfl | rfl
  · intro period
    obtain rfl : digit = '.' := Option.some.inj period
    cases digit_ok
  · nofun

/-- A run is cut into a decimal and fractions. -/
theorem isDecimal_of_isCut {run first : List Char} {later : List (List Char)}
    (valid : IsNumberRun run) (cut : IsCut run first later) :
    IsDecimal first ∧ ∀ piece ∈ later, IsFraction piece := by
  obtain ⟨sign, digit, rest, rfl, sign_eq, digit_ok, inside⟩ := valid
  have plain : '.' ∉ sign ++ [digit] := by
    rw [List.mem_append, not_or]
    refine ⟨by rcases sign_eq with rfl | rfl <;> decide, ?_⟩
    exact period_notMem_of_isDigit (by simpa using digit_ok)
  -- No cut falls into the sign and the first digit.
  have split := cut.splitPeriods_eq
  rw [List.append_cons, splitPeriods_append plain] at split
  obtain ⟨rfl, rfl⟩ := Prod.mk.inj split
  have parts := flatten_splitPeriods false rest
  constructor
  · refine isDecimal_iff.2 ⟨⟨sign, digit, (splitPeriods false rest).1, by simp, sign_eq,
      digit_ok, fun c hc => ?_⟩, cut.first_le⟩
    exact inside c (parts ▸ List.mem_append_left _ hc)
  · refine fun piece mem => isFraction_iff.2 ⟨cut.later_eq piece mem, fun c hc => ?_⟩
    exact inside c (parts ▸ List.mem_append_right _ (List.mem_flatten.2 ⟨piece, mem, hc⟩))

/-! ## 3. Well-formed tokens -/

namespace Token

/-- Whether the value of a token is one that its kind allows. -/
def WellFormed (token : Token) : Prop :=
  match token.kind with
  | .number => IsNumeral token.value.toList
  | .identifier => IsSymbol token.value.toList ∧ ∀ kind, (token.value, kind) ∉ keywords
  | .string => '"' ∉ token.value.toList
  | kind => token.value ∈ kind.spellings

theorem wellFormed_of_mem_spellings {value : String} {kind : TokenKind}
    (h : value ∈ kind.spellings) : WellFormed ⟨value, kind⟩ := by
  cases kind
  case number | identifier | string => cases h
  all_goals exact h

/-- Whether a token is a number that begins with a period, as only the
later pieces of a run do. -/
def Continues (token : Token) : Prop :=
  token.kind = .number ∧ token.value.toList.head? = some '.'

instance (token : Token) : Decidable token.Continues :=
  inferInstanceAs (Decidable (_ ∧ _))

theorem wellFormed_number {piece : List Char} (numeral : IsNumeral piece) :
    WellFormed ⟨String.ofList piece, .number⟩ := by
  simpa [WellFormed] using numeral

theorem wellFormed_string {body : List Char} (plain : '"' ∉ body) :
    WellFormed ⟨String.ofList body, .string⟩ := by
  simpa [WellFormed] using plain

theorem wellFormed_wordToken {letters : List Char} (symbol : IsSymbol letters) :
    (wordToken (String.ofList letters)).WellFormed := by
  cases found : keyword? (String.ofList letters) with
  | none =>
    rw [wordToken, found]
    exact ⟨by simpa using symbol, keyword?_eq_none_iff.1 found⟩
  | some kind =>
    have each : ∀ entry ∈ keywords, entry.1 ∈ entry.2.spellings := by decide
    rw [wordToken, found]
    exact wellFormed_of_mem_spellings (each _ (keyword?_eq_some_iff.1 found))

theorem wellFormed_mark {c : Char} {kind : TokenKind} (listed : (c, kind) ∈ marks) :
    WellFormed ⟨String.singleton c, kind⟩ := by
  have each : ∀ entry ∈ marks, String.singleton entry.1 ∈ entry.2.spellings := by decide
  exact wellFormed_of_mem_spellings (each _ listed)

/-- The tokens that a doubled sign stands for are well formed, if the one
that they assign to is. -/
theorem wellFormed_of_mem_adjustment {sign : Char} {previous : Option Token}
    (operator : String.singleton sign ∈ TokenKind.binaryOperator.spellings)
    (fits : ∀ target ∈ previous, target.WellFormed) :
    ∀ token ∈ adjustment sign previous, token.WellFormed := by
  cases previous with
  | none => exact nofun
  | some target =>
    have one : IsNumeral ['1'] :=
      .inl ⟨[], ['1'], [], rfl, .inl rfl, List.cons_ne_nil _ _,
        List.forall_mem_singleton.2 rfl, .inl rfl⟩
    simp only [adjustment, List.forall_mem_cons]
    exact ⟨wellFormed_of_mem_spellings (by decide), fits target rfl,
      wellFormed_of_mem_spellings operator, wellFormed_number one, nofun⟩

/-- The tokens of a lexeme are well formed, if the one before them is. -/
theorem wellFormed_of_mem_emits {lexeme : Lexeme} {next : Option Char} {previous : Option Token}
    (h : lexeme.Admissible next) (fits : ∀ target ∈ previous, target.WellFormed) :
    ∀ token ∈ lexeme.emits previous, token.WellFormed := by
  cases lexeme with
  | layout blanks => exact nofun
  | word letters => simpa [emits] using wellFormed_wordToken h.1
  | number run =>
    obtain ⟨decimal, fractions⟩ := isDecimal_of_isCut h.1 (isCut_splitPeriods run)
    intro token emitted
    obtain ⟨piece, mem, rfl⟩ := List.mem_map.1 emitted
    rcases List.mem_cons.1 mem with rfl | mem
    · exact wellFormed_number (.inl decimal)
    · exact wellFormed_number (.inr (fractions piece mem))
  | quoted body => simpa [emits] using wellFormed_string h
  | pair double =>
    cases double with
    | equality => simpa [emits] using wellFormed_of_mem_spellings (by decide)
    | inequality => simpa [emits] using wellFormed_of_mem_spellings (by decide)
    | conjunction => simpa [emits] using wellFormed_of_mem_spellings (by decide)
    | increment => exact wellFormed_of_mem_adjustment (by decide) fits
    | decrement => exact wellFormed_of_mem_adjustment (by decide) fits
  | mark kind c => simpa [emits] using wellFormed_mark h.1

/-- No word is listed as the end of the text, or as a number. -/
theorem plain_of_mem_keywords {word : String} {kind : TokenKind} (h : (word, kind) ∈ keywords) :
    kind ≠ .endOfFile ∧ kind ≠ .number := by
  have each : ∀ entry ∈ keywords, entry.2 ≠ .endOfFile ∧ entry.2 ≠ .number := by decide
  exact each _ h

theorem plain_of_mem_marks {c : Char} {kind : TokenKind} (h : (c, kind) ∈ marks) :
    kind ≠ .endOfFile ∧ kind ≠ .number := by
  have each : ∀ entry ∈ marks, entry.2 ≠ .endOfFile ∧ entry.2 ≠ .number := by decide
  exact each _ h

/-- No lexeme comes to the end of the text, unless by copying it. -/
theorem ne_endOfFile_of_mem_emits {lexeme : Lexeme} {next : Option Char}
    {previous : Option Token} (h : lexeme.Admissible next)
    (fits : ∀ target ∈ previous, target.kind ≠ .endOfFile) :
    ∀ token ∈ lexeme.emits previous, token.kind ≠ .endOfFile := by
  have copied (sign : Char) : ∀ token ∈ adjustment sign previous, token.kind ≠ .endOfFile := by
    cases previous with
    | none => exact nofun
    | some target => simp [adjustment, fits target rfl]
  cases lexeme with
  | layout blanks => exact nofun
  | word letters =>
    cases found : keyword? (String.ofList letters) with
    | none => simp [emits, wordToken, found]
    | some kind =>
      simpa [emits, wordToken, found] using
        (plain_of_mem_keywords (keyword?_eq_some_iff.1 found)).1
  | number run => simp [emits]
  | quoted body => simp [emits]
  | pair double =>
    cases double with
    | increment => exact copied '+'
    | decrement => exact copied '-'
    | _ => simp [emits]
  | mark kind c => simpa [emits] using (plain_of_mem_marks h.1).1

/-! ## 4. The tokens of a text -/

/-- The tokens that a text comes to are well formed, and none of them is
the end of the text. -/
theorem wellFormed_of_mem_emitAll {source : List Char} {lexemes : List Lexeme}
    (h : Decomposes source lexemes) :
    ∀ token ∈ emitAll none lexemes, token.WellFormed ∧ token.kind ≠ .endOfFile := by
  intro token mem
  exact ⟨forall_mem_emitAll wellFormed_of_mem_emits h (by simp) token mem,
    forall_mem_emitAll ne_endOfFile_of_mem_emits h (by simp) token mem⟩

end Token

end ScriptSyntax
