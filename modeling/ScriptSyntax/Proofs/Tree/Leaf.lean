/-
ScriptSyntax.Proofs.Tree.Leaf — the tokens of a script as leaves of a
tree.

A number token need not spell a number: whoever writes one by hand may put
any text in it. The tokens of a script are better than that. Their values
are those that their kinds allow, and of the values that a number may have
only one is no numeral, the period that two periods in a row leave behind.

* `StandsFor` is what each sort of token comes to as an expression.
* `standsFor_ofToken` — a token with a value that its kind allows comes to
  that.
* `ofToken_of_tokenize` — and so do the tokens of a script, the end of the
  text among them; where a number is refused, there is no digit in it.
-/
import ScriptSyntax.Tree.Leaf
import ScriptSyntax.Proofs.Numeral.Reading
import ScriptSyntax.Proofs.Tokenize.Run

namespace ScriptSyntax

open Lexeme Token Numeral

/-! ## 1. One token -/

/-- What a token stands for as an expression, or why it stands for
none. -/
inductive StandsFor (token : Token) : Except Fault Expr → Prop where
  | string : token.kind = .string → StandsFor token (.ok (.string token.value))
  | identifier : token.kind = .identifier → StandsFor token (.ok (.identifier token.value))
  /-- A number has a sign and a magnitude, so it is none of what is not a
  number, and its sign is the one that is written. -/
  | number {magnitude : Magnitude} :
    token.kind = .number → token.value ≠ "." →
      StandsFor token
        (.ok (.numeric (.signed (token.value.toList.head? == some '-') magnitude)))
  | period : token = ⟨".", .number⟩ → StandsFor token (.error (.malformedNumber "."))
  /-- No other token is an expression by itself. -/
  | other :
    token.kind ≠ .number → token.kind ≠ .string → token.kind ≠ .identifier →
      StandsFor token (.error (.unexpectedToken token.value))

/-- A numeral in digits is read as a number with the sign of the
numeral. -/
theorem read?_of_isNumeral {value : String} (h : IsNumeral value.toList) (ne : value ≠ ".") :
    ∃ magnitude,
      Numeral.read? value = some (.signed (value.toList.head? == some '-') magnitude) := by
  have period : value.toList ≠ ['.'] := fun eq => ne (String.toList_inj.1 eq)
  obtain ⟨digits, exponent, read⟩ := ofChars?_of_isNumeral h period
  exact ⟨Magnitude.ofScaled 10 digits exponent, by rw [Numeral.read?, read]; rfl⟩

theorem ofToken_period : Expr.ofToken ⟨".", .number⟩ = .error (.malformedNumber ".") := by
  rw [Expr.ofToken, Numeral.read?, show ".".toList = ['.'] from rfl, ofChars?_period]
  rfl

/-- A token whose value is one that its kind allows stands for what its
sort of token stands for. -/
theorem standsFor_ofToken {token : Token} (fits : token.WellFormed) :
    StandsFor token (Expr.ofToken token) := by
  obtain ⟨value, kind⟩ := token
  cases kind
  case number =>
    by_cases period : value = "."
    · rw [period, ofToken_period]
      exact .period rfl
    · obtain ⟨magnitude, read⟩ := read?_of_isNumeral fits period
      rw [Expr.ofToken, read]
      exact .number rfl period
  case string => exact .string rfl
  case identifier => exact .identifier rfl
  all_goals exact .other (by simp) (by simp) (by simp)

/-- Which tokens stand for an expression. -/
theorem exists_ok_iff_of_standsFor {token : Token} {outcome : Except Fault Expr}
    (h : StandsFor token outcome) :
    (∃ expr, outcome = .ok expr)
      ↔ token.kind = .string ∨ token.kind = .identifier
        ∨ (token.kind = .number ∧ token.value ≠ ".") := by
  cases h with
  | string kind => simp [kind]
  | identifier kind => simp [kind]
  | number kind period => simp [kind, period]
  | period eq => simp [eq]
  | other number string identifier => simp [number, string, identifier]

/-- A number that is refused is a period. -/
theorem eq_period_of_malformedNumber {token : Token} {value : String}
    (h : StandsFor token (.error (.malformedNumber value))) :
    token = ⟨".", .number⟩ ∧ value = "." := by
  cases h with
  | period eq => exact ⟨eq, rfl⟩

/-! ## 2. The tokens of a script -/

/-- Every token of a script has a value that its kind allows. -/
theorem wellFormed_of_mem_tokenize {source : String} {file : Option String} {tokens : List Token}
    (accepted : tokenize source file = .ok tokens) : ∀ token ∈ tokens, token.WellFormed := by
  obtain ⟨lexemes, decomposes, rfl⟩ := tokenize_eq_ok_iff.1 accepted
  intro token mem
  rcases List.mem_append.1 mem with mem | mem
  · exact (wellFormed_of_mem_emitAll decomposes token mem).1
  · obtain rfl := List.mem_singleton.1 mem
    exact wellFormed_of_mem_spellings (by decide)

/-- The tokens of a script stand for what their sort of token stands for:
strings, identifiers and all numbers but a lone period for an expression,
everything else for none. A number that is refused has no digit, as the
tip says that comes with it. -/
theorem ofToken_of_tokenize {source : String} {file : Option String} {tokens : List Token}
    (accepted : tokenize source file = .ok tokens) :
    ∀ token ∈ tokens,
      StandsFor token (Expr.ofToken token)
        ∧ ((∃ expr, Expr.ofToken token = .ok expr)
          ↔ token.kind = .string ∨ token.kind = .identifier
            ∨ (token.kind = .number ∧ token.value ≠ "."))
        ∧ ∀ value, Expr.ofToken token = .error (.malformedNumber value) →
          value = token.value ∧ (∀ c ∈ token.value.toList, c.isDigit = false)
            ∧ (Fault.malformedNumber value).tip
              = some ("Invalid number: `" ++ token.value ++ "`, it has no digits") := by
  intro token mem
  have stands := standsFor_ofToken (wellFormed_of_mem_tokenize accepted token mem)
  refine ⟨stands, exists_ok_iff_of_standsFor stands, fun value refused => ?_⟩
  rw [refused] at stands
  obtain ⟨rfl, rfl⟩ := eq_period_of_malformedNumber stands
  have digits : ∀ c ∈ ".".toList, c.isDigit = false := by
    intro c mem
    obtain rfl : c = '.' := by simpa using mem
    rfl
  exact ⟨rfl, digits, rfl⟩

/-- A run whose second period has no digits behind it, copied by a doubled
sign. -/
theorem ofToken_of_tokenize_run :
    tokenize "-1..++" none
        = .ok [⟨"-1.", .number⟩, ⟨".", .number⟩, ⟨"=", .equals⟩, ⟨".", .number⟩,
          ⟨"+", .binaryOperator⟩, ⟨"1", .number⟩, ⟨"EndOfFile", .endOfFile⟩]
      ∧ StandsFor ⟨"-1.", .number⟩ (Expr.ofToken ⟨"-1.", .number⟩)
      ∧ (∃ expr, Expr.ofToken ⟨"-1.", .number⟩ = .ok expr)
      ∧ Expr.ofToken ⟨".", .number⟩ = .error (.malformedNumber ".")
      ∧ (∀ c ∈ ".".toList, c.isDigit = false)
      ∧ ¬ ∃ expr, Expr.ofToken ⟨"EndOfFile", .endOfFile⟩ = .ok expr := by
  have accepted : tokenize "-1..++" none
      = .ok [⟨"-1.", .number⟩, ⟨".", .number⟩, ⟨"=", .equals⟩, ⟨".", .number⟩,
        ⟨"+", .binaryOperator⟩, ⟨"1", .number⟩, ⟨"EndOfFile", .endOfFile⟩] := by decide +kernel
  obtain ⟨stands, first, -⟩ := ofToken_of_tokenize accepted ⟨"-1.", .number⟩ (by simp)
  obtain ⟨-, -, digits⟩ := ofToken_of_tokenize accepted ⟨".", .number⟩ (by simp)
  obtain ⟨-, last, -⟩ := ofToken_of_tokenize accepted ⟨"EndOfFile", .endOfFile⟩ (by simp)
  exact ⟨accepted, stands, first.2 (.inr (.inr ⟨rfl, by decide⟩)), ofToken_period,
    (digits "." ofToken_period).2.1, fun ok => absurd (last.1 ok) (by decide)⟩

end ScriptSyntax
