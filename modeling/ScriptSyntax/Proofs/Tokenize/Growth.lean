/-
ScriptSyntax.Proofs.Tokenize.Growth — how long the tokens of a script can
get.

A doubled sign copies the token before it, however long that is, so no
bound holds for a single lexeme. But it leaves a token of one character
behind, and so the next copy costs nothing. The account is kept with the
last token: a token is paid for twice where it is read, and the second
payment is spent when it is copied.

* `length_emits_le` — how many tokens a lexeme comes to.
* `account_emits` — what a lexeme adds to the values and to the last token
  is paid for by its characters; `account_emitAll` adds this up.
* `length_le_of_tokenize` — tokens, and the characters in their values,
  are at most twice the characters of the script.
-/
import ScriptSyntax.Proofs.Tokenize.Rendering

namespace ScriptSyntax

open Lexeme Token

/-- The number of characters in the values of some tokens. -/
def valueLength (tokens : List Token) : Nat := (values tokens).flatten.length

/-- The number of characters that a doubled sign would copy. -/
def pending : Option Token → Nat
  | none => 0
  | some token => token.value.toList.length

@[simp] theorem valueLength_nil : valueLength [] = 0 := rfl

@[simp] theorem valueLength_cons (token : Token) (tokens : List Token) :
    valueLength (token :: tokens) = token.value.toList.length + valueLength tokens := by
  simp [valueLength, values]

theorem valueLength_append (tokens more : List Token) :
    valueLength (tokens ++ more) = valueLength tokens + valueLength more := by
  simp [valueLength, values]

/-- The last of some tokens is no longer than all of them. -/
theorem pending_getLast?_le (tokens : List Token) : pending tokens.getLast? ≤ valueLength tokens := by
  induction tokens with
  | nil => exact Nat.le_refl 0
  | cons token tokens ih =>
    cases tokens with
    | nil => simp [pending]
    | cons next tokens =>
      rw [List.getLast?_cons_cons, valueLength_cons]
      omega

namespace Lexeme

/-! ## 1. One lexeme -/

theorem length_splitPeriods_le (seen : Bool) (run : List Char) :
    (splitPeriods seen run).2.length ≤ run.length := by
  induction run generalizing seen with
  | nil => simp [splitPeriods]
  | cons c rest ih =>
    have := ih (seen || c == '.')
    rw [splitPeriods]
    split <;> simp <;> omega

/-- The pieces of a run have the characters of the run. -/
theorem valueLength_pieces (run : List Char) :
    valueLength ((pieces run).map fun piece => ⟨String.ofList piece, .number⟩) = run.length := by
  have parts := congrArg List.length (flatten_pieces run)
  simpa [valueLength, values, Function.comp_def] using parts

/-- A lexeme comes to at most two tokens for each of its characters. -/
theorem length_emits_le {lexeme : Lexeme} {next : Option Char} (h : lexeme.Admissible next)
    (previous : Option Token) : (lexeme.emits previous).length ≤ 2 * lexeme.text.length := by
  have some_text : 0 < lexeme.text.length := List.length_pos_iff.2 (text_ne_nil h)
  have copied (sign : Char) : (adjustment sign previous).length ≤ 4 := by
    cases previous <;> simp [adjustment]
  cases lexeme with
  | layout blanks => exact Nat.zero_le _
  | word letters => simp only [emits, List.length_singleton]; omega
  | number run =>
    have cuts := length_splitPeriods_le false run
    simp only [emits, pieces, text, List.length_map, List.length_cons] at *
    omega
  | quoted body => simp only [emits, List.length_singleton]; omega
  | pair double =>
    cases double with
    | increment => exact copied '+'
    | decrement => exact copied '-'
    | _ => simp [emits, text]
  | mark kind c => simp [emits, text]

/-- What is written out for a doubled sign copies what was pending, and
leaves a single character pending. -/
theorem account_adjustment (sign : Char) (previous : Option Token) :
    valueLength (adjustment sign previous) + pending (latest previous (adjustment sign previous))
      ≤ 4 + pending previous := by
  cases previous with
  | none => simp [adjustment, pending]
  | some target =>
    have equals : "=".toList.length = 1 := by decide
    have one : "1".toList.length = 1 := by decide
    have last : latest (some target) (adjustment sign (some target)) = some ⟨"1", .number⟩ := rfl
    rw [last]
    simp only [adjustment, pending, valueLength_cons, valueLength_nil, equals, one,
      String.toList_singleton, List.length_singleton]
    omega

/-- A lexeme that copies nothing pays for its tokens, and once more for the
last of them, with two for each of its characters. -/
theorem account_of_valueLength_le {tokens : List Token} {count : Nat}
    (h : valueLength tokens ≤ count) (previous : Option Token) :
    valueLength tokens + pending (latest previous tokens) ≤ 2 * count + pending previous := by
  have last := pending_getLast?_le tokens
  rw [latest]
  cases found : tokens.getLast? with
  | none => simp; omega
  | some token =>
    rw [found] at last
    simp only [Option.or]
    omega

/-- The characters that a lexeme adds to the values, and those that are
pending behind it, are at most two for each of its characters and those
that were pending. -/
theorem account_emits (lexeme : Lexeme) (previous : Option Token) :
    valueLength (lexeme.emits previous) + pending (latest previous (lexeme.emits previous))
      ≤ 2 * lexeme.text.length + pending previous := by
  have plain (h : valueLength (lexeme.emits previous) ≤ lexeme.text.length) :=
    account_of_valueLength_le h previous
  cases lexeme with
  | layout blanks => exact plain (by simp [emits])
  | word letters => exact plain (by simp [emits, text, Vocabulary.wordToken])
  | number run => exact plain (Nat.le_of_eq (valueLength_pieces run))
  | quoted body => exact plain (by simp [emits, text]; omega)
  | pair double =>
    cases double with
    | increment => exact account_adjustment '+' previous
    | decrement => exact account_adjustment '-' previous
    | equality => exact plain (Nat.le_refl 2)
    | inequality => exact plain (Nat.le_refl 2)
    | conjunction => exact plain (Nat.le_refl 2)
  | mark kind c => exact plain (by simp [emits, text])

/-! ## 2. All lexemes -/

theorem length_emitAll_le {source : List Char} {lexemes : List Lexeme}
    (h : Decomposes source lexemes) (previous : Option Token) :
    (emitAll previous lexemes).length ≤ 2 * source.length := by
  induction lexemes generalizing source previous with
  | nil => exact Nat.zero_le _
  | cons lexeme lexemes ih =>
    obtain ⟨after, rfl, admissible, rest⟩ := h
    have first := length_emits_le admissible previous
    have later := ih rest (latest previous (lexeme.emits previous))
    rw [emitAll_cons, List.length_append, List.length_append]
    omega

/-- Over a whole text, the characters in the values and those that are
pending at its end are paid for by the characters of the text. -/
theorem account_emitAll {source : List Char} {lexemes : List Lexeme}
    (h : Decomposes source lexemes) (previous : Option Token) :
    valueLength (emitAll previous lexemes) + pending (latest previous (emitAll previous lexemes))
      ≤ 2 * source.length + pending previous := by
  induction lexemes generalizing source previous with
  | nil => simp
  | cons lexeme lexemes ih =>
    obtain ⟨after, rfl, -, rest⟩ := h
    have first := account_emits lexeme previous
    have later := ih rest (latest previous (lexeme.emits previous))
    rw [emitAll_cons, valueLength_append, latest_append, List.length_append]
    omega

end Lexeme

/-! ## 3. Scripts -/

/-- A script has at most twice as many tokens as characters, and one more
that closes them; and the values of those before it have together at most
twice as many characters. -/
theorem length_le_of_tokenize {source : String} {file : Option String} {tokens : List Token}
    (accepted : tokenize source file = .ok tokens) :
    tokens.length ≤ 2 * source.length + 1
      ∧ valueLength (tokens.filter fun token => !token.isEndOfFile) ≤ 2 * source.length := by
  obtain ⟨lexemes, decomposes, rfl⟩ := tokenize_eq_ok_iff.1 accepted
  have size : source.toList.length = source.length := String.length_toList
  constructor
  · have count := length_emitAll_le decomposes none
    rw [List.length_append, List.length_singleton]
    omega
  · have before : (emitAll none lexemes).filter (fun token => !token.isEndOfFile)
        = emitAll none lexemes := by
      refine List.filter_eq_self.2 fun token mem => ?_
      simpa [isEndOfFile] using (wellFormed_of_mem_emitAll decomposes token mem).2
    have last : [Token.endOfFile].filter (fun token => !token.isEndOfFile) = [] := rfl
    have paid := account_emitAll decomposes none
    rw [List.filter_append, before, last, List.append_nil]
    simp only [pending] at paid
    omega

/-- A long name that is copied once, and a copy of what the first copy left
behind. -/
theorem length_le_of_tokenize_increments :
    ∃ tokens, tokenize "total++--" none = .ok tokens
      ∧ tokens.length ≤ 2 * "total++--".length + 1
      ∧ valueLength (tokens.filter fun token => !token.isEndOfFile) ≤ 2 * "total++--".length := by
  have accepted : tokenize "total++--" none
      = .ok [⟨"total", .identifier⟩, ⟨"=", .equals⟩, ⟨"total", .identifier⟩,
        ⟨"+", .binaryOperator⟩, ⟨"1", .number⟩, ⟨"=", .equals⟩, ⟨"1", .number⟩,
        ⟨"-", .binaryOperator⟩, ⟨"1", .number⟩, ⟨"EndOfFile", .endOfFile⟩] := by decide +kernel
  exact ⟨_, accepted, length_le_of_tokenize accepted⟩

end ScriptSyntax
