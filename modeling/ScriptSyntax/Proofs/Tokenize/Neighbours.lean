/-
ScriptSyntax.Proofs.Tokenize.Neighbours — what whoever reads the tokens of
a script may rely on.

Every token has a value that its kind allows, and the list is closed by
the one token that closes lists. Beyond that there is a rule about
neighbours. A number that begins with a period is the rest of a longer
run, so it stands right behind a number that holds a period; or it is the
copy of such a rest in the assignment that a doubled sign stands for, and
then its neighbours are those of the assignment.

* `Attached` is the rule for one token between those before and those
  after it.
* `allAttached_append_emits` — what one lexeme comes to keeps the rule,
  whatever stands before it; `allAttached_emitAll` follows.
* `neighbours_of_tokenize` — the tokens of a script are such a list.
-/
import ScriptSyntax.Proofs.Tokenize.Rendering

namespace ScriptSyntax

open Vocabulary Lexeme Token

/-! ## 1. The rule -/

/-- Whether a number that begins with a period may stand between the
tokens `before` and the tokens `after`. -/
inductive Attached (token : Token) : List Token → List Token → Prop where
  /-- It goes on with the number before it, which holds a period. -/
  | glued {earlier after : List Token} {number : Token} :
    number.kind = .number → '.' ∈ number.value.toList →
      Attached token (earlier ++ [number]) after
  /-- It is assigned to itself, with one more or one less. -/
  | copied {earlier later : List Token} {sign : Char} :
    sign = '+' ∨ sign = '-' →
      Attached token (earlier ++ [token, ⟨"=", .equals⟩])
        (⟨String.singleton sign, .binaryOperator⟩ :: ⟨"1", .number⟩ :: later)

/-- Whether all numbers that begin with a period may stand where they
do. -/
def AllAttached (tokens : List Token) : Prop :=
  ∀ before token after, tokens = before ++ token :: after → token.Continues →
    Attached token before after

theorem Attached.ne_nil {token : Token} {before after : List Token}
    (h : Attached token before after) : before ≠ [] := by
  cases h <;> simp

/-- More tokens behind do not matter. -/
theorem Attached.append {token : Token} {before after : List Token}
    (h : Attached token before after) (more : List Token) :
    Attached token before (after ++ more) := by
  cases h with
  | glued number period => exact .glued number period
  | copied is_sign => exact .copied is_sign

/-- Of a list that goes on only the tokens behind are left to look at. -/
theorem AllAttached.append {front more : List Token} (h : AllAttached front)
    (behind : ∀ between token after, more = between ++ token :: after → token.Continues →
      Attached token (front ++ between) after) : AllAttached (front ++ more) := by
  intro before token after split continues
  rcases List.append_eq_append_iff.1 split with ⟨between, rfl, rest⟩ | ⟨between, rfl, rest⟩
  · exact behind between token after rest continues
  · cases between with
    | nil =>
      simpa using behind [] token after rest.symm continues
    | cons first between =>
      obtain ⟨rfl, rfl⟩ := List.cons.inj rest
      exact (h before token between rfl continues).append more

theorem allAttached_nil : AllAttached [] := by
  intro before token after split
  simp at split

/-! ## 2. What one lexeme comes to -/

/-- Numbers that can be written behind a token are attached behind it. -/
theorem attached_of_renderable {front more between after : List Token} {token : Token}
    (h : Renderable front.getLast? more) (split : more = between ++ token :: after)
    (continues : token.Continues) : Attached token (front ++ between) after := by
  rw [split, renderable_append] at h
  obtain ⟨number, found, kind, period⟩ := h.2.2.1 continues
  have last : (front ++ between).getLast? = some number := by
    rw [List.getLast?_append]
    exact found
  obtain ⟨earlier, eq⟩ := List.getLast?_eq_some_iff.1 last
  rw [eq]
  exact .glued kind period

/-- In an assignment only the token that it assigns to may begin with a
period, and it stands there for the second time. -/
theorem attached_of_adjustment {front between after : List Token} {token : Token} {sign : Char}
    (is_sign : sign = '+' ∨ sign = '-')
    (split : adjustment sign front.getLast? = between ++ token :: after)
    (continues : token.Continues) : Attached token (front ++ between) after := by
  cases last : front.getLast? with
  | none =>
    rw [last] at split
    simp [adjustment] at split
  | some target =>
    obtain ⟨earlier, rfl⟩ := List.getLast?_eq_some_iff.1 last
    rw [last, adjustment] at split
    have no_mark {value : String} {kind : TokenKind} (plain : kind ≠ .number) :
        ¬ Continues ⟨value, kind⟩ := fun h => plain h.1
    -- Four tokens come of an adjustment, so there are four places for this one.
    rcases between with _ | ⟨_, _ | ⟨_, _ | ⟨_, _ | ⟨_, _⟩⟩⟩⟩
    · obtain ⟨rfl, -⟩ := List.cons.inj split
      exact absurd continues (no_mark (by decide))
    · simp only [List.cons_append, List.nil_append, List.cons.injEq] at split
      obtain ⟨rfl, rfl, rfl⟩ := split
      rw [List.append_assoc]
      exact .copied is_sign
    · simp only [List.cons_append, List.nil_append, List.cons.injEq] at split
      obtain ⟨rfl, rfl, rfl, -⟩ := split
      exact absurd continues (no_mark (by decide))
    · simp only [List.cons_append, List.nil_append, List.cons.injEq] at split
      obtain ⟨rfl, rfl, rfl, rfl, -⟩ := split
      exact absurd continues (by decide)
    · simp at split

/-- Behind tokens that keep the rule, a lexeme comes to tokens that keep
it. -/
theorem allAttached_append_emits {front : List Token} {lexeme : Lexeme} {next : Option Char}
    (h : AllAttached front) (admissible : lexeme.Admissible next) :
    AllAttached (front ++ lexeme.emits front.getLast?) := by
  refine h.append fun between token after split continues => ?_
  by_cases increment : lexeme = .pair .increment
  · subst increment
    exact attached_of_adjustment (.inl rfl) split continues
  by_cases decrement : lexeme = .pair .decrement
  · subst decrement
    exact attached_of_adjustment (.inr rfl) split continues
  · exact attached_of_renderable (renderable_emits admissible increment decrement) split continues

/-! ## 3. All lexemes -/

theorem allAttached_emitAll {source : List Char} {lexemes : List Lexeme}
    (decomposes : Decomposes source lexemes) {front : List Token} (h : AllAttached front) :
    AllAttached (front ++ emitAll front.getLast? lexemes) := by
  induction lexemes generalizing source front with
  | nil =>
    rw [emitAll_nil, List.append_nil]
    exact h
  | cons lexeme lexemes ih =>
    obtain ⟨after, -, admissible, rest⟩ := decomposes
    have now := allAttached_append_emits h admissible
    have last : latest front.getLast? (lexeme.emits front.getLast?)
        = (front ++ lexeme.emits front.getLast?).getLast? := List.getLast?_append.symm
    rw [emitAll_cons, ← List.append_assoc, last]
    exact ih rest now

/-! ## 4. The tokens of a script -/

/-- The tokens of a script end with the end of the text, which stands
nowhere else; each has a value that its kind allows; and a number that
begins with a period is never the first, but goes on with a number before
it, or is a copy in an assignment. -/
theorem neighbours_of_tokenize {source : String} {file : Option String} {tokens : List Token}
    (accepted : tokenize source file = .ok tokens) :
    (∃ front, tokens = front ++ [⟨"EndOfFile", .endOfFile⟩]
        ∧ ∀ token ∈ front, token.kind ≠ .endOfFile)
      ∧ (∀ token ∈ tokens, token.WellFormed)
      ∧ ∀ before token after, tokens = before ++ token :: after → token.Continues →
        before ≠ [] ∧ Attached token before after := by
  obtain ⟨lexemes, decomposes, rfl⟩ := tokenize_eq_ok_iff.1 accepted
  have each := wellFormed_of_mem_emitAll decomposes
  have closed : AllAttached (emitAll none lexemes ++ [Token.endOfFile]) := by
    refine (allAttached_emitAll decomposes allAttached_nil).append ?_
    intro between token after split continues
    have mem : token ∈ [Token.endOfFile] := by simp [split]
    obtain rfl := List.mem_singleton.1 mem
    exact absurd continues (by decide)
  refine ⟨⟨_, rfl, fun token mem => (each token mem).2⟩, ?_, ?_⟩
  · intro token mem
    rcases List.mem_append.1 mem with mem | mem
    · exact (each token mem).1
    · obtain rfl := List.mem_singleton.1 mem
      exact wellFormed_of_mem_spellings (by decide)
  · intro before token after split continues
    have attached := closed before token after split continues
    exact ⟨attached.ne_nil, attached⟩

/-- The rest of a run and its copy, which stand behind an equals sign and
behind a number. -/
theorem neighbours_of_tokenize_run :
    tokenize "1..2++" none
        = .ok [⟨"1.", .number⟩, ⟨".2", .number⟩, ⟨"=", .equals⟩, ⟨".2", .number⟩,
          ⟨"+", .binaryOperator⟩, ⟨"1", .number⟩, ⟨"EndOfFile", .endOfFile⟩]
      ∧ Continues ⟨".2", .number⟩ ∧ WellFormed ⟨".2", .number⟩
      ∧ Attached ⟨".2", .number⟩ [⟨"1.", .number⟩]
        [⟨"=", .equals⟩, ⟨".2", .number⟩, ⟨"+", .binaryOperator⟩, ⟨"1", .number⟩,
          ⟨"EndOfFile", .endOfFile⟩]
      ∧ Attached ⟨".2", .number⟩ [⟨"1.", .number⟩, ⟨".2", .number⟩, ⟨"=", .equals⟩]
        [⟨"+", .binaryOperator⟩, ⟨"1", .number⟩, ⟨"EndOfFile", .endOfFile⟩] := by
  have accepted : tokenize "1..2++" none
      = .ok [⟨"1.", .number⟩, ⟨".2", .number⟩, ⟨"=", .equals⟩, ⟨".2", .number⟩,
        ⟨"+", .binaryOperator⟩, ⟨"1", .number⟩, ⟨"EndOfFile", .endOfFile⟩] := by decide +kernel
  have continues : Continues ⟨".2", .number⟩ := by decide
  obtain ⟨-, each, attached⟩ := neighbours_of_tokenize accepted
  exact ⟨accepted, continues, each _ (by simp),
    (attached [⟨"1.", .number⟩] _ _ rfl continues).2,
    (attached [⟨"1.", .number⟩, ⟨".2", .number⟩, ⟨"=", .equals⟩] _ _ rfl continues).2⟩

end ScriptSyntax
