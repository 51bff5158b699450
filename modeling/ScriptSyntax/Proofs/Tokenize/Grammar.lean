/-
ScriptSyntax.Proofs.Tokenize.Grammar — the lexical grammar of a script,
and what its lexemes stand for.

`Decomposes` says which texts are scripts. Here `Denotes` says, one rule
for each sort of lexeme, which tokens a lexeme stands for, and
`AmountsTo` strings the rules together; the only thing that a lexeme may
know of those before it is the token that was found last.

`tokenize_decides_grammar` is the whole of it: a script has tokens just
if it decomposes, it decomposes in one way at most, and its tokens are
those that its lexemes amount to, closed by the end of the text.
-/
import ScriptSyntax.Proofs.Lexeme.Cuts
import ScriptSyntax.Proofs.Tokenize.Run

namespace ScriptSyntax.Lexeme

open Vocabulary

/-! ## 1. What lexemes stand for -/

/-- The tokens that a lexeme stands for behind the token `previous`. -/
inductive Denotes (previous : Option Token) : Lexeme → List Token → Prop where
  /-- Layout stands for nothing. -/
  | layout {blanks : List Char} : Denotes previous (.layout blanks) []
  /-- A keyword has a kind of its own. -/
  | keyword {letters : List Char} {kind : TokenKind} :
    (String.ofList letters, kind) ∈ keywords →
      Denotes previous (.word letters) [⟨String.ofList letters, kind⟩]
  /-- Any other word is a name. -/
  | name {letters : List Char} :
    (∀ kind, (String.ofList letters, kind) ∉ keywords) →
      Denotes previous (.word letters) [⟨String.ofList letters, .identifier⟩]
  /-- A run of digits and periods is cut before every period but the
  first. -/
  | number {run first : List Char} {later : List (List Char)} :
    IsCut run first later →
      Denotes previous (.number run)
        ((first :: later).map fun piece => ⟨String.ofList piece, .number⟩)
  /-- A literal stands for what is between its quotes. -/
  | quoted {body : List Char} :
    Denotes previous (.quoted body) [⟨String.ofList body, .string⟩]
  /-- The value of an equality is not its spelling. -/
  | equality : Denotes previous (.pair .equality) [⟨"is", .equalsCompare⟩]
  | inequality : Denotes previous (.pair .inequality) [⟨"!=", .notEqualsCompare⟩]
  | conjunction : Denotes previous (.pair .conjunction) [⟨"&&", .and⟩]
  /-- With no token before it, an increment stands for nothing. -/
  | loneIncrement : previous = none → Denotes previous (.pair .increment) []
  | loneDecrement : previous = none → Denotes previous (.pair .decrement) []
  /-- An increment assigns to the token before it. -/
  | increment {target : Token} :
    previous = some target →
      Denotes previous (.pair .increment)
        [⟨"=", .equals⟩, target, ⟨"+", .binaryOperator⟩, ⟨"1", .number⟩]
  | decrement {target : Token} :
    previous = some target →
      Denotes previous (.pair .decrement)
        [⟨"=", .equals⟩, target, ⟨"-", .binaryOperator⟩, ⟨"1", .number⟩]
  /-- A mark stands for itself. -/
  | mark {kind : TokenKind} {c : Char} :
    Denotes previous (.mark kind c) [⟨String.singleton c, kind⟩]

/-- The tokens that lexemes amount to behind the token `previous`. -/
inductive AmountsTo : Option Token → List Lexeme → List Token → Prop where
  | nil {previous : Option Token} : AmountsTo previous [] []
  /-- What comes later stands behind the last token found so far. -/
  | cons {previous : Option Token} {lexeme : Lexeme} {lexemes : List Lexeme}
    {now later : List Token} :
    Denotes previous lexeme now → AmountsTo (now.getLast?.or previous) lexemes later →
      AmountsTo previous (lexeme :: lexemes) (now ++ later)

/-! ## 2. The rules determine the tokens -/

theorem emits_of_denotes {previous : Option Token} {lexeme : Lexeme} {tokens : List Token}
    (h : Denotes previous lexeme tokens) : lexeme.emits previous = tokens := by
  cases h with
  | keyword listed => rw [emits, wordToken, keyword?_eq_some_iff.2 listed]; rfl
  | name free => rw [emits, wordToken, keyword?_eq_none_iff.2 free]; rfl
  | number cut => rw [emits, pieces_eq_iff.2 cut]
  | loneIncrement start => rw [start]; rfl
  | loneDecrement start => rw [start]; rfl
  | increment target => rw [target]; rfl
  | decrement target => rw [target]; rfl
  | _ => rfl

theorem denotes_emits (previous : Option Token) (lexeme : Lexeme) :
    Denotes previous lexeme (lexeme.emits previous) := by
  cases lexeme with
  | layout blanks => exact .layout
  | word letters =>
    cases found : keyword? (String.ofList letters) with
    | none =>
      rw [emits, wordToken, found]
      exact .name (keyword?_eq_none_iff.1 found)
    | some kind =>
      rw [emits, wordToken, found]
      exact .keyword (keyword?_eq_some_iff.1 found)
  | number run => exact .number (pieces_eq_iff.1 rfl)
  | quoted body => exact .quoted
  | pair double =>
    cases double with
    | equality => exact .equality
    | inequality => exact .inequality
    | conjunction => exact .conjunction
    | increment =>
      cases previous with
      | none => exact .loneIncrement rfl
      | some target => exact .increment rfl
    | decrement =>
      cases previous with
      | none => exact .loneDecrement rfl
      | some target => exact .decrement rfl
  | mark kind c => exact .mark

/-- Lexemes amount to the tokens that are emitted for them, and to no
others. -/
theorem amountsTo_iff {previous : Option Token} {lexemes : List Lexeme} {tokens : List Token} :
    AmountsTo previous lexemes tokens ↔ tokens = emitAll previous lexemes := by
  constructor
  · intro h
    induction h with
    | nil => rfl
    | cons now _ ih => rw [emitAll_cons, emits_of_denotes now, ih, latest]
  · rintro rfl
    induction lexemes generalizing previous with
    | nil => exact .nil
    | cons lexeme lexemes ih => exact .cons (denotes_emits previous lexeme) ih

/-! ## 3. The grammar of scripts -/

/-- A script has tokens just if it decomposes into lexemes; it does so in
one way at most; and its tokens are those that the lexemes amount to, with
the end of the text behind them. -/
theorem tokenize_decides_grammar (source : String) (file : Option String) :
    ((∃ tokens, tokenize source file = .ok tokens)
        ↔ ∃ lexemes, Decomposes source.toList lexemes)
      ∧ (∀ lexemes others, Decomposes source.toList lexemes →
          Decomposes source.toList others → lexemes = others)
      ∧ ∀ tokens, tokenize source file = .ok tokens
          ↔ ∃ lexemes emitted, Decomposes source.toList lexemes ∧ AmountsTo none lexemes emitted
            ∧ tokens = emitted ++ [⟨"EndOfFile", .endOfFile⟩] := by
  refine ⟨⟨?_, ?_⟩, fun _ _ h h' => h.unique h', fun tokens => ⟨?_, ?_⟩⟩
  · rintro ⟨tokens, h⟩
    obtain ⟨lexemes, decomposed, -⟩ := tokenize_eq_ok_iff.1 h
    exact ⟨lexemes, decomposed⟩
  · rintro ⟨lexemes, decomposed⟩
    exact ⟨_, tokenize_eq_ok_iff.2 ⟨lexemes, decomposed, rfl⟩⟩
  · intro h
    obtain ⟨lexemes, decomposed, rfl⟩ := tokenize_eq_ok_iff.1 h
    exact ⟨lexemes, _, decomposed, amountsTo_iff.2 rfl, rfl⟩
  · rintro ⟨lexemes, emitted, decomposed, amounts, rfl⟩
    rw [amountsTo_iff.1 amounts]
    exact tokenize_eq_ok_iff.2 ⟨lexemes, decomposed, rfl⟩

/-- A run that is cut twice, and an increment of its last piece. -/
theorem tokenize_increment_behind_cut :
    Decomposes "1.2.3++".toList [.number ['1', '.', '2', '.', '3'], .pair .increment]
      ∧ tokenize "1.2.3++" none
        = .ok [⟨"1.2", .number⟩, ⟨".3", .number⟩, ⟨"=", .equals⟩, ⟨".3", .number⟩,
          ⟨"+", .binaryOperator⟩, ⟨"1", .number⟩, ⟨"EndOfFile", .endOfFile⟩] := by
  have decomposes :
      Decomposes "1.2.3++".toList [.number ['1', '.', '2', '.', '3'], .pair .increment] :=
    decomposes_of_readAll (by decide +kernel)
  have cut : IsCut ['1', '.', '2', '.', '3'] ['1', '.', '2'] [['.', '3']] := by
    refine ⟨rfl, by decide, fun _ => by decide, fun piece mem => ?_⟩
    obtain rfl := List.mem_singleton.1 mem
    exact ⟨['3'], rfl, by decide⟩
  exact ⟨decomposes, ((tokenize_decides_grammar "1.2.3++" none).2.2 _).2
    ⟨_, _, decomposes, .cons (.number cut) (.cons (.increment rfl) .nil), rfl⟩⟩

end ScriptSyntax.Lexeme
