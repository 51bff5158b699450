/-
ScriptSyntax.Proofs.Tokenize.Desugaring — doubled signs, written out.

A doubled sign behind a token stands for an assignment to it. Here that
is said of scripts, not of tokens: the doubled sign may be replaced by
the text of the assignment, in which the token is spelled out once more,
and the script comes to the same, whatever goes before and behind
(`tokenize_doubled_sign`).

Both texts are read piece by piece. Each piece has a space behind it, so
what is written in it is one lexeme (`tokensBehind_spells`); the last
token is the number 1 in both texts, so what follows, which may be a
doubled sign again, cannot tell them apart.
-/
import ScriptSyntax.Proofs.Tokenize.Behind
import ScriptSyntax.Proofs.Tokenize.Rendering

namespace ScriptSyntax

open Vocabulary Lexeme Token

/-! ## 1. Tokens spelled out -/

theorem isBlank_of_mem_space : ∀ c ∈ [' '], isBlank c = true := by
  simp [isBlank]

theorem tokensBehind_space (rest : List Char) (previous : Option Token) :
    tokensBehind previous (' ' :: rest) = tokensBehind previous rest :=
  tokensBehind_blanks isBlank_of_mem_space rest previous

/-- A token is one lexeme when it is spelled out, unless it is a number
that begins with a period. -/
theorem exists_spells {token : Token} (fits : token.WellFormed) (ne : token.kind ≠ .endOfFile)
    (start : ¬ token.Continues) : ∃ lexeme, Spells lexeme token.spelling [token] := by
  by_cases number : token.kind = .number
  · have decimal := isDecimal_of_wellFormed fits number start
    have alone : ∃ lexeme, Spells lexeme (token.spelling ++ [].flatMap spelling) [token] :=
      exists_spells_of_numbers number decimal (by simp) (by simp [values]) (by simp)
    simpa using alone
  · exact exists_spells_of_wellFormed fits ne number

/-- What is spelled out before a space comes to its token. -/
theorem tokensBehind_spells {lexeme : Lexeme} {source : List Char} {token : Token}
    (h : Spells lexeme source [token]) (previous : Option Token) (rest : List Char) :
    tokensBehind previous (source ++ ' ' :: rest)
      = prepend [token] (tokensBehind (some token) rest) := by
  have admissible : lexeme.Admissible (' ' :: rest).head? := by
    refine h.admissible _ ?_
    rintro c ⟨rfl⟩
    rfl
  rw [← h.text_eq, tokensBehind_text admissible, h.emits_eq, tokensBehind_space]
  rfl

/-- Tokens spelled out with a space behind each. -/
def spaced (tokens : List Token) : List Char :=
  tokens.flatMap fun token => token.spelling ++ [' ']

/-- Tokens that are spelled out come to themselves, whatever they stand
behind. -/
theorem tokensBehind_spaced {tokens : List Token}
    (h : ∀ token ∈ tokens, token.WellFormed ∧ token.kind ≠ .endOfFile ∧ ¬ token.Continues)
    (previous : Option Token) (rest : List Char) :
    tokensBehind previous (spaced tokens ++ rest)
      = prepend tokens (tokensBehind (latest previous tokens) rest) := by
  induction tokens generalizing previous with
  | nil => exact (prepend_nil _).symm
  | cons token tokens ih =>
    obtain ⟨fits, ne, start⟩ := h token List.mem_cons_self
    obtain ⟨lexeme, spells⟩ := exists_spells fits ne start
    have later := ih (fun other mem => h other (List.mem_cons_of_mem _ mem)) (some token)
    have text : spaced (token :: tokens) ++ rest
        = token.spelling ++ ' ' :: (spaced tokens ++ rest) := by
      simp [spaced]
    rw [text, tokensBehind_spells spells, later, prepend_prepend, latest_cons]
    rfl

/-! ## 2. The doubled sign and the assignment -/

section Sign

variable {sign : Char} (is_sign : sign = '+' ∨ sign = '-')
include is_sign

/-- A doubled sign comes to the assignment to the token before it. -/
theorem tokensBehind_doubled (previous : Option Token) (rest : List Char) :
    tokensBehind previous (sign :: sign :: ' ' :: rest)
      = prepend (adjustment sign previous)
          (tokensBehind (latest previous (adjustment sign previous)) rest) := by
  obtain ⟨double, written, comes⟩ : ∃ double : Pair,
      (Lexeme.pair double).text = [sign, sign]
        ∧ ∀ previous, (Lexeme.pair double).emits previous = adjustment sign previous := by
    rcases is_sign with rfl | rfl
    · exact ⟨.increment, rfl, fun _ => rfl⟩
    · exact ⟨.decrement, rfl, fun _ => rfl⟩
  have whole : (Lexeme.pair double).Admissible (' ' :: rest).head? := trivial
  have read := tokensBehind_text whole previous
  rw [written, comes, tokensBehind_space] at read
  exact read

/-- The tokens of an assignment can be spelled out, if the token that it
assigns to can. -/
theorem spellable_adjustment {target : Token} (fits : target.WellFormed)
    (ne : target.kind ≠ .endOfFile) (start : ¬ target.Continues) :
    ∀ token ∈ adjustment sign (some target),
      token.WellFormed ∧ token.kind ≠ .endOfFile ∧ ¬ token.Continues := by
  have operator : String.singleton sign ∈ TokenKind.binaryOperator.spellings := by
    rcases is_sign with rfl | rfl <;> decide
  have well_formed : ∀ token ∈ adjustment sign (some target), token.WellFormed :=
    wellFormed_of_mem_adjustment operator (by simpa using fits)
  intro token mem
  refine ⟨well_formed token mem, ?_⟩
  simp only [adjustment, List.mem_cons, List.not_mem_nil, or_false] at mem
  rcases mem with rfl | rfl | rfl | rfl
  · decide
  · exact ⟨ne, start⟩
  · simp [Continues]
  · decide

end Sign

/-! ## 3. Scripts -/

/-- Behind a script that has tokens, a doubled sign may be written out:
if there is no token before it, it may be left out, and if there is one,
which does not begin with a period as the rest of a number, then it may
be replaced by the text of an assignment to that token. Whatever stands
behind it, the outcome is the same. -/
theorem tokenize_doubled_sign {front : String} {file : Option String} {tokens : List Token}
    {sign : Char} (accepted : tokenize front file = .ok (tokens ++ [Token.endOfFile]))
    (is_sign : sign = '+' ∨ sign = '-') (back : String) :
    (tokens = [] →
        tokenize (front ++ " " ++ String.ofList [sign, sign] ++ " " ++ back) file
          = tokenize (front ++ " " ++ back) file)
      ∧ ∀ target, tokens.getLast? = some target → ¬ target.Continues →
        tokenize (front ++ " " ++ String.ofList [sign, sign] ++ " " ++ back) file
          = tokenize (front ++ " = " ++ String.ofList target.spelling ++ " "
              ++ String.singleton sign ++ " 1 " ++ back) file := by
  have behind (rest : List Char) :=
    tokensBehind_append_blanks (tokensBehind_eq_ok_iff.2 accepted) (by simp)
      isBlank_of_mem_space rest
  have doubled : tokensBehind none
      (front ++ " " ++ String.ofList [sign, sign] ++ " " ++ back).toList
        = prepend tokens (tokensBehind (latest none tokens) (sign :: sign :: ' ' :: back.toList)) := by
    rw [← behind]
    simp
  constructor
  · intro empty
    have alone : tokensBehind none (front ++ " " ++ back).toList
        = prepend tokens (tokensBehind (latest none tokens) back.toList) := by
      rw [← behind]
      simp
    apply tokenize_congr
    rw [doubled, alone, tokensBehind_doubled is_sign, empty]
    exact congrArg _ (prepend_nil _)
  · intro target last start
    have found : latest none tokens = some target := by rw [latest, last]; rfl
    obtain ⟨fits, ne⟩ : target.WellFormed ∧ target.kind ≠ .endOfFile := by
      obtain ⟨lexemes, decomposes, eq⟩ := tokenize_eq_ok_iff.1 accepted
      apply wellFormed_of_mem_emitAll decomposes
      rw [← List.append_cancel_right eq]
      exact List.mem_of_getLast? last
    have assigned : tokensBehind none
        (front ++ " = " ++ String.ofList target.spelling ++ " " ++ String.singleton sign
          ++ " 1 " ++ back).toList
          = prepend tokens (tokensBehind (latest none tokens)
              (spaced (adjustment sign (some target)) ++ back.toList)) := by
      rw [← behind]
      simp [spaced, adjustment, spelling]
    apply tokenize_congr
    rw [doubled, assigned, found, tokensBehind_doubled is_sign,
      tokensBehind_spaced (spellable_adjustment is_sign fits ne start)]

/-- Where there is nothing to assign to, and behind a literal, where what
follows is a doubled sign again and assigns to the 1 of the first one. -/
theorem tokenize_doubled_sign_twice :
    (tokenize "--" none = .ok ([] ++ [Token.endOfFile])
        ∧ tokenize ("--" ++ " " ++ String.ofList ['+', '+'] ++ " " ++ "y") none
          = tokenize ("--" ++ " " ++ "y") none)
      ∧ tokenize "x \"a\"" none
        = .ok ([⟨"x", .identifier⟩, ⟨"a", .string⟩] ++ [Token.endOfFile])
      ∧ ¬ Continues ⟨"a", .string⟩
      ∧ tokenize ("x \"a\"" ++ " " ++ String.ofList ['-', '-'] ++ " " ++ "++") none
        = tokenize ("x \"a\"" ++ " = " ++ String.ofList (spelling ⟨"a", .string⟩) ++ " "
            ++ String.singleton '-' ++ " 1 " ++ "++") none := by
  have nothing : tokenize "--" none = .ok ([] ++ [Token.endOfFile]) := by decide +kernel
  have two : tokenize "x \"a\"" none
      = .ok ([⟨"x", .identifier⟩, ⟨"a", .string⟩] ++ [Token.endOfFile]) := by decide +kernel
  have start : ¬ Continues ⟨"a", .string⟩ := by decide
  exact ⟨⟨nothing, (tokenize_doubled_sign nothing (.inl rfl) "y").1 rfl⟩, two, start,
    (tokenize_doubled_sign two (.inr rfl) "++").2 ⟨"a", .string⟩ rfl start⟩

end ScriptSyntax
