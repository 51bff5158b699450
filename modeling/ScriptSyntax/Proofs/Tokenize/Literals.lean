/-
ScriptSyntax.Proofs.Tokenize.Literals — the body of a string literal is
not looked at.

Two scripts that differ in one literal are read alike: they have the same
fault, or token lists that differ at the literal and nowhere else, unless
a doubled sign stands right behind the literal and copies it once
(`tokenize_body_congr`).

The quotes are what keeps the body apart. In front of the opening quote
any lexeme may end, so the text before it is read as if it were a script
by itself; and behind the closing quote nothing is left of the body but
the token, which only a doubled sign can see (`exists_adjustment`).
-/
import ScriptSyntax.Proofs.Tokenize.Concatenation

namespace ScriptSyntax

open Vocabulary Lexeme

/-! ## 1. Lists that differ at known places -/

/-- Whether two token lists are as long as each other and agree but at
the given places, where the first list holds one token and the second
list another. -/
structure AlikeBut (places : List Nat) (target other : Token) (tokens others : List Token) :
    Prop where
  length_eq : tokens.length = others.length
  elsewhere : ∀ place, place ∉ places → tokens[place]? = others[place]?
  there : ∀ place ∈ places, tokens[place]? = some target ∧ others[place]? = some other

namespace AlikeBut

variable {places : List Nat} {target other : Token} {tokens others : List Token}

theorem getElem?_append_add (front tokens : List Token) (place : Nat) :
    (front ++ tokens)[front.length + place]? = tokens[place]? := by
  rw [List.getElem?_append_right (by omega), Nat.add_sub_cancel_left]

theorem append_left (front : List Token) (h : AlikeBut places target other tokens others) :
    AlikeBut (places.map (front.length + ·)) target other (front ++ tokens) (front ++ others)
    where
  length_eq := by rw [List.length_append, List.length_append, h.length_eq]
  elsewhere := by
    intro place absent
    rcases Nat.lt_or_ge place front.length with before | behind
    · rw [List.getElem?_append_left before, List.getElem?_append_left before]
    · obtain ⟨later, rfl⟩ := Nat.exists_eq_add_of_le behind
      rw [getElem?_append_add, getElem?_append_add]
      exact h.elsewhere later fun mem => absent (List.mem_map.2 ⟨later, mem, rfl⟩)
  there := by
    intro place mem
    obtain ⟨later, found, rfl⟩ := List.mem_map.1 mem
    rw [getElem?_append_add, getElem?_append_add]
    exact h.there later found

theorem append_right (back : List Token) (h : AlikeBut places target other tokens others) :
    AlikeBut places target other (tokens ++ back) (others ++ back) where
  length_eq := by rw [List.length_append, List.length_append, h.length_eq]
  elsewhere := by
    intro place absent
    rcases Nat.lt_or_ge place tokens.length with before | behind
    · rw [List.getElem?_append_left before, List.getElem?_append_left (h.length_eq ▸ before)]
      exact h.elsewhere place absent
    · rw [List.getElem?_append_right behind, List.getElem?_append_right (h.length_eq ▸ behind),
        h.length_eq]
  there := by
    intro place mem
    have here := h.there place mem
    rw [List.getElem?_append_left (List.getElem?_eq_some_iff.1 here.1).1,
      List.getElem?_append_left (List.getElem?_eq_some_iff.1 here.2).1]
    exact here

/-- A single token stands for itself. -/
theorem singleton (target other : Token) : AlikeBut [0] target other [target] [other] where
  length_eq := rfl
  elsewhere := by
    intro place absent
    cases place with
    | zero => exact absurd List.mem_cons_self absent
    | succ place => rfl
  there := by simp

/-- A token and the assignment to it hold the token twice. -/
theorem adjustment (sign : Char) (target other : Token) :
    AlikeBut [0, 2] target other (target :: Lexeme.adjustment sign (some target))
      (other :: Lexeme.adjustment sign (some other)) where
  length_eq := rfl
  elsewhere := by
    intro place absent
    match place with
    | 0 | 2 => simp at absent
    | 1 | 3 | 4 => rfl
    | place + 5 => rfl
  there := by simp [Lexeme.adjustment]

end AlikeBut

namespace Lexeme

/-! ## 2. In front of a quote -/

/-- No class of characters that a lexeme goes on with holds the quote, so
in front of it whatever is a lexeme may end. -/
theorem Admissible.before_quote {lexeme : Lexeme} {next : Option Char}
    (h : lexeme.Admissible next) : lexeme.Admissible (some '"') := by
  have stop {inClass : Char → Bool} (apart : inClass '"' = false) :
      EndsBefore inClass (some '"') := by
    rintro c ⟨rfl⟩
    exact apart
  cases lexeme with
  | layout blanks => exact ⟨h.1, h.2.1, stop rfl⟩
  | word letters => exact ⟨h.1, stop rfl⟩
  | number run => exact ⟨h.1, stop rfl⟩
  | quoted body => exact h
  | pair double => trivial
  | mark kind c =>
    exact ⟨h.1, nofun, nofun, nofun, nofun, fun _ => ⟨nofun, stop rfl⟩⟩

/-- What a text comes to, it comes to in front of a quote as well, and
what stands behind the quote is behind its last token. -/
theorem tokensBehind_append_quote {front : List Char} {previous : Option Token}
    {tokens : List Token} (accepted : tokensBehind previous front = .ok tokens)
    (rest : List Char) :
    tokensBehind previous (front ++ '"' :: rest)
      = prepend tokens (tokensBehind (latest previous tokens) ('"' :: rest)) := by
  induction front using text_induction generalizing previous tokens with
  | nil =>
    rw [tokensBehind_nil] at accepted
    cases accepted
    exact (prepend_nil _).symm
  | fault c later fault found =>
    rw [tokensBehind_of_error found] at accepted
    cases accepted
  | lexeme lexeme after admissible ih =>
    have still : lexeme.Admissible (after ++ '"' :: rest).head? := by
      cases after with
      | nil => exact admissible.before_quote
      | cons c after => exact admissible
    rw [tokensBehind_text admissible] at accepted
    cases found : tokensBehind (latest previous (lexeme.emits previous)) after with
    | error fault =>
      rw [found] at accepted
      cases accepted
    | ok later =>
      rw [found] at accepted
      cases accepted
      rw [List.append_assoc, tokensBehind_text still, ih found, prepend_prepend, latest_append]

/-- A literal comes to its one token. -/
theorem tokensBehind_quoted {body : List Char} (plain : '"' ∉ body) (rest : List Char)
    (previous : Option Token) :
    tokensBehind previous ('"' :: (body ++ '"' :: rest))
      = prepend [⟨String.ofList body, .string⟩]
          (tokensBehind (some ⟨String.ofList body, .string⟩) rest) := by
  have literal : (Lexeme.quoted body).Admissible rest.head? := plain
  have read := tokensBehind_text literal previous
  rwa [text, List.append_assoc] at read

/-- Where the double quotes come in pairs, only a foreign character can
be wrong. -/
theorem exists_foreign_of_even {source : List Char} {fault : Fault}
    (h : readAll source = .error fault) (even : source.count '"' % 2 = 0) :
    ∃ c, fault = .unrecognisedCharacter c := by
  rw [readAll_eq_error_iff] at h
  cases h with
  | foreign => exact ⟨_, rfl⟩
  | unclosed _ odd => omega

/-! ## 3. Behind a token -/

/-- A text that begins with a doubled sign comes to the assignment to the
token before it, and to something that the token has no part in. -/
theorem exists_adjustment {source : List Char} (h : BeginsDoubled source) :
    ∃ sign outcome, ∀ target,
      tokensBehind (some target) source
        = prepend (adjustment sign (some target)) outcome := by
  obtain ⟨double, sign, after, split, comes⟩ : ∃ (double : Pair) (sign : Char) (after : List Char),
      source.dropWhile isBlank = (Lexeme.pair double).text ++ after
        ∧ ∀ previous, (Lexeme.pair double).emits previous = adjustment sign previous := by
    rcases h with ⟨after, eq⟩ | ⟨after, eq⟩
    · exact ⟨.increment, '+', after, eq.symm, fun _ => rfl⟩
    · exact ⟨.decrement, '-', after, eq.symm, fun _ => rfl⟩
  refine ⟨sign, tokensBehind (some ⟨"1", .number⟩) after, fun target => ?_⟩
  have whole : (Lexeme.pair double).Admissible after.head? := trivial
  rw [← tokensBehind_dropWhile, split, tokensBehind_text whole, comes]
  rfl

/-- Where a literal stands among the tokens behind `count` others: at its
own place, and two places on if it is copied. -/
def placesOf (count : Nat) (back : List Char) : List Nat :=
  count :: if BeginsDoubled back then [count + 2] else []

theorem length_placesOf_le (count : Nat) (back : List Char) :
    (placesOf count back).length ≤ 2 := by
  unfold placesOf
  split <;> simp

/-- A text behind one of two tokens has the same fault behind the other,
or comes to tokens that differ in the copy of these alone. -/
theorem tokensBehind_alike (target other : Token) (back : List Char) :
    (∃ fault, tokensBehind (some target) back = .error fault
        ∧ tokensBehind (some other) back = .error fault)
      ∨ ∃ tokens others, tokensBehind (some target) back = .ok tokens
        ∧ tokensBehind (some other) back = .ok others
        ∧ AlikeBut (placesOf 0 back) target other (target :: tokens) (other :: others) := by
  by_cases doubled : BeginsDoubled back
  · obtain ⟨sign, outcome, comes⟩ := exists_adjustment doubled
    rw [comes, comes, placesOf, if_pos doubled]
    cases outcome with
    | error fault => exact .inl ⟨fault, rfl, rfl⟩
    | ok later =>
      exact .inr ⟨_, _, rfl, rfl, (AlikeBut.adjustment sign target other).append_right later⟩
  · rw [tokensBehind_congr doubled (some target) (some other), placesOf, if_neg doubled]
    cases tokensBehind (some other) back with
    | error fault => exact .inl ⟨fault, rfl, rfl⟩
    | ok later => exact .inr ⟨_, _, rfl, rfl, (AlikeBut.singleton target other).append_right later⟩

theorem map_placesOf (count : Nat) (back : List Char) :
    (placesOf 0 back).map (count + ·) = placesOf count back := by
  unfold placesOf
  split <;> rfl

end Lexeme

/-! ## 4. Scripts -/

/-- A literal in a script, which begins outside of all others, may have
any other body: the script has the same diagnostic then, or the tokens
that it had, but for the literal behind the tokens of the text in front
of it, and the one copy of the literal that a doubled sign right behind
it makes. -/
theorem tokenize_body_congr {front body body' : String} (back : String) (file : Option String)
    (even : front.toList.count '"' % 2 = 0) (plain : '"' ∉ body.toList)
    (plain' : '"' ∉ body'.toList) :
    (∃ diagnostic, tokenize (front ++ "\"" ++ body ++ "\"" ++ back) file = .error diagnostic
        ∧ tokenize (front ++ "\"" ++ body' ++ "\"" ++ back) file = .error diagnostic)
      ∨ ∃ before tokens others,
        tokenize front file = .ok (before ++ [Token.endOfFile])
          ∧ tokenize (front ++ "\"" ++ body ++ "\"" ++ back) file = .ok tokens
          ∧ tokenize (front ++ "\"" ++ body' ++ "\"" ++ back) file = .ok others
          ∧ (placesOf before.length back.toList).length ≤ 2
          ∧ AlikeBut (placesOf before.length back.toList) ⟨body, .string⟩ ⟨body', .string⟩
            tokens others := by
  have chars (inner : String) : (front ++ "\"" ++ inner ++ "\"" ++ back).toList
      = front.toList ++ '"' :: (inner.toList ++ '"' :: back.toList) := by simp
  cases found : readAll front.toList with
  | error fault =>
    obtain ⟨c, rfl⟩ := exists_foreign_of_even found even
    refine .inl ⟨⟨.unrecognisedCharacter c, file.getD "shell"⟩, ?_⟩
    simp only [tokenize_eq_error_iff, chars, readAll_append_of_foreign found, and_self]
  | ok lexemes =>
    have accepted : tokensBehind none front.toList = .ok (emitAll none lexemes) := by
      rw [tokensBehind, found]
      rfl
    have outcome {inner : String} (closed : '"' ∉ inner.toList) :
        tokensBehind none (front ++ "\"" ++ inner ++ "\"" ++ back).toList
          = prepend (emitAll none lexemes ++ [⟨inner, .string⟩])
              (tokensBehind (some ⟨inner, .string⟩) back.toList) := by
      rw [chars, tokensBehind_append_quote accepted, tokensBehind_quoted closed, prepend_prepend,
        String.ofList_toList]
    simp only [tokenize_eq_tokensBehind, outcome plain, outcome plain']
    rcases tokensBehind_alike ⟨body, .string⟩ ⟨body', .string⟩ back.toList with
      ⟨fault, failed, failed'⟩ | ⟨tokens, others, came, came', alike⟩
    · rw [failed, failed']
      exact .inl ⟨_, rfl, rfl⟩
    · rw [came, came', accepted]
      refine .inr ⟨emitAll none lexemes, _, _, rfl, rfl, rfl, length_placesOf_le _ _, ?_⟩
      have whole := (alike.append_left (emitAll none lexemes)).append_right [Token.endOfFile]
      rw [map_placesOf] at whole
      simpa using whole

/-- A body full of signs, one of them foreign, is copied as it is. -/
theorem tokenize_body_congr_copied :
    "s =".toList.count '"' % 2 = 0 ∧ '"' ∉ "a".toList ∧ '"' ∉ "++ #\n".toList
      ∧ tokenize ("s =" ++ "\"" ++ "a" ++ "\"" ++ " ++") none
        = .ok [⟨"s", .identifier⟩, ⟨"=", .equals⟩, ⟨"a", .string⟩, ⟨"=", .equals⟩, ⟨"a", .string⟩,
          ⟨"+", .binaryOperator⟩, ⟨"1", .number⟩, Token.endOfFile]
      ∧ ∃ others, tokenize ("s =" ++ "\"" ++ "++ #\n" ++ "\"" ++ " ++") none = .ok others
        ∧ AlikeBut [2, 4] ⟨"a", .string⟩ ⟨"++ #\n", .string⟩
          [⟨"s", .identifier⟩, ⟨"=", .equals⟩, ⟨"a", .string⟩, ⟨"=", .equals⟩, ⟨"a", .string⟩,
            ⟨"+", .binaryOperator⟩, ⟨"1", .number⟩, Token.endOfFile] others := by
  have even : "s =".toList.count '"' % 2 = 0 := by decide
  have plain : '"' ∉ "a".toList := by decide
  have plain' : '"' ∉ "++ #\n".toList := by decide
  have front : tokenize "s =" none
      = .ok ([⟨"s", .identifier⟩, ⟨"=", .equals⟩] ++ [Token.endOfFile]) := by decide +kernel
  have whole : tokenize ("s =" ++ "\"" ++ "a" ++ "\"" ++ " ++") none
      = .ok [⟨"s", .identifier⟩, ⟨"=", .equals⟩, ⟨"a", .string⟩, ⟨"=", .equals⟩, ⟨"a", .string⟩,
        ⟨"+", .binaryOperator⟩, ⟨"1", .number⟩, Token.endOfFile] := by decide +kernel
  refine ⟨even, plain, plain', whole, ?_⟩
  rcases tokenize_body_congr " ++" none even plain plain' with
    ⟨_, failed, -⟩ | ⟨before, tokens, others, accepted, came, came', -, alike⟩
  · cases whole.symm.trans failed
  · obtain rfl := List.append_cancel_right (Except.ok.inj (accepted.symm.trans front))
    obtain rfl := Except.ok.inj (whole.symm.trans came)
    have places : placesOf 2 " ++".toList = [2, 4] := by decide
    exact ⟨others, came', places ▸ alike⟩

end ScriptSyntax
