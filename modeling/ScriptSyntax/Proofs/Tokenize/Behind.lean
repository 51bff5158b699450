/-
ScriptSyntax.Proofs.Tokenize.Behind — what a text comes to behind a
token.

The only thing that a text can learn of what was read before it is the
token that was found last. So a text has a meaning of its own, as a
function of that token: `tokensBehind`. For a whole script there is no
token before it (`tokenize_eq_tokensBehind`).

* `tokensBehind_text` — a lexeme comes to its tokens, and what follows it
  is behind the last of them.
* `tokensBehind_blanks` — blanks in front of a text change nothing.
* `tokensBehind_append_blanks` — behind a text and blanks, the rest is
  read by itself: no lexeme crosses a blank.
-/
import ScriptSyntax.Proofs.Tokenize.Run

namespace ScriptSyntax.Lexeme

open Vocabulary

/-- What a text comes to behind the token `previous`, or its first
fault. -/
def tokensBehind (previous : Option Token) (source : List Char) : Except Fault (List Token) :=
  (readAll source).map (emitAll previous)

/-- An outcome with more tokens in front of those that it has. -/
def prepend (tokens : List Token) (outcome : Except Fault (List Token)) :
    Except Fault (List Token) :=
  outcome.map (tokens ++ ·)

@[simp] theorem prepend_ok (tokens later : List Token) :
    prepend tokens (.ok later) = .ok (tokens ++ later) := rfl

@[simp] theorem prepend_error (tokens : List Token) (fault : Fault) :
    prepend tokens (.error fault) = .error fault := rfl

@[simp] theorem prepend_nil (outcome : Except Fault (List Token)) :
    prepend [] outcome = outcome := by
  cases outcome <;> rfl

@[simp] theorem prepend_prepend (tokens more : List Token) (outcome : Except Fault (List Token)) :
    prepend tokens (prepend more outcome) = prepend (tokens ++ more) outcome := by
  cases outcome <;> simp

/-! ## 1. Scripts -/

/-- A script has no token before it. -/
theorem tokenize_eq_tokensBehind (source : String) (file : Option String) :
    tokenize source file
      = match tokensBehind none source.toList with
        | .ok tokens => .ok (tokens ++ [Token.endOfFile])
        | .error fault => .error ⟨fault, file.getD "shell"⟩ := by
  rw [tokenize_eq, tokensBehind]
  cases readAll source.toList <;> rfl

/-- Scripts that come to the same have the same outcome. -/
theorem tokenize_congr {source other : String}
    (h : tokensBehind none source.toList = tokensBehind none other.toList) (file : Option String) :
    tokenize source file = tokenize other file := by
  rw [tokenize_eq_tokensBehind, tokenize_eq_tokensBehind, h]

theorem tokensBehind_eq_ok_iff {source : String} {file : Option String} {tokens : List Token} :
    tokensBehind none source.toList = .ok tokens
      ↔ tokenize source file = .ok (tokens ++ [Token.endOfFile]) := by
  rw [tokenize_eq_tokensBehind]
  cases tokensBehind none source.toList <;> simp

/-! ## 2. One lexeme at a time -/

@[simp] theorem tokensBehind_nil (previous : Option Token) :
    tokensBehind previous [] = .ok [] := by
  rw [tokensBehind, readAll_nil]
  rfl

theorem tokensBehind_of_error {c : Char} {rest : List Char} {fault : Fault}
    (h : read c rest = .error fault) (previous : Option Token) :
    tokensBehind previous (c :: rest) = .error fault := by
  rw [tokensBehind, readAll_of_error h]
  rfl

/-- A lexeme comes to its tokens, and what follows is behind these. -/
theorem tokensBehind_text {lexeme : Lexeme} {after : List Char}
    (h : lexeme.Admissible after.head?) (previous : Option Token) :
    tokensBehind previous (lexeme.text ++ after)
      = prepend (lexeme.emits previous)
          (tokensBehind (latest previous (lexeme.emits previous)) after) := by
  rw [tokensBehind, readAll_append h, tokensBehind]
  cases readAll after <;> rfl

/-! ## 3. Blanks in front -/

/-- A run of blanks comes to nothing where it ends. -/
theorem tokensBehind_run {blanks after : List Char} (h : ∀ c ∈ blanks, isBlank c = true)
    (stop : EndsBefore isBlank after.head?) (previous : Option Token) :
    tokensBehind previous (blanks ++ after) = tokensBehind previous after := by
  by_cases empty : blanks = []
  · rw [empty]
    rfl
  · have layout : (Lexeme.layout blanks).Admissible after.head? := ⟨empty, h, stop⟩
    exact (tokensBehind_text layout previous).trans (prepend_nil _)

/-- Blanks in front of a text change nothing. -/
theorem tokensBehind_blanks {blanks : List Char} (h : ∀ c ∈ blanks, isBlank c = true)
    (rest : List Char) (previous : Option Token) :
    tokensBehind previous (blanks ++ rest) = tokensBehind previous rest := by
  obtain ⟨after, split, stop⟩ := exists_takeWhile_append isBlank rest
  have front : ∀ c ∈ rest.takeWhile isBlank, isBlank c = true :=
    fun _ => List.mem_takeWhile_imp
  have whole : ∀ c ∈ blanks ++ rest.takeWhile isBlank, isBlank c = true := by
    intro c hc
    rcases List.mem_append.1 hc with hc | hc
    · exact h c hc
    · exact front c hc
  rw [split, ← List.append_assoc, tokensBehind_run whole stop, tokensBehind_run front stop]

theorem tokensBehind_dropWhile (source : List Char) (previous : Option Token) :
    tokensBehind previous (source.dropWhile isBlank) = tokensBehind previous source := by
  have front : ∀ c ∈ source.takeWhile isBlank, isBlank c = true :=
    fun _ => List.mem_takeWhile_imp
  have same := tokensBehind_blanks front (source.dropWhile isBlank) previous
  rw [List.takeWhile_append_dropWhile] at same
  exact same.symm

/-! ## 4. Blanks behind -/

/-- What follows a text and some blanks is behind the last token of the
text, and the text comes to what it would come to by itself. The
induction is along the lexemes of the text; only the last of them is
followed by something else than before, and that is a blank. -/
theorem tokensBehind_append_blanks {front blanks : List Char} {previous : Option Token}
    {tokens : List Token} (accepted : tokensBehind previous front = .ok tokens)
    (some_blank : blanks ≠ []) (h : ∀ c ∈ blanks, isBlank c = true) (rest : List Char) :
    tokensBehind previous (front ++ (blanks ++ rest))
      = prepend tokens (tokensBehind (latest previous tokens) rest) := by
  induction front using text_induction generalizing previous tokens with
  | nil =>
    rw [tokensBehind_nil] at accepted
    cases accepted
    rw [List.nil_append, tokensBehind_blanks h, latest_nil, prepend_nil]
  | fault c later fault found =>
    rw [tokensBehind_of_error found] at accepted
    cases accepted
  | lexeme lexeme after admissible ih =>
    by_cases layout : ∃ run, lexeme = .layout run
    · obtain ⟨run, rfl⟩ := layout
      have inside : ∀ c ∈ (Lexeme.layout run).text, isBlank c = true := admissible.2.1
      rw [tokensBehind_blanks inside] at accepted
      rw [List.append_assoc, tokensBehind_blanks inside, ih accepted]
    · have solid : ∀ run, lexeme ≠ .layout run := fun run eq => layout ⟨run, eq⟩
      have still : lexeme.Admissible (after ++ (blanks ++ rest)).head? := by
        cases after with
        | nil =>
          obtain ⟨c, others, rfl⟩ := List.exists_cons_of_ne_nil some_blank
          refine admissible.before_blank solid ?_
          rintro d ⟨rfl⟩
          exact h _ List.mem_cons_self
        | cons c after => exact admissible
      rw [tokensBehind_text admissible] at accepted
      cases found : tokensBehind (latest previous (lexeme.emits previous)) after with
      | error fault =>
        rw [found] at accepted
        cases accepted
      | ok later =>
        rw [found] at accepted
        cases accepted
        rw [List.append_assoc, tokensBehind_text still, ih found, prepend_prepend, latest_append]

end ScriptSyntax.Lexeme
