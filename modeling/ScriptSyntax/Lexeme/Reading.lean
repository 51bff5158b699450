/-
ScriptSyntax.Lexeme.Reading — the lexeme that a text begins with.

`Lexeme.read` looks at the first character and at the one after it, and
takes the longest stretch that the first character allows. Main
statement: what is read is never empty (`text_ne_nil_of_read`), so whoever
reads on gets nearer to the end.
-/
import ScriptSyntax.Lexeme.Basic
import ScriptSyntax.Fault

namespace ScriptSyntax.Lexeme

open Vocabulary

/-- A number begins with a digit, or with a minus sign right before
one. -/
def startsNumber (c : Char) (next : Option Char) : Bool :=
  c.isDigit || (c == '-' && next.any Char.isDigit)

/-- The lexeme at the front of the text `c :: rest`. Numbers come before
marks, for the sake of the minus sign, and pairs before single marks. -/
def read (c : Char) (rest : List Char) : Except Fault Lexeme :=
  if startsNumber c rest.head? then .ok (.number (c :: rest.takeWhile isNumeric))
  else if c = '"' then
    if '"' ∈ rest then .ok (.quoted (rest.takeWhile (· != '"')))
    else .error (.unterminatedString (String.ofList rest))
  else match Pair.ofChars? c rest.head? with
    | some double => .ok (.pair double)
    | none =>
      match mark? c with
      | some kind => .ok (.mark kind c)
      | none =>
        if isWordStart c then .ok (.word (c :: rest.takeWhile isWordPart))
        else if isBlank c then .ok (.layout (c :: rest.takeWhile isBlank))
        else .error (.unrecognisedCharacter c)

/-- A text that holds a double quote is the part before the first one,
the quote, and some rest. -/
theorem takeWhile_append_quote {rest : List Char} (h : '"' ∈ rest) :
    ∃ after, rest = rest.takeWhile (· != '"') ++ '"' :: after := by
  induction rest with
  | nil => simp at h
  | cons d rest ih =>
    by_cases hd : d = '"'
    · exact ⟨rest, by simp [hd]⟩
    · have : '"' ∈ rest := by
        rcases List.mem_cons.1 h with h | h
        · exact absurd h.symm hd
        · exact h
      obtain ⟨after, eq⟩ := ih this
      refine ⟨after, ?_⟩
      rw [List.takeWhile_cons_of_pos (by simpa using hd), List.cons_append, ← eq]

/-- Reading a lexeme uses up at least one character. -/
theorem text_ne_nil_of_read {c : Char} {rest : List Char} {lexeme : Lexeme}
    (h : read c rest = .ok lexeme) : lexeme.text ≠ [] := by
  unfold read at h
  repeat' split at h
  all_goals cases h
  all_goals simp [text]

end ScriptSyntax.Lexeme
