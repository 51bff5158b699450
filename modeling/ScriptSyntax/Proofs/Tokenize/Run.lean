/-
ScriptSyntax.Proofs.Tokenize.Run — the run of the cursor, taken apart
into reading and emitting.

A step of the cursor reads one lexeme and adds its tokens; a run is all
lexemes read, and then all tokens added (`run_eq`). For `tokenize` this
says that the outcome is a fault just if reading ends in one, and else
the tokens of the lexemes, closed by the end of the text
(`tokenize_eq_ok_iff`, `tokenize_eq_error_iff`).
-/
import ScriptSyntax.Tokenize
import ScriptSyntax.Proofs.Lexeme.Sequence

namespace ScriptSyntax

open Lexeme

namespace Cursor

/-! ## 1. One step -/

/-- Before a lexeme that may end where it does, a step moves behind it and
adds its tokens. -/
theorem step_of_admissible {cursor : Cursor} {lexeme : Lexeme} {after : List Char}
    (unread : cursor.unread = lexeme.text ++ after) (h : lexeme.Admissible after.head?) :
    cursor.step = .ok (cursor.consume lexeme) := by
  obtain ⟨c, rest, split, found⟩ := exists_read_of_admissible h
  rw [step, unread, split]
  simp only [found]

/-- Before a fault, a step ends in it. -/
theorem step_of_error {cursor : Cursor} {c : Char} {rest : List Char} {fault : Fault}
    (unread : cursor.unread = c :: rest) (h : Lexeme.read c rest = .error fault) :
    cursor.step = .error fault := by
  rw [step, unread]
  simp only [h]

/-- The token that was found last, once a lexeme's tokens are added. -/
theorem previous_consume (cursor : Cursor) (lexeme : Lexeme) :
    (cursor.consume lexeme).previous
      = latest cursor.previous (lexeme.emits cursor.previous) := by
  rw [latest, previous, tokens_consume, ← Array.getLast?_toList]
  simp [previous]

/-! ## 2. All steps -/

theorem run_of_unread_nil {cursor : Cursor} (h : cursor.unread = []) : cursor.run = .ok cursor := by
  rw [run, dif_pos h]

theorem run_of_step_error {cursor : Cursor} {fault : Fault} (left : cursor.unread ≠ [])
    (h : cursor.step = .error fault) : cursor.run = .error fault := by
  rw [run, dif_neg left]
  split
  · next other => cases h.symm.trans other; rfl
  · next other => cases h.symm.trans other

theorem run_of_step_ok {cursor next : Cursor} (left : cursor.unread ≠ [])
    (h : cursor.step = .ok next) : cursor.run = next.run := by
  rw [run, dif_neg left]
  split
  · next other => cases h.symm.trans other
  · next other => cases h.symm.trans other; rfl

/-- A run reads what is unread, and moves behind the lexemes it finds, one
after the other. -/
theorem run_eq (cursor : Cursor) :
    cursor.run
      = (readAll cursor.unread).map fun lexemes => lexemes.foldl consume cursor := by
  generalize unread : cursor.unread = source
  induction source using text_induction generalizing cursor with
  | nil =>
    rw [run_of_unread_nil unread, readAll_nil]
    rfl
  | fault c rest fault found =>
    have left : cursor.unread ≠ [] := by simp [unread]
    rw [run_of_step_error left (step_of_error unread found), readAll_of_error found]
    rfl
  | lexeme lexeme after admissible ih =>
    have left : cursor.unread ≠ [] := by
      rw [unread]
      exact List.append_ne_nil_of_left_ne_nil (text_ne_nil admissible) after
    have behind : (cursor.consume lexeme).unread = after := by
      rw [unread_consume, unread, List.drop_left]
    rw [run_of_step_ok left (step_of_admissible unread admissible), ih _ behind,
      readAll_append admissible]
    cases readAll after <;> rfl

/-- Behind some lexemes a cursor holds their tokens, after those that it
held before. -/
theorem tokens_foldl_consume (lexemes : List Lexeme) (cursor : Cursor) :
    (lexemes.foldl consume cursor).tokens.toList
      = cursor.tokens.toList ++ emitAll cursor.previous lexemes := by
  induction lexemes generalizing cursor with
  | nil => simp
  | cons lexeme lexemes ih =>
    rw [List.foldl_cons, ih, previous_consume, tokens_consume, emitAll_cons]
    simp

end Cursor

/-! ## 3. The tokens of a script -/

/-- The outcome for a script: the tokens of its lexemes, closed by the
end of the text, or its first fault, in the file's name. -/
theorem tokenize_eq (source : String) (file : Option String) :
    tokenize source file
      = match readAll source.toList with
        | .ok lexemes => .ok (emitAll none lexemes ++ [Token.endOfFile])
        | .error fault => .error ⟨fault, file.getD "shell"⟩ := by
  have unread : (Cursor.start source).unread = source.toList := rfl
  have previous : (Cursor.start source).previous = none := rfl
  rw [tokenize, Cursor.run_eq, unread]
  cases readAll source.toList with
  | error fault => rfl
  | ok lexemes =>
    have tokens := Cursor.tokens_foldl_consume lexemes (Cursor.start source)
    rw [previous] at tokens
    simp only [Except.map, Cursor.tokens_push, Array.toList_push, tokens]
    rfl

/-- A script has the tokens of the lexemes that it decomposes into, and
none if it does not. -/
theorem tokenize_eq_ok_iff {source : String} {file : Option String} {tokens : List Token} :
    tokenize source file = .ok tokens
      ↔ ∃ lexemes, Decomposes source.toList lexemes
        ∧ tokens = emitAll none lexemes ++ [Token.endOfFile] := by
  rw [tokenize_eq]
  simp only [← readAll_eq_ok_iff]
  cases readAll source.toList with
  | error fault => simp
  | ok lexemes => simp [eq_comm]

/-- A script has a diagnostic just if reading it ends in a fault, and
then it is that fault in the file's name. -/
theorem tokenize_eq_error_iff {source : String} {file : Option String} {diagnostic : Diagnostic} :
    tokenize source file = .error diagnostic
      ↔ readAll source.toList = .error diagnostic.fault ∧ diagnostic.file = file.getD "shell" := by
  rw [tokenize_eq]
  obtain ⟨fault, name⟩ := diagnostic
  cases readAll source.toList with
  | error cause => simp [eq_comm]
  | ok lexemes => simp

end ScriptSyntax
