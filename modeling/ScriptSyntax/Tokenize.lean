/-
ScriptSyntax.Tokenize — the tokens of a script.

`Cursor.step` takes one lexeme off the front of what is unread and adds
the tokens that it comes to; `Cursor.run` takes steps until nothing is
left, and `tokenize` closes the list. Each step leaves less unread
(`unread_lt_of_step`), which is why the run ends.
-/
import ScriptSyntax.Lexeme.Reading
import ScriptSyntax.Cursor

namespace ScriptSyntax

namespace Cursor

/-! ## 1. One step -/

/-- Moves past a lexeme and adds its tokens. -/
def consume (cursor : Cursor) (lexeme : Lexeme) : Cursor :=
  (lexeme.emits cursor.previous).foldl push (cursor.advanceBy lexeme.text.length)

/-- Reads one lexeme, and moves behind it. At the end there is nothing to
read, and the cursor stays. -/
def step (cursor : Cursor) : Except Fault Cursor :=
  match cursor.unread with
  | [] => .ok cursor
  | c :: rest =>
    match Lexeme.read c rest with
    | .error fault => .error fault
    | .ok lexeme => .ok (cursor.consume lexeme)

theorem unread_foldl_push (tokens : List Token) (cursor : Cursor) :
    (tokens.foldl push cursor).unread = cursor.unread := by
  induction tokens generalizing cursor with
  | nil => rfl
  | cons token tokens ih => simp [ih]

theorem tokens_foldl_push (tokens : List Token) (cursor : Cursor) :
    (tokens.foldl push cursor).tokens = cursor.tokens ++ tokens.toArray := by
  induction tokens generalizing cursor with
  | nil => simp
  | cons token tokens ih =>
    rw [List.foldl_cons, ih, tokens_push]
    apply Array.toList_inj.1
    simp

@[simp] theorem unread_consume (cursor : Cursor) (lexeme : Lexeme) :
    (cursor.consume lexeme).unread = cursor.unread.drop lexeme.text.length := by
  simp [consume, unread_foldl_push]

/-- A step adds the lexeme's tokens behind those found before, and
changes none of these. -/
@[simp] theorem tokens_consume (cursor : Cursor) (lexeme : Lexeme) :
    (cursor.consume lexeme).tokens
      = cursor.tokens ++ (lexeme.emits cursor.previous).toArray := by
  simp [consume, tokens_foldl_push]

theorem within_foldl_push {tokens : List Token} {cursor : Cursor} (h : cursor.Within) :
    (tokens.foldl push cursor).Within := by
  induction tokens generalizing cursor with
  | nil => exact h
  | cons token tokens ih => exact ih (h.push token)

/-- A step keeps the cursor between two characters of its script. -/
theorem Within.step {cursor next : Cursor} (h : cursor.Within) (taken : cursor.step = .ok next) :
    next.Within := by
  unfold Cursor.step at taken
  split at taken
  · cases taken
    exact h
  · split at taken
    · cases taken
    · cases taken
      exact within_foldl_push (h.advanceBy _)

/-- A step that succeeds before the end leaves less to be read. -/
theorem unread_lt_of_step {cursor next : Cursor} (left : cursor.unread ≠ [])
    (h : cursor.step = .ok next) : next.unread.length < cursor.unread.length := by
  unfold step at h
  split at h
  · next unread => exact absurd unread left
  · next c rest unread =>
    split at h
    · cases h
    · next lexeme found =>
      cases h
      have : 0 < lexeme.text.length :=
        List.length_pos_iff.2 (Lexeme.text_ne_nil_of_read found)
      rw [unread_consume, unread, List.length_drop, List.length_cons]
      omega

/-! ## 2. All steps -/

/-- Takes steps up to the end of the script, or to the first fault. -/
def run (cursor : Cursor) : Except Fault Cursor :=
  if _left : cursor.unread = [] then .ok cursor
  else
    match _taken : cursor.step with
    | .error fault => .error fault
    | .ok next => next.run
termination_by cursor.unread.length
decreasing_by exact unread_lt_of_step _left _taken

end Cursor

/-- The tokens of a script, closed by one `Token.endOfFile`, or the first
fault. A script that comes from no file is called `shell`. -/
def tokenize (source : String) (file : Option String) : Except Diagnostic (List Token) :=
  match (Cursor.start source).run with
  | .ok cursor => .ok (cursor.push Token.endOfFile).tokens.toList
  | .error fault => .error ⟨fault, file.getD "shell"⟩

end ScriptSyntax
