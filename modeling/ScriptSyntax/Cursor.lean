/-
ScriptSyntax.Cursor — a place in a script, and the tokens found before
it.

The place is a byte offset, so that an editor can be sent there, beside
the characters that lie behind it. Every move goes through `advanceBy`,
which counts in characters and never passes the end; `push` is the only
way to add a token.
-/
import ScriptSyntax.Token.Basic
import ScriptSyntax.Text.Utf8

namespace ScriptSyntax

/-- A place in a script. -/
structure Cursor where
  /-- The whole script. -/
  source : String
  /-- How many of its bytes lie before the cursor. -/
  offset : Nat
  /-- The characters behind the cursor. -/
  unread : List Char
  /-- The tokens found so far. -/
  tokens : Array Token

namespace Cursor

/-- The cursor before the first character of a script. -/
def start (source : String) : Cursor :=
  ⟨source, 0, source.toList, #[]⟩

/-! ## 1. Looking -/

/-- The character at the cursor. -/
def current (cursor : Cursor) : Option Char := cursor.unread.head?

/-- The character after the one at the cursor. -/
def lookahead (cursor : Cursor) : Option Char := cursor.unread[1]?

/-- The part of the script that lies behind the cursor. -/
def remainder (cursor : Cursor) : String := String.ofList cursor.unread

/-- Whether the whole script lies before the cursor. -/
def atEnd (cursor : Cursor) : Bool := cursor.source.utf8ByteSize ≤ cursor.offset

/-- The token that was found last. -/
def previous (cursor : Cursor) : Option Token := cursor.tokens.back?

/-! ## 2. Moving and adding -/

/-- Moves past a number of characters, or to the end if there are
fewer. -/
def advanceBy (cursor : Cursor) (count : Nat) : Cursor :=
  { cursor with
    offset := cursor.offset + utf8Length (cursor.unread.take count)
    unread := cursor.unread.drop count }

/-- Moves past one character, if there is one, and says which. -/
def advance (cursor : Cursor) : Option Char × Cursor :=
  (cursor.current, cursor.advanceBy 1)

/-- Adds a token to those found. -/
def push (cursor : Cursor) (token : Token) : Cursor :=
  { cursor with tokens := cursor.tokens.push token }

/-! ## 3. What each operation leaves alone -/

@[simp] theorem unread_advanceBy (cursor : Cursor) (count : Nat) :
    (cursor.advanceBy count).unread = cursor.unread.drop count := rfl

@[simp] theorem tokens_advanceBy (cursor : Cursor) (count : Nat) :
    (cursor.advanceBy count).tokens = cursor.tokens := rfl

@[simp] theorem source_advanceBy (cursor : Cursor) (count : Nat) :
    (cursor.advanceBy count).source = cursor.source := rfl

@[simp] theorem unread_push (cursor : Cursor) (token : Token) :
    (cursor.push token).unread = cursor.unread := rfl

@[simp] theorem offset_push (cursor : Cursor) (token : Token) :
    (cursor.push token).offset = cursor.offset := rfl

@[simp] theorem source_push (cursor : Cursor) (token : Token) :
    (cursor.push token).source = cursor.source := rfl

@[simp] theorem tokens_push (cursor : Cursor) (token : Token) :
    (cursor.push token).tokens = cursor.tokens.push token := rfl

@[simp] theorem previous_push (cursor : Cursor) (token : Token) :
    (cursor.push token).previous = some token := by
  simp [previous, push]

/-! ## 4. The cursor and its script -/

/-- The cursor lies between two characters of its script: the offset is
the length in bytes of the part before it, and what is unread is the part
behind it. -/
def Within (cursor : Cursor) : Prop :=
  ∃ before : List Char,
    cursor.source.toList = before ++ cursor.unread ∧ cursor.offset = utf8Length before

theorem within_start (source : String) : (start source).Within :=
  ⟨[], rfl, rfl⟩

theorem Within.push {cursor : Cursor} (h : cursor.Within) (token : Token) :
    (cursor.push token).Within := h

/-- A move keeps the cursor between two characters. -/
theorem Within.advanceBy {cursor : Cursor} (h : cursor.Within) (count : Nat) :
    (cursor.advanceBy count).Within := by
  obtain ⟨before, split, offset⟩ := h
  refine ⟨before ++ cursor.unread.take count, ?_, ?_⟩
  · simp [split]
  · simp [Cursor.advanceBy, offset]

/-- The cursor is at the end just if nothing is left to read. -/
theorem Within.atEnd_iff {cursor : Cursor} (h : cursor.Within) :
    cursor.atEnd = true ↔ cursor.unread = [] := by
  obtain ⟨before, split, offset⟩ := h
  rw [atEnd, decide_eq_true_iff, offset, ← String.ofList_toList (s := cursor.source),
    utf8ByteSize_ofList, split, utf8Length_append]
  constructor
  · intro short
    cases unread : cursor.unread with
    | nil => rfl
    | cons c rest =>
      have := c.utf8Size_pos
      rw [unread, utf8Length_cons] at short
      omega
  · intro unread
    simp [unread]

end Cursor

end ScriptSyntax
