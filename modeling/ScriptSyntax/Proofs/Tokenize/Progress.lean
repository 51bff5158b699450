/-
ScriptSyntax.Proofs.Tokenize.Progress — the loop over a script gets
nearer to the end with every turn, and comes there.

A turn of the loop carries out the rule for one character. Two of the
rules would do nothing at all if what they look for were not there, and a
loop that does nothing never ends. It is always there: a word rule is
chosen because a word is in front, and a layout rule because blanks are.

* `Loops` — the cursors at the head of the loop, by the number of turns
  that led there.
* `unread_lt_of_turn` and `tokens_prefix_of_turn` — a turn that ends in no
  fault leaves less to be read, and only adds tokens.
* `tokenize_progresses` — both for every turn, and from them the end: there
  are no more turns than characters, and when no character is left the
  cursor is at the end.
-/
import ScriptSyntax.Proofs.Tokenize.Rules

namespace ScriptSyntax

namespace Cursor

/-- The cursors at the head of the loop over a script, with the number of
turns before them. As long as there is a character its rule is carried
out, and the loop goes on where that does not end in a fault. -/
inductive Loops (source : String) : Nat → Cursor → Prop where
  | start : Loops source 0 (start source)
  | turn {count : Nat} {cursor : Cursor} {c : Char} :
      Loops source count cursor → cursor.current = some c →
      (cursor.turn (cursor.rule c)).fault = none →
      Loops source (count + 1) (cursor.performAll (cursor.turn (cursor.rule c)).moves)

/-! ## 1. One turn -/

variable {source : String} {count : Nat} {cursor next : Cursor} {c : Char}

theorem exists_rest_of_current (here : cursor.current = some c) :
    ∃ rest, cursor.unread = c :: rest :=
  List.head?_eq_some_iff.1 here

theorem unread_ne_nil_of_current (here : cursor.current = some c) : cursor.unread ≠ [] := by
  obtain ⟨rest, unread⟩ := exists_rest_of_current here
  simp [unread]

/-- A turn that ends in no fault is a step. -/
theorem step_of_turn (here : cursor.current = some c)
    (well : (cursor.turn (cursor.rule c)).fault = none) :
    cursor.step = .ok (cursor.performAll (cursor.turn (cursor.rule c)).moves) := by
  obtain ⟨rest, unread⟩ := exists_rest_of_current here
  rw [step_eq_outcome unread, outcome, well]

/-- A turn leaves less to be read. -/
theorem unread_lt_of_turn (here : cursor.current = some c)
    (well : (cursor.turn (cursor.rule c)).fault = none) :
    (cursor.performAll (cursor.turn (cursor.rule c)).moves).unread.length
      < cursor.unread.length :=
  unread_lt_of_step (unread_ne_nil_of_current here) (step_of_turn here well)

theorem tokens_prefix_of_step (taken : cursor.step = .ok next) :
    cursor.tokens.toList <+: next.tokens.toList := by
  unfold step at taken
  split at taken
  · cases taken
    exact List.prefix_rfl
  · split at taken
    · cases taken
    · cases taken
      rw [tokens_consume, Array.toList_append]
      exact List.prefix_append _ _

/-- A turn only adds tokens: those found before it stay, in front. -/
theorem tokens_prefix_of_turn (here : cursor.current = some c)
    (well : (cursor.turn (cursor.rule c)).fault = none) :
    cursor.tokens.toList
      <+: (cursor.performAll (cursor.turn (cursor.rule c)).moves).tokens.toList :=
  tokens_prefix_of_step (step_of_turn here well)

/-! ## 2. What a rule looks for is there -/

/-- The rules that look for something in front are chosen where it is. -/
theorem isSome_of_rule (cursor : Cursor) (c : Char) :
    (cursor.rule c = .word → (wordAtFront? cursor.unread).isSome = true)
      ∧ (cursor.rule c = .layout → (blanksAtFront? cursor.unread).isSome = true) := by
  unfold rule
  repeat' split
  all_goals simp [*]

/-- The word rule never goes back without a move. -/
theorem wordMoves?_ne_none (chosen : cursor.rule c = .word) : cursor.wordMoves? ≠ none := by
  obtain ⟨letters, found⟩ := Option.isSome_iff_exists.1 ((isSome_of_rule cursor c).1 chosen)
  simp [wordMoves?, found]

/-- The layout rule never goes back without a move. -/
theorem layoutMoves?_ne_none (chosen : cursor.rule c = .layout) : cursor.layoutMoves? ≠ none := by
  obtain ⟨blanks, found⟩ := Option.isSome_iff_exists.1 ((isSome_of_rule cursor c).2 chosen)
  simp [layoutMoves?, found]

/-! ## 3. All turns -/

/-- Each turn passes over a character at least. -/
theorem Loops.count_add_le (h : Loops source count cursor) :
    count + cursor.unread.length ≤ source.length := by
  induction h with
  | start => exact (Nat.zero_add _).trans_le (String.length_toList ▸ Nat.le_refl _)
  | turn _ here well ih =>
    have := unread_lt_of_turn here well
    omega

theorem Loops.within (h : Loops source count cursor) : cursor.Within := by
  induction h with
  | start => exact within_start source
  | turn _ here well ih => exact ih.step (step_of_turn here well)

/-- Where the loop finds no character it is at the end. -/
theorem Loops.atEnd (h : Loops source count cursor) (done : cursor.current = none) :
    cursor.atEnd = true :=
  h.within.atEnd_iff.2 (List.head?_eq_none_iff.1 done)

/-- How a loop ends, and what the run from its head is then. -/
theorem Loops.exists_end (h : Loops source count cursor) :
    ∃ turns last, Loops source turns last
      ∧ ((last.current = none ∧ cursor.run = .ok last)
        ∨ ∃ c fault, last.current = some c ∧ (last.turn (last.rule c)).fault = some fault
          ∧ cursor.run = .error fault) := by
  -- By what is left to be read, which a turn makes less.
  induction size : cursor.unread.length using Nat.strong_induction_on generalizing count cursor with
  | _ size ih =>
    subst size
    cases here : cursor.current with
    | none =>
      have done := run_of_unread_nil (List.head?_eq_none_iff.1 here)
      exact ⟨count, cursor, h, .inl ⟨here, done⟩⟩
    | some c =>
      obtain ⟨rest, unread⟩ := exists_rest_of_current here
      have left := unread_ne_nil_of_current here
      have taken := step_eq_outcome unread
      cases well : (cursor.turn (cursor.rule c)).fault with
      | some fault =>
        rw [outcome, well] at taken
        exact ⟨count, cursor, h, .inr ⟨c, fault, here, well, run_of_step_error left taken⟩⟩
      | none =>
        have closer := unread_lt_of_turn here well
        rw [run_of_step_ok left (step_of_turn here well)]
        exact ih _ closer (h.turn here well) rfl

end Cursor

open Cursor

/-- The loop over a script makes progress and ends. A step is what the rule
for the character at the cursor comes to, move by move. The rules that look
for a word or for blanks find what they look for; a turn leaves less to be
read and only adds tokens. So there are no more turns than characters, where
no character is left the cursor is at the end, and one of the two ends is
reached: the tokens found, or the fault of the last turn. -/
theorem tokenize_progresses (source : String) (file : Option String) :
    (∀ (cursor : Cursor) c, cursor.current = some c →
      cursor.step = cursor.outcome (cursor.turn (cursor.rule c))
      ∧ (cursor.rule c = .word → cursor.wordMoves? ≠ none)
      ∧ (cursor.rule c = .layout → cursor.layoutMoves? ≠ none)
      ∧ ((cursor.turn (cursor.rule c)).fault = none →
        (cursor.performAll (cursor.turn (cursor.rule c)).moves).unread.length
            < cursor.unread.length
          ∧ cursor.tokens.toList
            <+: (cursor.performAll (cursor.turn (cursor.rule c)).moves).tokens.toList))
    ∧ (∀ count cursor, Loops source count cursor →
      count + cursor.unread.length ≤ source.length
        ∧ (cursor.current = none → cursor.atEnd = true))
    ∧ ∃ count cursor, Loops source count cursor
      ∧ ((cursor.current = none
          ∧ tokenize source file = .ok (cursor.push Token.endOfFile).tokens.toList)
        ∨ ∃ c fault, count < source.length ∧ cursor.current = some c
          ∧ (cursor.turn (cursor.rule c)).fault = some fault
          ∧ tokenize source file = .error ⟨fault, file.getD "shell"⟩) := by
  refine ⟨fun cursor c here => ?_, fun count cursor h => ⟨h.count_add_le, h.atEnd⟩, ?_⟩
  · obtain ⟨rest, unread⟩ := exists_rest_of_current here
    exact ⟨step_eq_outcome unread, wordMoves?_ne_none, layoutMoves?_ne_none, fun well =>
      ⟨unread_lt_of_turn here well, tokens_prefix_of_turn here well⟩⟩
  · have first : Loops source 0 (start source) := .start
    obtain ⟨count, last, h, ⟨done, run⟩ | ⟨c, fault, here, ill, run⟩⟩ := first.exists_end
    · exact ⟨count, last, h, .inl ⟨done, by rw [tokenize, run]⟩⟩
    · have left := List.length_pos_iff.2 (unread_ne_nil_of_current here)
      have bound := h.count_add_le
      exact ⟨count, last, h, .inr ⟨c, fault, by omega, here, ill, by rw [tokenize, run]⟩⟩

/-- A doubled sign at the start of a script adds no token, and is passed
over all the same. -/
theorem tokenize_progresses_leading_increment :
    Loops "++x" 1 ⟨"++x", 2, ['x'], #[]⟩ ∧ 1 + 1 ≤ "++x".length := by
  have first : Loops "++x" 1 ⟨"++x", 2, ['x'], #[]⟩ := Loops.start.turn (c := '+') rfl rfl
  exact ⟨first, ((tokenize_progresses "++x" none).2.1 1 _ first).1⟩

end ScriptSyntax
