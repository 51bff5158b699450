/-
ScriptSyntax.Proofs.Tokenize.Positions — where a cursor can be, from
outside and while a script is read.

Whoever calls a cursor moves it by characters, and cannot put it anywhere
but between two of them. The rules also move it by bytes, which could land
inside a character. They do not: a rule that moves by bytes has found some
characters in front, and moves by theirs (`Fits`).

* `fitAll_turn` — each move by bytes fits where it is made, whatever the
  rule.
* `Passes` — all cursors that there are while a script is read, those
  between two moves of a rule among them.
* `cursor_refines_index` — called from outside, a cursor answers as an
  index into the characters of its script would; and all that a script is
  read by lie between two characters.
-/
import ScriptSyntax.Proofs.Tokenize.Progress

namespace ScriptSyntax

open Vocabulary Lexeme

namespace Cursor

/-! ## 1. Moves that fit -/

/-- Whether a move ends behind whole characters. A move by characters
always does. -/
def Fits (cursor : Cursor) : Move → Prop
  | .call _ => True
  | .skip bytes => ∃ front, front <+: cursor.unread ∧ bytes = utf8Length front

/-- Whether some moves fit, each where it is made. -/
def FitAll (cursor : Cursor) : List Move → Prop
  | [] => True
  | move :: moves => cursor.Fits move ∧ (cursor.perform move).FitAll moves

/-- A move that fits keeps the cursor between two characters. -/
theorem Within.perform {cursor : Cursor} {move : Move} (h : cursor.Within)
    (fits : cursor.Fits move) : (cursor.perform move).Within := by
  cases move with
  | call call => exact h.call call
  | skip bytes =>
    obtain ⟨front, ⟨after, unread⟩, rfl⟩ := fits
    rw [perform_skip, skip_eq_advanceBy unread.symm]
    exact h.advanceBy _

theorem Within.performAll {cursor : Cursor} {moves : List Move} (h : cursor.Within)
    (fit : cursor.FitAll moves) : (cursor.performAll moves).Within := by
  induction moves generalizing cursor with
  | nil => exact h
  | cons move moves ih => exact ih (h.perform fit.1) fit.2

/-- Of moves that fit the first ones fit. -/
theorem FitAll.of_front {cursor : Cursor} {first moves : List Move} (fit : cursor.FitAll moves)
    (front : first <+: moves) : cursor.FitAll first := by
  induction first generalizing cursor moves with
  | nil => trivial
  | cons move first ih =>
    obtain ⟨later, rfl⟩ := front
    exact ⟨fit.1, ih fit.2 (List.prefix_append _ _)⟩

theorem fitAll_of_calls {cursor : Cursor} {moves : List Move}
    (calls : ∀ move ∈ moves, ∃ call, move = .call call) : cursor.FitAll moves := by
  induction moves generalizing cursor with
  | nil => trivial
  | cons move moves ih =>
    obtain ⟨call, rfl⟩ := calls move List.mem_cons_self
    exact ⟨trivial, ih fun other mem => calls other (List.mem_cons_of_mem _ mem)⟩

/-! ## 2. The moves of a rule -/

/-- Numbers are collected by calls alone. -/
theorem exists_call_of_mem_numberMoves {number : List Char} {period : Bool} {text : List Char}
    {move : Move} (mem : move ∈ numberMoves number period text) : ∃ call, move = .call call := by
  induction text generalizing number period with
  | nil => exact ⟨_, List.mem_singleton.1 mem⟩
  | cons c text ih =>
    rw [numberMoves] at mem
    repeat' split at mem
    all_goals simp only [List.mem_cons, List.not_mem_nil, or_false] at mem
    · exact mem.elim (⟨_, ·⟩) ih
    · exact mem.elim (⟨_, ·⟩) (·.elim (⟨_, ·⟩) ih)
    · exact mem.elim (⟨_, ·⟩) ih
    · exact ⟨_, mem⟩

/-- What a text begins with is in front of it. -/
theorem prefix_of_wordAtFront? {text letters : List Char}
    (found : wordAtFront? text = some letters) : letters <+: text := by
  cases text with
  | nil => cases found
  | cons c rest =>
    rw [wordAtFront?] at found
    split at found
    · cases found
      exact List.cons_prefix_cons.2 ⟨rfl, List.takeWhile_prefix _⟩
    · cases found

theorem prefix_of_blanksAtFront? {text blanks : List Char}
    (found : blanksAtFront? text = some blanks) : blanks <+: text := by
  rw [blanksAtFront?] at found
  split at found
  · cases found
  · cases found
    exact List.takeWhile_prefix _

/-- Whatever the rule, its moves fit. -/
theorem fitAll_turn (cursor : Cursor) (rule : Rule) : cursor.FitAll (cursor.turn rule).moves := by
  cases rule with
  | number =>
    refine fitAll_of_calls fun move mem => ?_
    simp only [turn] at mem
    split at mem
    · rcases List.mem_cons.1 mem with rfl | mem
      · exact ⟨_, rfl⟩
      · exact exists_call_of_mem_numberMoves mem
    · exact exists_call_of_mem_numberMoves mem
  | lookahead second double single =>
    rw [turn]
    split
    · exact ⟨trivial, trivial, trivial⟩
    · exact ⟨trivial, trivial, trivial⟩
  | literal =>
    simp only [turn]
    split
    · next closed =>
      -- The quote behind the body is passed over with it.
      obtain ⟨after, split⟩ := takeWhile_append_quote closed
      generalize (cursor.unread.drop 1).takeWhile (· != '"') = body at split ⊢
      refine ⟨trivial, trivial, ⟨body ++ ['"'], ⟨after, ?_⟩, ?_⟩, trivial⟩
      · simp [split]
      · rw [utf8Length_append]
        rfl
    · exact ⟨trivial, trivial⟩
  | doubled sign =>
    refine fitAll_of_calls fun move mem => ?_
    rcases List.mem_cons.1 mem with rfl | mem
    · exact ⟨_, rfl⟩
    · obtain ⟨token, -, rfl⟩ := List.mem_map.1 mem
      exact ⟨_, rfl⟩
  | mark token => exact ⟨trivial, trivial, trivial⟩
  | word =>
    rw [turn, wordMoves?]
    cases found : wordAtFront? cursor.unread with
    | none => trivial
    | some letters => exact ⟨trivial, ⟨letters, prefix_of_wordAtFront? found, rfl⟩, trivial⟩
  | layout =>
    rw [turn, layoutMoves?]
    cases found : blanksAtFront? cursor.unread with
    | none => trivial
    | some blanks => exact ⟨⟨blanks, prefix_of_blanksAtFront? found, rfl⟩, trivial⟩
  | foreign c => trivial

/-! ## 3. While a script is read -/

/-- The cursors that there are while a script is read: those at the head
of the loop, those behind some of the moves of a rule, and the one that
closes the list of tokens. -/
inductive Passes (source : String) : Cursor → Prop where
  | head {count : Nat} {cursor : Cursor} : Loops source count cursor → Passes source cursor
  | between {count : Nat} {cursor : Cursor} {c : Char} {done : List Move} :
      Loops source count cursor → cursor.current = some c →
      done <+: (cursor.turn (cursor.rule c)).moves → Passes source (cursor.performAll done)
  | closed {count : Nat} {cursor : Cursor} :
      Loops source count cursor → cursor.current = none →
      Passes source (cursor.push Token.endOfFile)

theorem source_perform (cursor : Cursor) (move : Move) :
    (cursor.perform move).source = cursor.source := by
  cases move with
  | call call => exact source_call cursor call
  | skip bytes => rfl

theorem source_performAll (cursor : Cursor) (moves : List Move) :
    (cursor.performAll moves).source = cursor.source := by
  induction moves generalizing cursor with
  | nil => rfl
  | cons move moves ih => exact (ih _).trans (source_perform cursor move)

theorem Loops.source_eq {source : String} {count : Nat} {cursor : Cursor}
    (h : Loops source count cursor) : cursor.source = source := by
  induction h with
  | start => rfl
  | turn _ _ _ ih => exact (source_performAll _ _).trans ih

theorem Passes.source_eq {source : String} {cursor : Cursor} (h : Passes source cursor) :
    cursor.source = source := by
  cases h with
  | head loops => exact loops.source_eq
  | between loops _ _ => exact (source_performAll _ _).trans loops.source_eq
  | closed loops _ => exact loops.source_eq

/-- At no time while a script is read does the cursor lie inside a
character. -/
theorem Passes.within {source : String} {cursor : Cursor} (h : Passes source cursor) :
    cursor.Within := by
  cases h with
  | head loops => exact loops.within
  | between loops _ front => exact loops.within.performAll ((fitAll_turn _ _).of_front front)
  | closed loops _ => exact loops.within.push _

end Cursor

open Cursor

/-- A cursor is an index into the characters of its script. Behind any calls
from outside it lies behind as many characters as it was asked to move by,
or at the end: there it can be cut, it answers with the characters and the
token that are to be found there, and it holds the tokens that were added.
No move touches the tokens and no token moves the cursor, and to move by a
number of characters is to move by one so often. Whatever the rules do while
the script is read, the cursor can be cut there as well. -/
theorem cursor_refines_index (source : String) :
    (∀ calls : List Call,
      let cursor := (start source).callAll calls
      let index := min source.length (Call.totalDistance calls)
      Located source index cursor
        ∧ (cursor.call .current).1 = source.toList[index]?
        ∧ (cursor.call .lookahead).1 = source.toList[index + 1]?
        ∧ (cursor.call .advance).1 = (cursor.call .current).1
        ∧ (cursor.atEnd = true ↔ index = source.length)
        ∧ cursor.previous = (Call.pushed calls).getLast?
        ∧ cursor.tokens.toList = Call.pushed calls)
    ∧ (∀ cursor : Cursor,
      (∀ call : Call, call.pushed? = none → (cursor.call call).2.tokens = cursor.tokens)
        ∧ (∀ token, (cursor.push token).offset = cursor.offset
          ∧ (cursor.push token).unread = cursor.unread)
        ∧ ∀ count, cursor.advanceBy count = advanceOneByOne count cursor)
    ∧ ∀ cursor, Passes source cursor →
      ∃ index, index ≤ source.length ∧ Located source index cursor := by
  refine ⟨?_, ?_, ?_⟩
  · intro calls cursor index
    obtain ⟨unread, located⟩ := callAll_start source calls
    have within : cursor.Within := (within_start source).callAll calls
    have tokens : cursor.tokens.toList = Call.pushed calls := tokens_callAll (start source) calls
    refine ⟨located, ?_, ?_, rfl, ?_, ?_, tokens⟩
    · exact (congrArg List.head? unread).trans List.head?_drop
    · exact (congrArg (·[1]?) unread).trans List.getElem?_drop
    · rw [within.atEnd_iff, show cursor.unread = source.toList.drop index from unread,
        List.drop_eq_nil_iff, String.length_toList]
      omega
    · rw [previous, ← Array.getLast?_toList, tokens]
  · intro cursor
    refine ⟨?_, fun token => ⟨rfl, rfl⟩, fun count => (advanceOneByOne_eq count cursor).symm⟩
    intro call moves
    cases call with
    | push token => cases moves
    | _ => rfl
  · intro cursor h
    obtain ⟨index, le, located⟩ := located_of_within h.within
    rw [h.source_eq] at le located
    exact ⟨index, le, located⟩

/-- Characters of two and of three bytes, and a call that asks for more than
there are. -/
theorem cursor_refines_index_past_end :
    Located "é→" 1 ((start "é→").callAll [.advance])
      ∧ ((start "é→").callAll [.advance]).offset = 2
      ∧ Located "é→" 2 ((start "é→").callAll [.advance, .advanceBy 0xFFFFFFFFFFFFFFFF])
      ∧ ((start "é→").callAll [.advance, .advanceBy 0xFFFFFFFFFFFFFFFF]).atEnd = true := by
  obtain ⟨first, -⟩ := (cursor_refines_index "é→").1 [.advance]
  obtain ⟨last, -, -, -, atEnd, -⟩ :=
    (cursor_refines_index "é→").1 [.advance, .advanceBy 0xFFFFFFFFFFFFFFFF]
  exact ⟨first, first.offset_eq, last, atEnd.2 rfl⟩

end ScriptSyntax
