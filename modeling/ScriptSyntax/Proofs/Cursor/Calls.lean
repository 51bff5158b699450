/-
ScriptSyntax.Proofs.Cursor.Calls — a cursor is an index into the
characters of its script.

A cursor counts bytes, and whoever uses one thinks in characters. The two
fit together as long as the offset falls between two characters, which is
what `Located` says: the offset is the length in bytes of so many
characters, so the script can be cut there, and what is unread is the part
behind the cut.

* `Call` is what can be asked of a cursor, and `callAll` asks for one
  thing after the other.
* `located_of_within` — a cursor between two characters is located behind
  some number of them.
* `callAll_start` — behind any calls a cursor is located behind as many
  characters as it was asked to move by, or at the end.
-/
import ScriptSyntax.Cursor

namespace ScriptSyntax

/-- What can be asked of a cursor. -/
inductive Call where
  | current
  | lookahead
  | advance
  | advanceBy (count : Nat)
  | push (token : Token)

namespace Call

/-- How many characters a call asks to move by. -/
def distance : Call → Nat
  | .advance => 1
  | .advanceBy count => count
  | _ => 0

/-- The token that a call adds. -/
def pushed? : Call → Option Token
  | .push token => some token
  | _ => none

/-- How many characters some calls ask to move by, all in all. -/
def totalDistance : List Call → Nat
  | [] => 0
  | call :: calls => call.distance + totalDistance calls

/-- The tokens that some calls add. -/
def pushed (calls : List Call) : List Token := calls.filterMap pushed?

end Call

namespace Cursor

/-- What a call answers, and the cursor after it. -/
def call (cursor : Cursor) : Call → Option Char × Cursor
  | .current => (cursor.current, cursor)
  | .lookahead => (cursor.lookahead, cursor)
  | .advance => cursor.advance
  | .advanceBy count => (none, cursor.advanceBy count)
  | .push token => (none, cursor.push token)

/-- The cursor after some calls, one after the other. -/
def callAll (cursor : Cursor) (calls : List Call) : Cursor :=
  calls.foldl (fun cursor call => (cursor.call call).2) cursor

/-! ## 1. One call -/

theorem source_call (cursor : Cursor) (call : Call) :
    (cursor.call call).2.source = cursor.source := by
  cases call <;> rfl

theorem unread_call (cursor : Cursor) (call : Call) :
    (cursor.call call).2.unread = cursor.unread.drop call.distance := by
  cases call <;> rfl

theorem tokens_call (cursor : Cursor) (call : Call) :
    (cursor.call call).2.tokens.toList = cursor.tokens.toList ++ call.pushed?.toList := by
  cases call with
  | push token => simp [Cursor.call, Call.pushed?]
  | _ => simp [Cursor.call, Call.pushed?, advance]

theorem Within.call {cursor : Cursor} (h : cursor.Within) (call : Call) :
    (cursor.call call).2.Within := by
  cases call with
  | current => exact h
  | lookahead => exact h
  | advance => exact h.advanceBy 1
  | advanceBy count => exact h.advanceBy count
  | push token => exact h.push token

/-- Moves one character at a time, and stops where there is none left. -/
def advanceOneByOne : Nat → Cursor → Cursor
  | 0, cursor => cursor
  | count + 1, cursor =>
    match cursor.advance with
    | (none, _) => cursor
    | (some _, next) => advanceOneByOne count next

/-- To move by a number of characters is to move by one, as often as that
and as there are characters. -/
theorem advanceOneByOne_eq (count : Nat) (cursor : Cursor) :
    advanceOneByOne count cursor = cursor.advanceBy count := by
  induction count generalizing cursor with
  | zero => simp [advanceOneByOne, advanceBy]
  | succ count ih =>
    obtain ⟨source, offset, unread, tokens⟩ := cursor
    cases unread with
    | nil => simp [advanceOneByOne, advance, current, advanceBy]
    | cons c rest =>
      have next : advanceOneByOne (count + 1) ⟨source, offset, c :: rest, tokens⟩
          = advanceOneByOne count (advanceBy ⟨source, offset, c :: rest, tokens⟩ 1) := rfl
      rw [next, ih]
      simp [advanceBy, Nat.add_assoc]

/-! ## 2. Where a cursor is -/

/-- Whether a cursor is behind so many characters of a script, which is
cut there into those before it and those that are unread. -/
structure Located (source : String) (count : Nat) (cursor : Cursor) : Prop where
  /-- The offset counts the bytes of the characters before it. -/
  offset_eq : cursor.offset = utf8Length (source.toList.take count)
  /-- It falls between two characters. -/
  valid : String.Pos.Raw.IsValid source ⟨cursor.offset⟩
  /-- Up to there the script is the characters before it. -/
  front_eq : (source.sliceTo ⟨⟨cursor.offset⟩, valid⟩).copy
    = String.ofList (source.toList.take count)
  /-- From there on it is what is unread. -/
  rest_eq : (source.sliceFrom ⟨⟨cursor.offset⟩, valid⟩).copy = cursor.remainder
  /-- Nothing is lost between the two. -/
  joined : String.ofList (source.toList.take count) ++ cursor.remainder = source

/-- A place given by the bytes and by the characters before it is one where
the script can be cut. -/
theorem located_of_drop {source : String} {count : Nat} {cursor : Cursor}
    (offset : cursor.offset = utf8Length (source.toList.take count))
    (unread : cursor.unread = source.toList.drop count) : Located source count cursor := by
  have joined : String.ofList (source.toList.take count) ++ cursor.remainder = source := by
    rw [remainder, unread, ← String.ofList_append, List.take_append_drop, String.ofList_toList]
  have place : (⟨cursor.offset⟩ : String.Pos.Raw)
      = (String.ofList (source.toList.take count)).rawEndPos := by
    rw [offset, ← utf8ByteSize_ofList]
    rfl
  have valid : String.Pos.Raw.IsValid source ⟨cursor.offset⟩ :=
    String.Pos.Raw.isValid_iff_exists_append.2 ⟨_, _, joined.symm, place⟩
  have here : (⟨⟨cursor.offset⟩, valid⟩ : source.Pos).Splits
      (String.ofList (source.toList.take count)) cursor.remainder := ⟨joined.symm, place⟩
  have cut := String.Pos.splits (⟨⟨cursor.offset⟩, valid⟩ : source.Pos)
  exact ⟨offset, valid, cut.eq_left here, cut.eq_right here, joined⟩

theorem Within.exists_drop {cursor : Cursor} (h : cursor.Within) :
    ∃ count, count ≤ cursor.source.length
      ∧ cursor.offset = utf8Length (cursor.source.toList.take count)
      ∧ cursor.unread = cursor.source.toList.drop count := by
  obtain ⟨before, split, offset⟩ := h
  refine ⟨before.length, ?_, ?_, ?_⟩
  · rw [← String.length_toList, split, List.length_append]
    omega
  · rw [split, List.take_left, offset]
  · rw [split, List.drop_left]

/-- A cursor between two characters of its script is located behind those
that are read. -/
theorem located_of_within {cursor : Cursor} (h : cursor.Within) :
    ∃ count, count ≤ cursor.source.length ∧ Located cursor.source count cursor := by
  obtain ⟨count, le, offset, unread⟩ := h.exists_drop
  exact ⟨count, le, located_of_drop offset unread⟩

/-! ## 3. All calls -/

theorem source_callAll (cursor : Cursor) (calls : List Call) :
    (cursor.callAll calls).source = cursor.source := by
  induction calls generalizing cursor with
  | nil => rfl
  | cons call calls ih => exact (ih _).trans (source_call cursor call)

theorem unread_callAll (cursor : Cursor) (calls : List Call) :
    (cursor.callAll calls).unread = cursor.unread.drop (Call.totalDistance calls) := by
  induction calls generalizing cursor with
  | nil => rfl
  | cons call calls ih =>
    have next := ih (cursor.call call).2
    rw [unread_call, List.drop_drop] at next
    exact next

theorem tokens_callAll (cursor : Cursor) (calls : List Call) :
    (cursor.callAll calls).tokens.toList = cursor.tokens.toList ++ Call.pushed calls := by
  induction calls generalizing cursor with
  | nil => simp [callAll, Call.pushed]
  | cons call calls ih =>
    have next := ih (cursor.call call).2
    rw [tokens_call, List.append_assoc] at next
    refine next.trans (congrArg _ ?_)
    rw [Call.pushed, Call.pushed, List.filterMap_cons]
    cases call.pushed? <;> rfl

theorem Within.callAll {cursor : Cursor} (h : cursor.Within) (calls : List Call) :
    (cursor.callAll calls).Within := by
  induction calls generalizing cursor with
  | nil => exact h
  | cons call calls ih => exact ih (h.call call)

/-- Behind calls on the cursor before a script, the characters that are
read are as many as the cursor was asked to move by, unless there are
fewer. -/
theorem callAll_start (source : String) (calls : List Call) :
    ((start source).callAll calls).unread
        = source.toList.drop (min source.length (Call.totalDistance calls))
      ∧ Located source (min source.length (Call.totalDistance calls))
        ((start source).callAll calls) := by
  have unread : ((start source).callAll calls).unread
      = source.toList.drop (min source.length (Call.totalDistance calls)) := by
    rw [unread_callAll, ← String.length_toList]
    rcases Nat.le_total source.toList.length (Call.totalDistance calls) with short | long
    · rw [Nat.min_eq_left short, List.drop_length]
      exact List.drop_eq_nil_of_le short
    · rw [Nat.min_eq_right long]
      rfl
  have within := (within_start source).callAll calls
  have same : ((start source).callAll calls).source = source := source_callAll _ calls
  obtain ⟨count, le, offset, rest⟩ := within.exists_drop
  rw [same] at le offset rest
  -- Both numbers of characters leave the same part of the script unread.
  have lengths := congrArg List.length (rest.symm.trans unread)
  rw [List.length_drop, List.length_drop, String.length_toList] at lengths
  obtain rfl : count = min source.length (Call.totalDistance calls) := by omega
  exact ⟨unread, located_of_drop offset unread⟩

end Cursor

end ScriptSyntax
