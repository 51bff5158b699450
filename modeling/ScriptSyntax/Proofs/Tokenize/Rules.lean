/-
ScriptSyntax.Proofs.Tokenize.Rules — a step of the cursor, taken apart
into single moves.

`Cursor.step` says what a step comes to. Here the same step is told the
way it goes: at a character one of eight rules is chosen, by a table, by a
pattern or by the character after it, and the rule then works on the
cursor by itself, one move at a time. A rule does not know what it was
chosen by. Two of them look for what they are to pass over, and go back
without a move if it is not there.

* `Rule` and `Cursor.rule` — the rules, and the choice among them.
* `Move` and `Cursor.turn` — the moves of each rule. A move by bytes
  (`skip`) is one that could land inside a character.
* `step_eq_outcome` — a step comes to what the moves of the chosen rule
  come to.
-/
import ScriptSyntax.Proofs.Cursor.Calls
import ScriptSyntax.Proofs.Token.WellFormed
import ScriptSyntax.Proofs.Tokenize.Run

namespace ScriptSyntax

open Vocabulary Lexeme

/-! ## 1. Moves -/

/-- The characters behind a number of bytes. A character is passed over
whole, even if some of its bytes are too many. -/
def dropBytes : Nat → List Char → List Char
  | 0, text => text
  | _ + 1, [] => []
  | bytes + 1, c :: text => dropBytes (bytes + 1 - c.utf8Size) text

/-- A single move: one of the calls that a cursor answers, or a move by a
number of bytes. -/
inductive Move where
  | call (call : Call)
  | skip (bytes : Nat)

instance : Coe Call Move := ⟨.call⟩

namespace Cursor

/-- Moves past a number of bytes. -/
def skip (cursor : Cursor) (bytes : Nat) : Cursor :=
  { cursor with
    offset := cursor.offset + bytes
    unread := dropBytes bytes cursor.unread }

/-- Makes a move. -/
def perform (cursor : Cursor) : Move → Cursor
  | .call call => (cursor.call call).2
  | .skip bytes => cursor.skip bytes

/-- Makes some moves, one after the other. -/
def performAll (cursor : Cursor) (moves : List Move) : Cursor :=
  moves.foldl perform cursor

end Cursor

/-! ## 2. Rules -/

/-- The word that a text begins with. -/
def wordAtFront? : List Char → Option (List Char)
  | [] => none
  | c :: rest => if isWordStart c then some (c :: rest.takeWhile isWordPart) else none

/-- The blanks that a text begins with. -/
def blanksAtFront? (text : List Char) : Option (List Char) :=
  if (text.takeWhile isBlank).isEmpty then none else some (text.takeWhile isBlank)

/-- A text begins with a word just if its first character may begin one. -/
theorem isSome_wordAtFront? (c : Char) (rest : List Char) :
    (wordAtFront? (c :: rest)).isSome = isWordStart c := by
  rw [wordAtFront?]
  cases isWordStart c <;> rfl

theorem isSome_blanksAtFront? (c : Char) (rest : List Char) :
    (blanksAtFront? (c :: rest)).isSome = isBlank c := by
  cases blank : isBlank c <;> simp [blanksAtFront?, blank]

/-- What can be done at a character. -/
inductive Rule where
  | number
  /-- Adds one token or another, as the second character is there or
  not. -/
  | lookahead (second : Char) (double single : Token)
  | literal
  | doubled (sign : Char)
  | mark (token : Token)
  | word
  | layout
  /-- There is nothing to be done. -/
  | foreign (character : Char)

/-- What a rule does: its moves, and the fault that it ends in if it does
not go well. -/
structure Turn where
  moves : List Move
  fault : Option Fault

/-- The moves of the number rule over a text, where `number` is what has
been collected and `period` says whether a period has been seen. -/
def numberMoves (number : List Char) (period : Bool) : List Char → List Move
  | [] => [Call.push ⟨String.ofList number, .number⟩]
  | c :: text =>
    if c.isDigit then Call.advance :: numberMoves (number ++ [c]) period text
    else if c = '.' then
      if period then
        Call.push ⟨String.ofList number, .number⟩ :: Call.advance :: numberMoves [c] true text
      else Call.advance :: numberMoves (number ++ [c]) true text
    else [Call.push ⟨String.ofList number, .number⟩]

namespace Cursor

/-- The rule that is chosen at a character: the first that applies. -/
def rule (cursor : Cursor) (c : Char) : Rule :=
  if startsNumber c cursor.lookahead then .number
  else if c = '=' then .lookahead '=' ⟨"is", .equalsCompare⟩ ⟨"=", .equals⟩
  else if c = '&' then .lookahead '&' ⟨"&&", .and⟩ ⟨"&", .ampersand⟩
  else if c = '!' then .lookahead '=' ⟨"!=", .notEqualsCompare⟩ ⟨"!", .exclamation⟩
  else if c = '"' then .literal
  else if (c = '+' ∨ c = '-') ∧ cursor.lookahead = some c then .doubled c
  else match punctuation? c with
    | some kind => .mark ⟨String.singleton c, kind⟩
    | none =>
      if (wordAtFront? cursor.unread).isSome then .word
      else if (blanksAtFront? cursor.unread).isSome then .layout
      else .foreign c

/-- The moves of the word rule, or none at all if no word is there. -/
def wordMoves? (cursor : Cursor) : Option (List Move) :=
  (wordAtFront? cursor.unread).map fun letters =>
    [Call.push (wordToken (String.ofList letters)), .skip (utf8Length letters)]

/-- The moves of the layout rule, or none at all if no blanks are
there. -/
def layoutMoves? (cursor : Cursor) : Option (List Move) :=
  (blanksAtFront? cursor.unread).map fun blanks => [.skip (utf8Length blanks)]

/-- What a rule does at the cursor. -/
def turn (cursor : Cursor) : Rule → Turn
  | .number =>
    match cursor.unread with
    | '-' :: text => ⟨Call.advance :: numberMoves ['-'] false text, none⟩
    | text => ⟨numberMoves [] false text, none⟩
  | .lookahead second double single =>
    if cursor.lookahead = some second then ⟨[Call.push double, Call.advanceBy 2], none⟩
    else ⟨[Call.push single, Call.advanceBy 1], none⟩
  | .literal =>
    let text := cursor.unread.drop 1
    let body := text.takeWhile (· != '"')
    if '"' ∈ text then
      ⟨[Call.advance, Call.push ⟨String.ofList body, .string⟩, .skip (utf8Length body + 1)], none⟩
    else ⟨[Call.advance], some (.unterminatedString (String.ofList text))⟩
  | .doubled sign =>
    ⟨Call.advanceBy 2 :: (adjustment sign cursor.previous).map fun token => Call.push token, none⟩
  | .mark token => ⟨[Call.push token, Call.advanceBy 1], none⟩
  | .word => ⟨cursor.wordMoves?.getD [], none⟩
  | .layout => ⟨cursor.layoutMoves?.getD [], none⟩
  | .foreign c => ⟨[], some (.unrecognisedCharacter c)⟩

/-- What a turn comes to. -/
def outcome (cursor : Cursor) (turn : Turn) : Except Fault Cursor :=
  match turn.fault with
  | some fault => .error fault
  | none => .ok (cursor.performAll turn.moves)

/-! ## 3. What moves come to -/

@[simp] theorem performAll_nil (cursor : Cursor) : cursor.performAll [] = cursor := rfl

@[simp] theorem performAll_cons (cursor : Cursor) (move : Move) (moves : List Move) :
    cursor.performAll (move :: moves) = (cursor.perform move).performAll moves := rfl

@[simp] theorem perform_push (cursor : Cursor) (token : Token) :
    cursor.perform (.call (.push token)) = cursor.push token := rfl

@[simp] theorem perform_advance (cursor : Cursor) :
    cursor.perform (.call .advance) = cursor.advanceBy 1 := rfl

@[simp] theorem perform_skip (cursor : Cursor) (bytes : Nat) :
    cursor.perform (.skip bytes) = cursor.skip bytes := rfl

/-- The bytes of the text in front lead to the text behind it. -/
theorem dropBytes_append (front after : List Char) :
    dropBytes (utf8Length front) (front ++ after) = after := by
  induction front with
  | nil => simp [dropBytes]
  | cons c front ih =>
    obtain ⟨bytes, eq⟩ := Nat.exists_eq_succ_of_ne_zero
      (show utf8Length (c :: front) ≠ 0 by have := c.utf8Size_pos; simp; omega)
    rw [eq, List.cons_append, dropBytes, show bytes + 1 - c.utf8Size = utf8Length front by
      rw [utf8Length_cons] at eq; omega, ih]

/-- To move by the bytes of some characters is to move by the
characters. -/
theorem skip_eq_advanceBy {cursor : Cursor} {front after : List Char}
    (unread : cursor.unread = front ++ after) :
    cursor.skip (utf8Length front) = cursor.advanceBy front.length := by
  rw [skip, advanceBy, unread, dropBytes_append, List.take_left, List.drop_left]

theorem advanceBy_add (cursor : Cursor) (count more : Nat) :
    cursor.advanceBy (count + more) = (cursor.advanceBy count).advanceBy more := by
  simp [advanceBy, List.take_add, List.drop_drop, Nat.add_assoc]

theorem push_advanceBy (cursor : Cursor) (token : Token) (count : Nat) :
    (cursor.push token).advanceBy count = (cursor.advanceBy count).push token := rfl

theorem performAll_pushes (cursor : Cursor) (tokens : List Token) :
    cursor.performAll (tokens.map fun token => Call.push token) = tokens.foldl push cursor := by
  rw [performAll, List.foldl_map]
  rfl

/-- The number rule reads digits and periods to their end, and adds their
pieces. -/
theorem performAll_numberMoves (number : List Char) (period : Bool) {text : List Char}
    {cursor : Cursor} (unread : cursor.unread = text) :
    cursor.performAll (numberMoves number period text)
      = (((number ++ (splitPeriods period (text.takeWhile isNumeric)).1)
          :: (splitPeriods period (text.takeWhile isNumeric)).2).map fun piece =>
            (⟨String.ofList piece, .number⟩ : Token)).foldl push
          (cursor.advanceBy (text.takeWhile isNumeric).length) := by
  have stay (cursor : Cursor) : cursor.advanceBy 0 = cursor := by simp [advanceBy]
  induction text generalizing number period cursor with
  | nil => simp [numberMoves, splitPeriods, stay]
  | cons c text ih =>
    have behind : (cursor.advanceBy 1).unread = text := by simp [unread]
    by_cases digit : c.isDigit = true
    · have plain : c ≠ '.' := by rintro rfl; cases digit
      rw [numberMoves, if_pos digit, performAll_cons, perform_advance, ih _ _ behind,
        List.takeWhile_cons_of_pos (isNumeric_of_isDigit digit), splitPeriods_cons_of_ne plain,
        List.length_cons, Nat.add_comm _ 1, advanceBy_add]
      simp
    · by_cases dot : c = '.'
      · subst dot
        rw [numberMoves, if_neg digit, if_pos rfl, List.takeWhile_cons_of_pos rfl,
          List.length_cons, Nat.add_comm _ 1, advanceBy_add]
        cases period with
        | true =>
          have pushed (token : Token) : ((cursor.push token).advanceBy 1).unread = text := behind
          rw [if_pos rfl, performAll_cons, performAll_cons, perform_push, perform_advance,
            ih _ _ (pushed _), splitPeriods_true_period]
          simp [push_advanceBy]
        | false =>
          rw [if_neg (by decide), performAll_cons, perform_advance, ih _ _ behind,
            splitPeriods_false_period]
          simp
      · have stop : isNumeric c = false := by simp [isNumeric, digit, dot]
        rw [numberMoves, if_neg digit, if_neg dot, List.takeWhile_cons_of_neg (by simp [stop])]
        simp [splitPeriods, stay]

end Cursor

/-- A pair is the only one that begins with its first character. -/
theorem Pair.ofChars?_first (pair : Pair) (next : Option Char) :
    Pair.ofChars? pair.first next = if next = some pair.second then some pair else none := by
  by_cases completed : next = some pair.second
  · rw [if_pos completed, ofChars?_eq_some_iff.2 ⟨rfl, completed⟩]
  · rw [if_neg completed, Option.eq_none_iff_forall_ne_some]
    intro other found
    obtain ⟨same, second⟩ := ofChars?_eq_some_iff.1 found
    have : other = pair := by cases pair <;> cases other <;> cases same <;> rfl
    exact completed (this ▸ second)

namespace Cursor

/-! ## 4. What each rule comes to -/

variable {cursor : Cursor} {c : Char} {rest : List Char}

theorem lookahead_eq (unread : cursor.unread = c :: rest) : cursor.lookahead = rest.head? := by
  rw [lookahead, unread, List.getElem?_cons_succ, List.head?_eq_getElem?]

theorem step_of_read {lexeme : Lexeme} (unread : cursor.unread = c :: rest)
    (found : Lexeme.read c rest = .ok lexeme) : cursor.step = .ok (cursor.consume lexeme) := by
  rw [step, unread]
  simp only [found]

theorem step_of_pair (pair : Pair) (unread : cursor.unread = pair.first :: rest)
    (next : rest.head? = some pair.second) : cursor.step = .ok (cursor.consume (.pair pair)) := by
  obtain ⟨after, rfl⟩ := List.head?_eq_some_iff.1 next
  exact step_of_read unread (read_pair pair after)

theorem step_of_mark {kind : TokenKind} (unread : cursor.unread = c :: rest)
    (start : startsNumber c rest.head? = false) (single : Pair.ofChars? c rest.head? = none)
    (listed : mark? c = some kind) : cursor.step = .ok (cursor.consume (.mark kind c)) :=
  step_of_read unread (read_mark (mark?_eq_some_iff.1 listed) (standsAlone_of_read start single))

/-- What begins like a number is collected as one. -/
theorem step_eq_number (unread : cursor.unread = c :: rest)
    (start : startsNumber c rest.head? = true) :
    cursor.step = cursor.outcome (cursor.turn .number) := by
  have found : Lexeme.read c rest = .ok (.number (c :: rest.takeWhile isNumeric)) := by
    rw [Lexeme.read, if_pos start]
  rw [step_of_read unread found]
  by_cases sign : c = '-'
  · subst sign
    have signed : cursor.turn .number = ⟨Call.advance :: numberMoves ['-'] false rest, none⟩ := by
      simp only [turn, unread]
    have behind : (cursor.advanceBy 1).unread = rest := by simp [unread]
    have plain : '-' ≠ '.' := by decide
    rw [signed, outcome, performAll_cons, perform_advance, performAll_numberMoves _ _ behind,
      ← advanceBy_add, consume, text, List.length_cons, Nat.add_comm _ 1, emits, pieces,
      splitPeriods_cons_of_ne plain]
    rfl
  · have numeric : isNumeric c = true := by
      simp only [startsNumber, sign, beq_iff_eq, Bool.or_eq_true, Bool.and_eq_true, false_and,
        or_false] at start
      exact isNumeric_of_isDigit start
    have unsigned : cursor.turn .number = ⟨numberMoves [] false (c :: rest), none⟩ := by
      simp only [turn, unread]
      split
      · next eq => exact absurd (List.cons.inj eq).1 sign
      · rfl
    rw [unsigned, outcome, performAll_numberMoves _ _ unread,
      List.takeWhile_cons_of_pos numeric]
    rfl

/-- A character that a pair begins with is the first of the pair if the
second follows, and else a mark. -/
theorem step_eq_lookahead (pair : Pair) {kind : TokenKind} {double : Token}
    (unread : cursor.unread = pair.first :: rest)
    (start : startsNumber pair.first rest.head? = false)
    (listed : mark? pair.first = some kind)
    (token : ∀ previous, emits previous (.pair pair) = [double]) :
    cursor.step = cursor.outcome
      (cursor.turn (.lookahead pair.second double ⟨String.singleton pair.first, kind⟩)) := by
  rw [turn, lookahead_eq unread]
  by_cases next : rest.head? = some pair.second
  · rw [step_of_pair pair unread next, if_pos next, consume, token]
    rfl
  · have single : Pair.ofChars? pair.first rest.head? = none := by
      rw [Pair.ofChars?_first, if_neg next]
    rw [step_of_mark unread start single listed, if_neg next]
    rfl

/-- A literal is what lies before the next double quote, if there is
one. -/
theorem step_eq_literal (unread : cursor.unread = '"' :: rest) :
    cursor.step = cursor.outcome (cursor.turn .literal) := by
  have start : startsNumber '"' rest.head? = false := startsNumber_eq_false rfl (by decide)
  rw [turn, unread, List.drop_one, List.tail_cons]
  by_cases closed : '"' ∈ rest
  · obtain ⟨after, split⟩ := takeWhile_append_quote closed
    have found : Lexeme.read '"' rest = .ok (.quoted (rest.takeWhile (· != '"'))) := by
      simp [Lexeme.read, start, closed]
    rw [step_of_read unread found, if_pos closed]
    generalize rest.takeWhile (· != '"') = body at split
    have behind (token : Token) :
        ((cursor.advanceBy 1).push token).unread = (body ++ ['"']) ++ after := by
      simp [unread, split]
    have bytes : utf8Length body + 1 = utf8Length (body ++ ['"']) := by
      rw [utf8Length_append]
      rfl
    have count : (text (.quoted body)).length = 1 + (body ++ ['"']).length := by
      simp [text, Nat.add_comm]
    simp only [outcome, performAll_cons, performAll_nil, perform_advance, perform_push,
      perform_skip]
    rw [bytes, skip_eq_advanceBy (behind _), push_advanceBy, ← advanceBy_add, consume, count]
    rfl
  · have found : Lexeme.read '"' rest = .error (.unterminatedString (String.ofList rest)) := by
      simp [Lexeme.read, start, closed]
    rw [step_of_error unread found, if_neg closed]
    rfl

/-- A doubled sign is the pair of it. -/
theorem step_eq_doubled (pair : Pair) (unread : cursor.unread = pair.first :: rest)
    (next : rest.head? = some pair.second)
    (tokens : ∀ previous, emits previous (.pair pair) = adjustment pair.first previous) :
    cursor.step = cursor.outcome (cursor.turn (.doubled pair.first)) := by
  rw [step_of_pair pair unread next, consume, tokens]
  exact congrArg Except.ok (performAll_pushes _ _).symm

/-- A word is passed over by its bytes. -/
theorem step_eq_word (unread : cursor.unread = c :: rest) (first : isWordStart c = true) :
    cursor.step = cursor.outcome (cursor.turn .word) := by
  obtain ⟨after, split, stop⟩ := exists_takeWhile_append isWordPart rest
  have found : Lexeme.read c rest = .ok (.word (c :: rest.takeWhile isWordPart)) := by
    have inside : ∀ d ∈ rest.takeWhile isWordPart, isWordPart d = true :=
      fun _ => List.mem_takeWhile_imp
    have := read_word first inside stop
    rwa [← split] at this
  have moves : cursor.wordMoves? = some
      [.call (.push (wordToken (String.ofList (c :: rest.takeWhile isWordPart)))),
        .skip (utf8Length (c :: rest.takeWhile isWordPart))] := by
    simp [wordMoves?, wordAtFront?, unread, first]
  rw [step_of_read unread found, turn, moves]
  refine congrArg Except.ok ?_
  have behind (token : Token) :
      (cursor.push token).unread = (c :: rest.takeWhile isWordPart) ++ after := by
    rw [unread_push, unread, List.cons_append, ← split]
  simp only [Option.getD_some, performAll_cons, performAll_nil, perform_push, perform_skip]
  rw [skip_eq_advanceBy (behind _)]
  rfl

/-- Blanks are passed over by their bytes. -/
theorem step_eq_layout (unread : cursor.unread = c :: rest) (blank : isBlank c = true) :
    cursor.step = cursor.outcome (cursor.turn .layout) := by
  obtain ⟨after, split, stop⟩ := exists_takeWhile_append isBlank rest
  have inside : ∀ d ∈ c :: rest.takeWhile isBlank, isBlank d = true := by
    intro d hd
    rcases List.mem_cons.1 hd with rfl | hd
    · exact blank
    · exact List.mem_takeWhile_imp hd
  have found : Lexeme.read c rest = .ok (.layout (c :: rest.takeWhile isBlank)) := by
    have := read_layout inside stop
    rwa [← split] at this
  have moves : cursor.layoutMoves? = some [.skip (utf8Length (c :: rest.takeWhile isBlank))] := by
    simp [layoutMoves?, blanksAtFront?, unread, blank]
  rw [step_of_read unread found, turn, moves]
  refine congrArg Except.ok ?_
  have behind : cursor.unread = (c :: rest.takeWhile isBlank) ++ after := by
    rw [unread, List.cons_append, ← split]
  simp only [Option.getD_some, performAll_cons, performAll_nil, perform_skip]
  rw [skip_eq_advanceBy behind]
  rfl

/-! ## 5. The choice of a rule -/

/-- No pair is missed: a character that has no rule of its own, and is no
doubled sign, begins none. -/
theorem ofChars?_eq_none {next : Option Char} (equals : c ≠ '=') (ampersand : c ≠ '&')
    (exclamation : c ≠ '!') (doubled : ¬ ((c = '+' ∨ c = '-') ∧ next = some c)) :
    Pair.ofChars? c next = none := by
  cases found : Pair.ofChars? c next with
  | none => rfl
  | some pair =>
    obtain ⟨rfl, second⟩ := Pair.ofChars?_eq_some_iff.1 found
    cases pair with
    | equality => exact absurd rfl equals
    | inequality => exact absurd rfl exclamation
    | conjunction => exact absurd rfl ampersand
    | increment => exact absurd ⟨.inl rfl, second⟩ doubled
    | decrement => exact absurd ⟨.inr rfl, second⟩ doubled

/-- The marks that are left are those of the table of punctuation. -/
theorem mark?_eq_punctuation? (equals : c ≠ '=') (ampersand : c ≠ '&') (exclamation : c ≠ '!') :
    mark? c = punctuation? c := by
  have opens : openMarks.lookup c = none := by
    simp [openMarks, List.lookup_eq_none_iff, equals, ampersand, exclamation]
  rw [mark?, List.lookup_append, opens, Option.or_none]
  rfl

/-- A step comes to what the rule that is chosen comes to. -/
theorem step_eq_outcome (unread : cursor.unread = c :: rest) :
    cursor.step = cursor.outcome (cursor.turn (cursor.rule c)) := by
  have next := lookahead_eq unread
  unfold rule
  rw [next]
  by_cases start : startsNumber c rest.head? = true
  · rw [if_pos start]
    exact step_eq_number unread start
  rw [if_neg start]
  rw [Bool.not_eq_true] at start
  by_cases equals : c = '='
  · subst equals
    exact step_eq_lookahead .equality unread start (by decide) (fun _ => rfl)
  by_cases ampersand : c = '&'
  · subst ampersand
    exact step_eq_lookahead .conjunction unread start (by decide) (fun _ => rfl)
  by_cases exclamation : c = '!'
  · subst exclamation
    exact step_eq_lookahead .inequality unread start (by decide) (fun _ => rfl)
  by_cases quote : c = '"'
  · subst quote
    exact step_eq_literal unread
  rw [if_neg equals, if_neg ampersand, if_neg exclamation, if_neg quote]
  by_cases doubled : (c = '+' ∨ c = '-') ∧ rest.head? = some c
  · rw [if_pos doubled]
    obtain ⟨rfl | rfl, second⟩ := doubled
    · exact step_eq_doubled .increment unread second (fun _ => rfl)
    · exact step_eq_doubled .decrement unread second (fun _ => rfl)
  rw [if_neg doubled]
  have single := ofChars?_eq_none equals ampersand exclamation doubled
  have table := mark?_eq_punctuation? equals ampersand exclamation
  cases listed : punctuation? c with
  | some kind => exact step_of_mark unread start single (table.trans listed)
  | none =>
    rw [unread, isSome_wordAtFront?, isSome_blanksAtFront?]
    by_cases first : isWordStart c = true
    · rw [if_pos first]
      exact step_eq_word unread first
    rw [if_neg first]
    by_cases blank : isBlank c = true
    · rw [if_pos blank]
      exact step_eq_layout unread blank
    rw [if_neg blank]
    have found : Lexeme.read c rest = .error (.unrecognisedCharacter c) := by
      simp [Lexeme.read, start, quote, single, table, listed, first, blank]
    exact step_of_error unread found

end Cursor

end ScriptSyntax
