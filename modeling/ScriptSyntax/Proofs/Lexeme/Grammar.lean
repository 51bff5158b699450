/-
ScriptSyntax.Proofs.Lexeme.Grammar — which lexemes there are, and where
one of them may end.

The reader looks at two characters and then takes what it can get. The
grammar says the same without looking: `Lexeme.Admissible` names the
stretches of text that are lexemes, and for each of them what must not
come next, so that it is the longest of its sort.

* `read_eq_ok_iff` — the reader finds a lexeme just if the text begins
  with it and it may end there.
* `read_eq_error_iff` — the reader gives up at a double quote that is
  never followed by another, and at a character that no script holds.
* `Admissible.before_blank` — before a blank, and at the end, whatever is
  no layout may end.
-/
import Mathlib.Data.List.TakeWhile
import ScriptSyntax.Lexeme.Reading

namespace ScriptSyntax

/-! ## 1. Runs of one class -/

/-- Whether a run of a class of characters may end before `next`. -/
def EndsBefore (inClass : Char → Bool) (next : Option Char) : Prop :=
  ∀ c ∈ next, inClass c = false

/-- What follows the longest run of a class does not go on with it. -/
theorem exists_takeWhile_append (inClass : Char → Bool) (text : List Char) :
    ∃ after, text = text.takeWhile inClass ++ after ∧ EndsBefore inClass after.head? := by
  refine ⟨text.dropWhile inClass, List.takeWhile_append_dropWhile.symm, ?_⟩
  intro c hc
  have := List.head?_dropWhile_not inClass text
  rw [Option.mem_def.1 hc] at this
  exact this

/-- A run that may end where it does is the longest one. -/
theorem takeWhile_append_of_endsBefore {inClass : Char → Bool} {run after : List Char}
    (inside : ∀ c ∈ run, inClass c = true) (stop : EndsBefore inClass after.head?) :
    (run ++ after).takeWhile inClass = run := by
  rw [List.takeWhile_append_of_pos inside]
  cases after with
  | nil => simp
  | cons c after => simp [stop c rfl]

namespace Vocabulary

/-! ## 2. The characters of a script -/

/-- The characters besides letters, digits and the double quote that a
script is written in. -/
def signs : List Char :=
  ['_', ' ', '\t', '\n', '\r', '(', ')', '\x7b', '\x7d', '[', ']', '+', '-', '*', '%', '/',
   '<', '>', '.', ';', ':', ',', '|', '=', '&', '!']

/-- The characters that a script may hold outside of its string
literals. -/
def isLegal (c : Char) : Bool :=
  c.isAlphanum || signs.contains c

/-- The characters that are tokens by themselves, with their kinds. -/
def marks : List (Char × TokenKind) := punctuation ++ openMarks

/-- In a table whose keys differ, looking up a key is finding its entry. -/
theorem lookup_eq_some_iff_mem {α β : Type} [BEq α] [LawfulBEq α] {table : List (α × β)}
    (distinct : (table.map Prod.fst).Nodup) {key : α} {value : β} :
    table.lookup key = some value ↔ (key, value) ∈ table := by
  induction table with
  | nil => simp
  | cons entry table ih =>
    rw [List.map_cons, List.nodup_cons] at distinct
    rw [List.lookup_cons, List.mem_cons, ← ih distinct.2]
    by_cases found : key = entry.1
    · subst found
      -- No later entry has this key, so the first one is the one looked up.
      have absent : table.lookup entry.1 ≠ some value := fun h =>
        distinct.1 (List.mem_map.2 ⟨_, (ih distinct.2).1 h, rfl⟩)
      simp [absent, Prod.ext_iff, eq_comm]
    · have other : (key == entry.1) = false := by simpa using found
      simp [other, found, Prod.ext_iff]

theorem mark?_eq_some_iff {c : Char} {kind : TokenKind} :
    mark? c = some kind ↔ (c, kind) ∈ marks :=
  lookup_eq_some_iff_mem (by decide)

theorem keyword?_eq_some_iff {word : String} {kind : TokenKind} :
    keyword? word = some kind ↔ (word, kind) ∈ keywords :=
  lookup_eq_some_iff_mem (by decide)

theorem keyword?_eq_none_iff {word : String} :
    keyword? word = none ↔ ∀ kind, (word, kind) ∉ keywords := by
  simp only [Option.eq_none_iff_forall_ne_some, ne_eq, keyword?_eq_some_iff]

/-- A class that no mark belongs to has no marks in it. -/
theorem mark?_eq_none_of_class {inClass : Char → Bool} {c : Char}
    (apart : ∀ entry ∈ marks, inClass entry.1 = false) (h : inClass c = true) :
    mark? c = none := by
  cases found : mark? c with
  | none => rfl
  | some kind =>
    have := apart _ (mark?_eq_some_iff.1 found)
    simp [h] at this

theorem isBlank_iff {c : Char} :
    isBlank c = true ↔ c = ' ' ∨ c = '\t' ∨ c = '\n' ∨ c = '\r' := by
  simp [isBlank, or_assoc]

/-- A class that no blank belongs to has no blanks in it. -/
theorem isBlank_eq_false_of_class {inClass : Char → Bool} {c : Char}
    (apart : [' ', '\t', '\n', '\r'].any inClass = false) (h : inClass c = true) :
    isBlank c = false := by
  rw [Bool.eq_false_iff]
  intro blank
  have := List.any_eq_false.1 apart c (by simpa using isBlank_iff.1 blank)
  exact this h

/-- A word goes on with what may begin one, and with digits. -/
theorem isWordPart_eq (c : Char) : isWordPart c = (isWordStart c || c.isDigit) := by
  simp only [isWordPart, isWordStart, Char.isAlphanum, Bool.or_right_comm]

/-- Blanks, word characters and marks are what a script may hold. -/
theorem isLegal_eq (c : Char) :
    isLegal c = (isBlank c || isWordPart c || (mark? c).isSome) := by
  rw [Bool.eq_iff_iff]
  simp only [isLegal, signs, isBlank, isWordPart, mark?, punctuation, openMarks, Bool.or_eq_true,
    List.lookup_isSome_iff, List.contains_iff_mem, List.mem_cons, List.mem_append, beq_iff_eq]
  simp
  grind

end Vocabulary

namespace Lexeme

open Vocabulary

/-! ## 3. The grammar -/

/-- A letter or an underscore, and letters, digits and underscores after
it. -/
def IsSymbol : List Char → Prop
  | [] => False
  | first :: rest => isWordStart first = true ∧ ∀ c ∈ rest, isWordPart c = true

instance (letters : List Char) : Decidable (IsSymbol letters) :=
  match letters with
  | [] => inferInstanceAs (Decidable False)
  | _ :: rest =>
    @instDecidableAnd _ _ _ (List.decidableBAll (fun c => isWordPart c = true) rest)

/-- A digit, after a minus sign or not, and digits and periods after
it. -/
def IsNumberRun (run : List Char) : Prop :=
  ∃ sign digit rest, run = sign ++ digit :: rest ∧ (sign = [] ∨ sign = ['-'])
    ∧ digit.isDigit = true ∧ ∀ c ∈ rest, isNumeric c = true

/-- Whether a mark is a token by itself before `next`, rather than the
first half of a pair or the sign of a number. -/
def StandsAlone (mark : Char) (next : Option Char) : Prop :=
  (mark = '=' → next ≠ some '=') ∧ (mark = '&' → next ≠ some '&')
    ∧ (mark = '!' → next ≠ some '=') ∧ (mark = '+' → next ≠ some '+')
    ∧ (mark = '-' → next ≠ some '-' ∧ ∀ d ∈ next, d.isDigit = false)

/-- Whether a lexeme is one, and may end before `next`. -/
def Admissible (next : Option Char) : Lexeme → Prop
  | .layout blanks =>
    blanks ≠ [] ∧ (∀ c ∈ blanks, isBlank c = true) ∧ EndsBefore isBlank next
  | .word letters => IsSymbol letters ∧ EndsBefore isWordPart next
  | .number run => IsNumberRun run ∧ EndsBefore isNumeric next
  | .quoted body => '"' ∉ body
  | .pair _ => True
  | .mark kind c => (c, kind) ∈ marks ∧ StandsAlone c next

/-! ## 4. The first character decides -/

/-- Words begin with characters that stand behind the digits. -/
theorem le_of_isWordStart {c : Char} (h : isWordStart c = true) : 'A'.val ≤ c.val := by
  rcases Bool.or_eq_true_iff.1 h with letter | underscore
  · rcases (Bool.or_eq_true_iff.1 letter : c.isUpper = true ∨ c.isLower = true) with upper | lower
    · have within : c.val ≥ 'A'.val ∧ c.val ≤ 'Z'.val := of_decide_eq_true upper
      exact within.1
    · have bottom : c.val ≥ 'a'.val := of_decide_eq_true (Bool.and_eq_true_iff.1 lower).1
      exact UInt32.le_trans (by decide) bottom
  · rw [eq_of_beq underscore]
    decide

theorem isDigit_eq_false_of_isWordStart {c : Char} (h : isWordStart c = true) :
    c.isDigit = false := by
  rw [Bool.eq_false_iff]
  intro digit
  have top : c.val ≤ '9'.val := of_decide_eq_true (Bool.and_eq_true_iff.1 digit).2
  exact absurd (UInt32.le_trans (le_of_isWordStart h) top) (by decide)

/-- A pair begins with no character of a class that its first characters
are kept out of. -/
theorem ofChars?_eq_none_of_class {inClass : Char → Bool} {c : Char} {next : Option Char}
    (apart : ∀ pair : Pair, inClass pair.first = false) (h : inClass c = true) :
    Pair.ofChars? c next = none := by
  cases found : Pair.ofChars? c next with
  | none => rfl
  | some pair =>
    have := apart pair
    rw [← (Pair.ofChars?_eq_some_iff.1 found).1, h] at this
    cases this

theorem startsNumber_eq_false {c : Char} {next : Option Char} (plain : c.isDigit = false)
    (sign : c ≠ '-') : startsNumber c next = false := by
  simp [startsNumber, plain, sign]

theorem startsNumber_minus {digit : Char} (h : digit.isDigit = true) :
    startsNumber '-' (some digit) = true := by
  simp [startsNumber, h]

/-- No mark is a digit, a double quote or a blank. -/
theorem apart_of_mem_marks {c : Char} {kind : TokenKind} (h : (c, kind) ∈ marks) :
    c.isDigit = false ∧ c ≠ '"' ∧ isBlank c = false := by
  have each : ∀ entry ∈ marks,
      entry.1.isDigit = false ∧ entry.1 ≠ '"' ∧ isBlank entry.1 = false := by decide
  exact each _ h

theorem isWordPart_of_mem_symbol {letters : List Char} (h : IsSymbol letters) :
    ∀ c ∈ letters, isWordPart c = true := by
  intro c hc
  cases letters with
  | nil => exact absurd h id
  | cons first rest =>
    rcases List.mem_cons.1 hc with rfl | hc
    · rw [isWordPart_eq, h.1]
      rfl
    · exact h.2 c hc

theorem eq_or_isNumeric_of_mem_run {run : List Char} (h : IsNumberRun run) :
    ∀ c ∈ run, c = '-' ∨ isNumeric c = true := by
  obtain ⟨sign, digit, rest, rfl, sign_eq, digit_ok, inside⟩ := h
  intro c hc
  simp only [List.mem_append, List.mem_cons] at hc
  rcases hc with hc | rfl | hc
  · rcases sign_eq with rfl | rfl
    · cases hc
    · exact .inl (List.mem_singleton.1 hc)
  · exact .inr (by simp [isNumeric, digit_ok])
  · exact .inr (inside c hc)

/-! ## 5. Each lexeme is read where it may end -/

theorem read_layout {c : Char} {blanks after : List Char}
    (inside : ∀ d ∈ c :: blanks, isBlank d = true) (stop : EndsBefore isBlank after.head?) :
    read c (blanks ++ after) = .ok (.layout (c :: blanks)) := by
  have blank : isBlank c = true := inside c List.mem_cons_self
  have cases := isBlank_iff.1 blank
  have start (next : Option Char) : startsNumber c next = false := by
    apply startsNumber_eq_false <;> rcases cases with rfl | rfl | rfl | rfl <;> decide
  have quote : c ≠ '"' := by rintro rfl; cases blank
  have word : isWordStart c = false := by
    rcases cases with rfl | rfl | rfl | rfl <;> rfl
  have pair (next : Option Char) : Pair.ofChars? c next = none :=
    ofChars?_eq_none_of_class (fun pair => by cases pair <;> rfl) blank
  have mark := mark?_eq_none_of_class (by decide) blank
  have run := takeWhile_append_of_endsBefore
    (fun d hd => inside d (List.mem_cons_of_mem _ hd)) stop
  simp [read, start, quote, pair, mark, word, blank, run]

theorem read_word {c : Char} {letters after : List Char} (first : isWordStart c = true)
    (inside : ∀ d ∈ letters, isWordPart d = true) (stop : EndsBefore isWordPart after.head?) :
    read c (letters ++ after) = .ok (.word (c :: letters)) := by
  have start (next : Option Char) : startsNumber c next = false :=
    startsNumber_eq_false (isDigit_eq_false_of_isWordStart first) (by rintro rfl; cases first)
  have quote : c ≠ '"' := by rintro rfl; cases first
  have pair (next : Option Char) : Pair.ofChars? c next = none :=
    ofChars?_eq_none_of_class (fun pair => by cases pair <;> rfl) first
  have mark := mark?_eq_none_of_class (by decide) first
  have run := takeWhile_append_of_endsBefore inside stop
  simp [read, start, quote, pair, mark, first, run]

theorem read_number {c : Char} {run after : List Char} (valid : IsNumberRun (c :: run))
    (stop : EndsBefore isNumeric after.head?) :
    read c (run ++ after) = .ok (.number (c :: run)) := by
  obtain ⟨sign, digit, rest, split, sign_eq, digit_ok, inside⟩ := valid
  have numeric : isNumeric digit = true := by simp [isNumeric, digit_ok]
  -- With a sign the run has one more character before the digits begin.
  rcases sign_eq with rfl | rfl
  · obtain ⟨rfl, rfl⟩ : c = digit ∧ run = rest := by simpa using split
    have taken := takeWhile_append_of_endsBefore inside stop
    simp [read, startsNumber, digit_ok, taken]
  · obtain ⟨rfl, rfl⟩ : c = '-' ∧ run = digit :: rest := by simpa using split
    have taken : (digit :: rest ++ after).takeWhile isNumeric = digit :: rest :=
      takeWhile_append_of_endsBefore (by simpa [numeric] using inside) stop
    rw [read, List.cons_append, List.head?_cons, startsNumber_minus digit_ok,
      ← List.cons_append, taken]
    rfl

theorem read_quoted {body after : List Char} (plain : '"' ∉ body) :
    read '"' (body ++ '"' :: after) = .ok (.quoted body) := by
  have start : startsNumber '"' (body ++ '"' :: after).head? = false :=
    startsNumber_eq_false rfl (by decide)
  have taken : (body ++ '"' :: after).takeWhile (· != '"') = body := by
    refine takeWhile_append_of_endsBefore (fun c hc => ?_) (fun c hc => ?_)
    · simp only [bne_iff_ne, ne_eq]
      rintro rfl
      exact plain hc
    · obtain rfl : '"' = c := by simpa using hc
      rfl
  rw [read, start, taken]
  simp

theorem read_pair (pair : Pair) (after : List Char) :
    read pair.first (pair.second :: after) = .ok (.pair pair) := by
  have found : Pair.ofChars? pair.first (some pair.second) = some pair :=
    Pair.ofChars?_eq_some_iff.2 ⟨rfl, rfl⟩
  have start : startsNumber pair.first (some pair.second) = false := by
    cases pair <;> rfl
  have quote : pair.first ≠ '"' := by cases pair <;> decide
  simp [read, start, quote, found]

theorem read_mark {c : Char} {kind : TokenKind} {after : List Char} (listed : (c, kind) ∈ marks)
    (alone : StandsAlone c after.head?) : read c after = .ok (.mark kind c) := by
  obtain ⟨digit, quote, -⟩ := apart_of_mem_marks listed
  obtain ⟨equals, ampersand, exclamation, plus, minus⟩ := alone
  have start : startsNumber c after.head? = false := by
    by_cases sign : c = '-'
    · have next := (minus sign).2
      subst sign
      cases h : after.head? with
      | none => rfl
      | some d => simp [startsNumber, next d h]
    · exact startsNumber_eq_false digit sign
  have pair : Pair.ofChars? c after.head? = none := by
    cases found : Pair.ofChars? c after.head? with
    | none => rfl
    | some pair =>
      obtain ⟨rfl, next⟩ := Pair.ofChars?_eq_some_iff.1 found
      cases pair with
      | equality => exact absurd next (equals rfl)
      | inequality => exact absurd next (exclamation rfl)
      | conjunction => exact absurd next (ampersand rfl)
      | increment => exact absurd next (plus rfl)
      | decrement => exact absurd next (minus rfl).1
  simp [read, start, quote, pair, mark?_eq_some_iff.2 listed]

/-- A text that begins with a lexeme that may end there is read as that
lexeme. -/
theorem read_of_admissible {c : Char} {rest after : List Char} {lexeme : Lexeme}
    (split : c :: rest = lexeme.text ++ after) (h : lexeme.Admissible after.head?) :
    read c rest = .ok lexeme := by
  cases lexeme with
  | layout blanks =>
    obtain ⟨ne, inside, stop⟩ := h
    cases blanks with
    | nil => exact absurd rfl ne
    | cons d blanks =>
      obtain ⟨rfl, rfl⟩ := List.cons.inj split
      exact read_layout inside stop
  | word letters =>
    obtain ⟨symbol, stop⟩ := h
    cases letters with
    | nil => exact absurd symbol id
    | cons d letters =>
      obtain ⟨rfl, rfl⟩ := List.cons.inj split
      exact read_word symbol.1 symbol.2 stop
  | number run =>
    obtain ⟨valid, stop⟩ := h
    cases run with
    | nil =>
      obtain ⟨sign, digit, rest, eq, -⟩ := valid
      simp at eq
    | cons d run =>
      obtain ⟨rfl, rfl⟩ := List.cons.inj split
      exact read_number valid stop
  | quoted body =>
    obtain ⟨rfl, rfl⟩ : c = '"' ∧ rest = body ++ '"' :: after := by
      simpa [text] using split
    exact read_quoted h
  | pair double =>
    obtain ⟨rfl, rfl⟩ := List.cons.inj split
    exact read_pair double after
  | mark kind d =>
    obtain ⟨rfl, rfl⟩ := List.cons.inj split
    exact read_mark h.1 h.2

/-! ## 6. What is read is a lexeme -/

theorem isNumberRun_of_startsNumber {c : Char} {rest : List Char}
    (h : startsNumber c rest.head? = true) : IsNumberRun (c :: rest.takeWhile isNumeric) := by
  have inside : ∀ d ∈ rest.takeWhile isNumeric, isNumeric d = true :=
    fun _ => List.mem_takeWhile_imp
  simp only [startsNumber, Bool.or_eq_true, Bool.and_eq_true, beq_iff_eq] at h
  rcases h with digit | ⟨rfl, next⟩
  · exact ⟨[], c, _, rfl, .inl rfl, digit, inside⟩
  · cases rest with
    | nil => simp at next
    | cons d rest =>
      have digit : d.isDigit = true := by simpa using next
      have numeric : isNumeric d = true := by simp [isNumeric, digit]
      rw [List.takeWhile_cons_of_pos numeric] at inside ⊢
      exact ⟨['-'], d, _, rfl, .inr rfl, digit, fun e he => inside e (List.mem_cons_of_mem _ he)⟩

/-- A mark that is neither half of a pair nor the sign of a number stands
alone. -/
theorem standsAlone_of_read {c : Char} {next : Option Char} (start : startsNumber c next = false)
    (pair : Pair.ofChars? c next = none) : StandsAlone c next := by
  have no_pair (double : Pair) (hc : c = double.first) : next ≠ some double.second := by
    intro hn
    rw [Pair.ofChars?_eq_some_iff.2 ⟨hc, hn⟩] at pair
    cases pair
  refine ⟨no_pair .equality, no_pair .conjunction, no_pair .inequality, no_pair .increment,
    fun hc => ⟨no_pair .decrement hc, fun d hd => ?_⟩⟩
  obtain rfl := Option.mem_def.1 hd
  simpa [startsNumber, hc] using start

/-- What is read is a lexeme, and ends where it may. -/
theorem admissible_of_read {c : Char} {rest : List Char} {lexeme : Lexeme}
    (h : read c rest = .ok lexeme) :
    ∃ after, c :: rest = lexeme.text ++ after ∧ lexeme.Admissible after.head? := by
  unfold read at h
  split at h
  · next start =>
    cases h
    obtain ⟨after, split, stop⟩ := exists_takeWhile_append isNumeric rest
    exact ⟨after, congrArg (c :: ·) split, isNumberRun_of_startsNumber start, stop⟩
  · next start =>
    split at h
    · next quote =>
      subst quote
      split at h
      · next closed =>
        cases h
        obtain ⟨after, split⟩ := takeWhile_append_quote closed
        refine ⟨after, ?_, fun inside => ?_⟩
        · simp [text, ← split]
        · simpa using List.mem_takeWhile_imp inside
      · cases h
    · split at h
      · next pair found =>
        cases h
        obtain ⟨rfl, next⟩ := Pair.ofChars?_eq_some_iff.1 found
        cases rest with
        | nil => cases next
        | cons d after =>
          obtain rfl : d = pair.second := by simpa using next
          exact ⟨after, rfl, trivial⟩
      · next none_found =>
        split at h
        · next kind found =>
          cases h
          exact ⟨rest, rfl, mark?_eq_some_iff.1 found,
            standsAlone_of_read (by simpa using start) none_found⟩
        · split at h
          · next first =>
            cases h
            obtain ⟨after, split, stop⟩ := exists_takeWhile_append isWordPart rest
            exact ⟨after, congrArg (c :: ·) split, ⟨first, fun _ => List.mem_takeWhile_imp⟩, stop⟩
          · split at h
            · next blank =>
              cases h
              obtain ⟨after, split, stop⟩ := exists_takeWhile_append isBlank rest
              refine ⟨after, congrArg (c :: ·) split, List.cons_ne_nil _ _, fun d hd => ?_, stop⟩
              rcases List.mem_cons.1 hd with rfl | hd
              · exact blank
              · exact List.mem_takeWhile_imp hd
            · cases h

/-- The reader finds a lexeme just if the text begins with it and it may
end there. -/
theorem read_eq_ok_iff {c : Char} {rest : List Char} {lexeme : Lexeme} :
    read c rest = .ok lexeme
      ↔ ∃ after, c :: rest = lexeme.text ++ after ∧ lexeme.Admissible after.head? :=
  ⟨admissible_of_read, fun ⟨_, split, h⟩ => read_of_admissible split h⟩

/-- Only before a blank is layout read. -/
theorem ne_layout_of_read {c : Char} {rest : List Char} {lexeme : Lexeme}
    (found : read c rest = .ok lexeme) (plain : isBlank c = false) :
    ∀ blanks, lexeme ≠ .layout blanks := by
  intro blanks eq
  obtain ⟨after, split, here⟩ := admissible_of_read found
  subst eq
  obtain ⟨d, others, rfl⟩ := List.exists_cons_of_ne_nil here.1
  obtain ⟨rfl, -⟩ := List.cons.inj split
  rw [here.2.1 c List.mem_cons_self] at plain
  cases plain

/-- Only at a double quote is a literal read. -/
theorem ne_quoted_of_read {c : Char} {rest : List Char} {lexeme : Lexeme}
    (found : read c rest = .ok lexeme) (quote : c ≠ '"') : ∀ body, lexeme ≠ .quoted body := by
  intro body eq
  obtain ⟨after, split, -⟩ := admissible_of_read found
  subst eq
  exact quote (List.cons.inj split).1

theorem text_ne_nil {lexeme : Lexeme} {next : Option Char} (h : lexeme.Admissible next) :
    lexeme.text ≠ [] := by
  cases lexeme with
  | layout blanks => exact h.1
  | word letters =>
    rintro rfl
    exact h.1
  | number run =>
    obtain ⟨⟨sign, digit, rest, rfl, -⟩, -⟩ := h
    simp [text]
  | quoted body => exact List.cons_ne_nil _ _
  | pair double => exact List.cons_ne_nil _ _
  | mark kind c => exact List.cons_ne_nil _ _

/-- Only layout begins with a blank. -/
theorem endsBefore_isBlank_of_admissible {lexeme : Lexeme} {next : Option Char}
    (h : lexeme.Admissible next) (plain : ∀ blanks, lexeme ≠ .layout blanks)
    (after : List Char) : EndsBefore isBlank (lexeme.text ++ after).head? := by
  intro c hc
  cases lexeme with
  | layout blanks => exact absurd rfl (plain blanks)
  | word letters =>
    cases letters with
    | nil => exact absurd h.1 id
    | cons first rest =>
      obtain rfl : first = c := Option.some.inj hc
      exact isBlank_eq_false_of_class rfl h.1.1
  | number run =>
    obtain ⟨⟨sign, digit, rest, rfl, sign_eq, digit_ok, -⟩, -⟩ := h
    rcases sign_eq with rfl | rfl
    · obtain rfl : digit = c := Option.some.inj hc
      exact isBlank_eq_false_of_class rfl digit_ok
    · obtain rfl : '-' = c := Option.some.inj hc
      rfl
  | quoted body =>
    obtain rfl : '"' = c := Option.some.inj hc
    rfl
  | pair double =>
    obtain rfl : double.first = c := Option.some.inj hc
    cases double <;> rfl
  | mark kind d =>
    obtain rfl : d = c := Option.some.inj hc
    exact (apart_of_mem_marks h.1).2.2

/-- A lexeme is read whenever the text begins with it and it may end
there. -/
theorem exists_read_of_admissible {lexeme : Lexeme} {after : List Char}
    (h : lexeme.Admissible after.head?) :
    ∃ c rest, lexeme.text ++ after = c :: rest ∧ read c rest = .ok lexeme := by
  obtain ⟨c, rest, split⟩ := List.exists_cons_of_ne_nil
    (List.append_ne_nil_of_left_ne_nil (text_ne_nil h) after)
  exact ⟨c, rest, split, read_of_admissible split.symm h⟩

/-! ## 7. Where the reader gives up -/

/-- The reader gives up at a double quote that no other one follows, and
at a character that no script holds, and nowhere else. -/
theorem read_eq_error_iff {c : Char} {rest : List Char} {fault : Fault} :
    read c rest = .error fault
      ↔ (c = '"' ∧ '"' ∉ rest ∧ fault = .unterminatedString (String.ofList rest))
        ∨ (c ≠ '"' ∧ isLegal c = false ∧ fault = .unrecognisedCharacter c) := by
  constructor
  · intro h
    unfold read at h
    split at h
    · cases h
    · next start =>
      split at h
      · next quote =>
        split at h
        · cases h
        · next absent =>
          cases h
          exact .inl ⟨quote, absent, rfl⟩
      · next quote =>
        repeat' split at h
        all_goals cases h
        next mark word blank =>
        refine .inr ⟨quote, ?_, rfl⟩
        have digit : c.isDigit = false := by
          simp only [startsNumber, Bool.or_eq_true, not_or, Bool.not_eq_true] at start
          exact start.1
        simp [isLegal_eq, isWordPart_eq, mark, word, blank, digit]
  · rintro (⟨rfl, absent, rfl⟩ | ⟨quote, illegal, rfl⟩)
    · have start (next : Option Char) : startsNumber '"' next = false :=
        startsNumber_eq_false rfl (by decide)
      simp [read, start, absent]
    · have pair (next : Option Char) : Pair.ofChars? c next = none :=
        @ofChars?_eq_none_of_class (fun d => !isLegal d) c next
          (fun pair => by cases pair <;> rfl) (by simp [illegal])
      have sign : c ≠ '-' := by rintro rfl; cases illegal
      simp only [isLegal_eq, isWordPart_eq, Bool.or_eq_false_iff, Option.isSome_eq_false_iff,
        Option.isNone_iff_eq_none] at illegal
      obtain ⟨⟨blank, word, digit⟩, mark⟩ := illegal
      have start (next : Option Char) : startsNumber c next = false :=
        startsNumber_eq_false digit sign
      simp [read, start, quote, pair, mark, word, blank]

/-! ## 8. Before a blank -/

/-- Before a blank, or at the end, any run may end that does not hold
blanks. -/
theorem endsBefore_of_blank {inClass : Char → Bool}
    (apart : [' ', '\t', '\n', '\r'].any inClass = false) {next : Option Char}
    (h : ∀ c ∈ next, isBlank c = true) : EndsBefore inClass next := by
  intro c hc
  rw [Bool.eq_false_iff]
  intro inside
  have := isBlank_eq_false_of_class apart inside
  rw [h c hc] at this
  cases this

theorem standsAlone_of_blank (c : Char) {next : Option Char} (h : ∀ d ∈ next, isBlank d = true) :
    StandsAlone c next := by
  have ne (d : Char) (plain : isBlank d = false) : next ≠ some d := by
    intro eq
    rw [h d eq] at plain
    cases plain
  exact ⟨fun _ => ne _ rfl, fun _ => ne _ rfl, fun _ => ne _ rfl, fun _ => ne _ rfl,
    fun _ => ⟨ne _ rfl, endsBefore_of_blank rfl h⟩⟩

/-- Whatever is no layout may end before a blank, and at the end. -/
theorem Admissible.before_blank {lexeme : Lexeme} {next other : Option Char}
    (h : lexeme.Admissible next) (solid : ∀ blanks, lexeme ≠ .layout blanks)
    (gap : ∀ c ∈ other, isBlank c = true) : lexeme.Admissible other := by
  cases lexeme with
  | layout blanks => exact absurd rfl (solid blanks)
  | word letters => exact ⟨h.1, endsBefore_of_blank rfl gap⟩
  | number run => exact ⟨h.1, endsBefore_of_blank rfl gap⟩
  | quoted body => exact h
  | pair double => trivial
  | mark kind c => exact ⟨h.1, standsAlone_of_blank c gap⟩

end Lexeme

end ScriptSyntax
