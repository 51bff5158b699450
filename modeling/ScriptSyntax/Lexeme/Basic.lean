/-
ScriptSyntax.Lexeme.Basic — the pieces into which a script falls.

A lexeme is a stretch of the script as it is written; tokens are what it
comes to. The two differ: layout comes to nothing, a number with several
periods comes to several numbers, and a doubled sign is written out as
an assignment.

* `Lexeme.text` is how a lexeme is written.
* `Lexeme.emits` is the tokens that it comes to, after a given token.
-/
import ScriptSyntax.Token.Vocabulary

namespace ScriptSyntax

/-! ## 1. Lexemes and their spelling -/

/-- Two characters that belong together. -/
inductive Pair where
  /-- Equality, written `==`. -/
  | equality
  /-- Inequality, written `!=`. -/
  | inequality
  /-- Conjunction, written `&&`. -/
  | conjunction
  /-- Increment, written `++`. -/
  | increment
  /-- Decrement, written `--`. -/
  | decrement
  deriving DecidableEq

namespace Pair

/-- Every pair once. -/
def all : List Pair := [.equality, .inequality, .conjunction, .increment, .decrement]

/-- The character that a pair begins with. -/
def first : Pair → Char
  | .equality => '='
  | .inequality => '!'
  | .conjunction => '&'
  | .increment => '+'
  | .decrement => '-'

/-- The character that completes a pair. -/
def second : Pair → Char
  | .equality => '='
  | .inequality => '='
  | .conjunction => '&'
  | .increment => '+'
  | .decrement => '-'

/-- The pair that two neighbouring characters make up. -/
def ofChars? (c : Char) (next : Option Char) : Option Pair :=
  all.find? fun pair => pair.first == c && next == some pair.second

theorem ofChars?_eq_some_iff {c : Char} {next : Option Char} {pair : Pair} :
    ofChars? c next = some pair ↔ c = pair.first ∧ next = some pair.second := by
  constructor
  · intro h
    have := List.find?_some h
    simp only [Bool.and_eq_true, beq_iff_eq] at this
    exact ⟨this.1.symm, this.2⟩
  · rintro ⟨rfl, rfl⟩
    cases pair <;> decide

end Pair

/-- One piece of a script. -/
inductive Lexeme where
  /-- Blanks, which stand between tokens. -/
  | layout (blanks : List Char)
  /-- A keyword or a name. -/
  | word (letters : List Char)
  /-- Digits and periods, after a minus sign or not. -/
  | number (run : List Char)
  /-- The text between two double quotes. -/
  | quoted (body : List Char)
  /-- Two characters that belong together. -/
  | pair (double : Pair)
  /-- A character that is a token by itself. -/
  | mark (kind : TokenKind) (character : Char)
  deriving DecidableEq

namespace Lexeme

/-- How a lexeme is written in a script. -/
def text : Lexeme → List Char
  | .layout blanks => blanks
  | .word letters => letters
  | .number run => run
  | .quoted body => '"' :: body ++ ['"']
  | .pair double => [double.first, double.second]
  | .mark _ c => [c]

/-! ## 2. Numbers with several periods -/

/-- The characters before the first cut and the pieces after it: a cut
falls before each period once a period has been seen. -/
def splitPeriods : Bool → List Char → List Char × List (List Char)
  | _, [] => ([], [])
  | seen, c :: rest =>
    let later := splitPeriods (seen || c == '.') rest
    if seen && c == '.' then ([], (c :: later.1) :: later.2) else (c :: later.1, later.2)

/-- A run of digits and periods cut before every period but the first, so
that no piece holds two. -/
def pieces (run : List Char) : List (List Char) :=
  (splitPeriods false run).1 :: (splitPeriods false run).2

/-- A cut loses nothing: the pieces make up the run. -/
theorem flatten_splitPeriods (seen : Bool) (run : List Char) :
    (splitPeriods seen run).1 ++ (splitPeriods seen run).2.flatten = run := by
  induction run generalizing seen with
  | nil => rfl
  | cons c rest ih =>
    have := ih (seen || c == '.')
    rw [splitPeriods]
    split <;> simp [this]

theorem flatten_pieces (run : List Char) : (pieces run).flatten = run := by
  simpa [pieces] using flatten_splitPeriods false run

/-! ## 3. The tokens of a lexeme -/

/-- A doubled sign after a token stands for `= token sign 1`. With no
token before it there is nothing to assign to, and it stands for
nothing. -/
def adjustment (sign : Char) : Option Token → List Token
  | none => []
  | some target =>
    [⟨"=", .equals⟩, target, ⟨String.singleton sign, .binaryOperator⟩, ⟨"1", .number⟩]

/-- The tokens that a lexeme comes to, where `previous` is the token
before it. -/
def emits (previous : Option Token) : Lexeme → List Token
  | .layout _ => []
  | .word letters => [Vocabulary.wordToken (String.ofList letters)]
  | .number run => (pieces run).map fun piece => ⟨String.ofList piece, .number⟩
  | .quoted body => [⟨String.ofList body, .string⟩]
  | .pair .equality => [⟨"is", .equalsCompare⟩]
  | .pair .inequality => [⟨"!=", .notEqualsCompare⟩]
  | .pair .conjunction => [⟨"&&", .and⟩]
  | .pair .increment => adjustment '+' previous
  | .pair .decrement => adjustment '-' previous
  | .mark kind c => [⟨String.singleton c, kind⟩]

end Lexeme

end ScriptSyntax
