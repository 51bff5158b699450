/-
ScriptSyntax.Proofs.Tokenize.Spelling — what is left of a script in its
tokens.

Spelled out one right behind the other, the tokens of a script make up
the script without its layout: each of the other characters went into one
token, and none of them changed places. Doubled signs are left aside
(`Undoubled`), for they come to tokens that were never written.

* `withoutLayout` leaves out the blanks outside of literals.
* `flatMap_spelling_emits` and `withoutLayout_append` say the same of one
  lexeme from both sides: what its tokens spell is what is left of it.
* `tokenize_spells_script` — the tokens of a script spell it, so scripts
  with the same tokens differ in their layout alone.
-/
import ScriptSyntax.Proofs.Tokenize.Layout
import ScriptSyntax.Proofs.Tokenize.Rendering

namespace ScriptSyntax

open Vocabulary Lexeme Token

namespace Lexeme

/-! ## 1. Scripts without their layout -/

/-- A text without its layout, where `odd` says whether an odd number of
double quotes stands in front of it. Blanks that an odd number of double
quotes stands in front of are no layout. -/
def withoutLayout : Bool → List Char → List Char
  | _, [] => []
  | odd, c :: rest =>
    if c = '"' then c :: withoutLayout (!odd) rest
    else if !odd && isBlank c then withoutLayout odd rest
    else c :: withoutLayout odd rest

/-- What is left of a lexeme without its layout: nothing of layout, and
all of any other. -/
def solid : Lexeme → List Char
  | .layout _ => []
  | lexeme => lexeme.text

theorem withoutLayout_quote (odd : Bool) (rest : List Char) :
    withoutLayout odd ('"' :: rest) = '"' :: withoutLayout (!odd) rest := by
  rw [withoutLayout, if_pos rfl]

theorem withoutLayout_blanks {blanks : List Char} (h : ∀ c ∈ blanks, isBlank c = true)
    (rest : List Char) : withoutLayout false (blanks ++ rest) = withoutLayout false rest := by
  induction blanks with
  | nil => rfl
  | cons c blanks ih =>
    have blank := h c List.mem_cons_self
    have quote : c ≠ '"' := by rintro rfl; cases blank
    rw [List.cons_append, withoutLayout, if_neg quote, blank]
    exact ih fun d hd => h d (List.mem_cons_of_mem _ hd)

/-- Characters that are neither blanks nor double quotes stay. -/
theorem withoutLayout_plain {front : List Char} (h : ∀ c ∈ front, c ≠ '"' ∧ isBlank c = false)
    (rest : List Char) :
    withoutLayout false (front ++ rest) = front ++ withoutLayout false rest := by
  induction front with
  | nil => rfl
  | cons c front ih =>
    obtain ⟨quote, plain⟩ := h c List.mem_cons_self
    rw [List.cons_append, withoutLayout, if_neg quote, plain,
      ih fun d hd => h d (List.mem_cons_of_mem _ hd)]
    rfl

/-- In a literal everything stays, blanks and all. -/
theorem withoutLayout_body {body : List Char} (h : '"' ∉ body) (rest : List Char) :
    withoutLayout true (body ++ rest) = body ++ withoutLayout true rest := by
  induction body with
  | nil => rfl
  | cons c body ih =>
    rw [List.mem_cons, not_or] at h
    rw [List.cons_append, withoutLayout, if_neg (Ne.symm h.1), ih h.2]
    rfl

/-- What is left of a text is what is left of its first lexeme, and what
is left of the rest. -/
theorem withoutLayout_append {lexeme : Lexeme} {next : Option Char} (h : lexeme.Admissible next)
    (after : List Char) :
    withoutLayout false (lexeme.text ++ after) = lexeme.solid ++ withoutLayout false after := by
  have other (solid : ∀ blanks, lexeme ≠ .layout blanks) (bare : ∀ body, lexeme ≠ .quoted body) :=
    withoutLayout_plain (plain_of_mem_text h solid bare) after
  cases lexeme with
  | layout blanks => exact withoutLayout_blanks h.2.1 after
  | quoted body =>
    have closed := withoutLayout_body h ('"' :: after)
    rw [withoutLayout_quote] at closed
    simp [solid, text, withoutLayout_quote, closed]
  | word letters => exact other (by simp) (by simp)
  | number run => exact other (by simp) (by simp)
  | pair double => exact other (by simp) (by simp)
  | mark kind c => exact other (by simp) (by simp)

/-! ## 2. What the tokens of a lexeme spell -/

/-- A token whose kind has no spelling of its own is spelled as its
value. -/
theorem spelling_of_plain {token : Token} (string : token.kind ≠ .string)
    (equality : token.kind ≠ .equalsCompare) : token.spelling = token.value.toList := by
  unfold spelling
  split
  · next eq => exact absurd eq string
  · next eq => exact absurd eq equality
  · rfl

theorem spelling_wordToken (letters : List Char) :
    (wordToken (String.ofList letters)).spelling = letters := by
  have plain : (wordToken (String.ofList letters)).kind ≠ .string
      ∧ (wordToken (String.ofList letters)).kind ≠ .equalsCompare := by
    cases found : keyword? (String.ofList letters) with
    | none => simp [wordToken, found]
    | some kind =>
      have each : ∀ entry ∈ keywords, entry.2 ≠ .string ∧ entry.2 ≠ .equalsCompare := by decide
      simpa [wordToken, found] using each _ (keyword?_eq_some_iff.1 found)
  rw [spelling_of_plain plain.1 plain.2, wordToken, String.toList_ofList]

/-- The pieces of a run of digits and periods spell the run. -/
theorem flatMap_spelling_pieces (run : List Char) :
    ((pieces run).map fun piece => (⟨String.ofList piece, .number⟩ : Token)).flatMap spelling
      = run := by
  have numbers : ∀ token ∈ (pieces run).map fun piece => (⟨String.ofList piece, .number⟩ : Token),
      token.kind = .number := by
    simp
  rw [flatMap_spelling_of_numbers numbers, values, List.map_map]
  simpa [Function.comp_def] using flatten_pieces run

/-- The tokens of a lexeme spell what is left of it, unless they are
written out for a doubled sign. -/
theorem flatMap_spelling_emits {lexeme : Lexeme} {next : Option Char} (h : lexeme.Admissible next)
    (increment : lexeme ≠ .pair .increment) (decrement : lexeme ≠ .pair .decrement)
    (previous : Option Token) : (lexeme.emits previous).flatMap spelling = lexeme.solid := by
  cases lexeme with
  | layout blanks => rfl
  | word letters => simpa [emits, solid, text] using spelling_wordToken letters
  | number run => exact flatMap_spelling_pieces run
  | quoted body => simp [emits, spelling, solid, text]
  | pair double =>
    cases double with
    | equality => rfl
    | inequality => rfl
    | conjunction => rfl
    | increment => exact absurd rfl increment
    | decrement => exact absurd rfl decrement
  | mark kind c => simpa [emits, solid, text] using spelling_mark h.1

/-! ## 3. All lexemes -/

theorem flatMap_spelling_emitAll {source : List Char} {lexemes : List Lexeme}
    (h : Decomposes source lexemes) (increment : .pair .increment ∉ lexemes)
    (decrement : .pair .decrement ∉ lexemes) (previous : Option Token) :
    (emitAll previous lexemes).flatMap spelling = withoutLayout false source := by
  induction lexemes generalizing source previous with
  | nil =>
    obtain rfl : source = [] := h
    rfl
  | cons lexeme lexemes ih =>
    obtain ⟨after, rfl, admissible, rest⟩ := h
    rw [List.mem_cons, not_or] at increment decrement
    rw [emitAll_cons, List.flatMap_append, withoutLayout_append admissible,
      flatMap_spelling_emits admissible (Ne.symm increment.1) (Ne.symm decrement.1),
      ih rest increment.2 decrement.2]

end Lexeme

/-! ## 4. Scripts -/

/-- Whether a script falls into lexemes none of which is a doubled
sign. -/
def Undoubled (source : String) : Prop :=
  ∃ lexemes, Decomposes source.toList lexemes ∧ .pair .increment ∉ lexemes
    ∧ .pair .decrement ∉ lexemes

/-- A script without doubled signs has tokens, and they spell it but for
its layout. So two such scripts with the same tokens are the same without
their layout. -/
theorem tokenize_spells_script :
    (∀ source file, Undoubled source → ∃ tokens,
        tokenize source file = .ok (tokens ++ [Token.endOfFile])
          ∧ tokens.flatMap spelling = withoutLayout false source.toList)
      ∧ ∀ source other file file', Undoubled source → Undoubled other →
        tokenize source file = tokenize other file' →
        withoutLayout false source.toList = withoutLayout false other.toList := by
  have spells (source : String) (file : Option String) (h : Undoubled source) : ∃ tokens,
      tokenize source file = .ok (tokens ++ [Token.endOfFile])
        ∧ tokens.flatMap spelling = withoutLayout false source.toList := by
    obtain ⟨lexemes, decomposes, increment, decrement⟩ := h
    exact ⟨_, tokenize_eq_ok_iff.2 ⟨lexemes, decomposes, rfl⟩,
      flatMap_spelling_emitAll decomposes increment decrement none⟩
  refine ⟨spells, fun source other file file' h h' same => ?_⟩
  obtain ⟨tokens, came, spelled⟩ := spells source file h
  obtain ⟨others, came', spelled'⟩ := spells other file' h'
  have eq : tokens = others :=
    List.append_cancel_right (Except.ok.inj (came.symm.trans (same.trans came')))
  rw [← spelled, ← spelled', eq]

/-- A run that is cut, a value that is not its spelling, and blanks that
stay because they stand in a literal. -/
theorem tokenize_spells_script_layout :
    Undoubled "-1..5 ==\t\"a  b\"" ∧ Undoubled "\n-1..5==\"a  b\"  "
      ∧ withoutLayout false "-1..5 ==\t\"a  b\"".toList = "-1..5==\"a  b\"".toList
      ∧ withoutLayout false "\n-1..5==\"a  b\"  ".toList = "-1..5==\"a  b\"".toList
      ∧ ∃ tokens, tokenize "-1..5 ==\t\"a  b\"" none = .ok (tokens ++ [Token.endOfFile])
        ∧ tokens.flatMap spelling = "-1..5==\"a  b\"".toList := by
  have first : Undoubled "-1..5 ==\t\"a  b\"" :=
    ⟨[.number ['-', '1', '.', '.', '5'], .layout [' '], .pair .equality, .layout ['\t'],
      .quoted ['a', ' ', ' ', 'b']], decomposes_of_readAll (by decide +kernel), by decide,
      by decide⟩
  have second : Undoubled "\n-1..5==\"a  b\"  " :=
    ⟨[.layout ['\n'], .number ['-', '1', '.', '.', '5'], .pair .equality,
      .quoted ['a', ' ', ' ', 'b'], .layout [' ', ' ']], decomposes_of_readAll (by decide +kernel),
      by decide, by decide⟩
  have left : withoutLayout false "-1..5 ==\t\"a  b\"".toList = "-1..5==\"a  b\"".toList := by
    decide
  have same : tokenize "-1..5 ==\t\"a  b\"" none = tokenize "\n-1..5==\"a  b\"  " none := by
    decide +kernel
  have equal := tokenize_spells_script.2 _ _ none none first second same
  obtain ⟨tokens, came, spelled⟩ := tokenize_spells_script.1 _ none first
  exact ⟨first, second, left, equal.symm.trans left, tokens, came, spelled.trans left⟩

end ScriptSyntax
