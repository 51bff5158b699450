/-
ScriptSyntax.Proofs.Tokenize.Listing — the lines of a listing.

A listing is meant to have one line for each token, and each line begins
with the name of the kind. But a value is listed as it stands, and the body
of a string literal may hold line feeds. The listing has more lines than
there are tokens then, and they may be the lines of other tokens. All other
line feeds of a script are layout, and no token has them.

* `Token.row` is the line of a token without the line feed that ends it,
  and `eq_listing_iff` says what it shows.
* `count_listing_eq_iff`, `splitOn_listing` — where no row holds a line
  feed, the lines are the rows, and nowhere else are there as many.
* `newline_emitAll` — the line feeds that tokens hold are those that are
  left of the script without its layout.
* `listing_lines_of_tokenize` — which scripts have a line for each token.
* `listing_ambiguous` — a script whose listing is that of another one.
-/
import Mathlib.Data.List.Forall2
import ScriptSyntax.Proofs.Token.Display
import ScriptSyntax.Proofs.Tokenize.Spelling

namespace ScriptSyntax

open Lexeme Token

namespace Token

/-! ## 1. Rows and lines -/

/-- The line of a token, without the line feed at its end. -/
def row (token : Token) : String :=
  token.kind.name ++ " (" ++ (if token.isOneOf valueKinds then token.value else "") ++ ")"

/-- The kind that the word in front of a row names. -/
def kindOfRow? (row : List Char) : Option TokenKind :=
  TokenKind.ofName? (String.ofList (row.takeWhile Char.isAlpha))

/-- The kinds of which a row shows the value. -/
def IsValued (kind : TokenKind) : Prop :=
  kind = .number ∨ kind = .string ∨ kind = .identifier

/-- The row of a token names its kind, and behind it in parentheses stands
the value, or nothing. -/
inductive IsRow : Token → String → Prop where
  | valued {kind : TokenKind} (value : String) :
    IsValued kind → IsRow ⟨value, kind⟩ (kind.name ++ " (" ++ value ++ ")")
  | bare {kind : TokenKind} (value : String) :
    ¬ IsValued kind → IsRow ⟨value, kind⟩ (kind.name ++ " ()")

theorem isOneOf_valueKinds_iff {token : Token} :
    token.isOneOf valueKinds = true ↔ IsValued token.kind := by
  simp [isOneOf, valueKinds, IsValued, or_comm, or_left_comm]

/-- A token has one row. -/
theorem isRow_iff {token : Token} {text : String} : IsRow token text ↔ text = token.row := by
  have empty (name : String) : name ++ " (" ++ "" ++ ")" = name ++ " ()" := by
    rw [String.append_empty, String.append_assoc]
    rfl
  constructor
  · rintro (⟨value, valued⟩ | ⟨value, bare⟩)
    · rw [row, if_pos (isOneOf_valueKinds_iff.2 valued)]
    · rw [row, if_neg (mt isOneOf_valueKinds_iff.1 bare), empty]
  · rintro rfl
    rw [row]
    split
    case isTrue listed => exact .valued token.value (isOneOf_valueKinds_iff.1 listed)
    case isFalse unlisted =>
      rw [empty]
      exact .bare token.value (mt isOneOf_valueKinds_iff.2 unlisted)

/-- A listing is the rows of its tokens, one below the other. -/
theorem listing_eq_stack (tokens : List Token) : listing tokens = stack (tokens.map row) := by
  have close : ")\n" = ")" ++ "\n" := by decide
  have each : line = fun token => token.row ++ "\n" := by
    funext token
    rw [line, row, close, ← String.append_assoc]
  rw [listing, each, stack, List.map_map]
  rfl

/-- And it is nothing but that: there is one row for each token. -/
theorem eq_listing_iff {tokens : List Token} {text : String} :
    text = listing tokens ↔ ∃ rows, List.Forall₂ IsRow tokens rows ∧ text = stack rows := by
  have own : IsRow = fun token text => token.row = text := by
    funext token text
    rw [isRow_iff, @eq_comm _ text]
  have rows_iff (rows : List String) : List.Forall₂ IsRow tokens rows ↔ rows = tokens.map row := by
    rw [own, eq_comm, ← List.forall₂_eq_eq_eq, List.forall₂_map_left_iff]
  simp only [rows_iff, exists_eq_left, listing_eq_stack]

theorem toList_listing_cons (token : Token) (tokens : List Token) :
    (listing (token :: tokens)).toList
      = token.row.toList ++ '\n' :: (listing tokens).toList := by
  simp [listing_eq_stack]

/-- Where no row holds a line feed, a listing has the rows for its lines,
and nothing behind the last one. -/
theorem splitOn_listing {tokens : List Token} (h : ∀ token ∈ tokens, '\n' ∉ token.row.toList) :
    (listing tokens).toList.splitOn '\n' = tokens.map (fun token => token.row.toList) ++ [[]] := by
  induction tokens with
  | nil => rfl
  | cons token tokens ih =>
    rw [List.forall_mem_cons] at h
    rw [toList_listing_cons, List.splitOn_append_cons_self_of_not_mem h.1, ih h.2]
    rfl

theorem length_le_count_listing (tokens : List Token) :
    tokens.length ≤ (listing tokens).toList.count '\n' := by
  induction tokens with
  | nil => exact Nat.zero_le _
  | cons token tokens ih =>
    rw [toList_listing_cons, List.count_append, List.count_cons_self, List.length_cons]
    omega

/-- A listing has as many line feeds as tokens just if no row holds one. -/
theorem count_listing_eq_iff (tokens : List Token) :
    (listing tokens).toList.count '\n' = tokens.length
      ↔ ∀ token ∈ tokens, '\n' ∉ token.row.toList := by
  induction tokens with
  | nil => exact iff_of_true rfl nofun
  | cons token tokens ih =>
    rw [List.forall_mem_cons, ← ih, ← List.count_eq_zero, toList_listing_cons, List.count_append,
      List.count_cons_self, List.length_cons]
    have := length_le_count_listing tokens
    omega

/-- A row names the kind of its token. -/
theorem kindOfRow?_row (token : Token) : kindOfRow? token.row.toList = some token.kind := by
  have front : token.row.toList.takeWhile Char.isAlpha = token.kind.name.toList := by
    rw [row, String.append_assoc, String.append_assoc, String.toList_append,
      List.takeWhile_append_of_pos fun c => TokenKind.isAlpha_of_mem_name]
    simp
  rw [kindOfRow?, front, String.ofList_toList, TokenKind.ofName?_name]

/-! ## 2. Line feeds in tokens -/

/-- A row holds no line feeds but those of the value that it shows. -/
theorem newline_mem_row_iff (token : Token) :
    '\n' ∈ token.row.toList ↔ token.isOneOf valueKinds = true ∧ '\n' ∈ token.value.toList := by
  have name : '\n' ∉ token.kind.name.toList := fun mem => by
    cases TokenKind.isAlpha_of_mem_name mem
  have frame : '\n' ∉ " (".toList ∧ '\n' ∉ ")".toList := by decide
  simp only [row, String.toList_append, List.mem_append, name, frame, false_or, or_false]
  split
  case isTrue shown => simp [shown]
  case isFalse hidden => simp [hidden]

/-- A token of a script is listed with the line feeds that it is spelled
with. -/
theorem newline_mem_row_iff_spelling {token : Token} (fits : token.WellFormed) :
    '\n' ∈ token.row.toList ↔ '\n' ∈ token.spelling := by
  rw [newline_mem_row_iff]
  have each (kind : TokenKind) : ∀ value ∈ kind.spellings, '\n' ∉ value.toList := by
    cases kind <;> decide
  obtain ⟨value, kind⟩ := token
  cases kind
  case string => simp [spelling, isOneOf, valueKinds]
  case number => simp [spelling, isOneOf, valueKinds]
  case identifier => simp [spelling, isOneOf, valueKinds]
  case equalsCompare => simp [spelling, isOneOf, valueKinds]
  all_goals exact iff_of_false (by simp [isOneOf, valueKinds]) (each _ _ fits)

end Token

/-- The assignment that a doubled sign stands for adds no line feed. -/
theorem newline_adjustment {sign : Char} (plain : sign ≠ '\n') {previous : Option Token}
    (before : ∀ target ∈ previous, '\n' ∉ target.spelling) :
    ∀ token ∈ adjustment sign previous, '\n' ∉ token.spelling := by
  cases previous with
  | none => simp [adjustment]
  | some target =>
    have operator : '\n' ∉ spelling ⟨String.singleton sign, .binaryOperator⟩ := by
      simpa [spelling] using plain.symm
    simp only [adjustment, List.forall_mem_cons]
    exact ⟨by decide, before target rfl, operator, by decide, by simp⟩

/-- The tokens of a lexeme are spelled with the line feeds that are left of
it without its layout, if the token before them is spelled without any. -/
theorem newline_emits {lexeme : Lexeme} {next : Option Char} {previous : Option Token}
    (h : lexeme.Admissible next) (before : ∀ target ∈ previous, '\n' ∉ target.spelling) :
    (∀ token ∈ lexeme.emits previous, '\n' ∉ token.spelling) ↔ '\n' ∉ lexeme.solid := by
  by_cases increment : lexeme = .pair .increment
  · rw [increment]
    exact iff_of_true (newline_adjustment (by decide) before) (by decide)
  · by_cases decrement : lexeme = .pair .decrement
    · rw [decrement]
      exact iff_of_true (newline_adjustment (by decide) before) (by decide)
    · rw [← flatMap_spelling_emits h increment decrement previous, List.mem_flatMap]
      simp

/-- The line feeds that are left of a text without its layout are those of
its tokens. -/
theorem newline_emitAll {source : List Char} {lexemes : List Lexeme}
    (h : Decomposes source lexemes) {previous : Option Token}
    (before : ∀ target ∈ previous, '\n' ∉ target.spelling) :
    (∀ token ∈ emitAll previous lexemes, '\n' ∉ token.spelling)
      ↔ '\n' ∉ withoutLayout false source := by
  induction lexemes generalizing source previous with
  | nil =>
    obtain rfl : source = [] := h
    exact iff_of_true nofun (by simp [withoutLayout])
  | cons lexeme lexemes ih =>
    obtain ⟨after, rfl, admissible, rest⟩ := h
    rw [emitAll_cons, List.forall_mem_append, withoutLayout_append admissible, List.mem_append,
      not_or, ← newline_emits admissible before]
    exact and_congr_right fun now => ih rest (forall_mem_latest now before)

/-! ## 3. Scripts -/

/-- The rows of a script hold no line feed just if none is left of the
script without its layout. -/
theorem newline_rows_iff {source : String} {file : Option String} {tokens : List Token}
    (accepted : tokenize source file = .ok tokens) :
    (∀ token ∈ tokens, '\n' ∉ token.row.toList) ↔ '\n' ∉ withoutLayout false source.toList := by
  obtain ⟨lexemes, decomposes, rfl⟩ := tokenize_eq_ok_iff.1 accepted
  have ending : '\n' ∉ Token.endOfFile.row.toList := by decide
  have nothing : ∀ target ∈ (none : Option Token), '\n' ∉ target.spelling := by simp
  rw [← newline_emitAll decomposes nothing, List.forall_mem_append, List.forall_mem_singleton,
    and_iff_left ending]
  refine forall₂_congr fun token mem => not_congr ?_
  exact newline_mem_row_iff_spelling (wellFormed_of_mem_emitAll decomposes token mem).1

/-- The listing of a script has as many lines as tokens just if all line
feeds of the script are layout, and none stands in a string literal. Then
its lines are the rows of the tokens, with nothing behind the last line,
and the words in front of them are the kinds. -/
theorem listing_lines_of_tokenize {source : String} {file : Option String} {tokens : List Token}
    (accepted : tokenize source file = .ok tokens) :
    ((listing tokens).toList.count '\n' = tokens.length
        ↔ '\n' ∉ withoutLayout false source.toList)
      ∧ ('\n' ∉ withoutLayout false source.toList →
        (listing tokens).toList.splitOn '\n' = tokens.map (fun token => token.row.toList) ++ [[]]
          ∧ ((listing tokens).toList.splitOn '\n').dropLast.map kindOfRow?
            = tokens.map fun token => some token.kind) := by
  refine ⟨(count_listing_eq_iff tokens).trans (newline_rows_iff accepted), fun plain => ?_⟩
  have lines := splitOn_listing ((newline_rows_iff accepted).2 plain)
  refine ⟨lines, ?_⟩
  rw [lines, List.dropLast_concat, List.map_map]
  simp only [Function.comp_def, kindOfRow?_row]

/-- A line feed that is layout, and a value that looks like the end of a
row. -/
theorem listing_lines_of_layout :
    tokenize "x =\n\")\"" none
        = .ok [⟨"x", .identifier⟩, ⟨"=", .equals⟩, ⟨")", .string⟩, Token.endOfFile]
      ∧ '\n' ∉ withoutLayout false "x =\n\")\"".toList
      ∧ (listing [⟨"x", .identifier⟩, ⟨"=", .equals⟩, ⟨")", .string⟩,
          Token.endOfFile]).toList.splitOn '\n'
        = ["Identifier (x)".toList, "Equals ()".toList, "String ())".toList, "EOF ()".toList, []] := by
  have accepted : tokenize "x =\n\")\"" none
      = .ok [⟨"x", .identifier⟩, ⟨"=", .equals⟩, ⟨")", .string⟩, Token.endOfFile] := by
    decide +kernel
  have plain : '\n' ∉ withoutLayout false "x =\n\")\"".toList := by decide
  obtain ⟨lines, -⟩ := (listing_lines_of_tokenize accepted).2 plain
  exact ⟨accepted, plain, lines.trans (by decide +kernel)⟩

/-- A line feed in a literal makes three lines of two tokens, and they are
the lines of three tokens of another script. -/
theorem listing_ambiguous :
    tokenize "\"a)\nIdentifier (b\"" none
        = .ok [⟨"a)\nIdentifier (b", .string⟩, Token.endOfFile]
      ∧ tokenize "\"a\" b" none = .ok [⟨"a", .string⟩, ⟨"b", .identifier⟩, Token.endOfFile]
      ∧ (listing [⟨"a)\nIdentifier (b", .string⟩, Token.endOfFile]).toList.splitOn '\n'
        = ["String (a)".toList, "Identifier (b)".toList, "EOF ()".toList, []]
      ∧ listing [⟨"a)\nIdentifier (b", .string⟩, Token.endOfFile]
        = listing [⟨"a", .string⟩, ⟨"b", .identifier⟩, Token.endOfFile] := by
  refine ⟨by decide +kernel, by decide +kernel, by decide +kernel, by decide +kernel⟩

end ScriptSyntax
