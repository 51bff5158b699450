/-
ScriptSyntax.Proofs.Tokenize.Rendering — token lists written as scripts,
and read back.

`render` writes tokens one space apart, except that a number beginning
with a period is written right behind the number before it. That is the
only way to write it, for by itself it would be read as a period; so a
list can be rendered only if there is a number with a period before each
of these (`Renderable`).

The written text is cut into GROUPS, a token and the numbers glued to
it, each of which is one lexeme (`Spells`), with a single space between
two groups.
-/
import ScriptSyntax.Proofs.Token.WellFormed
import ScriptSyntax.Proofs.Tokenize.Run

namespace ScriptSyntax

open Vocabulary Lexeme

/-! ## 1. Writing tokens -/

namespace Token

/-- How a token is written: strings in quotes, an equality as its two
marks, and every other token as its value. -/
def spelling (token : Token) : List Char :=
  match token.kind with
  | .string => '"' :: token.value.toList ++ ['"']
  | .equalsCompare => ['=', '=']
  | _ => token.value.toList

/-- What is written between a token and the one before it. -/
def gap (token : Token) : List Char :=
  if token.Continues then [] else [' ']

/-- How tokens are written behind another. -/
def writtenBehind (tokens : List Token) : List Char :=
  tokens.flatMap fun token => token.gap ++ token.spelling

/-- Tokens written as a script. -/
def render : List Token → String
  | [] => ""
  | first :: rest => String.ofList (first.spelling ++ writtenBehind rest)

/-- Whether tokens can be written behind `previous`: each is well formed
and not the end of a text, and a number that begins with a period stands
right behind a number that holds one. -/
def Renderable : Option Token → List Token → Prop
  | _, [] => True
  | previous, token :: rest =>
    (token.WellFormed ∧ token.kind ≠ .endOfFile)
      ∧ (token.Continues → ∃ number ∈ previous, number.kind = .number
        ∧ '.' ∈ number.value.toList)
      ∧ Renderable (some token) rest

end Token

open Token

/-! ## 2. What spells what -/

/-- A lexeme that is a given text, stands for given tokens, and may end
at the end of the script or before a space. -/
structure Spells (lexeme : Lexeme) (source : List Char) (tokens : List Token) : Prop where
  text_eq : lexeme.text = source
  emits_eq : ∀ previous, lexeme.emits previous = tokens
  admissible : ∀ next, (∀ c ∈ next, c = ' ') → lexeme.Admissible next

theorem isBlank_of_space {next : Option Char} (h : ∀ c ∈ next, c = ' ') :
    ∀ c ∈ next, isBlank c = true := by
  intro c hc
  rw [h c hc]
  rfl

theorem spells_word {letters : List Char} (symbol : IsSymbol letters) :
    Spells (.word letters) letters [wordToken (String.ofList letters)] where
  text_eq := rfl
  emits_eq := fun _ => rfl
  admissible := fun _ h => ⟨symbol, endsBefore_of_blank rfl (isBlank_of_space h)⟩

theorem spells_mark {c : Char} {kind : TokenKind} (listed : (c, kind) ∈ marks) :
    Spells (.mark kind c) [c] [⟨String.singleton c, kind⟩] where
  text_eq := rfl
  emits_eq := fun _ => rfl
  admissible := fun _ h => ⟨listed, standsAlone_of_blank c (isBlank_of_space h)⟩

theorem spells_quoted {body : List Char} (plain : '"' ∉ body) :
    Spells (.quoted body) ('"' :: body ++ ['"']) [⟨String.ofList body, .string⟩] where
  text_eq := rfl
  emits_eq := fun _ => rfl
  admissible := fun _ _ => plain

theorem spells_number {run first : List Char} {later : List (List Char)}
    (valid : IsNumberRun run) (cut : IsCut run first later) :
    Spells (.number run) run ((first :: later).map fun piece => ⟨String.ofList piece, .number⟩)
    where
  text_eq := rfl
  emits_eq := fun _ => by rw [emits, pieces_eq_iff.2 cut]
  admissible := fun _ h => ⟨valid, endsBefore_of_blank rfl (isBlank_of_space h)⟩

/-- The values that a kind fixes are keywords, marks or pairs. -/
theorem listed_of_mem_spellings {value : String} {kind : TokenKind}
    (h : value ∈ kind.spellings) (ne : kind ≠ .endOfFile) :
    (value, kind) ∈ keywords
      ∨ (value, kind) ∈ marks.map (fun entry => (String.singleton entry.1, entry.2))
      ∨ (value, kind) ∈ [("is", .equalsCompare), ("!=", .notEqualsCompare), ("&&", .and)] := by
  revert value
  cases kind
  case endOfFile => exact absurd rfl ne
  all_goals decide

/-! ## 3. Every group is one lexeme -/

/-- A mark is spelled as itself. -/
theorem spelling_mark {c : Char} {kind : TokenKind} (listed : (c, kind) ∈ marks) :
    spelling ⟨String.singleton c, kind⟩ = [c] := by
  have each : ∀ entry ∈ marks, spelling ⟨String.singleton entry.1, entry.2⟩ = [entry.1] := by
    decide
  exact each (c, kind) listed

theorem exists_spells_of_mem_spellings {value : String} {kind : TokenKind}
    (h : value ∈ kind.spellings) (ne : kind ≠ .endOfFile) :
    ∃ lexeme, Spells lexeme (spelling ⟨value, kind⟩) [⟨value, kind⟩] := by
  rcases listed_of_mem_spellings h ne with keyword | mark | pair
  · have each : ∀ entry ∈ keywords, IsSymbol entry.1.toList
        ∧ spelling ⟨entry.1, entry.2⟩ = entry.1.toList := by decide
    obtain ⟨symbol, written⟩ := each _ keyword
    have word := spells_word symbol
    rw [String.ofList_toList, wordToken, keyword?_eq_some_iff.2 keyword] at word
    exact ⟨_, written ▸ word⟩
  · obtain ⟨⟨c, kind⟩, listed, eq⟩ := List.mem_map.1 mark
    obtain ⟨rfl, rfl⟩ := Prod.mk.inj eq
    exact ⟨_, spelling_mark listed ▸ spells_mark listed⟩
  · simp only [List.mem_cons, Prod.mk.injEq, List.not_mem_nil, or_false] at pair
    rcases pair with ⟨rfl, rfl⟩ | ⟨rfl, rfl⟩ | ⟨rfl, rfl⟩
    · exact ⟨.pair .equality, rfl, fun _ => rfl, fun _ _ => trivial⟩
    · exact ⟨.pair .inequality, rfl, fun _ => rfl, fun _ _ => trivial⟩
    · exact ⟨.pair .conjunction, rfl, fun _ => rfl, fun _ _ => trivial⟩

/-- A token that is no number is one lexeme. -/
theorem exists_spells_of_wellFormed {token : Token} (fits : token.WellFormed)
    (ne : token.kind ≠ .endOfFile) (plain : token.kind ≠ .number) :
    ∃ lexeme, Spells lexeme token.spelling [token] := by
  obtain ⟨value, kind⟩ := token
  cases kind
  case number => exact absurd rfl plain
  case identifier =>
    have word := spells_word fits.1
    rw [String.ofList_toList, wordToken, keyword?_eq_none_iff.2 fits.2] at word
    exact ⟨_, word⟩
  case string =>
    have literal := spells_quoted fits
    rw [String.ofList_toList] at literal
    exact ⟨_, literal⟩
  all_goals exact exists_spells_of_mem_spellings fits ne

/-- The values of tokens. -/
def values (tokens : List Token) : List (List Char) :=
  tokens.map fun token => token.value.toList

theorem spelling_of_number {token : Token} (h : token.kind = .number) :
    token.spelling = token.value.toList := by
  rw [spelling, h]

/-- Numbers are written as their values. -/
theorem flatMap_spelling_of_numbers {tokens : List Token}
    (h : ∀ token ∈ tokens, token.kind = .number) :
    tokens.flatMap spelling = (values tokens).flatten := by
  rw [List.flatMap_def, values,
    List.map_congr_left fun token mem => spelling_of_number (h token mem)]

/-- Numbers are known by their values. -/
theorem map_values_of_numbers {tokens : List Token}
    (h : ∀ token ∈ tokens, token.kind = .number) :
    (values tokens).map (fun piece => ⟨String.ofList piece, .number⟩) = tokens := by
  rw [values, List.map_map]
  refine (List.map_congr_left fun token mem => ?_).trans (List.map_id tokens)
  rw [Function.comp, String.ofList_toList, ← h token mem]
  rfl

/-- A number and the numbers glued to it are one lexeme. -/
theorem exists_spells_of_numbers {first : Token} {later : List Token}
    (number : first.kind = .number) (decimal : IsDecimal first.value.toList)
    (numbers : ∀ token ∈ later, token.kind = .number)
    (fractions : ∀ piece ∈ values later, IsFraction piece)
    (glued : later ≠ [] → '.' ∈ first.value.toList) :
    ∃ lexeme, Spells lexeme (first.spelling ++ later.flatMap spelling) (first :: later) := by
  obtain ⟨⟨sign, digit, rest, split, sign_eq, digit_ok, inside⟩, once⟩ := isDecimal_iff.1 decimal
  have all : ∀ token ∈ first :: later, token.kind = .number := by
    simpa [number] using numbers
  have cut : IsCut (values (first :: later)).flatten first.value.toList (values later) := by
    refine ⟨rfl, once, fun ne => glued (by simpa [values] using ne), fun piece mem => ?_⟩
    exact (isFraction_iff.1 (fractions piece mem)).1
  have run : IsNumberRun (values (first :: later)).flatten := by
    refine ⟨sign, digit, rest ++ (values later).flatten, ?_, sign_eq, digit_ok, fun c hc => ?_⟩
    · simp [values, split]
    · rcases List.mem_append.1 hc with hc | hc
      · exact inside c hc
      · obtain ⟨piece, mem, hc⟩ := List.mem_flatten.1 hc
        exact (isFraction_iff.1 (fractions piece mem)).2 c hc
  have tokens_eq : (first.value.toList :: values later).map
      (fun piece => (⟨String.ofList piece, .number⟩ : Token)) = first :: later :=
    map_values_of_numbers all
  have group := spells_number run cut
  rw [tokens_eq, ← flatMap_spelling_of_numbers all, List.flatMap_cons] at group
  exact ⟨_, group⟩

/-! ## 4. A space between two groups -/

/-- Tokens behind another: some numbers glued to it, and groups of their
own after a space. -/
structure Grouped (rest glued later : List Token) (source : List Char) (lexemes : List Lexeme) :
    Prop where
  tokens_eq : rest = glued ++ later
  numbers : ∀ token ∈ glued, token.kind = .number
  fractions : ∀ piece ∈ values glued, IsFraction piece
  written_eq : writtenBehind rest = glued.flatMap spelling ++ source
  space : ∀ c ∈ source.head?, c = ' '
  decomposes : Decomposes source lexemes
  emitAll_eq : ∀ previous, emitAll previous lexemes = later

/-- What a token has glued to it tells that it is a number with a
period. -/
theorem period_mem_of_glued {token : Token} {rest glued later : List Token} {source : List Char}
    {lexemes : List Lexeme} (h : Renderable (some token) rest)
    (grouped : Grouped rest glued later source lexemes) (ne : glued ≠ []) :
    token.kind = .number ∧ '.' ∈ token.value.toList := by
  obtain ⟨number, glued, rfl⟩ := List.exists_cons_of_ne_nil ne
  rw [grouped.tokens_eq] at h
  have continues : number.Continues := by
    obtain ⟨digits, eq, -⟩ := grouped.fractions number.value.toList (by simp [values])
    exact ⟨grouped.numbers number List.mem_cons_self, by rw [eq]; rfl⟩
  obtain ⟨other, same, holds⟩ := h.2.1 continues
  cases same
  exact holds

theorem isDecimal_of_wellFormed {token : Token} (fits : token.WellFormed)
    (number : token.kind = .number) (start : ¬ token.Continues) : IsDecimal token.value.toList := by
  rw [WellFormed, number] at fits
  rcases fits with decimal | ⟨digits, eq, -⟩
  · exact decimal
  · exact absurd ⟨number, by rw [eq]; rfl⟩ start

theorem isFraction_of_wellFormed {token : Token} (fits : token.WellFormed)
    (continues : token.Continues) : IsFraction token.value.toList := by
  obtain ⟨number, period⟩ := continues
  rw [WellFormed, number] at fits
  rcases fits with decimal | fraction
  · exact absurd period (head?_ne_of_isDecimal decimal)
  · exact fraction

/-- A token that begins a group makes one lexeme with what is glued to
it, and the groups behind it follow. -/
theorem exists_decomposes_of_grouped {token : Token} {rest glued later : List Token}
    {source : List Char} {lexemes : List Lexeme} (fits : token.WellFormed)
    (ne : token.kind ≠ .endOfFile) (start : ¬ token.Continues)
    (h : Renderable (some token) rest) (grouped : Grouped rest glued later source lexemes) :
    ∃ lexeme, Decomposes (token.spelling ++ writtenBehind rest) (lexeme :: lexemes)
      ∧ (∀ previous, emitAll previous (lexeme :: lexemes) = token :: rest)
      ∧ EndsBefore isBlank (token.spelling ++ writtenBehind rest).head? := by
  obtain ⟨lexeme, group⟩ :
      ∃ lexeme, Spells lexeme (token.spelling ++ glued.flatMap spelling) (token :: glued) := by
    by_cases number : token.kind = .number
    · exact exists_spells_of_numbers number (isDecimal_of_wellFormed fits number start)
        grouped.numbers grouped.fractions fun ne => (period_mem_of_glued h grouped ne).2
    · obtain rfl : glued = [] :=
        Classical.byContradiction fun ne => number (period_mem_of_glued h grouped ne).1
      simpa using exists_spells_of_wellFormed fits ne number
  have admissible := group.admissible source.head? grouped.space
  have written_eq : token.spelling ++ writtenBehind rest = lexeme.text ++ source := by
    rw [grouped.written_eq, group.text_eq, List.append_assoc]
  refine ⟨lexeme, ⟨source, written_eq, admissible, grouped.decomposes⟩, fun previous => ?_, ?_⟩
  · rw [emitAll_cons, group.emits_eq, grouped.emitAll_eq, grouped.tokens_eq]
    rfl
  · have plain : ∀ blanks, lexeme ≠ .layout blanks := by
      rintro blanks rfl
      cases group.emits_eq none
    rw [written_eq]
    exact endsBefore_isBlank_of_admissible admissible plain source

/-- Whatever can be rendered behind a token is groups. The induction goes
through the list from its end, for a group is known only once what is
glued to it is. -/
theorem exists_grouped {previous : Token} {rest : List Token}
    (h : Renderable (some previous) rest) :
    ∃ glued later source lexemes, Grouped rest glued later source lexemes := by
  induction rest generalizing previous with
  | nil => exact ⟨[], [], [], [], rfl, nofun, nofun, rfl, nofun, rfl, fun _ => rfl⟩
  | cons token rest ih =>
    obtain ⟨⟨fits, ne⟩, -, behind⟩ := h
    obtain ⟨glued, later, source, lexemes, grouped⟩ := ih behind
    by_cases continues : token.Continues
    · refine ⟨token :: glued, later, source, lexemes, ?_, ?_, ?_, ?_, grouped.space,
        grouped.decomposes, grouped.emitAll_eq⟩
      · rw [grouped.tokens_eq, List.cons_append]
      · simpa [continues.1] using grouped.numbers
      · intro piece mem
        rcases List.mem_cons.1 mem with rfl | mem
        · exact isFraction_of_wellFormed fits continues
        · exact grouped.fractions piece mem
      · have := grouped.written_eq
        simp only [writtenBehind, List.flatMap_cons, gap, if_pos continues] at this ⊢
        rw [this]
        simp
    · obtain ⟨lexeme, decomposes, emitted, stop⟩ :=
        exists_decomposes_of_grouped fits ne continues behind grouped
      refine ⟨[], token :: rest, ' ' :: (token.spelling ++ writtenBehind rest),
        .layout [' '] :: lexeme :: lexemes, rfl, nofun, nofun, ?_, ?_, ?_, ?_⟩
      · simp [writtenBehind, gap, continues]
      · rintro c ⟨rfl⟩
        rfl
      · exact ⟨_, rfl, ⟨List.cons_ne_nil _ _, List.forall_mem_singleton.2 rfl, stop⟩, decomposes⟩
      · exact emitted

/-- Whatever can be rendered decomposes into lexemes that come to it. -/
theorem exists_decomposes_render {tokens : List Token} (h : Renderable none tokens) :
    ∃ lexemes, Decomposes (render tokens).toList lexemes
      ∧ ∀ previous, emitAll previous lexemes = tokens := by
  cases tokens with
  | nil => exact ⟨[], rfl, fun _ => rfl⟩
  | cons token rest =>
    obtain ⟨⟨fits, ne⟩, first, behind⟩ := h
    have start : ¬ token.Continues := by
      intro continues
      obtain ⟨number, mem, -⟩ := first continues
      cases mem
    obtain ⟨glued, later, source, lexemes, grouped⟩ := exists_grouped behind
    obtain ⟨lexeme, decomposes, emitted, -⟩ :=
      exists_decomposes_of_grouped fits ne start behind grouped
    exact ⟨_, by rwa [render, String.toList_ofList], emitted⟩

/-! ## 5. What a script comes to can be rendered -/

theorem renderable_append {previous : Option Token} {tokens more : List Token} :
    Renderable previous (tokens ++ more)
      ↔ Renderable previous tokens ∧ Renderable (latest previous tokens) more := by
  induction tokens generalizing previous with
  | nil => simp [Renderable]
  | cons token tokens ih =>
    simp only [List.cons_append, Renderable, ih, latest_cons, and_assoc]

/-- A token that is no number can stand anywhere. -/
theorem renderable_singleton {previous : Option Token} {value : String} {kind : TokenKind}
    (fits : WellFormed ⟨value, kind⟩) (plain : kind ≠ .endOfFile ∧ kind ≠ .number) :
    Renderable previous [⟨value, kind⟩] :=
  ⟨⟨fits, plain.1⟩, fun continues => absurd continues.1 plain.2, trivial⟩

/-- The later pieces of a run can stand behind a number with a period. -/
theorem renderable_fractions {number : Token} {later : List (List Char)}
    (kind : number.kind = .number) (period : '.' ∈ number.value.toList)
    (fractions : ∀ piece ∈ later, IsFraction piece) :
    Renderable (some number) (later.map fun piece => ⟨String.ofList piece, .number⟩) := by
  induction later generalizing number with
  | nil => trivial
  | cons piece later ih =>
    have fraction := fractions piece List.mem_cons_self
    refine ⟨⟨wellFormed_number (.inr fraction), nofun⟩, fun _ => ⟨number, rfl, kind, period⟩,
      ih rfl ?_ fun other mem => fractions other (List.mem_cons_of_mem _ mem)⟩
    obtain ⟨digits, rfl, -⟩ := fraction
    simp

/-- The pieces of a run can stand anywhere, for the first of them begins
with no period. -/
theorem renderable_number {previous : Option Token} {run first : List Char}
    {later : List (List Char)} (valid : IsNumberRun run) (cut : IsCut run first later) :
    Renderable previous ((first :: later).map fun piece => ⟨String.ofList piece, .number⟩) := by
  obtain ⟨decimal, fractions⟩ := isDecimal_of_isCut valid cut
  refine ⟨⟨wellFormed_number (.inl decimal), nofun⟩, fun continues => ?_, ?_⟩
  · have period := continues.2
    rw [String.toList_ofList] at period
    exact absurd period (head?_ne_of_isDecimal decimal)
  · cases later with
    | nil => trivial
    | cons piece later =>
      exact renderable_fractions rfl (by simpa using cut.first_mem (List.cons_ne_nil _ _)) fractions

/-- The tokens of a lexeme can stand anywhere, unless they are copied. -/
theorem renderable_emits {lexeme : Lexeme} {next : Option Char} {previous : Option Token}
    (h : lexeme.Admissible next) (increment : lexeme ≠ .pair .increment)
    (decrement : lexeme ≠ .pair .decrement) : Renderable previous (lexeme.emits previous) := by
  cases lexeme with
  | layout blanks => trivial
  | word letters =>
    refine renderable_singleton (wellFormed_wordToken h.1) ?_
    cases found : keyword? (String.ofList letters) with
    | none => decide
    | some kind => exact plain_of_mem_keywords (keyword?_eq_some_iff.1 found)
  | number run => exact renderable_number h.1 (isCut_splitPeriods run)
  | quoted body => exact renderable_singleton (wellFormed_string h) (by decide)
  | pair double =>
    cases double with
    | equality => exact renderable_singleton (wellFormed_of_mem_spellings (by decide)) (by decide)
    | inequality =>
      exact renderable_singleton (wellFormed_of_mem_spellings (by decide)) (by decide)
    | conjunction =>
      exact renderable_singleton (wellFormed_of_mem_spellings (by decide)) (by decide)
    | increment => exact absurd rfl increment
    | decrement => exact absurd rfl decrement
  | mark kind c => exact renderable_singleton (wellFormed_mark h.1) (plain_of_mem_marks h.1)

theorem renderable_emitAll {source : List Char} {lexemes : List Lexeme}
    (h : Decomposes source lexemes) (increment : .pair .increment ∉ lexemes)
    (decrement : .pair .decrement ∉ lexemes) (previous : Option Token) :
    Renderable previous (emitAll previous lexemes) := by
  induction lexemes generalizing source previous with
  | nil => trivial
  | cons lexeme lexemes ih =>
    obtain ⟨after, -, admissible, rest⟩ := h
    rw [List.mem_cons, not_or] at increment decrement
    exact renderable_append.2
      ⟨renderable_emits admissible (Ne.symm increment.1) (Ne.symm decrement.1),
        ih rest increment.2 decrement.2 _⟩

/-! ## 6. Rendering is undone by reading -/

theorem tokenize_render_of_renderable {tokens : List Token} (h : Renderable none tokens)
    (file : Option String) :
    tokenize (render tokens) file = .ok (tokens ++ [Token.endOfFile]) := by
  obtain ⟨lexemes, decomposes, emitted⟩ := exists_decomposes_render h
  exact tokenize_eq_ok_iff.2 ⟨lexemes, decomposes, by rw [emitted]⟩

/-- Tokens that can be rendered are what the rendered script comes to.
And where a script holds no doubled sign, its tokens can be rendered, so
that rendering them and reading them again gives the same tokens. -/
theorem render_tokenize_roundtrip (file : Option String) :
    (∀ tokens, Renderable none tokens →
        tokenize (render tokens) file = .ok (tokens ++ [Token.endOfFile]))
      ∧ ∀ source lexemes tokens, Decomposes source.toList lexemes →
        .pair .increment ∉ lexemes → .pair .decrement ∉ lexemes →
        tokenize source file = .ok (tokens ++ [Token.endOfFile]) →
          Renderable none tokens
            ∧ tokenize (render tokens) file = .ok (tokens ++ [Token.endOfFile]) := by
  refine ⟨fun tokens h => tokenize_render_of_renderable h file, ?_⟩
  intro source lexemes tokens decomposes increment decrement accepted
  obtain ⟨others, decomposes', eq⟩ := tokenize_eq_ok_iff.1 accepted
  obtain rfl := decomposes.unique decomposes'
  have renderable := renderable_emitAll decomposes increment decrement none
  rw [← List.append_cancel_right eq] at renderable
  exact ⟨renderable, tokenize_render_of_renderable renderable file⟩

/-- A number behind a second period is glued to the one before it, and
everything else is a space apart. -/
theorem render_roundtrip_glued :
    render [⟨"-1.", .number⟩, ⟨".5", .number⟩, ⟨"is", .equalsCompare⟩, ⟨"++", .string⟩]
        = "-1..5 == \"++\""
      ∧ tokenize "-1..5 == \"++\"" none
        = .ok [⟨"-1.", .number⟩, ⟨".5", .number⟩, ⟨"is", .equalsCompare⟩, ⟨"++", .string⟩,
          Token.endOfFile]
      ∧ Renderable none
        [⟨"-1.", .number⟩, ⟨".5", .number⟩, ⟨"is", .equalsCompare⟩, ⟨"++", .string⟩] := by
  have written : render [⟨"-1.", .number⟩, ⟨".5", .number⟩, ⟨"is", .equalsCompare⟩,
      ⟨"++", .string⟩] = "-1..5 == \"++\"" := by decide
  have renderable := ((render_tokenize_roundtrip none).2 "-1..5==\"++\""
    [.number ['-', '1', '.', '.', '5'], .pair .equality, .quoted ['+', '+']]
    [⟨"-1.", .number⟩, ⟨".5", .number⟩, ⟨"is", .equalsCompare⟩, ⟨"++", .string⟩]
    (decomposes_of_readAll (by decide +kernel)) (by decide) (by decide) (by decide +kernel)).1
  have read := (render_tokenize_roundtrip none).1 _ renderable
  rw [written] at read
  exact ⟨written, read, renderable⟩

end ScriptSyntax
