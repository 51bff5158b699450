/-
ScriptSyntax.Proofs.Tokenize.Layout — scripts that differ in their layout
only.

`Relaid` goes through two texts side by side and counts the double quotes
in front, for blanks are layout only where that number is even.
`SameLayout` adds the blanks in front of the whole script.

`tokenize_sameLayout` — such scripts have the same outcome. The proof
goes along the lexemes of the first text. Each of them stands in the
second text as well, unless it is layout; and where it ends, either the
same character follows in both texts, or a blank does, or nothing, and
before these two any lexeme may end.
-/
import ScriptSyntax.Proofs.Tokenize.Behind
import ScriptSyntax.Proofs.Tokenize.Faults

namespace ScriptSyntax.Lexeme

open Vocabulary

/-! ## 1. The relation -/

/-- Whether two texts differ in their layout only, where `odd` says
whether an odd number of double quotes stands in front of them. -/
inductive Relaid : Bool → List Char → List Char → Prop where
  | quote {odd : Bool} {source other : List Char} :
    Relaid (!odd) source other → Relaid odd ('"' :: source) ('"' :: other)
  /-- Whatever is no layout stands in both texts, and so do the blanks in
  a literal. -/
  | same {odd : Bool} {c : Char} {source other : List Char} :
    c ≠ '"' → (odd = true ∨ isBlank c = false) → Relaid odd source other →
      Relaid odd (c :: source) (c :: other)
  /-- A run of blanks stands for any other. -/
  | run {blanks blanks' source other : List Char} :
    blanks ≠ [] → blanks' ≠ [] → (∀ c ∈ blanks, isBlank c = true) →
      (∀ c ∈ blanks', isBlank c = true) → Relaid false source other →
      Relaid false (blanks ++ source) (blanks' ++ other)
  /-- At the end a run may also be missing in either text. -/
  | ending {blanks blanks' : List Char} :
    (∀ c ∈ blanks, isBlank c = true) → (∀ c ∈ blanks', isBlank c = true) →
      Relaid false blanks blanks'
  /-- In a literal that is still open, nothing may. -/
  | unclosed : Relaid true [] []

/-- Whether two scripts differ in their layout only: in blanks in front
of them, and in the layout of the rest. -/
def SameLayout (source other : List Char) : Prop :=
  ∃ blanks rest blanks' rest', source = blanks ++ rest ∧ other = blanks' ++ rest'
    ∧ (∀ c ∈ blanks, isBlank c = true) ∧ (∀ c ∈ blanks', isBlank c = true)
    ∧ Relaid false rest rest'

/-! ## 2. What stands in both texts -/

/-- A character that is no layout stands in front of both texts. -/
theorem Relaid.exists_cons {c : Char} {source other : List Char}
    (h : Relaid false (c :: source) other) (quote : c ≠ '"') (plain : isBlank c = false) :
    ∃ other', other = c :: other' ∧ Relaid false source other' := by
  have not_blank {blanks more : List Char} (all : ∀ d ∈ blanks, isBlank d = true)
      (ne : blanks ≠ []) (split : c :: source = blanks ++ more) : False := by
    obtain ⟨d, blanks, rfl⟩ := List.exists_cons_of_ne_nil ne
    obtain ⟨rfl, -⟩ := List.cons.inj split
    rw [all c List.mem_cons_self] at plain
    cases plain
  generalize split : c :: source = whole at h
  cases h with
  | quote => exact absurd (List.cons.inj split).1 quote
  | same _ _ later =>
    obtain ⟨rfl, rfl⟩ := List.cons.inj split
    exact ⟨_, rfl, later⟩
  | run ne _ all => exact (not_blank all ne split).elim
  | ending all =>
    have ne : whole ≠ [] := by simp [← split]
    exact (not_blank all ne (split.trans (List.append_nil whole).symm)).elim

theorem Relaid.exists_append {front after other : List Char}
    (h : Relaid false (front ++ after) other)
    (plain : ∀ c ∈ front, c ≠ '"' ∧ isBlank c = false) :
    ∃ after', other = front ++ after' ∧ Relaid false after after' := by
  induction front generalizing other with
  | nil => exact ⟨other, rfl, h⟩
  | cons c front ih =>
    have here := plain c List.mem_cons_self
    obtain ⟨other, rfl, later⟩ := h.exists_cons here.1 here.2
    obtain ⟨after', rfl, behind⟩ := ih later fun d hd => plain d (List.mem_cons_of_mem _ hd)
    exact ⟨after', rfl, behind⟩

/-- A literal stands in both texts up to the quote that closes it. -/
theorem Relaid.exists_closed {body after other : List Char}
    (h : Relaid true (body ++ '"' :: after) other) (plain : '"' ∉ body) :
    ∃ after', other = body ++ '"' :: after' ∧ Relaid false after after' := by
  induction body generalizing other with
  | nil =>
    rw [List.nil_append] at h
    cases h with
    | quote behind => exact ⟨_, rfl, behind⟩
    | same quote => exact absurd rfl quote
  | cons c body ih =>
    rw [List.mem_cons, not_or] at plain
    rw [List.cons_append] at h
    cases h with
    | quote => exact absurd rfl plain.1
    | same _ _ later =>
      obtain ⟨after', rfl, behind⟩ := ih later plain.2
      exact ⟨after', rfl, behind⟩

/-- A literal that is not closed is the same in both texts. -/
theorem Relaid.eq_of_unclosed {source other : List Char} (h : Relaid true source other)
    (absent : '"' ∉ source) : other = source := by
  induction source generalizing other with
  | nil =>
    cases h
    rfl
  | cons c source ih =>
    rw [List.mem_cons, not_or] at absent
    cases h with
    | quote => exact absurd rfl absent.1
    | same _ _ later => rw [ih later absent.2]

/-- Both texts begin alike, or else the second one with a blank, if with
anything. -/
theorem Relaid.head?_eq {source other : List Char} (h : Relaid false source other) :
    other.head? = source.head? ∨ ∀ c ∈ other.head?, isBlank c = true := by
  cases h with
  | quote => exact .inl rfl
  | same => exact .inl rfl
  | run _ ne _ all =>
    obtain ⟨c, blanks, rfl⟩ := List.exists_cons_of_ne_nil ne
    refine .inr ?_
    rintro d ⟨rfl⟩
    exact all _ List.mem_cons_self
  | ending _ all => exact .inr fun c hc => all c (List.mem_of_head? hc)

/-! ## 3. Both texts come to the same -/

/-- Besides layout and literals, lexemes hold neither blanks nor double
quotes. -/
theorem plain_of_mem_text {lexeme : Lexeme} {next : Option Char} (h : lexeme.Admissible next)
    (solid : ∀ blanks, lexeme ≠ .layout blanks) (bare : ∀ body, lexeme ≠ .quoted body) :
    ∀ c ∈ lexeme.text, c ≠ '"' ∧ isBlank c = false := by
  intro c hc
  constructor
  · rintro rfl
    have legal := isLegal_of_mem_text h bare _ hc
    cases legal
  · cases lexeme with
    | layout blanks => exact absurd rfl (solid blanks)
    | word letters => exact isBlank_eq_false_of_class rfl (isWordPart_of_mem_symbol h.1 c hc)
    | number run =>
      rcases eq_or_isNumeric_of_mem_run h.1 c hc with rfl | numeric
      · rfl
      · exact isBlank_eq_false_of_class rfl numeric
    | quoted body => exact absurd rfl (bare body)
    | pair double =>
      simp only [text, List.mem_cons, List.not_mem_nil, or_false] at hc
      rcases hc with rfl | rfl <;> cases double <;> rfl
    | mark kind d =>
      obtain rfl := List.mem_singleton.1 hc
      exact (apart_of_mem_marks h.1).2.2

/-- What may end in the first text may end in the second one. -/
theorem Relaid.admissible {lexeme : Lexeme} {after after' : List Char}
    (h : Relaid false after after') (here : lexeme.Admissible after.head?)
    (solid : ∀ blanks, lexeme ≠ .layout blanks) : lexeme.Admissible after'.head? := by
  rcases h.head?_eq with same | gap
  · rw [same]
    exact here
  · exact here.before_blank solid gap

/-- Whether two texts begin with the same lexeme, for all that they come
to, and differ in their layout only behind it. -/
def BeginAlike (source other : List Char) : Prop :=
  ∃ (lexeme : Lexeme) (after after' : List Char), after.length < source.length
    ∧ Relaid false after after' ∧ ∀ previous,
      tokensBehind previous source
          = prepend (lexeme.emits previous)
              (tokensBehind (latest previous (lexeme.emits previous)) after)
        ∧ tokensBehind previous other
          = prepend (lexeme.emits previous)
              (tokensBehind (latest previous (lexeme.emits previous)) after')

theorem beginAlike_of_admissible {lexeme : Lexeme} {after after' : List Char}
    (h : Relaid false after after') (here : lexeme.Admissible after.head?)
    (there : lexeme.Admissible after'.head?) :
    BeginAlike (lexeme.text ++ after) (lexeme.text ++ after') := by
  have := List.length_pos_iff.2 (text_ne_nil here)
  refine ⟨lexeme, after, after', ?_, h, fun previous => ⟨tokensBehind_text here previous,
    tokensBehind_text there previous⟩⟩
  rw [List.length_append]
  omega

/-- A literal is the same in both texts, closed or not. -/
theorem Relaid.of_quote {source other : List Char} (h : Relaid true source other) :
    '"' :: source = '"' :: other ∨ BeginAlike ('"' :: source) ('"' :: other) := by
  by_cases closed : '"' ∈ source
  · obtain ⟨body, after, rfl, plain⟩ := List.eq_append_cons_of_mem closed
    obtain ⟨after', rfl, later⟩ := h.exists_closed plain
    have literal (rest : List Char) :
        '"' :: (body ++ '"' :: rest) = (Lexeme.quoted body).text ++ rest := by
      simp [text]
    rw [literal, literal]
    exact .inr (beginAlike_of_admissible later plain plain)
  · rw [h.eq_of_unclosed closed]
    exact .inl rfl

/-- A character that is no layout begins the same lexeme in both texts,
or is the same fault. -/
theorem Relaid.of_same {c : Char} {source other : List Char} (h : Relaid false source other)
    (quote : c ≠ '"') (plain : isBlank c = false) :
    (∀ previous, tokensBehind previous (c :: source) = tokensBehind previous (c :: other))
      ∨ BeginAlike (c :: source) (c :: other) := by
  cases found : read c source with
  | error fault =>
    rcases read_eq_error_iff.1 found with ⟨eq, -⟩ | foreign
    · exact absurd eq quote
    · have found' : read c other = .error fault := read_eq_error_iff.2 (.inr foreign)
      refine .inl fun previous => ?_
      rw [tokensBehind_of_error found, tokensBehind_of_error found']
  | ok lexeme =>
    obtain ⟨after, split, here⟩ := read_eq_ok_iff.1 found
    have solid := ne_layout_of_read found plain
    have bare := ne_quoted_of_read found quote
    have whole : Relaid false (lexeme.text ++ after) (c :: other) :=
      split ▸ .same quote (.inr plain) h
    obtain ⟨after', split', later⟩ := whole.exists_append (plain_of_mem_text here solid bare)
    rw [split, split']
    exact .inr (beginAlike_of_admissible later here (later.admissible here solid))

/-- Texts that differ in their layout only come to the same, or begin with
the same lexeme. -/
theorem Relaid.step {source other : List Char} (h : Relaid false source other) :
    (∀ previous, tokensBehind previous source = tokensBehind previous other)
      ∨ BeginAlike source other := by
  cases h with
  | quote later => exact later.of_quote.imp_left fun eq previous => by rw [eq]
  | same quote plain later => exact later.of_same quote (by simpa using plain)
  | @run blanks blanks' after after' ne _ all all' later =>
    have := List.length_pos_iff.2 ne
    refine .inr ⟨.layout blanks, after, after', ?_, later, fun previous => ?_⟩
    · rw [List.length_append]
      omega
    · exact ⟨(tokensBehind_blanks all after previous).trans (prepend_nil _).symm,
        (tokensBehind_blanks all' after' previous).trans (prepend_nil _).symm⟩
  | ending all all' =>
    refine .inl fun previous => ?_
    have nothing := tokensBehind_blanks all [] previous
    have nothing' := tokensBehind_blanks all' [] previous
    rw [List.append_nil] at nothing nothing'
    rw [nothing, nothing']

/-- Texts that differ in their layout only come to the same behind any
token. -/
theorem tokensBehind_relaid {source other : List Char} (h : Relaid false source other)
    (previous : Option Token) : tokensBehind previous source = tokensBehind previous other := by
  rcases h.step with same | ⟨lexeme, after, after', shorter, later, begin_alike⟩
  · exact same previous
  · rw [(begin_alike previous).1, (begin_alike previous).2, tokensBehind_relaid later]
termination_by source.length

/-! ## 4. Scripts -/

/-- Scripts that differ in their layout only have the same outcome: the
same tokens, or the same diagnostic. -/
theorem tokenize_sameLayout {source other : String} (h : SameLayout source.toList other.toList)
    (file : Option String) : tokenize source file = tokenize other file := by
  obtain ⟨blanks, rest, blanks', rest', split, split', all, all', relaid⟩ := h
  apply tokenize_congr
  rw [split, split', tokensBehind_blanks all, tokensBehind_blanks all', tokensBehind_relaid relaid]

/-- The blanks between the quotes stay, all others are other ones. -/
theorem tokenize_sameLayout_literal :
    SameLayout "\tx\r\n\"a  b\"".toList "x \"a  b\" ".toList
      ∧ tokenize "\tx\r\n\"a  b\"" none = tokenize "x \"a  b\" " none := by
  have literal : Relaid false ['"', 'a', ' ', ' ', 'b', '"'] ['"', 'a', ' ', ' ', 'b', '"', ' '] :=
    .quote <| .same (by decide) (.inl rfl) <| .same (by decide) (.inl rfl) <|
      .same (by decide) (.inl rfl) <| .same (by decide) (.inl rfl) <|
      .quote <| .ending (by simp) (by simp [isBlank])
  have gap : Relaid false (['\r', '\n'] ++ ['"', 'a', ' ', ' ', 'b', '"'])
      ([' '] ++ ['"', 'a', ' ', ' ', 'b', '"', ' ']) :=
    .run (by simp) (by simp) (by simp [isBlank]) (by simp [isBlank]) literal
  have same : SameLayout "\tx\r\n\"a  b\"".toList "x \"a  b\" ".toList :=
    ⟨['\t'], _, [], _, rfl, rfl, by simp [isBlank], by simp, .same (by decide) (.inr rfl) gap⟩
  exact ⟨same, tokenize_sameLayout same none⟩

end ScriptSyntax.Lexeme
