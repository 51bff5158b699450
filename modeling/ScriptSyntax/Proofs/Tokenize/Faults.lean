/-
ScriptSyntax.Proofs.Tokenize.Faults — what can be wrong with a script,
said of the whole text.

The reader meets a fault where it stands, and knows nothing of the text
before it. Seen from outside there are two rules. A character that no
script holds is a fault where an even number of double quotes stands
before it, the first such character is the one that is reported, and it
goes before all else; and an odd number of double quotes leaves the text
behind the last of them unterminated.

* `HasFault` states the two rules, by counting.
* `tokenize_outcome` — a script has tokens just if neither applies, and
  otherwise its diagnostic is the one that they name.
-/
import Mathlib.Order.Nat
import Mathlib.Tactic.ByContra
import ScriptSyntax.Proofs.Tokenize.Run

namespace ScriptSyntax.Lexeme

open Vocabulary

/-! ## 1. The rules -/

/-- The character at a place, where it is no double quote and an even
number of them stands before it. -/
def Outside (source : List Char) (place : Nat) (c : Char) : Prop :=
  source[place]? = some c ∧ c ≠ '"' ∧ (source.take place).count '"' % 2 = 0

/-- Whether every character outside of the literals may stand there. -/
def AllLegal (source : List Char) : Prop :=
  ∀ place c, Outside source place c → isLegal c = true

/-- What is wrong with a text, if anything is. -/
inductive HasFault (source : List Char) : Fault → Prop where
  /-- The first character that may not stand outside of a literal. -/
  | foreign {place : Nat} {c : Char} :
    Outside source place c → isLegal c = false →
      (∀ earlier d, earlier < place → Outside source earlier d → isLegal d = true) →
      HasFault source (.unrecognisedCharacter c)
  /-- Failing that, the text behind the last double quote, where their
  number is odd. -/
  | unclosed {before literal : List Char} :
    AllLegal source → source.count '"' % 2 = 1 → source = before ++ '"' :: literal →
      '"' ∉ literal → HasFault source (.unterminatedString (String.ofList literal))

/-! ## 2. Behind closed literals the count begins anew -/

section Append

variable {front after : List Char}

/-- Behind a text with an even number of double quotes, outside is what
is outside of the rest. -/
theorem outside_append_right (even : front.count '"' % 2 = 0) (place : Nat) (c : Char) :
    Outside (front ++ after) (front.length + place) c ↔ Outside after place c := by
  unfold Outside
  rw [List.getElem?_append_right (by omega), List.take_length_add_append, List.count_append,
    Nat.add_mod, even]
  simp

theorem outside_append_left {place : Nat} (inside : place < front.length) (c : Char) :
    Outside (front ++ after) place c ↔ Outside front place c := by
  unfold Outside
  rw [List.getElem?_append_left inside, List.take_append_of_le_length (by omega)]

/-- Where the text in front is legal, only the rest can hold an illegal
character. -/
theorem outside_of_append (even : front.count '"' % 2 = 0) (legal : AllLegal front)
    {place : Nat} {c : Char} (h : Outside (front ++ after) place c) :
    isLegal c = true ∨ ∃ later, place = front.length + later ∧ Outside after later c := by
  by_cases inside : place < front.length
  · exact .inl (legal place c ((outside_append_left inside c).1 h))
  · obtain ⟨later, rfl⟩ := Nat.exists_eq_add_of_le (Nat.le_of_not_lt inside)
    exact .inr ⟨later, rfl, (outside_append_right even later c).1 h⟩

theorem allLegal_append (even : front.count '"' % 2 = 0) (legal : AllLegal front) :
    AllLegal (front ++ after) ↔ AllLegal after := by
  constructor
  · intro h place c outside
    exact h _ c ((outside_append_right even place c).2 outside)
  · intro h place c outside
    rcases outside_of_append even legal outside with ok | ⟨later, -, outside⟩
    · exact ok
    · exact h later c outside

/-- The text behind the last double quote lies in the rest, if that holds
one at all. -/
theorem split_of_append {before literal : List Char} (some_quote : '"' ∈ after)
    (last : '"' ∉ literal) (split : front ++ after = before ++ '"' :: literal) :
    ∃ between, after = between ++ '"' :: literal := by
  rcases List.append_eq_append_iff.1 split with ⟨between, -, rest⟩ | ⟨between, -, rest⟩
  · exact ⟨between, rest⟩
  · cases between with
    | nil => exact ⟨[], rest.symm⟩
    | cons c between =>
      obtain ⟨-, rfl⟩ := List.cons.inj rest
      exact absurd (List.mem_append_right between some_quote) last

/-- A text in front that is even and legal neither has a fault nor hides
one. -/
theorem hasFault_append (even : front.count '"' % 2 = 0) (legal : AllLegal front)
    (fault : Fault) : HasFault (front ++ after) fault ↔ HasFault after fault := by
  have parity : (front ++ after).count '"' % 2 = after.count '"' % 2 := by
    rw [List.count_append, Nat.add_mod, even]
    simp
  constructor
  · rintro (⟨outside, illegal, first⟩ | ⟨all, odd, split, last⟩)
    · rcases outside_of_append even legal outside with ok | ⟨later, rfl, behind⟩
      · simp [illegal] at ok
      · refine .foreign behind illegal fun earlier d before outside' => ?_
        exact first (front.length + earlier) d (by omega)
          ((outside_append_right even earlier d).2 outside')
    · rw [parity] at odd
      have some_quote : '"' ∈ after := List.count_pos_iff.1 (by omega)
      obtain ⟨between, rest⟩ := split_of_append some_quote last split
      exact .unclosed ((allLegal_append even legal).1 all) odd rest last
  · rintro (⟨outside, illegal, first⟩ | ⟨all, odd, rfl, last⟩)
    · refine .foreign ((outside_append_right even _ _).2 outside) illegal ?_
      intro earlier d before outside'
      rcases outside_of_append even legal outside' with ok | ⟨later, rfl, behind⟩
      · exact ok
      · exact first later d (by omega) behind
    · exact .unclosed ((allLegal_append even legal).2 all) (parity.trans odd)
        (List.append_assoc front _ _).symm last

end Append

/-! ## 3. Lexemes are even and legal -/

theorem isLegal_of_isNumeric {c : Char} (h : isNumeric c = true) : isLegal c = true := by
  simp only [isNumeric, Bool.or_eq_true, beq_iff_eq] at h
  rcases h with digit | rfl
  · simp [isLegal, Char.isAlphanum, digit]
  · decide

theorem isLegal_of_isNumberRun {run : List Char} (h : IsNumberRun run) :
    ∀ c ∈ run, isLegal c = true := by
  intro c hc
  rcases eq_or_isNumeric_of_mem_run h c hc with rfl | numeric
  · decide
  · exact isLegal_of_isNumeric numeric

/-- Outside of literals a lexeme is written in legal characters. -/
theorem isLegal_of_mem_text {lexeme : Lexeme} {next : Option Char} (h : lexeme.Admissible next)
    (plain : ∀ body, lexeme ≠ .quoted body) : ∀ c ∈ lexeme.text, isLegal c = true := by
  intro c hc
  cases lexeme with
  | layout blanks => simp [isLegal_eq, h.2.1 c hc]
  | word letters => simp [isLegal_eq, isWordPart_of_mem_symbol h.1 c hc]
  | number run => exact isLegal_of_isNumberRun h.1 c hc
  | quoted body => exact absurd rfl (plain body)
  | pair double =>
    simp only [text, List.mem_cons, List.not_mem_nil, or_false] at hc
    rcases hc with rfl | rfl <;> cases double <;> rfl
  | mark kind d =>
    obtain rfl := List.mem_singleton.1 hc
    simp [isLegal_eq, mark?_eq_some_iff.2 h.1]

/-- In a literal, nothing is outside before its closing quote. -/
theorem lt_of_outside_quote {body tail : List Char} {place : Nat} {c : Char}
    (plain : '"' ∉ body) (h : Outside ('"' :: (body ++ tail)) place c) :
    body.length < place := by
  obtain ⟨found, other, even⟩ := h
  by_contra short
  cases place with
  | zero => exact other (by simpa using found.symm)
  | succ place =>
    have none_inside : (body.take place).count '"' = 0 :=
      List.count_eq_zero.2 fun mem => plain (List.mem_of_mem_take mem)
    rw [List.take_succ_cons, List.take_append_of_le_length (by omega), List.count_cons_self,
      none_inside] at even
    cases even

theorem even_of_admissible {lexeme : Lexeme} {next : Option Char} (h : lexeme.Admissible next) :
    lexeme.text.count '"' % 2 = 0 := by
  by_cases literal : ∃ body, lexeme = .quoted body
  · obtain ⟨body, rfl⟩ := literal
    have : body.count '"' = 0 := List.count_eq_zero.2 h
    simp [text, this]
  · have legal := isLegal_of_mem_text h fun body eq => literal ⟨body, eq⟩
    have : lexeme.text.count '"' = 0 := List.count_eq_zero.2 fun mem => by
      have := legal _ mem
      cases this
    rw [this]

theorem allLegal_of_admissible {lexeme : Lexeme} {next : Option Char}
    (h : lexeme.Admissible next) : AllLegal lexeme.text := by
  intro place c outside
  by_cases literal : ∃ body, lexeme = .quoted body
  · obtain ⟨body, rfl⟩ := literal
    have beyond := lt_of_outside_quote h outside
    obtain ⟨found, other, -⟩ := outside
    have within := (List.getElem?_eq_some_iff.1 found).1
    simp only [text, List.cons_append, List.length_cons, List.length_append,
      List.length_nil] at within
    obtain rfl : place = body.length + 1 := by omega
    exact absurd (by simpa [text] using found.symm) other
  · exact isLegal_of_mem_text h (fun body eq => literal ⟨body, eq⟩) c
      (List.mem_of_getElem? outside.1)

/-! ## 4. The fault that the reader meets -/

/-- At a double quote that no other one follows, nothing is wrong but the
literal that it begins. -/
theorem hasFault_quote_iff {literal : List Char} (absent : '"' ∉ literal) (fault : Fault) :
    HasFault ('"' :: literal) fault ↔ fault = .unterminatedString (String.ofList literal) := by
  have none_outside (place : Nat) (c : Char) : ¬ Outside ('"' :: literal) place c := by
    intro outside
    have beyond := @lt_of_outside_quote literal [] place c absent (by simpa using outside)
    have within := (List.getElem?_eq_some_iff.1 outside.1).1
    simp only [List.length_cons] at within
    omega
  constructor
  · rintro (⟨outside, -, -⟩ | ⟨-, -, split, last⟩)
    · exact absurd outside (none_outside _ _)
    · rename_i before other
      cases before with
      | nil => rw [(List.cons.inj split).2]
      | cons c before =>
        obtain ⟨-, rfl⟩ := List.cons.inj split
        simp at absent
  · rintro rfl
    have odd : ('"' :: literal).count '"' % 2 = 1 := by
      rw [List.count_cons_self, List.count_eq_zero.2 absent]
    exact .unclosed (fun place c h => absurd h (none_outside place c)) odd
      (List.nil_append _).symm absent

/-- At a character that may not stand there, nothing else is wrong. -/
theorem hasFault_foreign_iff {c : Char} {rest : List Char} (other : c ≠ '"')
    (illegal : isLegal c = false) (fault : Fault) :
    HasFault (c :: rest) fault ↔ fault = .unrecognisedCharacter c := by
  have here : Outside (c :: rest) 0 c := ⟨rfl, other, rfl⟩
  constructor
  · rintro (⟨outside, -, first⟩ | ⟨all, -, -, -⟩)
    · rename_i place d
      cases place with
      | zero => rw [Option.some.inj outside.1]
      | succ place =>
        have := first 0 c (by omega) here
        simp [illegal] at this
    · have := all 0 c here
      simp [illegal] at this
  · rintro rfl
    exact .foreign here illegal fun earlier _ before => absurd before (by omega)

/-- Reading a text ends in a fault just if that is what is wrong with
it. -/
theorem readAll_eq_error_iff {source : List Char} {fault : Fault} :
    readAll source = .error fault ↔ HasFault source fault := by
  induction source using text_induction with
  | nil =>
    rw [readAll_nil]
    refine ⟨nofun, ?_⟩
    rintro (⟨outside, -, -⟩ | ⟨-, -, split, -⟩)
    · cases outside.1
    · simp at split
  | fault c rest cause found =>
    rw [readAll_of_error found, Except.error.injEq, eq_comm]
    rcases read_eq_error_iff.1 found with ⟨rfl, absent, rfl⟩ | ⟨other, illegal, rfl⟩
    · exact (hasFault_quote_iff absent fault).symm
    · exact (hasFault_foreign_iff other illegal fault).symm
  | lexeme lexeme after admissible ih =>
    rw [hasFault_append (even_of_admissible admissible) (allLegal_of_admissible admissible),
      ← ih, readAll_append admissible]
    cases readAll after <;> simp [Except.map]

/-! ## 5. Nothing else can be wrong -/

theorem exists_last_quote {source : List Char} (h : '"' ∈ source) :
    ∃ before literal, source = before ++ '"' :: literal ∧ '"' ∉ literal := by
  obtain ⟨literal, before, split, absent⟩ :=
    List.eq_append_cons_of_mem (List.mem_reverse.2 h)
  refine ⟨before.reverse, literal.reverse, ?_, fun mem => absent (List.mem_reverse.1 mem)⟩
  rw [← List.reverse_reverse source, split]
  simp

/-- One of the rules applies unless all is legal and every literal is
closed. -/
theorem exists_hasFault_iff (source : List Char) :
    (∃ fault, HasFault source fault) ↔ ¬ (AllLegal source ∧ source.count '"' % 2 = 0) := by
  constructor
  · rintro ⟨_, ⟨outside, illegal, -⟩ | ⟨-, odd, -, -⟩⟩ ⟨all, even⟩
    · have := all _ _ outside
      simp [illegal] at this
    · omega
  · intro h
    by_cases all : AllLegal source
    · have odd : source.count '"' % 2 = 1 := by
        have : ¬ source.count '"' % 2 = 0 := fun even => h ⟨all, even⟩
        omega
      obtain ⟨before, literal, split, last⟩ :=
        exists_last_quote (List.count_pos_iff.1 (show 0 < source.count '"' by omega))
      exact ⟨_, .unclosed all odd split last⟩
    · -- Of the places of illegal characters the first is the one at fault.
      classical
      have some_place : ∃ place, ∃ c, Outside source place c ∧ isLegal c = false := by
        simpa [AllLegal] using all
      obtain ⟨c, outside, illegal⟩ := Nat.find_spec some_place
      refine ⟨_, .foreign outside illegal fun earlier d before outside' => ?_⟩
      have := Nat.find_min some_place before
      simp only [not_exists, not_and, Bool.not_eq_false] at this
      exact this d outside'

/-- A script has a diagnostic just if something is wrong with it, and the
diagnostic names what it is and the file, or `shell` for want of one. It
has tokens just if all characters outside of its literals may stand there
and its double quotes come in pairs. -/
theorem tokenize_outcome (source : String) (file : Option String) :
    (∀ diagnostic, tokenize source file = .error diagnostic
        ↔ HasFault source.toList diagnostic.fault ∧ diagnostic.file = file.getD "shell")
      ∧ ((∃ tokens, tokenize source file = .ok tokens)
        ↔ AllLegal source.toList ∧ source.toList.count '"' % 2 = 0) := by
  refine ⟨fun diagnostic => ?_, ?_⟩
  · rw [tokenize_eq_error_iff, readAll_eq_error_iff]
  · rw [← not_iff_not, ← exists_hasFault_iff, tokenize_eq]
    simp only [← readAll_eq_error_iff]
    cases readAll source.toList <;> simp

end ScriptSyntax.Lexeme
