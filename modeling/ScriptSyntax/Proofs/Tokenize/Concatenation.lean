/-
ScriptSyntax.Proofs.Tokenize.Concatenation — scripts one behind the
other.

Blanks keep two scripts apart: no lexeme crosses them. What is left to
see is that the second script comes to the same behind the tokens of the
first as it does by itself. A doubled sign at its front would not, for it
assigns to the token before it; any other lexeme hides that token from
those behind it (`tokensBehind_congr`).

A character that no script holds is found before anything that stands
behind it is looked at (`readAll_append_of_foreign`).
-/
import ScriptSyntax.Proofs.Tokenize.Behind
import ScriptSyntax.Proofs.Tokenize.Faults

namespace ScriptSyntax

open Vocabulary Lexeme

namespace Lexeme

/-! ## 1. Texts that do not look back -/

/-- Whether a text begins with a doubled sign, after the blanks in front
of it. -/
def BeginsDoubled (source : List Char) : Prop :=
  ['+', '+'] <+: source.dropWhile isBlank ∨ ['-', '-'] <+: source.dropWhile isBlank

instance (source : List Char) : Decidable (BeginsDoubled source) :=
  inferInstanceAs (Decidable (_ ∨ _))

/-- Unless it is a doubled sign, a lexeme comes to the same behind any
token. -/
theorem emits_congr {lexeme : Lexeme} (increment : lexeme ≠ .pair .increment)
    (decrement : lexeme ≠ .pair .decrement) (previous other : Option Token) :
    lexeme.emits previous = lexeme.emits other := by
  cases lexeme with
  | pair double =>
    cases double with
    | increment => exact absurd rfl increment
    | decrement => exact absurd rfl decrement
    | _ => rfl
  | _ => rfl

/-- Only layout and doubled signs may come to nothing. -/
theorem emits_ne_nil {lexeme : Lexeme} (solid : ∀ blanks, lexeme ≠ .layout blanks)
    (increment : lexeme ≠ .pair .increment) (decrement : lexeme ≠ .pair .decrement)
    (previous : Option Token) : lexeme.emits previous ≠ [] := by
  cases lexeme with
  | layout blanks => exact absurd rfl (solid blanks)
  | pair double =>
    cases double with
    | increment => exact absurd rfl increment
    | decrement => exact absurd rfl decrement
    | _ => exact List.cons_ne_nil _ _
  | _ => exact List.cons_ne_nil _ _

/-- Behind some tokens, the one before them is out of sight. -/
theorem latest_congr {tokens : List Token} (ne : tokens ≠ []) (previous other : Option Token) :
    latest previous tokens = latest other tokens := by
  rw [latest, latest, List.getLast?_eq_some_getLast ne]
  rfl

/-- A text that begins with no doubled sign comes to the same behind any
token. -/
theorem tokensBehind_congr {source : List Char} (h : ¬ BeginsDoubled source)
    (previous other : Option Token) :
    tokensBehind previous source = tokensBehind other source := by
  rw [← tokensBehind_dropWhile, ← tokensBehind_dropWhile source other]
  unfold BeginsDoubled at h
  have start := List.head?_dropWhile_not isBlank source
  cases core : source.dropWhile isBlank with
  | nil => simp
  | cons c rest =>
    rw [core] at h start
    cases found : read c rest with
    | error fault => rw [tokensBehind_of_error found, tokensBehind_of_error found]
    | ok lexeme =>
      obtain ⟨after, split, admissible⟩ := read_eq_ok_iff.1 found
      have solid := ne_layout_of_read found start
      rw [split] at h
      have increment : lexeme ≠ .pair .increment := by
        rintro rfl
        exact h (.inl (List.prefix_append _ after))
      have decrement : lexeme ≠ .pair .decrement := by
        rintro rfl
        exact h (.inr (List.prefix_append _ after))
      rw [split, tokensBehind_text admissible, tokensBehind_text admissible,
        emits_congr increment decrement previous other,
        latest_congr (emits_ne_nil solid increment decrement other) previous other]

/-! ## 2. Texts with a fault -/

/-- A character that no script holds is a fault whatever stands behind
it. -/
theorem readAll_append_of_foreign {source : List Char} {c : Char}
    (h : readAll source = .error (.unrecognisedCharacter c)) (more : List Char) :
    readAll (source ++ more) = .error (.unrecognisedCharacter c) := by
  rw [readAll_eq_error_iff] at h ⊢
  obtain ⟨outside, illegal, first⟩ := h
  have within := (List.getElem?_eq_some_iff.1 outside.1).1
  refine .foreign ((outside_append_left within c).2 outside) illegal ?_
  intro earlier d before outside'
  exact first earlier d before ((outside_append_left (before.trans within) d).1 outside')

end Lexeme

/-! ## 3. Scripts -/

/-- Behind a script that has tokens, and some blanks, a script has the
outcome that it has by itself, with the tokens of the first in front;
only, if there are any, it may not begin with a doubled sign. And behind
a script with a character that no script holds, nothing matters. -/
theorem tokenize_append_blanks (file : Option String) :
    (∀ (front blanks back : String) (tokens : List Token),
        tokenize front file = .ok (tokens ++ [Token.endOfFile]) →
        blanks.toList ≠ [] → (∀ c ∈ blanks.toList, isBlank c = true) →
        (tokens = [] ∨ ¬ BeginsDoubled back.toList) →
        tokenize (front ++ blanks ++ back) file = (tokenize back file).map (tokens ++ ·))
      ∧ ∀ (front more : String) (diagnostic : Diagnostic) (c : Char),
        tokenize front file = .error diagnostic → diagnostic.fault = .unrecognisedCharacter c →
        tokenize (front ++ more) file = .error diagnostic := by
  constructor
  · intro front blanks back tokens accepted some_blank blank looks
    have apart := tokensBehind_append_blanks (tokensBehind_eq_ok_iff.2 accepted) some_blank blank
      back.toList
    have alone : tokensBehind (latest none tokens) back.toList = tokensBehind none back.toList := by
      rcases looks with rfl | plain
      · rfl
      · exact tokensBehind_congr plain _ _
    rw [tokenize_eq_tokensBehind, tokenize_eq_tokensBehind, String.toList_append,
      String.toList_append, List.append_assoc, apart, alone]
    cases tokensBehind none back.toList with
    | error fault => rfl
    | ok later => simp [Except.map]
  · intro front more diagnostic c failed foreign
    rw [tokenize_eq_error_iff] at failed ⊢
    rw [foreign] at failed ⊢
    rw [String.toList_append]
    exact ⟨readAll_append_of_foreign failed.1 more.toList, failed.2⟩

/-- The second line begins with a minus sign, which is no doubled one,
and the text in front of the last quote has a fault already. -/
theorem tokenize_append_blanks_minus :
    (tokenize "i =" none = .ok ([⟨"i", .identifier⟩, ⟨"=", .equals⟩] ++ [Token.endOfFile])
        ∧ "\n\t".toList ≠ [] ∧ (∀ c ∈ "\n\t".toList, isBlank c = true)
        ∧ ¬ BeginsDoubled "-1 j++".toList
        ∧ tokenize ("i =" ++ "\n\t" ++ "-1 j++") none
          = (tokenize "-1 j++" none).map ([⟨"i", .identifier⟩, ⟨"=", .equals⟩] ++ ·))
      ∧ tokenize "i #" none = .error ⟨.unrecognisedCharacter '#', "shell"⟩
      ∧ tokenize ("i #" ++ "\"") none = .error ⟨.unrecognisedCharacter '#', "shell"⟩ := by
  have front : tokenize "i =" none
      = .ok ([⟨"i", .identifier⟩, ⟨"=", .equals⟩] ++ [Token.endOfFile]) := by decide +kernel
  have blanks : "\n\t".toList ≠ [] ∧ ∀ c ∈ "\n\t".toList, isBlank c = true := by
    simp [isBlank]
  have plain : ¬ BeginsDoubled "-1 j++".toList := by decide
  have failed : tokenize "i #" none = .error ⟨.unrecognisedCharacter '#', "shell"⟩ := by
    decide +kernel
  exact ⟨⟨front, blanks.1, blanks.2, plain,
    (tokenize_append_blanks none).1 _ _ _ _ front blanks.1 blanks.2 (.inr plain)⟩, failed,
    (tokenize_append_blanks none).2 _ "\"" _ '#' failed rfl⟩

end ScriptSyntax
