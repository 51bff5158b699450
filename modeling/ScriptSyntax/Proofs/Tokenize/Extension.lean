/-
ScriptSyntax.Proofs.Tokenize.Extension — what becomes of the tokens when
a script goes on.

A lexeme that something follows has come to its end, and more text
behind the script cannot change it. Only the last lexeme may grow, turn
into another or become part of a pair. It comes to one token at most,
unless it is a run of digits and periods, of which only the last piece
can grow, or a pair, which is as long as it will ever be. So at most one
token is taken back (`dropLast_prefix_of_tokenize_append`).
-/
import ScriptSyntax.Proofs.Lexeme.Cuts
import ScriptSyntax.Proofs.Tokenize.Run

namespace ScriptSyntax

open Vocabulary Lexeme

/-! ## 1. Lists that differ behind all but the last element -/

theorem prefix_append_of_dropLast {α : Type} {few many : List α} (front : List α)
    (h : few.dropLast <+: many) : (front ++ few).dropLast <+: front ++ many := by
  by_cases empty : few = []
  · subst empty
    rw [List.append_nil]
    exact (List.dropLast_prefix front).trans (List.prefix_append front many)
  · rw [List.dropLast_append_of_ne_nil empty]
    exact (List.prefix_append_right_inj front).2 h

/-- The first element may grow in front on both sides alike. -/
theorem prefix_cons_of_dropLast {α : Type} {first first' : List α} {later later' : List (List α)}
    (c : α) (h : (first :: later).dropLast <+: first' :: later') :
    ((c :: first) :: later).dropLast <+: (c :: first') :: later' := by
  cases later with
  | nil => exact List.nil_prefix
  | cons piece later =>
    rw [List.dropLast_cons_cons, List.cons_prefix_cons] at h ⊢
    exact ⟨congrArg (c :: ·) h.1, h.2⟩

namespace Lexeme

/-! ## 2. A longer run -/

/-- More characters behind a run change its last piece only. -/
theorem prefix_splitPeriods_append (seen : Bool) (run more : List Char) :
    ((splitPeriods seen run).1 :: (splitPeriods seen run).2).dropLast
      <+: (splitPeriods seen (run ++ more)).1 :: (splitPeriods seen (run ++ more)).2 := by
  induction run generalizing seen with
  | nil => exact List.nil_prefix
  | cons c rest ih =>
    rw [List.cons_append]
    by_cases period : c = '.'
    · subst period
      have grown := prefix_cons_of_dropLast '.' (ih true)
      cases seen with
      | false => exact grown
      | true => exact List.cons_prefix_cons.2 ⟨rfl, grown⟩
    · rw [splitPeriods_cons_of_ne period, splitPeriods_cons_of_ne period]
      exact prefix_cons_of_dropLast c (ih seen)

theorem IsNumberRun.append {run more : List Char} (h : IsNumberRun run)
    (inside : ∀ c ∈ more, isNumeric c = true) : IsNumberRun (run ++ more) := by
  obtain ⟨sign, digit, rest, rfl, sign_eq, digit_ok, numeric⟩ := h
  refine ⟨sign, digit, rest ++ more, by simp, sign_eq, digit_ok, fun c hc => ?_⟩
  rcases List.mem_append.1 hc with hc | hc
  · exact numeric c hc
  · exact inside c hc

/-- At the end of a script a run may grow, and is a run then, too. -/
theorem exists_longer_number {run : List Char} (valid : IsNumberRun run)
    (extension : List Char) :
    ∃ more after, extension = more ++ after
      ∧ (Lexeme.number (run ++ more)).Admissible after.head? := by
  obtain ⟨after, split, stop⟩ := exists_takeWhile_append isNumeric extension
  exact ⟨_, after, split, valid.append fun _ => List.mem_takeWhile_imp, stop⟩

/-! ## 3. The last lexeme, and all lexemes -/

/-- A text begins with one lexeme at most. -/
theorem Admissible.unique {lexeme other : Lexeme} {after after' : List Char}
    (h : lexeme.Admissible after.head?) (h' : other.Admissible after'.head?)
    (split : lexeme.text ++ after = other.text ++ after') : lexeme = other := by
  obtain ⟨c, rest, eq, found⟩ := exists_read_of_admissible h
  have found' := read_eq_ok_iff.2 ⟨_, eq.symm.trans split, h'⟩
  exact Except.ok.inj (found.symm.trans found')

/-- What a lexeme at the end of a script comes to is kept up to its last
token by the lexeme that stands in its place when the script goes on. -/
theorem prefix_emits_of_append {lexeme other : Lexeme} {extension after : List Char}
    (h : lexeme.Admissible none) (h' : other.Admissible after.head?)
    (split : lexeme.text ++ extension = other.text ++ after) (previous : Option Token) :
    (lexeme.emits previous).dropLast <+: other.emits previous := by
  cases lexeme with
  | number run =>
    obtain ⟨more, rest, rfl, longer⟩ := exists_longer_number h.1 extension
    have same := longer.unique h' (by rw [← split]; exact List.append_assoc run more rest)
    rw [← same, emits, emits, ← List.map_dropLast]
    exact (prefix_splitPeriods_append false run more).map _
  | pair double =>
    have whole : (Lexeme.pair double).Admissible extension.head? := trivial
    rw [whole.unique h' split]
    exact List.dropLast_prefix _
  | _ => exact List.nil_prefix

/-- What lexemes come to is kept up to the last token when the text that
they are goes on. -/
theorem prefix_emitAll_of_append {source extension : List Char} {lexemes others : List Lexeme}
    (h : Decomposes source lexemes) (h' : Decomposes (source ++ extension) others)
    (previous : Option Token) :
    (emitAll previous lexemes).dropLast <+: emitAll previous others := by
  induction lexemes generalizing source others previous with
  | nil => exact List.nil_prefix
  | cons lexeme lexemes ih =>
    obtain ⟨after, rfl, admissible, rest⟩ := h
    cases others with
    | nil =>
      have empty : lexeme.text ++ after ++ extension = [] := h'
      simp [text_ne_nil admissible] at empty
    | cons other others =>
      obtain ⟨after', split, admissible', rest'⟩ := h'
      rw [List.append_assoc] at split
      cases after with
      | nil =>
        obtain rfl : lexemes = [] := rest.unique rfl
        rw [emitAll_cons, emitAll_nil, List.append_nil, emitAll_cons]
        exact (prefix_emits_of_append admissible admissible' split previous).trans
          (List.prefix_append _ _)
      | cons c after =>
        -- Something follows this lexeme, so it is read again as it is.
        have here : lexeme.Admissible ((c :: after) ++ extension).head? := admissible
        obtain rfl := here.unique admissible' split
        obtain rfl := List.append_cancel_left split
        exact prefix_append_of_dropLast _ (ih rest rest' _)

end Lexeme

/-! ## 4. A script that goes on -/

/-- Where a script and a longer one both have tokens, those of the
shorter one are kept, except for the last. -/
theorem dropLast_prefix_of_tokenize_append {source extension : String}
    {file file' : Option String} {tokens all : List Token}
    (h : tokenize source file = .ok (tokens ++ [Token.endOfFile]))
    (h' : tokenize (source ++ extension) file' = .ok all) : tokens.dropLast <+: all := by
  obtain ⟨lexemes, decomposes, eq⟩ := tokenize_eq_ok_iff.1 h
  obtain ⟨others, decomposes', rfl⟩ := tokenize_eq_ok_iff.1 h'
  obtain rfl := List.append_cancel_right eq
  rw [String.toList_append] at decomposes'
  exact (prefix_emitAll_of_append decomposes decomposes' none).trans (List.prefix_append _ _)

/-- A sign that is doubled later takes back no more than itself. -/
theorem dropLast_prefix_of_doubled_sign :
    tokenize "x +" none
        = .ok [⟨"x", .identifier⟩, ⟨"+", .binaryOperator⟩, Token.endOfFile]
      ∧ tokenize ("x +" ++ "+") none
        = .ok [⟨"x", .identifier⟩, ⟨"=", .equals⟩, ⟨"x", .identifier⟩, ⟨"+", .binaryOperator⟩,
          ⟨"1", .number⟩, Token.endOfFile]
      ∧ [⟨"x", .identifier⟩]
        <+: [(⟨"x", .identifier⟩ : Token), ⟨"=", .equals⟩, ⟨"x", .identifier⟩,
          ⟨"+", .binaryOperator⟩, ⟨"1", .number⟩, Token.endOfFile] := by
  have h : tokenize "x +" none = .ok ([⟨"x", .identifier⟩, ⟨"+", .binaryOperator⟩]
      ++ [Token.endOfFile]) := by decide +kernel
  have h' : tokenize ("x +" ++ "+") none
      = .ok [⟨"x", .identifier⟩, ⟨"=", .equals⟩, ⟨"x", .identifier⟩, ⟨"+", .binaryOperator⟩,
        ⟨"1", .number⟩, Token.endOfFile] := by decide +kernel
  exact ⟨h, h', dropLast_prefix_of_tokenize_append h h'⟩

end ScriptSyntax
