/-
ScriptSyntax.Proofs.Lexeme.Sequence — texts as sequences of lexemes, and
sequences of lexemes as tokens.

Which lexemes a text falls into does not depend on the tokens that were
found before, and neither does what is wrong with it. So reading and
emitting can be taken apart: `readAll` is the lexemes of a text or its
first fault, and `emitAll` the tokens that lexemes come to, one after
the other, each told the token before it.

* `Decomposes` is the grammar of whole texts.
* `readAll_eq_ok_iff` — reading finds the decomposition of a text if it
  has one; `Decomposes.unique` — it has one at most.
* `text_induction` — the induction that follows the reader through a
  text.
-/
import ScriptSyntax.Proofs.Lexeme.Grammar

namespace ScriptSyntax.Lexeme

/-! ## 1. Texts as lexemes -/

/-- Whether a text is the given lexemes one after the other, each ending
where it may. -/
def Decomposes : List Char → List Lexeme → Prop
  | source, [] => source = []
  | source, lexeme :: lexemes =>
    ∃ after, source = lexeme.text ++ after ∧ lexeme.Admissible after.head?
      ∧ Decomposes after lexemes

/-- The lexemes of a text, or the first fault in it. -/
def readAll (source : List Char) : Except Fault (List Lexeme) :=
  match source with
  | [] => .ok []
  | c :: rest =>
    match _found : read c rest with
    | .error fault => .error fault
    | .ok lexeme => (readAll ((c :: rest).drop lexeme.text.length)).map (lexeme :: ·)
termination_by source.length
decreasing_by
  have := List.length_pos_iff.2 (text_ne_nil_of_read _found)
  simp only [List.length_drop, List.length_cons]
  omega

/-- Whether an outcome is a given success can be decided, so that what
becomes of a given text can be computed. -/
instance decidableEqOk {ε α : Type} [DecidableEq α] (outcome : Except ε α) (a : α) :
    Decidable (outcome = .ok a) :=
  match outcome with
  | .ok b => decidable_of_iff (b = a) ⟨congrArg Except.ok, Except.ok.inj⟩
  | .error _ => isFalse nofun

@[simp] theorem readAll_nil : readAll [] = .ok [] := by
  rw [readAll]

theorem readAll_of_error {c : Char} {rest : List Char} {fault : Fault}
    (h : read c rest = .error fault) : readAll (c :: rest) = .error fault := by
  rw [readAll]
  split
  · next found => cases h.symm.trans found; rfl
  · next found => cases h.symm.trans found

/-- A lexeme that may end where it does is the first of its text, and
the rest is read by itself. -/
theorem readAll_append {lexeme : Lexeme} {after : List Char}
    (h : lexeme.Admissible after.head?) :
    readAll (lexeme.text ++ after) = (readAll after).map (lexeme :: ·) := by
  obtain ⟨c, rest, split, found⟩ := exists_read_of_admissible h
  rw [split, readAll]
  split
  · next other => cases found.symm.trans other
  · next other =>
    cases found.symm.trans other
    rw [← split, List.drop_left]

/-- Induction along the reader: a text is empty, or has a fault at its
front, or is a lexeme and a shorter text after it. -/
theorem text_induction {motive : List Char → Prop} (source : List Char) (nil : motive [])
    (fault : ∀ c rest fault, read c rest = .error fault → motive (c :: rest))
    (lexeme : ∀ (lexeme : Lexeme) (after : List Char),
      lexeme.Admissible after.head? → motive after → motive (lexeme.text ++ after)) :
    motive source := by
  match source with
  | [] => exact nil
  | c :: rest =>
    cases found : read c rest with
    | error cause => exact fault c rest cause found
    | ok first =>
      obtain ⟨after, split, h⟩ := read_eq_ok_iff.1 found
      have shorter : after.length < rest.length + 1 := by
        have := congrArg List.length split
        have := List.length_pos_iff.2 (text_ne_nil h)
        simp only [List.length_cons, List.length_append] at *
        omega
      rw [split]
      exact lexeme first after h (text_induction after nil fault lexeme)
termination_by source.length

theorem readAll_of_decomposes {source : List Char} {lexemes : List Lexeme}
    (h : Decomposes source lexemes) : readAll source = .ok lexemes := by
  induction lexemes generalizing source with
  | nil =>
    obtain rfl : source = [] := h
    exact readAll_nil
  | cons lexeme lexemes ih =>
    obtain ⟨after, rfl, admissible, rest⟩ := h
    rw [readAll_append admissible, ih rest]
    rfl

theorem decomposes_of_readAll {source : List Char} {lexemes : List Lexeme}
    (h : readAll source = .ok lexemes) : Decomposes source lexemes := by
  induction source using text_induction generalizing lexemes with
  | nil =>
    rw [readAll_nil] at h
    cases h
    rfl
  | fault c rest fault found =>
    rw [readAll_of_error found] at h
    cases h
  | lexeme lexeme after admissible ih =>
    rw [readAll_append admissible] at h
    cases found : readAll after with
    | error fault => rw [found] at h; cases h
    | ok rest =>
      rw [found] at h
      cases h
      exact ⟨after, rfl, admissible, ih found⟩

/-- Reading finds the lexemes of a text just if it decomposes into
them. -/
theorem readAll_eq_ok_iff {source : List Char} {lexemes : List Lexeme} :
    readAll source = .ok lexemes ↔ Decomposes source lexemes :=
  ⟨decomposes_of_readAll, readAll_of_decomposes⟩

/-- A text decomposes in one way at most. -/
theorem Decomposes.unique {source : List Char} {lexemes others : List Lexeme}
    (h : Decomposes source lexemes) (h' : Decomposes source others) : lexemes = others := by
  have := (readAll_eq_ok_iff.2 h).symm.trans (readAll_eq_ok_iff.2 h')
  exact Except.ok.inj this

/-! ## 2. Lexemes as tokens -/

/-- The last token, once some have been added behind `previous`. -/
def latest (previous : Option Token) (tokens : List Token) : Option Token :=
  tokens.getLast?.or previous

@[simp] theorem latest_nil (previous : Option Token) : latest previous [] = previous := rfl

theorem latest_append (previous : Option Token) (tokens more : List Token) :
    latest previous (tokens ++ more) = latest (latest previous tokens) more := by
  rw [latest, List.getLast?_append, Option.or_assoc]
  rfl

theorem latest_cons (previous : Option Token) (token : Token) (tokens : List Token) :
    latest previous (token :: tokens) = latest (some token) tokens :=
  latest_append previous [token] tokens

/-- What holds of the token before and of those added, holds of the last
one. -/
theorem forall_mem_latest {holds : Token → Prop} {previous : Option Token} {tokens : List Token}
    (now : ∀ token ∈ tokens, holds token) (before : ∀ target ∈ previous, holds target) :
    ∀ target ∈ latest previous tokens, holds target := by
  intro target found
  rcases Option.or_eq_some_iff.1 found with emitted | ⟨-, kept⟩
  · exact now target (List.mem_of_getLast? emitted)
  · exact before target kept

/-- The tokens that lexemes come to, after a given token. -/
def emitAll : Option Token → List Lexeme → List Token
  | _, [] => []
  | previous, lexeme :: lexemes =>
    lexeme.emits previous ++ emitAll (latest previous (lexeme.emits previous)) lexemes

@[simp] theorem emitAll_nil (previous : Option Token) : emitAll previous [] = [] := rfl

theorem emitAll_cons (previous : Option Token) (lexeme : Lexeme) (lexemes : List Lexeme) :
    emitAll previous (lexeme :: lexemes)
      = lexeme.emits previous ++ emitAll (latest previous (lexeme.emits previous)) lexemes := rfl

/-- What holds of the tokens of each lexeme, if it holds of the token
before them, holds of all tokens of a text. -/
theorem forall_mem_emitAll {holds : Token → Prop}
    (step : ∀ {lexeme : Lexeme} {next : Option Char} {previous : Option Token},
      lexeme.Admissible next → (∀ target ∈ previous, holds target) →
        ∀ token ∈ lexeme.emits previous, holds token)
    {source : List Char} {lexemes : List Lexeme} (h : Decomposes source lexemes)
    {previous : Option Token} (before : ∀ target ∈ previous, holds target) :
    ∀ token ∈ emitAll previous lexemes, holds token := by
  induction lexemes generalizing source previous with
  | nil => exact nofun
  | cons lexeme lexemes ih =>
    obtain ⟨after, -, admissible, rest⟩ := h
    have now := step admissible before
    intro token mem
    rcases List.mem_append.1 mem with mem | mem
    · exact now token mem
    · exact ih rest (forall_mem_latest now before) token mem

end ScriptSyntax.Lexeme
