/-
ScriptSyntax.Json.Defect — what can be wrong with a JSON text, and the
reading of what has no structure: blanks and fixed words.

Readers go through a text from left to right and answer with the first
defect. A reader is a function from the unread characters to what it
read and the characters after it.
-/
import ScriptSyntax.Token.Vocabulary

namespace ScriptSyntax.Json

/-- Why a text is not a list of tokens. -/
inductive Defect where
  /-- The text ends before its value does. -/
  | truncated
  /-- The text is not JSON. -/
  | malformed
  /-- The text is JSON so far, but the value is not of the form that is
  wanted. -/
  | mismatched
  deriving DecidableEq

/-- If one reader after another succeeds, so does the first. -/
theorem of_bind_eq_ok {α β : Type} {first : Except Defect α} {next : α → Except Defect β}
    {result : β} (h : (first >>= next) = .ok result) :
    ∃ found, first = .ok found ∧ next found = .ok result := by
  cases first with
  | error defect => cases h
  | ok found => exact ⟨found, rfl, h⟩

/-- The unread characters without the blanks before them. JSON and
scripts have the same blanks. -/
def skipBlanks (cs : List Char) : List Char :=
  cs.dropWhile Vocabulary.isBlank

theorem length_skipBlanks_le (cs : List Char) : (skipBlanks cs).length ≤ cs.length :=
  (List.dropWhile_sublist _).length_le

/-- Blanks before the first character do not count as reading it. -/
theorem length_lt_of_skipBlanks {cs rest : List Char} {c : Char}
    (h : skipBlanks cs = c :: rest) : rest.length < cs.length := by
  have := length_skipBlanks_le cs
  rw [h, List.length_cons] at this
  omega

/-- Reads the rest of a word that has to stand here. -/
def readWord : List Char → List Char → Except Defect (List Char)
  | [], cs => .ok cs
  | _ :: _, [] => .error .truncated
  | w :: word, c :: cs => if c = w then readWord word cs else .error .malformed

theorem length_readWord_le {word cs rest : List Char} (h : readWord word cs = .ok rest) :
    rest.length ≤ cs.length := by
  induction word generalizing cs with
  | nil =>
    cases h
    exact Nat.le_refl _
  | cons w word ih =>
    cases cs with
    | nil => cases h
    | cons c cs =>
      rw [readWord] at h
      split at h
      · exact Nat.le_succ_of_le (ih h)
      · cases h

/-- Reads a colon, blanks before it or not. -/
def readColon (cs : List Char) : Except Defect (List Char) :=
  match skipBlanks cs with
  | [] => .error .truncated
  | c :: rest => if c = ':' then .ok rest else .error .malformed

theorem length_readColon_lt {cs rest : List Char} (h : readColon cs = .ok rest) :
    rest.length < cs.length := by
  unfold readColon at h
  split at h
  · cases h
  · next c after eq =>
    split at h
    · cases h
      exact length_lt_of_skipBlanks eq
    · cases h

end ScriptSyntax.Json
