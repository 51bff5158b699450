/-
ScriptSyntax.Proofs.Text.Parts — the parts of a text are known from the
whole.

Texts are put together from parts, and whoever reads them has to find the
parts again. A part that holds no separator ends at the first one. A quoted
part may hold anything, for an escape says itself where it ends: a letter
stands alone behind its backslash, and a code point stands between braces.
So a character is read back without knowing which ones are shown as they
are, and the delimiter is the end of the part wherever the next character
might begin.

* `append_cons_inj`, `cons_append_inj` — parts at the first separator, and
  at the last one.
* `stack` puts rows one below the other, and `lineCount` is how many line
  feeds a text holds.
* `Escapes` is the ways in which a character may be written, whichever
  ones are shown as they are, and `unescape?` reads all of them.
* `encode_append_inj` — texts that are written alike are the same, even if
  different characters are shown as they are, and the same is left behind
  them.
* `newline_notMem_encode` — a quoted text stays on one line.
-/
import Mathlib.Data.List.Basic
import ScriptSyntax.Text.Quoted

namespace ScriptSyntax

/-! ## 1. Separators -/

section Separators

variable {separator : Char} {front front' back back' : List Char}

/-- In front of its first separator a text is known, and behind it too. -/
theorem append_cons_inj (first : separator ∉ front) (first' : separator ∉ front')
    (h : front ++ separator :: back = front' ++ separator :: back') :
    front = front' ∧ back = back' := by
  have place := congrArg (List.idxOf separator) h
  rw [List.idxOf_append_of_notMem first, List.idxOf_append_of_notMem first',
    List.idxOf_cons_self, List.idxOf_cons_self] at place
  obtain ⟨same, rest⟩ := List.append_inj h place
  exact ⟨same, (List.cons.inj rest).2⟩

/-- And so it is in front of its last separator, and behind that. -/
theorem cons_append_inj (last : separator ∉ back) (last' : separator ∉ back')
    (h : front ++ separator :: back = front' ++ separator :: back') :
    front = front' ∧ back = back' := by
  have mirrored : back.reverse ++ separator :: front.reverse
      = back'.reverse ++ separator :: front'.reverse := by
    simpa using congrArg List.reverse h
  obtain ⟨behind, before⟩ := append_cons_inj (by simpa using last) (by simpa using last') mirrored
  exact ⟨List.reverse_inj.1 before, List.reverse_inj.1 behind⟩

end Separators

/-! ## 2. Rows and line feeds -/

/-- Rows one below the other, each with a line feed behind it. -/
def stack (rows : List String) : String :=
  String.join (rows.map (· ++ "\n"))

@[simp] theorem stack_nil : stack [] = "" := rfl

@[simp] theorem stack_cons (row : String) (rows : List String) :
    stack (row :: rows) = row ++ "\n" ++ stack rows := by
  simp [stack]

/-- How many line feeds a text holds. -/
def lineCount (text : String) : Nat :=
  text.toList.count '\n'

@[simp] theorem lineCount_append (text more : String) :
    lineCount (text ++ more) = lineCount text + lineCount more := by
  simp [lineCount]

theorem lineCount_eq_zero_iff {text : String} : lineCount text = 0 ↔ '\n' ∉ text.toList :=
  List.count_eq_zero

namespace Quoted

variable {delimiter : Char}

/-! ## 3. How a character is written -/

/-- Whether a character can stand at the ends of a text: it must not be
taken for the backslash of an escape, or for the letter behind one. -/
def IsDelimiter (delimiter : Char) : Prop :=
  delimiter ∉ ['\\', '0', 't', 'n', 'r', 'u']

instance (delimiter : Char) : Decidable (IsDelimiter delimiter) :=
  inferInstanceAs (Decidable (_ ∉ _))

/-- What a letter behind a backslash stands for. -/
def letterMeaning (letter : Char) : Char :=
  if letter = '0' then '\x00'
  else if letter = 't' then '\t'
  else if letter = 'n' then '\n'
  else if letter = 'r' then '\r'
  else letter

/-- The ways in which a character may be written. They do not depend on
which characters are shown as they are: that only says which way is
taken. -/
inductive Escapes (delimiter c : Char) : List Char → Prop where
  /-- By a letter, if there is one for it. -/
  | letter {letter : Char} :
    letter ∈ ['0', 't', 'n', 'r'] → letterMeaning letter = c → Escapes delimiter c ['\\', letter]
  /-- Behind a backslash, if it would be taken for something else by
  itself. -/
  | itself : c = '\\' ∨ c = delimiter → Escapes delimiter c ['\\', c]
  /-- As it is, if it stays on the line. -/
  | plain : c ≠ '\\' → c ≠ delimiter → c ≠ '\n' → Escapes delimiter c [c]
  /-- By its code point in braces. -/
  | codePoint :
    Escapes delimiter c (['\\', 'u', '\x7b'] ++ Hex.digits c.toNat ++ ['\x7d'])

theorem escapes_escape (delimiter : Char) (shown : Char → Bool) (c : Char) :
    Escapes delimiter c (escape delimiter shown c) := by
  unfold escape
  split
  case isTrue null => exact .letter (by decide) null.symm
  split
  case isTrue tab => exact .letter (by decide) tab.symm
  split
  case isTrue feed => exact .letter (by decide) feed.symm
  case isFalse feed =>
    split
    case isTrue back => exact .letter (by decide) back.symm
    split
    case isTrue itself => exact .itself itself
    case isFalse other =>
      rw [not_or] at other
      split
      · exact .plain other.1 other.2 feed
      · exact .codePoint

/-! ## 4. Reading one character -/

/-- The character that an escape stands for, and the text behind it, from
what is written behind the backslash. -/
def unescapeTail? : List Char → Option (Char × List Char)
  | [] => none
  | letter :: rest =>
    if letter = 'u' then
      let number := rest.drop 1
      some (Char.ofNat (Hex.ofDigits (number.takeWhile (· != '\x7d'))),
        (number.dropWhile (· != '\x7d')).drop 1)
    else some (letterMeaning letter, rest)

/-- The character that a text begins with, and the text behind it, where
the text is written with escapes. -/
def unescape? : List Char → Option (Char × List Char)
  | [] => none
  | c :: rest => if c = '\\' then unescapeTail? rest else some (c, rest)

/-- The digits of a code point end at the brace. -/
theorem unescape?_codePoint (c : Char) (rest : List Char) :
    unescape? (['\\', 'u', '\x7b'] ++ Hex.digits c.toNat ++ ['\x7d'] ++ rest)
      = some (c, rest) := by
  have digits : ∀ d ∈ Hex.digits c.toNat, (d != '\x7d') = true := by
    intro d mem
    rw [bne_iff_ne]
    rintro rfl
    cases Hex.isSome_value?_of_mem_digits mem
  simp [unescape?, unescapeTail?, List.takeWhile_append_of_pos digits,
    List.dropWhile_append_of_pos digits, Hex.ofDigits_digits]

/-- A character is read back, however it is written and whatever is
written behind it. -/
theorem unescape?_of_escapes (apart : IsDelimiter delimiter) {c : Char} {written : List Char}
    (h : Escapes delimiter c written) (rest : List Char) :
    unescape? (written ++ rest) = some (c, rest) := by
  simp only [IsDelimiter, List.mem_cons, List.not_mem_nil, or_false, not_or] at apart
  cases h with
  | @letter letter listed meaning =>
    have number : letter ≠ 'u' := by
      rintro rfl
      simp at listed
    simp [unescape?, unescapeTail?, number, meaning]
  | itself itself =>
    rcases itself with rfl | rfl
    · rfl
    · simp [unescape?, unescapeTail?, letterMeaning, apart]
  | plain other => exact if_neg other
  | codePoint => exact unescape?_codePoint c rest

/-- No escape begins another one. -/
theorem escape_append_inj (apart : IsDelimiter delimiter) {shown shown' : Char → Bool}
    {c d : Char} {rest rest' : List Char}
    (h : escape delimiter shown c ++ rest = escape delimiter shown' d ++ rest') :
    c = d ∧ rest = rest' := by
  have read := congrArg unescape? h
  rw [unescape?_of_escapes apart (escapes_escape delimiter shown c),
    unescape?_of_escapes apart (escapes_escape delimiter shown' d)] at read
  exact Prod.mk.inj (Option.some.inj read)

/-! ## 5. Reading to the delimiter -/

/-- What is written for a character never begins with the delimiter. -/
theorem head?_ne_of_escapes (apart : IsDelimiter delimiter) {c : Char} {written : List Char}
    (h : Escapes delimiter c written) (rest : List Char) :
    (written ++ rest).head? ≠ some delimiter := by
  have backslash : '\\' ≠ delimiter := by
    rintro rfl
    exact apart List.mem_cons_self
  cases h with
  | letter => simpa using backslash
  | itself => simpa using backslash
  | plain _ other => simpa using other
  | codePoint => simpa using backslash

/-- What is written for a text ends at the first delimiter that no escape
holds. -/
theorem body_append_inj (apart : IsDelimiter delimiter) {shown shown' : Char → Bool}
    {text other rest rest' : List Char}
    (h : text.flatMap (escape delimiter shown) ++ delimiter :: rest
      = other.flatMap (escape delimiter shown') ++ delimiter :: rest') :
    text = other ∧ rest = rest' := by
  have stop (shown : Char → Bool) (c : Char) :=
    head?_ne_of_escapes apart (escapes_escape delimiter shown c)
  induction text generalizing other with
  | nil =>
    cases other with
    | nil => exact ⟨rfl, (List.cons.inj h).2⟩
    | cons d other =>
      -- A text ends where the delimiter stands, so the other one ends there too.
      rw [List.flatMap_cons, List.append_assoc] at h
      exact absurd (congrArg List.head? h).symm (stop shown' d _)
  | cons c text ih =>
    cases other with
    | nil =>
      rw [List.flatMap_cons, List.append_assoc] at h
      exact absurd (congrArg List.head? h) (stop shown c _)
    | cons d other =>
      rw [List.flatMap_cons, List.flatMap_cons, List.append_assoc, List.append_assoc] at h
      obtain ⟨rfl, later⟩ := escape_append_inj apart h
      obtain ⟨rfl, left⟩ := ih later
      exact ⟨rfl, left⟩

/-- Texts that are written alike, with anything behind them, are the same,
and so is what is behind them. It does not matter which characters are
shown as they are, and they need not be the same ones in both texts. -/
theorem encode_append_inj (apart : IsDelimiter delimiter) {shown shown' : Char → Bool}
    {text other rest rest' : List Char}
    (h : encode delimiter shown text ++ rest = encode delimiter shown' other ++ rest') :
    text = other ∧ rest = rest' := by
  have bodies : text.flatMap (escape delimiter shown) ++ delimiter :: rest
      = other.flatMap (escape delimiter shown') ++ delimiter :: rest' := by
    simpa [encode] using h
  exact body_append_inj apart bodies

theorem encode_inj (apart : IsDelimiter delimiter) {shown : Char → Bool} {text other : List Char}
    (h : encode delimiter shown text = encode delimiter shown other) : text = other :=
  (encode_append_inj apart (congrArg (· ++ []) h)).1

/-! ## 6. Quoted texts and lines -/

theorem newline_notMem_of_escapes (line : delimiter ≠ '\n') {c : Char} {written : List Char}
    (h : Escapes delimiter c written) : '\n' ∉ written := by
  cases h with
  | @letter letter listed =>
    have feed : letter ≠ '\n' := by
      rintro rfl
      simp at listed
    simpa using feed.symm
  | itself itself =>
    rcases itself with rfl | rfl
    · decide
    · simpa using line.symm
  | plain _ _ feed => simpa using feed.symm
  | codePoint =>
    have digits : '\n' ∉ Hex.digits c.toNat := fun mem => by
      cases Hex.isSome_value?_of_mem_digits mem
    simpa using digits

/-- A quoted text is on one line, unless line feeds are what it stands
between. -/
theorem newline_notMem_encode (line : delimiter ≠ '\n') (shown : Char → Bool)
    (text : List Char) : '\n' ∉ encode delimiter shown text := by
  have body : '\n' ∉ text.flatMap (escape delimiter shown) := by
    intro mem
    obtain ⟨c, -, inside⟩ := List.mem_flatMap.1 mem
    exact newline_notMem_of_escapes line (escapes_escape delimiter shown c) inside
  simpa [encode, line.symm] using body

/-! ## 7. Strings and characters -/

theorem string_inj {value other : String} (h : string value = string other) :
    value = other := by
  have chars := congrArg String.toList h
  simp only [string, String.toList_ofList] at chars
  exact String.toList_inj.1 (encode_inj (by decide) chars)

/-- Behind a quoted character there may be anything. -/
theorem character_append_inj {c d : Char} {rest rest' : String}
    (h : character c ++ rest = character d ++ rest') : c = d := by
  have chars := congrArg String.toList h
  simp only [character, String.toList_append, String.toList_ofList] at chars
  exact (List.cons.inj (encode_append_inj (by decide) chars).1).1

/-- Behind a text of one line, a quoted string stays on that line. -/
theorem newline_notMem_append_string {lead : String} (line : '\n' ∉ lead.toList)
    (value : String) : '\n' ∉ (lead ++ string value).toList := by
  rw [String.toList_append, string, String.toList_ofList]
  exact List.not_mem_append line (newline_notMem_encode (by decide) _ _)

end Quoted

end ScriptSyntax
