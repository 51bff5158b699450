/-
ScriptSyntax.Json.Literal — JSON string literals.

* `stringLiteral` writes a string; only what must be escaped is.
* `readBody` reads what stands behind the opening quote, up to the
  closing one, and decodes it. An escape for half of a surrogate pair is
  refused unless the other half follows.
* `skipBody` goes past a literal whose value is not wanted, and so does
  not ask whether surrogates are paired.

Main statements: what is written is read back (`readBody_escape`), and
both readers use up at least the closing quote (`length_readBody_lt`,
`length_skipBody_lt`).
-/
import ScriptSyntax.Json.Defect
import ScriptSyntax.Text.Hex
import ScriptSyntax.Text.Utf8

namespace ScriptSyntax.Json

/-! ## 1. Writing -/

/-- How one character is written in a literal: quote, backslash and the
five controls that have a letter after a backslash, other controls by
their code point, all else as it is. -/
def escape (c : Char) : List Char :=
  if c = '"' then ['\\', '"']
  else if c = '\\' then ['\\', '\\']
  else if c = '\x08' then ['\\', 'b']
  else if c = '\t' then ['\\', 't']
  else if c = '\n' then ['\\', 'n']
  else if c = '\x0c' then ['\\', 'f']
  else if c = '\r' then ['\\', 'r']
  else if c.toNat < 0x20 then ['\\', 'u'] ++ Hex.padded 4 c.toNat
  else [c]

/-- A string between quotes. -/
def stringLiteral (text : String) : List Char :=
  '"' :: text.toList.flatMap escape ++ ['"']

/-! ## 2. Escapes -/

/-- The character for which a letter stands after a backslash. -/
def letterEscape? (c : Char) : Option Char :=
  [('"', '"'), ('\\', '\\'), ('/', '/'), ('b', '\x08'), ('f', '\x0c'), ('n', '\n'),
   ('r', '\r'), ('t', '\t')].lookup c

/-- Reads four hexadecimal digits. They are looked for in the next four
bytes of the text, so only a text with fewer bytes left ends too
early. -/
def readUnit (cs : List Char) : Except Defect (Nat × List Char) :=
  if utf8Length (cs.take 4) < 4 then .error .truncated
  else match cs with
    | a :: b :: c :: d :: rest =>
      match Hex.value? a, Hex.value? b, Hex.value? c, Hex.value? d with
      | some a, some b, some c, some d => .ok (((a * 16 + b) * 16 + c) * 16 + d, rest)
      | _, _, _, _ => .error .malformed
    | _ => .error .malformed

/-- The first half of a pair of UTF-16 surrogates. -/
def isHighSurrogate (unit : Nat) : Bool := 0xd800 ≤ unit && unit ≤ 0xdbff

/-- The second half of a pair of UTF-16 surrogates. -/
def isLowSurrogate (unit : Nat) : Bool := 0xdc00 ≤ unit && unit ≤ 0xdfff

/-- The character that a pair of surrogates stands for. -/
def ofSurrogates (high low : Nat) : Char :=
  Char.ofNat (0x10000 + (high - 0xd800) * 0x400 + (low - 0xdc00))

/-- Reads the second half of a surrogate pair, which is an escape of its
own. -/
def readLowSurrogate (cs : List Char) : Except Defect (Nat × List Char) :=
  match readWord ['\\', 'u'] cs with
  | .error defect => .error defect
  | .ok rest =>
    match readUnit rest with
    | .error defect => .error defect
    | .ok (unit, rest) =>
      if isLowSurrogate unit then .ok (unit, rest) else .error .malformed

/-- Reads the digits of an escape for a code unit, and the escape after
it where the unit is the first half of a pair. -/
def readCodePoint (cs : List Char) : Except Defect (Char × List Char) :=
  match readUnit cs with
  | .error defect => .error defect
  | .ok (unit, rest) =>
    if isLowSurrogate unit then .error .malformed
    else if isHighSurrogate unit then
      match readLowSurrogate rest with
      | .error defect => .error defect
      | .ok (low, rest) => .ok (ofSurrogates unit low, rest)
    else .ok (Char.ofNat unit, rest)

/-- Reads what follows the backslash of an escape. -/
def readEscape : List Char → Except Defect (Char × List Char)
  | [] => .error .truncated
  | c :: rest =>
    if c = 'u' then readCodePoint rest
    else match letterEscape? c with
      | some decoded => .ok (decoded, rest)
      | none => .error .malformed

/-- Goes past what follows the backslash of an escape. -/
def skipEscape : List Char → Except Defect (List Char)
  | [] => .error .truncated
  | c :: rest =>
    if c = 'u' then
      match readUnit rest with
      | .error defect => .error defect
      | .ok (_, rest) => .ok rest
    else if (letterEscape? c).isSome then .ok rest
    else .error .malformed

theorem length_readUnit_le {cs rest : List Char} {unit : Nat}
    (h : readUnit cs = .ok (unit, rest)) : rest.length ≤ cs.length := by
  unfold readUnit at h
  repeat' split at h
  all_goals cases h
  simp only [List.length_cons]
  omega

theorem length_readLowSurrogate_le {cs rest : List Char} {unit : Nat}
    (h : readLowSurrogate cs = .ok (unit, rest)) : rest.length ≤ cs.length := by
  unfold readLowSurrogate at h
  split at h
  · cases h
  · next word =>
    split at h
    · cases h
    · next digits =>
      split at h
      · cases h
        exact Nat.le_trans (length_readUnit_le digits) (length_readWord_le word)
      · cases h

theorem length_readCodePoint_le {cs rest : List Char} {c : Char}
    (h : readCodePoint cs = .ok (c, rest)) : rest.length ≤ cs.length := by
  unfold readCodePoint at h
  split at h
  · cases h
  · next digits =>
    have first := length_readUnit_le digits
    split at h
    · cases h
    · split at h
      · split at h
        · cases h
        · next low =>
          simp only [Except.ok.injEq, Prod.mk.injEq] at h
          exact h.2 ▸ Nat.le_trans (length_readLowSurrogate_le low) first
      · simp only [Except.ok.injEq, Prod.mk.injEq] at h
        exact h.2 ▸ first

theorem length_readEscape_lt {cs rest : List Char} {c : Char}
    (h : readEscape cs = .ok (c, rest)) : rest.length < cs.length := by
  cases cs with
  | nil => cases h
  | cons d tail =>
    rw [readEscape] at h
    split at h
    · exact Nat.lt_succ_of_le (length_readCodePoint_le h)
    · split at h
      · cases h
        exact Nat.lt_succ_self _
      · cases h

theorem length_skipEscape_lt {cs rest : List Char} (h : skipEscape cs = .ok rest) :
    rest.length < cs.length := by
  cases cs with
  | nil => cases h
  | cons d tail =>
    rw [skipEscape] at h
    split at h
    · split at h
      · cases h
      · next digits =>
        cases h
        exact Nat.lt_succ_of_le (length_readUnit_le digits)
    · split at h
      · cases h
        exact Nat.lt_succ_self _
      · cases h

/-! ## 3. Whole literals -/

/-- Reads a literal behind its opening quote. Control characters must be
escaped. -/
def readBody : List Char → Except Defect (List Char × List Char)
  | [] => .error .truncated
  | c :: rest =>
    if c = '"' then .ok ([], rest)
    else if c = '\\' then
      match _h : readEscape rest with
      | .error defect => .error defect
      | .ok (decoded, after) =>
        have := length_readEscape_lt _h
        match readBody after with
        | .error defect => .error defect
        | .ok (text, after) => .ok (decoded :: text, after)
    else if c.toNat < 0x20 then .error .malformed
    else
      match readBody rest with
      | .error defect => .error defect
      | .ok (text, after) => .ok (c :: text, after)
termination_by cs => cs.length

/-- Goes past a literal behind its opening quote. -/
def skipBody : List Char → Except Defect (List Char)
  | [] => .error .truncated
  | c :: rest =>
    if c = '"' then .ok rest
    else if c = '\\' then
      match _h : skipEscape rest with
      | .error defect => .error defect
      | .ok after =>
        have := length_skipEscape_lt _h
        skipBody after
    else if c.toNat < 0x20 then .error .malformed
    else skipBody rest
termination_by cs => cs.length

/-- A literal ends with its closing quote, which is used up. -/
theorem length_readBody_lt {cs rest text : List Char} (h : readBody cs = .ok (text, rest)) :
    rest.length < cs.length := by
  fun_induction readBody cs generalizing text rest with
  | case1 => cases h
  | case2 =>
    cases h
    exact Nat.lt_succ_self _
  | case3 => cases h
  | case4 => cases h
  | case5 tail decoded after found shorter text' after' later _ ih =>
    cases h
    have := ih later
    rw [List.length_cons]
    omega
  | case6 => cases h
  | case7 => cases h
  | case8 c tail _ _ _ text' after' later ih =>
    cases h
    exact Nat.lt_succ_of_lt (ih later)

theorem length_skipBody_lt {cs rest : List Char} (h : skipBody cs = .ok rest) :
    rest.length < cs.length := by
  fun_induction skipBody cs with
  | case1 => cases h
  | case2 =>
    cases h
    exact Nat.lt_succ_self _
  | case3 => cases h
  | case4 tail _ after found shorter ih =>
    have := ih h
    rw [List.length_cons]
    omega
  | case5 => cases h
  | case6 c tail _ _ _ ih => exact Nat.lt_succ_of_lt (ih h)

/-! ## 4. What is written is read back -/

theorem readUnit_padded {n : Nat} (h : n < 0x20) (rest : List Char) :
    readUnit (Hex.padded 4 n ++ rest) = .ok (n, rest) := by
  rw [Hex.padded_four (by omega)]
  have ascii : ∀ k : Fin 16, (Hex.digit k).utf8Size = 1 := by decide
  have high := ascii ⟨n / 16, by omega⟩
  have low := ascii ⟨n % 16, by omega⟩
  simp only at high low
  have zero : ('0' : Char).utf8Size = 1 := by decide
  have zeroValue : Hex.value? '0' = some 0 := by decide
  simp only [readUnit, List.cons_append, List.nil_append, List.take_succ_cons, List.take_zero,
    utf8Length_cons, utf8Length_nil, high, low, zero, zeroValue,
    Hex.value?_digit (show n / 16 < 16 by omega), Hex.value?_digit (show n % 16 < 16 by omega)]
  simp
  omega

theorem readEscape_letter {c decoded : Char} (h : letterEscape? c = some decoded)
    (notUnit : c ≠ 'u') (rest : List Char) : readEscape (c :: rest) = .ok (decoded, rest) := by
  simp [readEscape, notUnit, h]

theorem readEscape_unit {n : Nat} (h : n < 0x20) (rest : List Char) :
    readEscape ('u' :: (Hex.padded 4 n ++ rest)) = .ok (Char.ofNat n, rest) := by
  have low : isLowSurrogate n = false := by simp [isLowSurrogate]; omega
  have high : isHighSurrogate n = false := by simp [isHighSurrogate]; omega
  simp [readEscape, readCodePoint, readUnit_padded h, low, high]

/-- A backslash and what follows it are read as one character. -/
theorem readBody_backslash {rest after : List Char} {decoded : Char}
    (h : readEscape rest = .ok (decoded, after)) :
    readBody ('\\' :: rest) =
      match readBody after with
      | .error defect => .error defect
      | .ok (text, after) => .ok (decoded :: text, after) := by
  rw [readBody, if_neg (by decide), if_pos rfl]
  split
  · next failed => rw [h] at failed; cases failed
  · next found =>
    rw [h] at found
    cases found
    rfl

/-- A character that needs no escape is read as it is. -/
theorem readBody_plain {c : Char} (quote : c ≠ '"') (backslash : c ≠ '\\')
    (control : ¬ c.toNat < 0x20) (rest : List Char) :
    readBody (c :: rest) =
      match readBody rest with
      | .error defect => .error defect
      | .ok (text, after) => .ok (c :: text, after) := by
  rw [readBody, if_neg quote, if_neg backslash, if_neg control]

/-- One written character is read as itself. -/
theorem readBody_escape_cons (c : Char) (rest : List Char) :
    readBody (escape c ++ rest) =
      match readBody rest with
      | .error defect => .error defect
      | .ok (text, after) => .ok (c :: text, after) := by
  have letter {letter decoded : Char} (h : letterEscape? letter = some decoded)
      (notUnit : letter ≠ 'u') := readBody_backslash (readEscape_letter h notUnit rest)
  unfold escape
  split
  · next eq =>
    subst eq
    exact letter rfl (by decide)
  split
  · next eq =>
    subst eq
    exact letter rfl (by decide)
  split
  · next eq =>
    subst eq
    exact letter rfl (by decide)
  split
  · next eq =>
    subst eq
    exact letter rfl (by decide)
  split
  · next eq =>
    subst eq
    exact letter rfl (by decide)
  split
  · next eq =>
    subst eq
    exact letter rfl (by decide)
  split
  · next eq =>
    subst eq
    exact letter rfl (by decide)
  split
  · next control =>
    have := readBody_backslash (readEscape_unit control rest)
    rwa [Char.ofNat_toNat] at this
  · next quote backslash _ _ _ _ _ control => exact readBody_plain quote backslash control rest

/-- The text of a literal is read back, up to the quote that closes it. -/
theorem readBody_escape (text rest : List Char) :
    readBody (text.flatMap escape ++ '"' :: rest) = .ok (text, rest) := by
  induction text with
  | nil => simp [readBody]
  | cons c text ih =>
    rw [List.flatMap_cons, List.append_assoc, readBody_escape_cons, ih]

end ScriptSyntax.Json
