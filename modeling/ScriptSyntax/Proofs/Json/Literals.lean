/-
ScriptSyntax.Proofs.Json.Literals — literals are read just if they are
literals of the grammar.

A literal says by itself where it ends, so nothing has to be asked of the
text behind it, and both directions can be put into one equivalence: what
a reader takes is what the grammar allows, and the rest is the text behind
it.

* `readEscape_eq_ok_iff` — one character that begins with a backslash.
  What is read as one code unit or as a pair of them is the code units of
  a character (`readCodePoint_eq_ok_iff`).
* `readBody_eq_ok_iff` — the body of a literal, and what it spells.
* `skipBody_eq_ok_iff` — the body of a literal that nobody decodes.
-/
import ScriptSyntax.Proofs.Json.Grammar
import ScriptSyntax.Proofs.Lexeme.Grammar

namespace ScriptSyntax.Json

open Vocabulary

/-! ## 1. Words and letters -/

/-- A word is read just if it stands there. -/
theorem readWord_eq_ok_iff {word cs rest : List Char} :
    readWord word cs = .ok rest ↔ cs = word ++ rest := by
  induction word generalizing cs with
  | nil => simp [readWord]
  | cons w word ih =>
    cases cs with
    | nil => simp [readWord]
    | cons c cs =>
      rw [readWord, List.cons_append, List.cons.injEq, ← ih]
      split
      · next same => simp [same]
      · next other => simp [other]

theorem letterEscape?_eq_some_iff {letter c : Char} :
    letterEscape? letter = some c ↔ (letter, c) ∈ escapeLetters :=
  lookup_eq_some_iff_mem (by decide)

/-- The letter of a code unit is none of the others. -/
theorem ne_of_mem_escapeLetters {letter c : Char} (h : (letter, c) ∈ escapeLetters) :
    letter ≠ 'u' := by
  have each : ∀ entry ∈ escapeLetters, entry.1 ≠ 'u' := by decide
  exact each _ h

/-! ## 2. Code units -/

theorem value?_lt {digit : Char} {n : Nat} (h : Hex.value? digit = some n) : n < 16 := by
  unfold Hex.value? at h
  simp only [Char.le_def, UInt32.le_iff_toNat_le, Char.toNat_val] at h
  repeat' split at h
  all_goals cases h
  all_goals
    next within =>
      simp only [Char.reduceToNat] at within
      omega

/-- Digits of a code unit, one by one. -/
theorem spellsUnit_iff {digits : List Char} {unit : Nat} :
    SpellsUnit digits unit ↔ ∃ a b c d va vb vc vd, digits = [a, b, c, d]
      ∧ Hex.value? a = some va ∧ Hex.value? b = some vb ∧ Hex.value? c = some vc
      ∧ Hex.value? d = some vd ∧ unit = ((va * 16 + vb) * 16 + vc) * 16 + vd := by
  constructor
  · rintro ⟨length, digit, rfl⟩
    obtain ⟨a, b, c, d, rfl⟩ := List.length_eq_four.1 length
    simp only [List.forall_mem_cons, List.not_mem_nil, Option.isSome_iff_exists] at digit
    obtain ⟨⟨va, ha⟩, ⟨vb, hb⟩, ⟨vc, hc⟩, ⟨vd, hd⟩, -⟩ := digit
    refine ⟨a, b, c, d, va, vb, vc, vd, rfl, ha, hb, hc, hd, ?_⟩
    simp [Hex.ofDigits, ha, hb, hc, hd]
    omega
  · rintro ⟨a, b, c, d, va, vb, vc, vd, rfl, ha, hb, hc, hd, rfl⟩
    refine ⟨rfl, by simp [ha, hb, hc, hd], ?_⟩
    simp [Hex.ofDigits, ha, hb, hc, hd]
    omega

theorem SpellsUnit.lt {digits : List Char} {unit : Nat} (h : SpellsUnit digits unit) :
    unit < 0x10000 := by
  obtain ⟨a, b, c, d, va, vb, vc, vd, -, ha, hb, hc, hd, rfl⟩ := spellsUnit_iff.1 h
  have := value?_lt ha
  have := value?_lt hb
  have := value?_lt hc
  have := value?_lt hd
  omega

/-- Four characters have four bytes at least, so a text that begins with
the digits of a code unit has not ended too early. -/
theorem readUnit_eq_ok_iff {cs rest : List Char} {unit : Nat} :
    readUnit cs = .ok (unit, rest) ↔ ∃ digits, cs = digits ++ rest ∧ SpellsUnit digits unit := by
  simp only [spellsUnit_iff]
  constructor
  · intro h
    unfold readUnit at h
    split at h
    · cases h
    · split at h
      · next a b c d tail _ =>
        split at h
        · next va vb vc vd ha hb hc hd =>
          cases h
          exact ⟨[a, b, c, d], rfl, a, b, c, d, va, vb, vc, vd, rfl, ha, hb, hc, hd, rfl⟩
        · cases h
      · cases h
  · rintro ⟨_, rfl, a, b, c, d, va, vb, vc, vd, rfl, ha, hb, hc, hd, rfl⟩
    have := a.utf8Size_pos
    have := b.utf8Size_pos
    have := c.utf8Size_pos
    have := d.utf8Size_pos
    have enough : 4 ≤ a.utf8Size + (b.utf8Size + (c.utf8Size + d.utf8Size)) := by omega
    simp [readUnit, enough, ha, hb, hc, hd]

theorem readLowSurrogate_eq_ok_iff {cs rest : List Char} {unit : Nat} :
    readLowSurrogate cs = .ok (unit, rest)
      ↔ ∃ digits, cs = unitEscape digits ++ rest ∧ SpellsUnit digits unit
        ∧ isLowSurrogate unit = true := by
  constructor
  · intro h
    unfold readLowSurrogate at h
    split at h
    · cases h
    · next word =>
      split at h
      · cases h
      · next found =>
        split at h
        · next low =>
          cases h
          obtain ⟨digits, rfl, spells⟩ := readUnit_eq_ok_iff.1 found
          have split := readWord_eq_ok_iff.1 word
          exact ⟨digits, split, spells, low⟩
        · cases h
  · rintro ⟨digits, rfl, spells, low⟩
    have word : readWord ['\\', 'u'] (unitEscape digits ++ rest) = .ok (digits ++ rest) :=
      readWord_eq_ok_iff.2 rfl
    simp [readLowSurrogate, word, readUnit_eq_ok_iff.2 ⟨digits, rfl, spells⟩, low]

/-! ## 3. Characters -/

/-- A character is no surrogate. -/
theorem toNat_of_char (c : Char) :
    c.toNat < 0xd800 ∨ 0xdfff < c.toNat ∧ c.toNat < 0x110000 :=
  c.valid

theorem toNat_ofNat_of_isValidChar {n : Nat} (h : n.isValidChar) : (Char.ofNat n).toNat = n := by
  rw [Char.ofNat, dif_pos h]
  rfl

theorem isHighSurrogate_iff {unit : Nat} :
    isHighSurrogate unit = true ↔ 0xd800 ≤ unit ∧ unit ≤ 0xdbff := by
  simp [isHighSurrogate]

theorem isLowSurrogate_iff {unit : Nat} :
    isLowSurrogate unit = true ↔ 0xdc00 ≤ unit ∧ unit ≤ 0xdfff := by
  simp [isLowSurrogate]

/-- A unit that is no surrogate is that of one character. -/
theorem codeUnits_eq_singleton_iff {c : Char} {unit : Nat} :
    codeUnits c = [unit] ↔ c = Char.ofNat unit ∧ ¬ isLowSurrogate unit = true
      ∧ ¬ isHighSurrogate unit = true ∧ unit < 0x10000 := by
  rw [isLowSurrogate_iff, isHighSurrogate_iff]
  unfold codeUnits
  constructor
  · intro h
    split at h
    · obtain rfl : c.toNat = unit := by simpa using h
      have := toNat_of_char c
      exact ⟨(Char.ofNat_toNat c).symm, by omega, by omega, by omega⟩
    · simp at h
  · rintro ⟨rfl, low, high, short⟩
    have valid : unit.isValidChar := by simp only [Nat.isValidChar]; omega
    rw [toNat_ofNat_of_isValidChar valid, if_pos short]

/-- A pair of surrogates is that of one character. -/
theorem codeUnits_eq_pair_iff {c : Char} {high low : Nat} :
    codeUnits c = [high, low] ↔ c = ofSurrogates high low ∧ isHighSurrogate high = true
      ∧ isLowSurrogate low = true := by
  rw [isLowSurrogate_iff, isHighSurrogate_iff]
  unfold codeUnits ofSurrogates
  constructor
  · intro h
    split at h
    · simp at h
    · simp only [List.cons.injEq, and_true] at h
      obtain ⟨rfl, rfl⟩ := h
      have := toNat_of_char c
      have whole : 0x10000 + (0xd800 + (c.toNat - 0x10000) / 0x400 - 0xd800) * 0x400
          + (0xdc00 + (c.toNat - 0x10000) % 0x400 - 0xdc00) = c.toNat := by omega
      rw [whole, Char.ofNat_toNat]
      exact ⟨rfl, by omega, by omega⟩
  · rintro ⟨eq, high_ok, low_ok⟩
    generalize sum : 0x10000 + (high - 0xd800) * 0x400 + (low - 0xdc00) = n at eq
    have valid : n.isValidChar := by simp only [Nat.isValidChar]; omega
    rw [eq, toNat_ofNat_of_isValidChar valid, if_neg (by omega), List.cons.injEq, List.cons.injEq]
    exact ⟨by omega, by omega, rfl⟩

theorem codeUnits_ne_nil (c : Char) : codeUnits c ≠ [] := by
  unfold codeUnits
  split <;> simp

/-- What is read behind the letter of a code unit is the code units of a
character, each with its digits. -/
theorem readCodePoint_eq_ok_iff {cs rest : List Char} {c : Char} :
    readCodePoint cs = .ok (c, rest)
      ↔ ∃ pieces, '\\' :: 'u' :: cs = pieces.flatMap unitEscape ++ rest
        ∧ List.Forall₂ SpellsUnit pieces (codeUnits c) := by
  constructor
  · intro h
    unfold readCodePoint at h
    split at h
    · cases h
    · next unit after found =>
      obtain ⟨digits, rfl, spells⟩ := readUnit_eq_ok_iff.1 found
      split at h
      · cases h
      · next no_low =>
        split at h
        · next high =>
          split at h
          · cases h
          · next low later found =>
            simp only [Except.ok.injEq, Prod.mk.injEq] at h
            obtain ⟨digits', eq, spells', is_low⟩ := readLowSurrogate_eq_ok_iff.1 found
            refine ⟨[digits, digits'], by simp [unitEscape, eq, h.2], ?_⟩
            rw [codeUnits_eq_pair_iff.2 ⟨h.1.symm, high, is_low⟩]
            exact .cons spells (.cons spells' .nil)
        · next no_high =>
          cases h
          refine ⟨[digits], by simp [unitEscape], ?_⟩
          rw [codeUnits_eq_singleton_iff.2 ⟨rfl, no_low, no_high, spells.lt⟩]
          exact .cons spells .nil
  · rintro ⟨pieces, split, spelled⟩
    by_cases short : c.toNat < 0x10000
    · have units : codeUnits c = [c.toNat] := if_pos short
      obtain ⟨-, no_low, no_high, -⟩ := codeUnits_eq_singleton_iff.1 units
      rw [units] at spelled
      obtain ⟨digits, _, spells, none, rfl⟩ := List.forall₂_cons_right_iff.1 spelled
      obtain rfl := List.forall₂_nil_right_iff.1 none
      obtain rfl : cs = digits ++ rest := by simpa [unitEscape] using split
      simp [readCodePoint, readUnit_eq_ok_iff.2 ⟨digits, rfl, spells⟩, no_low, no_high]
    · obtain ⟨high, low, units⟩ : ∃ high low, codeUnits c = [high, low] := ⟨_, _, if_neg short⟩
      obtain ⟨eq, is_high, is_low⟩ := codeUnits_eq_pair_iff.1 units
      have no_low : ¬ isLowSurrogate high = true := by
        rw [isHighSurrogate_iff] at is_high
        rw [isLowSurrogate_iff]
        omega
      rw [units] at spelled
      obtain ⟨digits, _, spells, more, rfl⟩ := List.forall₂_cons_right_iff.1 spelled
      obtain ⟨digits', _, spells', none, rfl⟩ := List.forall₂_cons_right_iff.1 more
      obtain rfl := List.forall₂_nil_right_iff.1 none
      obtain rfl : cs = digits ++ (unitEscape digits' ++ rest) := by
        simpa [unitEscape] using split
      have second : readLowSurrogate (unitEscape digits' ++ rest) = .ok (low, rest) :=
        readLowSurrogate_eq_ok_iff.2 ⟨digits', rfl, spells', is_low⟩
      simp [readCodePoint, readUnit_eq_ok_iff.2 ⟨digits, rfl, spells⟩, no_low, is_high, second, eq]

/-- What is read behind a backslash is the rest of a spelling. -/
theorem readEscape_eq_ok_iff {cs rest : List Char} {c : Char} :
    readEscape cs = .ok (c, rest)
      ↔ ∃ spelling, '\\' :: cs = spelling ++ rest ∧ Spelling c spelling := by
  constructor
  · intro h
    cases cs with
    | nil => cases h
    | cons d cs =>
      rw [readEscape] at h
      split at h
      · next unit =>
        subst unit
        obtain ⟨pieces, split, spelled⟩ := readCodePoint_eq_ok_iff.1 h
        exact ⟨_, split, .units spelled⟩
      · split at h
        · next found =>
          cases h
          exact ⟨['\\', d], rfl, .letter (letterEscape?_eq_some_iff.1 found)⟩
        · cases h
  · rintro ⟨spelling, split, spelled⟩
    cases spelled with
    | plain _ backslash => exact absurd (List.cons.inj split).1.symm backslash
    | letter listed =>
      obtain ⟨-, rfl⟩ := List.cons.inj split
      exact readEscape_letter (letterEscape?_eq_some_iff.2 listed)
        (ne_of_mem_escapeLetters listed) rest
    | @units pieces spelled =>
      obtain ⟨unit, others, units⟩ := List.exists_cons_of_ne_nil (codeUnits_ne_nil c)
      have some_piece := units ▸ spelled
      obtain ⟨digits, later, -, -, rfl⟩ := List.forall₂_cons_right_iff.1 some_piece
      obtain rfl : cs = 'u' :: (digits ++ (later.flatMap unitEscape ++ rest)) := by
        simpa [unitEscape] using split
      rw [readEscape, if_pos rfl]
      exact readCodePoint_eq_ok_iff.2 ⟨digits :: later, split, spelled⟩

/-- A spelling is the character itself, or begins with a backslash. -/
theorem Spelling.eq_or_backslash {c : Char} {spelling : List Char} (h : Spelling c spelling) :
    (spelling = [c] ∧ c ≠ '"' ∧ c ≠ '\\' ∧ 0x20 ≤ c.toNat)
      ∨ ∃ tail, spelling = '\\' :: tail := by
  cases h with
  | plain quote backslash control => exact .inl ⟨rfl, quote, backslash, control⟩
  | letter => exact .inr ⟨_, rfl⟩
  | units spelled =>
    obtain ⟨unit, others, units⟩ := List.exists_cons_of_ne_nil (codeUnits_ne_nil c)
    rw [units] at spelled
    obtain ⟨digits, later, -, -, rfl⟩ := List.forall₂_cons_right_iff.1 spelled
    exact .inr ⟨_, rfl⟩

/-! ## 4. Bodies -/

/-- A body is read if it is one up to the quote that ends it, and it is
read as the characters that it spells. -/
theorem readBody_eq_ok_iff {cs text rest : List Char} :
    readBody cs = .ok (text, rest) ↔ ∃ body, cs = body ++ '"' :: rest ∧ Decodes body text := by
  constructor
  · intro h
    fun_induction readBody cs generalizing text rest with
    | case2 =>
      cases h
      exact ⟨[], rfl, .nil⟩
    | case5 tail decoded after found shorter text' after' later _ ih =>
      cases h
      obtain ⟨spelling, split, spelled⟩ := readEscape_eq_ok_iff.1 found
      obtain ⟨body, rfl, decodes⟩ := ih later
      exact ⟨spelling ++ body, by rw [split, List.append_assoc], .cons spelled decodes⟩
    | case8 c tail quote backslash control text' after' later ih =>
      cases h
      obtain ⟨body, rfl, decodes⟩ := ih later
      exact ⟨[c] ++ body, rfl, .cons (.plain quote backslash (by omega)) decodes⟩
    | _ => cases h
  · rintro ⟨body, rfl, decodes⟩
    induction decodes with
    | nil => simp [readBody]
    | @cons c spelling body text spelled _ ih =>
      rw [List.append_assoc]
      rcases spelled.eq_or_backslash with ⟨rfl, quote, backslash, control⟩ | ⟨tail, eq⟩
      · rw [List.singleton_append, readBody_plain quote backslash (by omega), ih]
      · have found : readEscape (tail ++ (body ++ '"' :: rest)) = .ok (c, body ++ '"' :: rest) :=
          readEscape_eq_ok_iff.2 ⟨spelling, by rw [eq, List.cons_append], spelled⟩
        rw [eq, List.cons_append, readBody_backslash found, ih]

theorem skipEscape_eq_ok_iff {cs rest : List Char} :
    skipEscape cs = .ok rest
      ↔ (∃ letter c, (letter, c) ∈ escapeLetters ∧ cs = letter :: rest)
        ∨ ∃ digits unit, SpellsUnit digits unit ∧ '\\' :: cs = unitEscape digits ++ rest := by
  constructor
  · intro h
    cases cs with
    | nil => cases h
    | cons d cs =>
      rw [skipEscape] at h
      split at h
      · next unit =>
        subst unit
        split at h
        · cases h
        · next found =>
          cases h
          obtain ⟨digits, rfl, spells⟩ := readUnit_eq_ok_iff.1 found
          exact .inr ⟨digits, _, spells, rfl⟩
      · split at h
        · next found =>
          cases h
          obtain ⟨c, found⟩ := Option.isSome_iff_exists.1 found
          exact .inl ⟨d, c, letterEscape?_eq_some_iff.1 found, rfl⟩
        · cases h
  · rintro (⟨letter, c, listed, rfl⟩ | ⟨digits, unit, spells, split⟩)
    · simp [skipEscape, ne_of_mem_escapeLetters listed, letterEscape?_eq_some_iff.2 listed]
    · obtain rfl : cs = 'u' :: (digits ++ rest) := by simpa [unitEscape] using split
      simp [skipEscape, readUnit_eq_ok_iff.2 ⟨digits, rfl, spells⟩]

/-- Behind a backslash a body is skipped from where its escape ends. -/
theorem skipBody_backslash {rest after : List Char} (h : skipEscape rest = .ok after) :
    skipBody ('\\' :: rest) = skipBody after := by
  rw [skipBody, if_neg (by decide), if_pos rfl]
  split
  · next failed => rw [h] at failed; cases failed
  · next found =>
    rw [h] at found
    cases found
    rfl

/-- A body is skipped if it is well formed up to the quote that ends
it. -/
theorem skipBody_eq_ok_iff {cs rest : List Char} :
    skipBody cs = .ok rest ↔ ∃ body, cs = body ++ '"' :: rest ∧ IsBody body := by
  constructor
  · intro h
    fun_induction skipBody cs with
    | case2 =>
      cases h
      exact ⟨[], rfl, .nil⟩
    | case4 tail after found _ _ ih =>
      obtain ⟨body, rfl, formed⟩ := ih h
      rcases skipEscape_eq_ok_iff.1 found with
        ⟨letter, c, listed, rfl⟩ | ⟨digits, unit, spells, split⟩
      · exact ⟨'\\' :: letter :: body, rfl, .letter listed formed⟩
      · exact ⟨unitEscape digits ++ body, by rw [split, List.append_assoc], .unit spells formed⟩
    | case6 c tail quote backslash control ih =>
      obtain ⟨body, rfl, formed⟩ := ih h
      exact ⟨c :: body, rfl, .plain quote backslash (by omega) formed⟩
    | _ => cases h
  · rintro ⟨body, rfl, formed⟩
    induction formed with
    | nil => simp [skipBody]
    | plain quote backslash control _ ih =>
      rw [List.cons_append, skipBody, if_neg quote, if_neg backslash, if_neg (by omega), ih]
    | letter listed _ ih =>
      rw [List.cons_append, List.cons_append,
        skipBody_backslash (skipEscape_eq_ok_iff.2 (.inl ⟨_, _, listed, rfl⟩)), ih]
    | @unit digits body unit spells _ ih =>
      have found : skipEscape ('u' :: (digits ++ (body ++ '"' :: rest)))
          = .ok (body ++ '"' :: rest) :=
        skipEscape_eq_ok_iff.2 (.inr ⟨digits, unit, spells, rfl⟩)
      rw [List.append_assoc, unitEscape, List.cons_append, List.cons_append,
        skipBody_backslash found, ih]

end ScriptSyntax.Json
