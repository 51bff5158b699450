/-
ScriptSyntax.Proofs.Json.Truncation — written token lists say by
themselves where they end.

A reader that knows its text to be unfinished must say so before it finds
anything else wrong with it: a key without its colon or an object without
its kind is no defect as long as more may come. So every lemma here says
of one reader that it answers `truncated` on each text that its part can
be cut down to.

The cut falls in the first part of a text, or in the rest of it
(`truncates_append_iff`). In the first case the lemma about that part
applies; in the second the part is read as it was written, by the lemmas
of `RoundTrip`, and the reader goes on with a shorter text that is cut.

`parse_cut_written` joins this with what `RoundTrip` says about longer
texts: only the whole text is read, with blanks behind it or none.
-/
import ScriptSyntax.Proofs.Json.RoundTrip

namespace ScriptSyntax.Json

open Vocabulary

/-! ## 1. Texts without their ends -/

/-- Whether a text is another one, cut short. -/
def Truncates (cut whole : List Char) : Prop :=
  ∃ c more, whole = cut ++ c :: more

theorem not_truncates_nil {cut : List Char} : ¬ Truncates cut [] := by
  rintro ⟨c, more, eq⟩
  simp at eq

theorem truncates_cons_iff {cut whole : List Char} {c : Char} :
    Truncates cut (c :: whole) ↔ cut = [] ∨ ∃ later, cut = c :: later ∧ Truncates later whole := by
  constructor
  · rintro ⟨d, more, eq⟩
    cases cut with
    | nil => exact .inl rfl
    | cons e later =>
      obtain ⟨rfl, rfl⟩ := List.cons.inj eq
      exact .inr ⟨later, rfl, d, more, rfl⟩
  · rintro (rfl | ⟨later, rfl, d, more, rfl⟩)
    · exact ⟨c, whole, rfl⟩
    · exact ⟨d, more, rfl⟩

theorem truncates_append_iff {cut front back : List Char} :
    Truncates cut (front ++ back)
      ↔ Truncates cut front ∨ ∃ later, cut = front ++ later ∧ Truncates later back := by
  induction front generalizing cut with
  | nil => simp [not_truncates_nil]
  | cons c front ih =>
    simp only [List.cons_append, truncates_cons_iff, ih]
    constructor
    · rintro (rfl | ⟨_, rfl, short | ⟨later, rfl, short⟩⟩)
      · exact .inl (.inl rfl)
      · exact .inl (.inr ⟨_, rfl, short⟩)
      · exact .inr ⟨later, rfl, short⟩
    · rintro ((rfl | ⟨_, rfl, short⟩) | ⟨later, rfl, short⟩)
      · exact .inl rfl
      · exact .inr ⟨_, rfl, .inl short⟩
      · exact .inr ⟨_, rfl, .inr ⟨later, rfl, short⟩⟩

theorem skipBlanks_of_blanks {blanks : List Char} (blank : ∀ c ∈ blanks, isBlank c = true) :
    skipBlanks blanks = [] := by
  rw [← List.isEmpty_iff, isEmpty_skipBlanks, List.all_eq_true]
  exact blank

/-- Of blanks and a character, either nothing is left but blanks, or the
cut lies behind the character. -/
theorem skipBlanks_of_truncates {blanks inner cut : List Char} {c : Char}
    (blank : ∀ d ∈ blanks, isBlank d = true) (plain : isBlank c = false)
    (h : Truncates cut (blanks ++ c :: inner)) :
    skipBlanks cut = [] ∨ ∃ later, skipBlanks cut = c :: later ∧ Truncates later inner := by
  rcases truncates_append_iff.1 h with ⟨d, more, rfl⟩ | ⟨_, rfl, short⟩
  · exact .inl (skipBlanks_of_blanks fun e he => blank e (List.mem_append_left _ he))
  · rcases truncates_cons_iff.1 short with rfl | ⟨later, rfl, behind⟩
    · exact .inl (skipBlanks_of_blanks (by simpa using blank))
    · exact .inr ⟨later, skipBlanks_append blank plain later, behind⟩

/-! ## 2. Literals -/

/-- The digits of a code unit are one byte each, so fewer digits are too
few bytes. -/
theorem readUnit_of_truncates {n : Nat} (h : n < 0x20) {cut : List Char}
    (short : Truncates cut (Hex.padded 4 n)) : readUnit cut = .error .truncated := by
  obtain ⟨c, more, split⟩ := short
  rw [Hex.padded_four (by omega)] at split
  have ascii : ∀ k : Fin 16, (Hex.digit k).utf8Size = 1 := by decide
  have high := ascii ⟨n / 16, by omega⟩
  have low := ascii ⟨n % 16, by omega⟩
  have zero : ('0' : Char).utf8Size = 1 := by decide
  have bytes := congrArg utf8Length split
  simp only [utf8Length_cons, utf8Length_nil, utf8Length_append, high, low, zero] at bytes
  have few := congrArg List.length split
  simp only [List.length_cons, List.length_nil, List.length_append] at few
  have := c.utf8Size_pos
  unfold readUnit
  rw [List.take_of_length_le (by omega), if_pos (by omega)]

theorem readBody_nil : readBody [] = .error .truncated := by
  rw [readBody]

theorem readBody_backslash_error {rest : List Char} {defect : Defect}
    (h : readEscape rest = .error defect) : readBody ('\\' :: rest) = .error defect := by
  rw [readBody, if_neg (by decide), if_pos rfl]
  split
  · next failed => exact congrArg Except.error (Except.error.inj (failed.symm.trans h))
  · next found => cases found.symm.trans h

theorem readEscape_of_truncates {n : Nat} (h : n < 0x20) {cut : List Char}
    (short : Truncates cut ('u' :: Hex.padded 4 n)) : readEscape cut = .error .truncated := by
  rcases truncates_cons_iff.1 short with rfl | ⟨digits, rfl, few⟩
  · rfl
  · rw [readEscape, if_pos rfl, readCodePoint, readUnit_of_truncates h few]

/-- A character that needs an escape is cut before its backslash, or in
what follows. -/
theorem readBody_of_truncates_escape {c : Char} {cut : List Char}
    (short : Truncates cut (escape c)) : readBody cut = .error .truncated := by
  rcases escape_shape c with ⟨letter, eq⟩ | ⟨control, eq⟩ | ⟨-, -, eq⟩
  · rw [eq] at short
    rcases truncates_cons_iff.1 short with nothing | ⟨later, rfl, behind⟩
    · rw [nothing, readBody_nil]
    · rcases truncates_cons_iff.1 behind with rfl | ⟨_, -, none⟩
      · exact readBody_backslash_error rfl
      · exact absurd none not_truncates_nil
  · rw [eq] at short
    rcases truncates_cons_iff.1 short with nothing | ⟨later, rest, behind⟩
    · rw [nothing, readBody_nil]
    · rw [rest]
      exact readBody_backslash_error (readEscape_of_truncates control behind)
  · rw [eq] at short
    rcases truncates_cons_iff.1 short with nothing | ⟨_, -, none⟩
    · rw [nothing, readBody_nil]
    · exact absurd none not_truncates_nil

/-- Without the quote that closes it, a literal is unfinished. -/
theorem readBody_of_truncates {text cut : List Char}
    (short : Truncates cut (text.flatMap escape ++ ['"'])) : readBody cut = .error .truncated := by
  induction text generalizing cut with
  | nil =>
    rcases truncates_cons_iff.1 short with rfl | ⟨_, -, nothing⟩
    · exact readBody_nil
    · exact absurd nothing not_truncates_nil
  | cons c text ih =>
    rw [List.flatMap_cons, List.append_assoc] at short
    rcases truncates_append_iff.1 short with inside | ⟨later, rfl, behind⟩
    · exact readBody_of_truncates_escape inside
    · rw [readBody_escape_cons, ih behind]

theorem readString_of_truncates {blanks : List Char} (blank : ∀ c ∈ blanks, isBlank c = true)
    {text : String} {cut : List Char} (short : Truncates cut (blanks ++ stringLiteral text)) :
    readString cut = .error .truncated := by
  rcases skipBlanks_of_truncates blank rfl short with stop | ⟨later, start, behind⟩
  · rw [readString, stop]
  · rw [readString, start]
    simp [readBody_of_truncates behind]

theorem readKind_of_truncates {blanks : List Char} (blank : ∀ c ∈ blanks, isBlank c = true)
    {name : String} {cut : List Char} (short : Truncates cut (blanks ++ stringLiteral name)) :
    readKind cut = .error .truncated := by
  rcases skipBlanks_of_truncates blank rfl short with stop | ⟨later, start, behind⟩
  · rw [readKind, stop]
  · rw [readKind, start]
    simp [readKindName, readBody_of_truncates behind]

/-! ## 3. Members -/

theorem readMembers_of_stop {fields : Fields} {cs : List Char} (stop : skipBlanks cs = []) :
    readMembers fields cs = .error .truncated := by
  rw [readMembers]
  split
  · rfl
  · next other => cases stop.symm.trans other

/-- What is wrong with a key is wrong with the members. -/
theorem readMembers_of_key_error {fields : Fields} {cs literal : List Char} {defect : Defect}
    (key : skipBlanks cs = '"' :: literal) (failed : readBody literal = .error defect) :
    readMembers fields cs = .error defect := by
  rw [readMembers]
  split
  · next other => cases key.symm.trans other
  · next other =>
    cases key.symm.trans other
    rw [if_pos rfl]
    split
    · next found => exact congrArg Except.error (Except.error.inj (found.symm.trans failed))
    · next found => cases found.symm.trans failed

/-- What is wrong with a value is wrong with the members. -/
theorem readMembers_of_field_error {fields : Fields} {cs literal name colon : List Char}
    {defect : Defect} (key : skipBlanks cs = '"' :: literal)
    (decoded : readBody literal = .ok (name, colon))
    (failed : readField fields name colon = .error defect) :
    readMembers fields cs = .error defect := by
  rw [readMembers]
  split
  · next other => cases key.symm.trans other
  · next other =>
    cases key.symm.trans other
    rw [if_pos rfl]
    split
    · next other => cases decoded.symm.trans other
    · next other =>
      cases decoded.symm.trans other
      split
      · next found => exact congrArg Except.error (Except.error.inj (found.symm.trans failed))
      · next found => cases found.symm.trans failed

/-- A text that ends too early for its first member has no closing brace
in place of it. -/
theorem readObject_of_truncated {cs : List Char}
    (members : readMembers ⟨none, none⟩ cs = .error .truncated) :
    readObject cs = .error .truncated := by
  unfold readObject
  split
  · rfl
  · next c _ first =>
    split
    · next brace =>
      have no_quote : c ≠ '"' := by
        rw [brace]
        decide
      rw [readMembers] at members
      split at members
      · next other => cases first.symm.trans other
      · next other =>
        cases first.symm.trans other
        rw [if_neg no_quote] at members
        cases members
    · exact members

section Layout

variable {layout : Layout} (blank : layout.Blank)
include blank

/-- The value of a token, cut short in the colon before it or in its
literal. -/
theorem readField_value_of_truncates {fields : Fields} (free : fields.value = none) {text : String}
    {cut : List Char} (short : Truncates cut (':' :: (layout.gap ++ stringLiteral text))) :
    readField fields ['v', 'a', 'l', 'u', 'e'] cut = .error .truncated := by
  rw [readField, if_pos rfl, free]
  rcases truncates_cons_iff.1 short with rfl | ⟨later, rfl, behind⟩
  · rfl
  · rw [readColon_colon]
    show (readString _ >>= _) = _
    rw [readString_of_truncates blank.gap_blank behind]
    rfl

theorem readField_type_of_truncates {fields : Fields} (free : fields.kind = none) {name : String}
    {cut : List Char} (short : Truncates cut (':' :: (layout.gap ++ stringLiteral name))) :
    readField fields ['t', 'y', 'p', 'e'] cut = .error .truncated := by
  rw [readField, if_neg (by decide), if_pos rfl, free]
  rcases truncates_cons_iff.1 short with rfl | ⟨later, rfl, behind⟩
  · rfl
  · rw [readColon_colon]
    show (readKind _ >>= _) = _
    rw [readKind_of_truncates blank.gap_blank behind]
    rfl

/-- A member is cut short in its key or behind it. Which field it fills
matters only behind it. -/
theorem readMembers_of_truncates {fields : Fields} {key value : String} (depth : Nat)
    (field : ∀ {cut}, Truncates cut (':' :: (layout.gap ++ stringLiteral value)) →
      readField fields key.toList cut = .error .truncated)
    {cut : List Char} (short : Truncates cut (layout.line depth ++ member layout key value)) :
    readMembers fields cut = .error .truncated := by
  have split : member layout key value = '"' :: ((key.toList.flatMap escape ++ ['"'])
      ++ ':' :: (layout.gap ++ stringLiteral value)) := by
    simp [member, stringLiteral]
  rw [split] at short
  rcases skipBlanks_of_truncates (blank.line_blank depth) rfl short with
    stop | ⟨literal, start, behind⟩
  · exact readMembers_of_stop stop
  rcases truncates_append_iff.1 behind with inside | ⟨colon, eq, later⟩
  · exact readMembers_of_key_error start (readBody_of_truncates inside)
  · have decoded : readBody literal = .ok (key.toList, colon) := by
      rw [eq, List.append_assoc]
      exact readBody_escape key.toList colon
    exact readMembers_of_field_error start decoded (field later)

/-! ## 4. Tokens -/

/-- Either member may be cut short, or what stands behind it. -/
theorem readMembers_of_truncates_token (depth : Nat) (token : Token) {cut : List Char}
    (short : Truncates cut (layout.line (depth + 1) ++ member layout "value" token.value
      ++ ',' :: (layout.line (depth + 1) ++ member layout "type" token.kind.name
      ++ (layout.line depth ++ ['\x7d'])))) :
    readMembers ⟨none, none⟩ cut = .error .truncated := by
  rcases truncates_append_iff.1 short with inside | ⟨comma, rfl, rest⟩
  · exact readMembers_of_truncates blank (depth + 1)
      (fun short => readField_value_of_truncates blank rfl short) inside
  rw [List.append_assoc, readMembers_member blank (depth + 1)
    (readField_value rfl blank.gap_blank token.value comma)]
  rcases truncates_cons_iff.1 rest with rfl | ⟨later, rfl, second⟩
  · rfl
  rw [skipBlanks_cons rfl]
  show readMembers ⟨some token.value, none⟩ later = _
  rcases truncates_append_iff.1 second with inside | ⟨behind, rfl, last⟩
  · exact readMembers_of_truncates blank (depth + 1)
      (fun short => readField_type_of_truncates blank rfl short) inside
  rw [List.append_assoc, readMembers_member blank (depth + 1)
    (readField_type rfl blank.gap_blank token.kind behind)]
  rcases skipBlanks_of_truncates (blank.line_blank depth) rfl last with stop | ⟨_, -, none⟩
  · rw [stop]
  · exact absurd none not_truncates_nil

theorem readToken_of_truncates {blanks : List Char} (h : ∀ c ∈ blanks, isBlank c = true)
    (depth : Nat) (token : Token) {cut : List Char}
    (short : Truncates cut (blanks ++ tokenText layout depth token)) :
    readToken cut = .error .truncated := by
  have split : tokenText layout depth token
      = '\x7b' :: (layout.line (depth + 1) ++ member layout "value" token.value
        ++ ',' :: (layout.line (depth + 1) ++ member layout "type" token.kind.name
        ++ (layout.line depth ++ ['\x7d']))) := by
    simp [tokenText]
  rw [split] at short
  rcases skipBlanks_of_truncates h rfl short with stop | ⟨inner, start, behind⟩
  · rw [readToken, stop]
  rw [readToken, start]
  exact readObject_of_truncated (readMembers_of_truncates_token blank depth token behind)

end Layout

/-! ## 5. Lists -/

/-- What is wrong with a token is wrong with the tokens. -/
theorem readTokens_of_error {cs : List Char} {defect : Defect}
    (failed : readToken cs = .error defect) : readTokens cs = .error defect := by
  rw [readTokens]
  split
  · next found => exact congrArg Except.error (Except.error.inj (found.symm.trans failed))
  · next found => cases found.symm.trans failed

/-- A text that ends too early for its first token has no closing bracket
in place of it. -/
theorem readArray_of_truncated {cs : List Char} (tokens : readTokens cs = .error .truncated) :
    readArray cs = .error .truncated := by
  unfold readArray
  split
  · rfl
  · next first =>
    split
    · next bracket =>
      have failed : readToken cs = .error .malformed := by
        rw [readToken, first, bracket]
        rfl
      cases tokens.symm.trans (readTokens_of_error failed)
    · exact tokens

section Layout

variable {layout : Layout} (blank : layout.Blank)
include blank

theorem readTokens_of_truncates (token : Token) (tokens : List Token) {cut : List Char}
    (short : Truncates cut
      (layout.line 1 ++ tokenText layout 1 token ++ textBehind layout tokens)) :
    readTokens cut = .error .truncated := by
  induction tokens generalizing token cut with
  | nil =>
    rcases truncates_append_iff.1 short with inside | ⟨behind, rfl, last⟩
    · exact readTokens_of_error (readToken_of_truncates blank (blank.line_blank 1) 1 token inside)
    rw [List.append_assoc,
      readTokens_eq (readToken_tokenText blank (blank.line_blank 1) 1 token behind)]
    rcases skipBlanks_of_truncates (blank.line_blank 0) rfl last with stop | ⟨_, -, none⟩
    · rw [stop]
    · exact absurd none not_truncates_nil
  | cons next tokens ih =>
    rcases truncates_append_iff.1 short with inside | ⟨behind, rfl, rest⟩
    · exact readTokens_of_error (readToken_of_truncates blank (blank.line_blank 1) 1 token inside)
    rw [List.append_assoc,
      readTokens_eq (readToken_tokenText blank (blank.line_blank 1) 1 token behind)]
    rcases truncates_cons_iff.1 rest with rfl | ⟨later, rfl, others⟩
    · rfl
    rw [skipBlanks_cons rfl]
    show (readTokens later).map _ = _
    rw [ih next (by rwa [List.append_assoc])]
    rfl

/-- Whatever of its end a laid out list has lost, the text is found to
end too early. -/
theorem parseChars_of_truncates (tokens : List Token) {cut : List Char}
    (short : Truncates cut (listText layout tokens)) : parseChars cut = .error .truncated := by
  obtain ⟨inner, split, array⟩ : ∃ inner, listText layout tokens = '[' :: inner
      ∧ ∀ {cut}, Truncates cut inner → readArray cut = .error .truncated := by
    cases tokens with
    | nil =>
      refine ⟨[']'], rfl, fun short => ?_⟩
      rcases truncates_cons_iff.1 short with rfl | ⟨_, -, none⟩
      · rfl
      · exact absurd none not_truncates_nil
    | cons token tokens =>
      refine ⟨_, listText_cons layout token tokens, fun short => ?_⟩
      rw [← List.append_assoc] at short
      exact readArray_of_truncated (readTokens_of_truncates blank token tokens short)
  rw [split] at short
  rcases truncates_cons_iff.1 short with rfl | ⟨later, rfl, behind⟩
  · rfl
  · rw [parseChars, skipBlanks_cons rfl]
    simp [array behind]

end Layout

/-! ## 6. The layouts in use -/

/-- Of a text in either layout nothing shorter is read, and the only
reason is that it ends too early. Nothing longer is read either, unless
it is longer by blanks. -/
theorem parse_cut_written (tokens : List Token) (text : String)
    (written : text = compact tokens ∨ text = pretty tokens) :
    (∀ cut more : String, text = cut ++ more → more ≠ "" → parse cut = .error .truncated)
      ∧ ∀ rest : String, parse (text ++ rest)
        = if rest.toList.all isBlank then .ok tokens else .error .malformed := by
  obtain ⟨layout, blank, chars⟩ :
      ∃ layout : Layout, layout.Blank ∧ text.toList = listText layout tokens := by
    rcases written with rfl | rfl
    · exact ⟨_, Layout.blank_compact, String.toList_ofList⟩
    · exact ⟨_, Layout.blank_pretty, String.toList_ofList⟩
  constructor
  · intro cut more split some
    obtain ⟨c, later, first⟩ := List.exists_cons_of_ne_nil (mt String.toList_eq_nil_iff.1 some)
    have short : Truncates cut.toList (listText layout tokens) :=
      ⟨c, later, by rw [← chars, split, String.toList_append, first]⟩
    exact parseChars_of_truncates blank tokens short
  · intro rest
    rw [parse, String.toList_append, chars, parseChars_listText_append blank, isEmpty_skipBlanks]

/-- A cut in the middle of an escape, and a bracket too many. -/
theorem parse_cut_written_quote :
    compact [⟨"\"", .string⟩] = "[\x7b\"value\":\"\\" ++ "\"\",\"type\":\"String\"\x7d]"
      ∧ parse "[\x7b\"value\":\"\\" = .error .truncated
      ∧ parse (compact [⟨"\"", .string⟩] ++ "]") = .error .malformed := by
  have written : compact [⟨"\"", .string⟩]
      = "[\x7b\"value\":\"\\" ++ "\"\",\"type\":\"String\"\x7d]" := by decide +kernel
  obtain ⟨cut, longer⟩ := parse_cut_written [⟨"\"", .string⟩] _ (.inl rfl)
  exact ⟨written, cut _ _ written (by decide), (longer "]").trans (if_neg (by decide))⟩

end ScriptSyntax.Json
