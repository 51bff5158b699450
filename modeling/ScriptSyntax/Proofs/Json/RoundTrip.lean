/-
ScriptSyntax.Proofs.Json.RoundTrip — written token lists are read back,
whatever blanks they are laid out with.

One writer serves all layouts, so nothing is proved here of the compact
or of the pretty text by itself: the lemmas are about any layout that
puts blanks, and only blanks, between the parts of a text.

* `withoutBlanks` deletes the blanks of a text that lie outside of its
  literals. It follows quotes and backslashes, for a quote that is
  escaped closes no literal. `withoutBlanks_listText` — what is left of
  a laid out list is the compact one.
* `parseChars_listText_append` — a laid out list is read back, and what
  stands behind it decides only whether the text ends there.
* `parse_written` puts the two together for the layouts in use.
-/
import ScriptSyntax.Json.Writing
import ScriptSyntax.Json.Reading

namespace ScriptSyntax.Json

open Vocabulary

/-! ## 1. Blanks outside of literals -/

/-- Where a character of a JSON text stands. -/
inductive Place where
  | outside
  /-- Behind the opening quote of a literal. -/
  | inside
  /-- Behind a backslash in a literal. -/
  | escaped
  deriving DecidableEq

/-- The place behind a character. -/
def Place.behind (c : Char) : Place → Place
  | .outside => if c = '"' then .inside else .outside
  | .inside => if c = '"' then .outside else if c = '\\' then .escaped else .inside
  | .escaped => .inside

/-- A text, from a place in it on, without the blanks that lie outside of
its literals. -/
def withoutBlanks (place : Place) : List Char → List Char
  | [] => []
  | c :: rest =>
    let later := withoutBlanks (place.behind c) rest
    if place = .outside ∧ isBlank c = true then later else c :: later

/-- Whether a layout puts nothing but blanks between the parts of a
text. -/
structure Layout.Blank (layout : Layout) : Prop where
  line_blank : ∀ depth, ∀ c ∈ layout.line depth, isBlank c = true
  gap_blank : ∀ c ∈ layout.gap, isBlank c = true

theorem Layout.blank_compact : Layout.compact.Blank where
  line_blank := by simp [Layout.compact]
  gap_blank := by simp [Layout.compact]

theorem Layout.blank_pretty : Layout.pretty.Blank where
  line_blank := by
    intro depth c hc
    rcases List.mem_cons.1 hc with rfl | hc
    · rfl
    · rw [List.eq_of_mem_replicate hc]
      rfl
  gap_blank := by simp [Layout.pretty, isBlank]

/-- What the text of a list holds behind its first token. -/
def textBehind (layout : Layout) : List Token → List Char
  | [] => layout.line 0 ++ [']']
  | token :: tokens =>
    ',' :: (layout.line 1 ++ (tokenText layout 1 token ++ textBehind layout tokens))

theorem listText_cons (layout : Layout) (token : Token) (tokens : List Token) :
    listText layout (token :: tokens)
      = '[' :: (layout.line 1 ++ (tokenText layout 1 token ++ textBehind layout tokens)) := by
  have behind : tokens.flatMap (fun token => ',' :: layout.line 1 ++ tokenText layout 1 token)
      ++ (layout.line 0 ++ [']']) = textBehind layout tokens := by
    induction tokens with
    | nil => rfl
    | cons token tokens ih => simp [textBehind, ← ih]
  simp [listText, ← behind]

/-! ## 2. What is left without them -/

theorem withoutBlanks_blanks {blanks : List Char} (h : ∀ c ∈ blanks, isBlank c = true)
    (rest : List Char) :
    withoutBlanks .outside (blanks ++ rest) = withoutBlanks .outside rest := by
  induction blanks with
  | nil => rfl
  | cons c blanks ih =>
    have blank : isBlank c = true := h c List.mem_cons_self
    have quote : c ≠ '"' := by
      intro eq
      rw [eq] at blank
      cases blank
    have later := ih fun d hd => h d (List.mem_cons_of_mem _ hd)
    simp [withoutBlanks, Place.behind, blank, quote, later]

/-- Between literals everything but blanks is kept. -/
theorem withoutBlanks_mark {c : Char} (quote : c ≠ '"') (plain : isBlank c = false)
    (rest : List Char) :
    withoutBlanks .outside (c :: rest) = c :: withoutBlanks .outside rest := by
  simp [withoutBlanks, Place.behind, quote, plain]

/-- Inside of a literal everything is kept. -/
theorem withoutBlanks_inside {run : List Char} (h : ∀ c ∈ run, c ≠ '"' ∧ c ≠ '\\')
    (rest : List Char) :
    withoutBlanks .inside (run ++ rest) = run ++ withoutBlanks .inside rest := by
  induction run with
  | nil => rfl
  | cons c run ih =>
    have here := h c List.mem_cons_self
    have later := ih fun d hd => h d (List.mem_cons_of_mem _ hd)
    simp [withoutBlanks, Place.behind, here, later]

/-- A backslash and the character behind it are kept together. -/
theorem withoutBlanks_backslash (c : Char) (rest : List Char) :
    withoutBlanks .inside ('\\' :: c :: rest) = '\\' :: c :: withoutBlanks .inside rest := by
  simp [withoutBlanks, Place.behind]

theorem plain_of_mem_padded {width n : Nat} {c : Char} (h : c ∈ Hex.padded width n) :
    c ≠ '"' ∧ c ≠ '\\' := by
  have digit : (Hex.value? c).isSome := by
    rcases List.mem_append.1 h with zero | digit
    · rw [List.eq_of_mem_replicate zero]
      decide
    · exact Hex.isSome_value?_of_mem_digits digit
  constructor
  · intro eq
    rw [eq] at digit
    cases digit
  · intro eq
    rw [eq] at digit
    cases digit

/-- A character is written as an escape of two characters, as one that
holds its code point if it is a control, or as it is. -/
theorem escape_shape (c : Char) :
    (∃ letter, escape c = ['\\', letter])
      ∨ c.toNat < 0x20 ∧ escape c = '\\' :: 'u' :: Hex.padded 4 c.toNat
      ∨ c ≠ '"' ∧ c ≠ '\\' ∧ escape c = [c] := by
  unfold escape
  iterate 7
    split
    · exact .inl ⟨_, rfl⟩
  split
  · next control => exact .inr (.inl ⟨control, rfl⟩)
  · next quote backslash _ _ _ _ _ _ => exact .inr (.inr ⟨quote, backslash, rfl⟩)

/-- A written character neither ends the literal nor leaves an escape
open. -/
theorem withoutBlanks_escape (c : Char) (rest : List Char) :
    withoutBlanks .inside (escape c ++ rest) = escape c ++ withoutBlanks .inside rest := by
  rcases escape_shape c with ⟨letter, eq⟩ | ⟨-, eq⟩ | ⟨quote, backslash, eq⟩
  · rw [eq]
    exact withoutBlanks_backslash letter rest
  · have digits := withoutBlanks_inside (fun d => @plain_of_mem_padded 4 c.toNat d) rest
    rw [eq, List.cons_append, List.cons_append, withoutBlanks_backslash, digits]
    rfl
  · rw [eq]
    exact withoutBlanks_inside (List.forall_mem_singleton.2 ⟨quote, backslash⟩) rest

/-- A literal is kept whole, and ends outside. -/
theorem withoutBlanks_stringLiteral (text : String) (rest : List Char) :
    withoutBlanks .outside (stringLiteral text ++ rest)
      = stringLiteral text ++ withoutBlanks .outside rest := by
  have body (cs : List Char) :
      withoutBlanks .inside (cs.flatMap escape ++ '"' :: rest)
        = cs.flatMap escape ++ '"' :: withoutBlanks .outside rest := by
    induction cs with
    | nil => simp [withoutBlanks, Place.behind]
    | cons c cs ih => simp [withoutBlanks_escape, ih]
  simp [stringLiteral, withoutBlanks, Place.behind, body, isBlank]

section Layout

variable {layout : Layout} (blank : layout.Blank)
include blank

theorem withoutBlanks_member (key value : String) (rest : List Char) :
    withoutBlanks .outside (member layout key value ++ rest)
      = member Layout.compact key value ++ withoutBlanks .outside rest := by
  have colon (later : List Char) := @withoutBlanks_mark ':' (by decide) rfl later
  simp [member, Layout.compact, withoutBlanks_stringLiteral, colon,
    withoutBlanks_blanks blank.gap_blank]

/-- Without blanks a token is written alike at every depth. -/
theorem withoutBlanks_tokenText (depth : Nat) (token : Token) (rest : List Char) :
    withoutBlanks .outside (tokenText layout depth token ++ rest)
      = tokenText Layout.compact 0 token ++ withoutBlanks .outside rest := by
  have mark (c : Char) (h : c ≠ '"' ∧ isBlank c = false) := withoutBlanks_mark h.1 h.2
  simp only [tokenText, List.append_assoc, List.cons_append, List.nil_append,
    withoutBlanks_blanks (blank.line_blank _), withoutBlanks_member blank,
    mark '\x7b' (by decide), mark ',' (by decide), mark '\x7d' (by decide)]
  rfl

theorem withoutBlanks_textBehind (tokens : List Token) :
    withoutBlanks .outside (textBehind layout tokens) = textBehind Layout.compact tokens := by
  induction tokens with
  | nil =>
    rw [textBehind, withoutBlanks_blanks (blank.line_blank _)]
    rfl
  | cons token tokens ih =>
    rw [textBehind, withoutBlanks_mark (by decide) rfl, withoutBlanks_blanks (blank.line_blank _),
      withoutBlanks_tokenText blank, ih]
    rfl

/-- Without blanks a list is compact, however it was laid out. -/
theorem withoutBlanks_listText (tokens : List Token) :
    withoutBlanks .outside (listText layout tokens) = listText Layout.compact tokens := by
  cases tokens with
  | nil =>
    show withoutBlanks .outside ['[', ']'] = ['[', ']']
    decide
  | cons token tokens =>
    rw [listText_cons, listText_cons, withoutBlanks_mark (by decide) rfl,
      withoutBlanks_blanks (blank.line_blank _), withoutBlanks_tokenText blank,
      withoutBlanks_textBehind blank]
    rfl

end Layout

/-! ## 3. Reading the parts of a token -/

theorem skipBlanks_append {blanks : List Char} (h : ∀ c ∈ blanks, isBlank c = true) {c : Char}
    (plain : isBlank c = false) (rest : List Char) :
    skipBlanks (blanks ++ c :: rest) = c :: rest := by
  rw [skipBlanks, List.dropWhile_append_of_pos h]
  simp [plain]

theorem skipBlanks_cons {c : Char} (plain : isBlank c = false) (rest : List Char) :
    skipBlanks (c :: rest) = c :: rest := by
  simp [skipBlanks, plain]

theorem isEmpty_skipBlanks (cs : List Char) : (skipBlanks cs).isEmpty = cs.all isBlank := by
  induction cs with
  | nil => rfl
  | cons c cs ih =>
    cases blank : isBlank c with
    | false => simp [skipBlanks, blank]
    | true => simpa [skipBlanks, blank] using ih

/-- Behind its opening quote, a literal is its body and the closing
one. -/
theorem stringLiteral_append (text : String) (rest : List Char) :
    stringLiteral text ++ rest = '"' :: (text.toList.flatMap escape ++ '"' :: rest) := by
  simp [stringLiteral]

theorem readString_stringLiteral {blanks : List Char} (h : ∀ c ∈ blanks, isBlank c = true)
    (text : String) (rest : List Char) :
    readString (blanks ++ (stringLiteral text ++ rest)) = .ok (text, rest) := by
  rw [readString, stringLiteral_append, skipBlanks_append h rfl]
  simp [readBody_escape]

theorem readKind_stringLiteral {blanks : List Char} (h : ∀ c ∈ blanks, isBlank c = true)
    (kind : TokenKind) (rest : List Char) :
    readKind (blanks ++ (stringLiteral kind.name ++ rest)) = .ok (kind, rest) := by
  rw [readKind, stringLiteral_append, skipBlanks_append h rfl]
  simp [readKindName, readBody_escape]

theorem readColon_colon (rest : List Char) : readColon (':' :: rest) = .ok rest := by
  rw [readColon, skipBlanks_cons rfl]
  rfl

/-- The value of a token is read into a field that is still free. -/
theorem readField_value {fields : Fields} (free : fields.value = none) {blanks : List Char}
    (h : ∀ c ∈ blanks, isBlank c = true) (text : String) (rest : List Char) :
    readField fields ['v', 'a', 'l', 'u', 'e']
        (':' :: (blanks ++ (stringLiteral text ++ rest)))
      = .ok ({ fields with value := some text }, rest) := by
  rw [readField, if_pos rfl, free, readColon_colon]
  show (readString _ >>= _) = _
  rw [readString_stringLiteral h]
  rfl

/-- The kind of a token is read into a field that is still free. -/
theorem readField_type {fields : Fields} (free : fields.kind = none) {blanks : List Char}
    (h : ∀ c ∈ blanks, isBlank c = true) (kind : TokenKind) (rest : List Char) :
    readField fields ['t', 'y', 'p', 'e']
        (':' :: (blanks ++ (stringLiteral kind.name ++ rest)))
      = .ok ({ fields with kind := some kind }, rest) := by
  rw [readField, if_neg (by decide), if_pos rfl, free, readColon_colon]
  show (readKind _ >>= _) = _
  rw [readKind_stringLiteral h]
  rfl

/-! ## 4. Reading tokens -/

/-- A member is read, and the character behind it says whether it is the
last one. -/
theorem readMembers_eq {fields found : Fields} {cs literal name colon behind : List Char}
    (key : skipBlanks cs = '"' :: literal) (decoded : readBody literal = .ok (name, colon))
    (field : readField fields name colon = .ok (found, behind)) :
    readMembers fields cs =
      match skipBlanks behind with
      | [] => .error .truncated
      | d :: after =>
        if d = ',' then readMembers found after
        else if d = '\x7d' then found.token.map fun token => (token, after)
        else .error .malformed := by
  rw [readMembers]
  split
  · next other => cases key.symm.trans other
  · next other =>
    cases key.symm.trans other
    rw [if_pos rfl]
    split
    · next other => cases decoded.symm.trans other
    · next other =>
      cases decoded.symm.trans other
      split
      · next other => cases field.symm.trans other
      · next other =>
        cases field.symm.trans other
        split
        · next stop => rw [stop]
        · next next => simp only [next]

/-- A token is read, and the character behind it says whether it is the
last one. -/
theorem readTokens_eq {cs rest : List Char} {token : Token}
    (found : readToken cs = .ok (token, rest)) :
    readTokens cs =
      match skipBlanks rest with
      | [] => .error .truncated
      | c :: after =>
        if c = ',' then (readTokens after).map fun later => (token :: later.1, later.2)
        else if c = ']' then .ok ([token], after)
        else .error .malformed := by
  rw [readTokens]
  split
  · next other => cases found.symm.trans other
  · next other =>
    cases found.symm.trans other
    split
    · next stop => rw [stop]
    · next after next =>
      simp only [next]
      cases readTokens after <;> rfl

section Layout

variable {layout : Layout} (blank : layout.Blank)
include blank

/-- Behind the blanks of its line, a member begins with a quote. -/
theorem skipBlanks_member (depth : Nat) (key value : String) (rest : List Char) :
    skipBlanks (layout.line depth ++ (member layout key value ++ rest))
      = '"' :: (key.toList.flatMap escape
        ++ '"' :: ':' :: (layout.gap ++ (stringLiteral value ++ rest))) := by
  simp only [member, List.append_assoc, List.cons_append, stringLiteral_append key]
  exact skipBlanks_append (blank.line_blank depth) rfl _

theorem readMembers_member {fields found : Fields} {key value : String} {rest : List Char}
    (depth : Nat)
    (field : readField fields key.toList (':' :: (layout.gap ++ (stringLiteral value ++ rest)))
      = .ok (found, rest)) :
    readMembers fields (layout.line depth ++ (member layout key value ++ rest)) =
      match skipBlanks rest with
      | [] => .error .truncated
      | d :: after =>
        if d = ',' then readMembers found after
        else if d = '\x7d' then found.token.map fun token => (token, after)
        else .error .malformed :=
  readMembers_eq (skipBlanks_member blank depth key value rest) (readBody_escape key.toList _) field

/-- The value of a token is read, then its kind, and nothing else. -/
theorem readObject_members (depth : Nat) (token : Token) (rest : List Char) :
    readObject (layout.line (depth + 1) ++ (member layout "value" token.value
        ++ ',' :: (layout.line (depth + 1) ++ (member layout "type" token.kind.name
        ++ (layout.line depth ++ '\x7d' :: rest)))))
      = .ok (token, rest) := by
  have value (later : List Char) :
      readField ⟨none, none⟩ "value".toList
          (':' :: (layout.gap ++ (stringLiteral token.value ++ later)))
        = .ok (⟨some token.value, none⟩, later) :=
    readField_value rfl blank.gap_blank token.value later
  have type (later : List Char) :
      readField ⟨some token.value, none⟩ "type".toList
          (':' :: (layout.gap ++ (stringLiteral token.kind.name ++ later)))
        = .ok (⟨some token.value, some token.kind⟩, later) :=
    readField_type rfl blank.gap_blank token.kind later
  rw [readObject, skipBlanks_member blank]
  show readMembers ⟨none, none⟩ _ = _
  rw [readMembers_member blank (depth + 1) (value _), skipBlanks_cons rfl]
  show readMembers ⟨some token.value, none⟩ _ = _
  rw [readMembers_member blank (depth + 1) (type _), skipBlanks_append (blank.line_blank depth) rfl]
  rfl

/-- A token is read, blanks before it or not. -/
theorem readToken_tokenText {blanks : List Char} (h : ∀ c ∈ blanks, isBlank c = true)
    (depth : Nat) (token : Token) (rest : List Char) :
    readToken (blanks ++ (tokenText layout depth token ++ rest)) = .ok (token, rest) := by
  simp only [tokenText, List.append_assoc, List.cons_append, List.nil_append]
  rw [readToken, skipBlanks_append h rfl]
  exact readObject_members blank depth token rest

/-! ## 5. Reading lists -/

/-- The tokens of a list are read up to the bracket that closes it. -/
theorem readTokens_textBehind (token : Token) (tokens : List Token) (rest : List Char) :
    readTokens (layout.line 1 ++ (tokenText layout 1 token ++ (textBehind layout tokens ++ rest)))
      = .ok (token :: tokens, rest) := by
  induction tokens generalizing token with
  | nil =>
    rw [readTokens_eq (readToken_tokenText blank (blank.line_blank 1) 1 token _), textBehind,
      List.append_assoc, List.singleton_append, skipBlanks_append (blank.line_blank 0) rfl]
    rfl
  | cons next tokens ih =>
    rw [readTokens_eq (readToken_tokenText blank (blank.line_blank 1) 1 token _), textBehind,
      List.cons_append, skipBlanks_cons rfl, List.append_assoc, List.append_assoc]
    show (readTokens _).map _ = _
    rw [ih]
    rfl

theorem readArray_textBehind (token : Token) (tokens : List Token) (rest : List Char) :
    readArray (layout.line 1 ++ (tokenText layout 1 token ++ (textBehind layout tokens ++ rest)))
      = .ok (token :: tokens, rest) := by
  obtain ⟨later, brace⟩ : ∃ later, tokenText layout 1 token = '\x7b' :: later := ⟨_, rfl⟩
  rw [← readTokens_textBehind blank, readArray, brace, List.cons_append,
    skipBlanks_append (blank.line_blank 1) rfl]
  rfl

/-- A list is read, and behind it only blanks may stand. -/
theorem parseChars_listText_append (tokens : List Token) (rest : List Char) :
    parseChars (listText layout tokens ++ rest)
      = if (skipBlanks rest).isEmpty then .ok tokens else .error .malformed := by
  obtain ⟨array, bracket, found⟩ :
      ∃ array, listText layout tokens ++ rest = '[' :: array
        ∧ readArray array = .ok (tokens, rest) := by
    cases tokens with
    | nil =>
      refine ⟨']' :: rest, rfl, ?_⟩
      rw [readArray, skipBlanks_cons rfl]
      rfl
    | cons token tokens =>
      refine ⟨_, ?_, readArray_textBehind blank token tokens rest⟩
      simp [listText_cons]
  rw [bracket, parseChars, skipBlanks_cons rfl]
  simp [found]

theorem parseChars_listText (tokens : List Token) :
    parseChars (listText layout tokens) = .ok tokens := by
  have whole := parseChars_listText_append blank tokens []
  rw [List.append_nil] at whole
  exact whole

end Layout

/-! ## 6. The layouts in use -/

/-- A token list is read back from its compact text and from its pretty
one, and these differ in nothing but blanks outside of literals. -/
theorem parse_written (tokens : List Token) :
    parse (compact tokens) = .ok tokens ∧ parse (pretty tokens) = .ok tokens
      ∧ withoutBlanks .outside (pretty tokens).toList = (compact tokens).toList := by
  simp only [parse, compact, pretty, String.toList_ofList]
  exact ⟨parseChars_listText Layout.blank_compact tokens,
    parseChars_listText Layout.blank_pretty tokens,
    withoutBlanks_listText Layout.blank_pretty tokens⟩

end ScriptSyntax.Json
