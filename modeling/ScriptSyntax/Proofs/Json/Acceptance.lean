/-
ScriptSyntax.Proofs.Json.Acceptance — a text is read as a token list just
if it denotes that list.

Each reader gets one equivalence: it answers with this part and this rest
if the text begins with a text of the part and goes on with the rest. The
parts of a token end with a quote or a bracket, so nothing has to be asked
of the rest.

* `readKind_eq_ok_iff`, `readCouple_eq_ok_iff` — what has no loop.
* `readObject_eq_ok_iff` — the members of an object. While they are read,
  the fields hold what was found (`Fills`, `Gathers`); at the end both are
  filled, and so each name has come up once (`gathers_iff`).
* `readTokens_eq_ok_iff` — the tokens of a list, and from it
  `parse_eq_ok_iff`.
-/
import ScriptSyntax.Proofs.Json.Values

namespace ScriptSyntax.Json

open Vocabulary

/-! ## 1. Strings and kinds -/

theorem readBody_append_quote {body text : List Char} (decodes : Decodes body text)
    (rest : List Char) : readBody (body ++ '"' :: rest) = .ok (text, rest) :=
  readBody_eq_ok_iff.2 ⟨body, rfl, decodes⟩

theorem readString_eq_ok_iff {cs rest : List Char} {value : String} :
    readString cs = .ok (value, rest) ↔ BeginsWith (IsString · value) cs rest := by
  constructor
  · intro h
    unfold readString at h
    split at h
    · cases h
    · next start =>
      split at h
      · next quote =>
        split at h
        · cases h
        · next text _ found =>
          cases h
          obtain ⟨-, blanks, blank, rfl⟩ := skipBlanks_eq_cons_iff.1 start
          obtain ⟨body, rfl, decodes⟩ := readBody_eq_ok_iff.1 found
          refine ⟨blanks, inQuotes body, blank, ⟨body, rfl, ?_⟩, by simp [quote, inQuotes]⟩
          rwa [String.toList_ofList]
      · cases h
  · rintro ⟨blanks, _, blank, ⟨body, rfl, decodes⟩, rfl⟩
    rw [readString, inQuotes, skipBlanks_brackets blank rfl body '"' rest]
    simp [readBody_append_quote decodes]

theorem readKindName_eq_ok_iff {cs rest : List Char} {kind : TokenKind} :
    readKindName cs = .ok (kind, rest)
      ↔ ∃ body, cs = body ++ '"' :: rest ∧ Decodes body kind.name.toList := by
  constructor
  · intro h
    unfold readKindName at h
    split at h
    · cases h
    · next name _ found =>
      split at h
      · next named =>
        cases h
        obtain ⟨body, rfl, decodes⟩ := readBody_eq_ok_iff.1 found
        refine ⟨body, rfl, ?_⟩
        rwa [TokenKind.name_of_ofName? named, String.toList_ofList]
      · cases h
  · rintro ⟨body, rfl, decodes⟩
    simp [readKindName, readBody_append_quote decodes]

theorem readKindKey_eq_ok_iff {cs rest : List Char} {kind : TokenKind} :
    readKindKey cs = .ok (kind, rest)
      ↔ ∃ blanks body, IsBlanks blanks ∧ Decodes body kind.name.toList
        ∧ cs = blanks ++ '"' :: (body ++ '"' :: rest) := by
  constructor
  · intro h
    unfold readKindKey at h
    split at h
    · cases h
    · next start =>
      split at h
      · next quote =>
        obtain ⟨-, blanks, blank, rfl⟩ := skipBlanks_eq_cons_iff.1 start
        obtain ⟨body, rfl, decodes⟩ := readKindName_eq_ok_iff.1 h
        exact ⟨blanks, body, blank, decodes, by rw [quote]⟩
      · cases h
  · rintro ⟨blanks, body, blank, decodes, rfl⟩
    rw [readKindKey, skipBlanks_append blank rfl]
    exact readKindName_eq_ok_iff.2 ⟨body, rfl, decodes⟩

theorem readNull_eq_ok_iff {cs rest : List Char} :
    readNull cs = .ok rest ↔ BeginsWith (· = ['n', 'u', 'l', 'l']) cs rest := by
  constructor
  · intro h
    unfold readNull at h
    split at h
    · cases h
    · next start =>
      split at h
      · next first =>
        obtain ⟨-, blanks, blank, rfl⟩ := skipBlanks_eq_cons_iff.1 start
        exact ⟨blanks, _, blank, rfl, by rw [first, readWord_eq_ok_iff.1 h]; rfl⟩
      · cases h
  · rintro ⟨blanks, _, blank, rfl, rfl⟩
    rw [readNull, List.cons_append, skipBlanks_append blank rfl]
    exact readWord_eq_ok_iff.2 rfl

theorem readClose_eq_ok_iff {cs rest : List Char} :
    readClose cs = .ok rest ↔ skipBlanks cs = '\x7d' :: rest := by
  unfold readClose
  split
  · next stop => simp [stop]
  · next start =>
    split
    · next close => simp [start, close]
    · next other => simp [start, other]

/-- Behind the opening brace of a kind stands its one member. -/
theorem readKind_brace_iff {cs inner rest : List Char} {kind : TokenKind}
    (start : skipBlanks cs = '\x7b' :: inner) :
    readKind cs = .ok (kind, rest)
      ↔ ∃ member : Member, member.Spaced ∧ Decodes member.key kind.name.toList
        ∧ member.value = ['n', 'u', 'l', 'l'] ∧ RowThen '\x7d' [member.text] inner rest := by
  simp only [readKind, start]
  constructor
  · intro h
    obtain ⟨⟨kind', colon⟩, found_key, h⟩ := of_bind_eq_ok h
    obtain ⟨value, found_colon, h⟩ := of_bind_eq_ok h
    obtain ⟨behind, found_null, h⟩ := of_bind_eq_ok h
    obtain ⟨rest', close, h⟩ := of_bind_eq_ok h
    cases h
    obtain ⟨before, key, blank, decodes, rfl⟩ := readKindKey_eq_ok_iff.1 found_key
    obtain ⟨gap, gap_blank, rfl⟩ := readColon_eq_ok_iff.1 found_colon
    obtain ⟨lead, null, lead_blank, rfl, rfl⟩ := readNull_eq_ok_iff.1 found_null
    let member : Member := ⟨key, gap, lead, ['n', 'u', 'l', 'l']⟩
    exact ⟨member, ⟨gap_blank, lead_blank⟩, decodes, rfl, (rowThen_singleton_iff rfl).2
      ⟨before, behind, blank, by rw [member.text_append], readClose_eq_ok_iff.1 close⟩⟩
  · rintro ⟨member, spaced, decodes, null, row⟩
    obtain ⟨before, behind, blank, rfl, close⟩ := (rowThen_singleton_iff rfl).1 row
    have key (colon : List Char) :
        readKindKey (before ++ '"' :: (member.key ++ '"' :: colon)) = .ok (kind, colon) :=
      readKindKey_eq_ok_iff.2 ⟨before, member.key, blank, decodes, rfl⟩
    have value : readNull (member.lead ++ (member.value ++ behind)) = .ok behind :=
      readNull_eq_ok_iff.2 ⟨member.lead, member.value, spaced.2, null, rfl⟩
    rw [member.text_append]
    show (readKindKey _ >>= _) = _
    rw [key]
    show (readColon _ >>= _) = _
    rw [spaced.readColon]
    show (readNull _ >>= _) = _
    rw [value]
    show (readClose _ >>= _) = _
    rw [readClose_eq_ok_iff.2 close]
    rfl

theorem readKind_eq_ok_iff {cs rest : List Char} {kind : TokenKind} :
    readKind cs = .ok (kind, rest) ↔ BeginsWith (DenotesKind kind) cs rest := by
  constructor
  · intro h
    cases start : skipBlanks cs with
    | nil => simp [readKind, start] at h
    | cons c inner =>
      obtain ⟨-, blanks, blank, rfl⟩ := skipBlanks_eq_cons_iff.1 start
      by_cases quote : c = '"'
      · subst quote
        simp only [readKind, start] at h
        obtain ⟨body, rfl, decodes⟩ := readKindName_eq_ok_iff.1 h
        exact ⟨blanks, _, blank, .name ⟨body, rfl, decodes⟩, by simp [inQuotes]⟩
      by_cases brace : c = '\x7b'
      · subst brace
        obtain ⟨member, spaced, decodes, null, row, formed, rfl⟩ := (readKind_brace_iff start).1 h
        exact ⟨blanks, _, blank, .object (.some formed) spaced decodes null, by simp⟩
      · simp [readKind, start, quote, brace] at h
  · rintro ⟨blanks, _, blank, denotes, rfl⟩
    cases denotes with
    | name string =>
      obtain ⟨body, rfl, decodes⟩ := string
      rw [readKind, inQuotes, skipBlanks_brackets blank rfl body '"' rest]
      exact readKindName_eq_ok_iff.2 ⟨body, rfl, decodes⟩
    | @object member inner enclosed spaced decodes null =>
      rw [readKind_brace_iff (skipBlanks_brackets blank rfl inner '\x7d' rest)]
      cases enclosed with
      | some row => exact ⟨member, spaced, decodes, null, inner, row, rfl⟩

/-! ## 2. Tokens as arrays -/

theorem readLastKind_eq_ok_iff {cs rest : List Char} {kind : TokenKind} :
    readLastKind cs = .ok (kind, rest)
      ↔ ∃ text, DenotesKind kind text ∧ RowThen ']' [text] cs rest := by
  constructor
  · intro h
    unfold readLastKind at h
    split at h
    · cases h
    · next behind found =>
      obtain ⟨before, text, blank, denotes, split⟩ := readKind_eq_ok_iff.1 found
      split at h
      · cases h
      · next close =>
        split at h
        · next bracket =>
          cases h
          subst bracket
          have row := (rowThen_singleton_iff rfl).2 ⟨before, behind, blank, split, close⟩
          exact ⟨text, denotes, row⟩
        · cases h
  · rintro ⟨text, denotes, row⟩
    obtain ⟨before, behind, blank, split, close⟩ := (rowThen_singleton_iff rfl).1 row
    have found := readKind_eq_ok_iff.2 ⟨before, text, blank, denotes, split⟩
    simp [readLastKind, found, close]

theorem readAfterValue_eq_ok_iff {value : String} {cs rest : List Char} {token : Token} :
    readAfterValue value cs = .ok (token, rest)
      ↔ token.value = value ∧ ∃ later, skipBlanks cs = ',' :: later
        ∧ ∃ text, DenotesKind token.kind text ∧ RowThen ']' [text] later rest := by
  simp only [← readLastKind_eq_ok_iff]
  constructor
  · intro h
    unfold readAfterValue at h
    split at h
    · cases h
    · next start =>
      split at h
      · cases h
      · split at h
        · next comma =>
          split at h
          · cases h
          · next found =>
            cases h
            exact ⟨rfl, _, comma ▸ start, found⟩
        · cases h
  · rintro ⟨rfl, later, comma, found⟩
    simp [readAfterValue, comma, found]

theorem readCouple_eq_ok_iff {cs rest : List Char} {token : Token} :
    readCouple cs = .ok (token, rest)
      ↔ ∃ value kind, IsString value token.value ∧ DenotesKind token.kind kind
        ∧ RowThen ']' [value, kind] cs rest := by
  constructor
  · intro h
    unfold readCouple at h
    split at h
    · cases h
    · split at h
      · cases h
      · split at h
        · cases h
        · next behind found =>
          obtain ⟨before, value, blank, string, split⟩ := readString_eq_ok_iff.1 found
          obtain ⟨rfl, later, comma, kind, denotes, row⟩ := readAfterValue_eq_ok_iff.1 h
          exact ⟨value, kind, string, denotes, (rowThen_cons_iff rfl).2
            ⟨before, behind, blank, split, .inl ⟨later, comma, row⟩⟩⟩
  · rintro ⟨_, kind, ⟨body, rfl, decodes⟩, denotes, row⟩
    obtain ⟨before, behind, blank, rfl, ⟨later, comma, row⟩ | ⟨none, -⟩⟩ :=
      (rowThen_cons_iff rfl).1 row
    · have start : skipBlanks (before ++ (inQuotes body ++ behind))
          = '"' :: (body ++ '"' :: behind) := skipBlanks_brackets blank rfl body '"' behind
      have value : readString (before ++ (inQuotes body ++ behind)) = .ok (token.value, behind) :=
        readString_eq_ok_iff.2 ⟨before, inQuotes body, blank, ⟨body, rfl, decodes⟩, rfl⟩
      simp only [readCouple, start, value]
      exact readAfterValue_eq_ok_iff.2 ⟨rfl, later, comma, kind, denotes, row⟩
    · cases none

/-! ## 3. Members -/

/-- What a member of the given name does to the fields: it fills one that
was free, or none if its name is another. -/
def Fills (fields : Fields) (name text : List Char) (found : Fields) : Prop :=
  if name = ['v', 'a', 'l', 'u', 'e'] then
    fields.value = none ∧ ∃ value, IsString text value ∧ found = { fields with value := some value }
  else if name = ['t', 'y', 'p', 'e'] then
    fields.kind = none ∧ ∃ kind, DenotesKind kind text ∧ found = { fields with kind := some kind }
  else IsValue text ∧ found = fields

theorem fills_of_readField {fields found : Fields} {name cs rest : List Char}
    (h : readField fields name cs = .ok (found, rest)) :
    ∃ later, readColon cs = .ok later ∧ BeginsWith (Fills fields name · found) later rest := by
  unfold readField at h
  split at h
  · next is_value =>
    split at h
    · cases h
    · next free =>
      obtain ⟨later, colon, h⟩ := of_bind_eq_ok h
      obtain ⟨⟨value, after⟩, found, h⟩ := of_bind_eq_ok h
      cases h
      obtain ⟨lead, text, lead_blank, string, rfl⟩ := readString_eq_ok_iff.1 found
      refine ⟨_, colon, lead, text, lead_blank, ?_, rfl⟩
      simp only [Fills, if_pos is_value]
      exact ⟨by simpa using free, value, string, rfl⟩
  · next no_value =>
    split at h
    · next is_type =>
      split at h
      · cases h
      · next free =>
        obtain ⟨later, colon, h⟩ := of_bind_eq_ok h
        obtain ⟨⟨kind, after⟩, found, h⟩ := of_bind_eq_ok h
        cases h
        obtain ⟨lead, text, lead_blank, denotes, rfl⟩ := readKind_eq_ok_iff.1 found
        refine ⟨_, colon, lead, text, lead_blank, ?_, rfl⟩
        simp only [Fills, if_neg no_value, if_pos is_type]
        exact ⟨by simpa using free, kind, denotes, rfl⟩
    · next no_type =>
      obtain ⟨later, colon, h⟩ := of_bind_eq_ok h
      obtain ⟨left, found, h⟩ := of_bind_eq_ok h
      cases h
      have passed : pastValue later = .ok left.val := map_eq_ok_iff.2 ⟨left, found, rfl⟩
      obtain ⟨lead, text, lead_blank, formed, split⟩ := beginsWith_of_pastValue passed
      refine ⟨later, colon, lead, text, lead_blank, ?_, split⟩
      simpa [Fills, no_value, no_type] using formed

/-- Only a number among the values has to be told where it ends. -/
theorem readField_of_fills {fields found : Fields} {name text cs lead rest : List Char}
    (fills : Fills fields name text found) (lead_blank : IsBlanks lead)
    (colon : readColon cs = .ok (lead ++ (text ++ rest))) (stop : EndsNumber rest) :
    readField fields name cs = .ok (found, rest) := by
  unfold Fills at fills
  unfold readField
  split at fills
  · next is_value =>
    obtain ⟨free, value, string, rfl⟩ := fills
    have read : readString (lead ++ (text ++ rest)) = .ok (value, rest) :=
      readString_eq_ok_iff.2 ⟨lead, text, lead_blank, string, rfl⟩
    rw [if_pos is_value, free, colon]
    show (readString _ >>= _) = _
    rw [read]
    rfl
  · next no_value =>
    rw [if_neg no_value]
    split at fills
    · next is_type =>
      obtain ⟨free, kind, denotes, rfl⟩ := fills
      have read : readKind (lead ++ (text ++ rest)) = .ok (kind, rest) :=
        readKind_eq_ok_iff.2 ⟨lead, text, lead_blank, denotes, rfl⟩
      rw [if_pos is_type, free, colon]
      show (readKind _ >>= _) = _
      rw [read]
      rfl
    · next no_type =>
      obtain ⟨formed, rfl⟩ := fills
      have passed := isPassed_of_isValue formed lead_blank stop
      generalize lead ++ (text ++ rest) = later at colon passed
      obtain ⟨⟨left, shorter⟩, read, rfl⟩ := map_eq_ok_iff.1 passed
      rw [if_neg no_type, colon]
      show (skipValue _ >>= _) = _
      rw [read]
      rfl

/-- Behind a member stands a comma and further members, or the brace, and
then no field may be free. -/
theorem readMembers_step_iff {fields : Fields} {cs rest : List Char} {token : Token} :
    readMembers fields cs = .ok (token, rest)
      ↔ ∃ literal, skipBlanks cs = '"' :: literal
        ∧ ∃ name colon, readBody literal = .ok (name, colon)
        ∧ ∃ found behind, readField fields name colon = .ok (found, behind)
        ∧ ((∃ later, skipBlanks behind = ',' :: later ∧ readMembers found later = .ok (token, rest))
          ∨ found.token = .ok token ∧ skipBlanks behind = '\x7d' :: rest) := by
  rw [readMembers]
  split
  · next stop => simp [stop]
  · next c literal start =>
    simp only [start, List.cons.injEq]
    split
    · next quote =>
      simp only [quote, true_and, exists_eq_left']
      split
      · next failed => simp [failed]
      · next name colon decoded =>
        simp only [decoded, Except.ok.injEq, Prod.mk.injEq, and_assoc, exists_and_left,
          exists_eq_left']
        split
        · next failed => simp [failed]
        · next found behind field =>
          simp only [field, Except.ok.injEq, Prod.mk.injEq, and_assoc, exists_and_left,
            exists_eq_left']
          split
          · next stop => simp [stop]
          · next d later next =>
            simp only [next, List.cons.injEq]
            split
            · next comma => simp [comma]
            · split
              · next close => simp [close, map_eq_ok_iff]
              · next no_comma no_close => simp [no_comma, no_close]
    · next no_quote => simp [no_quote]

/-- What members do to the fields one after another. -/
inductive Gathers : Fields → List (List Char × Member) → Fields → Prop where
  | nil {fields : Fields} : Gathers fields [] fields
  | cons {fields found last : Fields} {name : List Char} {member : Member}
    {named : List (List Char × Member)} :
    Fills fields name member.value found → Gathers found named last →
      Gathers fields ((name, member) :: named) last

/-- Members as they are written, and the names that their keys spell. -/
def Named (named : List (List Char × Member)) : Prop :=
  ∀ entry ∈ named, entry.2.Spaced ∧ Decodes entry.2.key entry.1

theorem rowThen_of_readMembers {fields : Fields} {cs rest : List Char} {token : Token}
    (h : readMembers fields cs = .ok (token, rest)) :
    ∃ named last, Named named ∧ Gathers fields named last ∧ last.token = .ok token
      ∧ RowThen '\x7d' (named.map fun entry => entry.2.text) cs rest := by
  obtain ⟨literal, quote, name, colon, found_key, found, behind, field, next⟩ :=
    readMembers_step_iff.1 h
  have shorter : behind.length < cs.length :=
    (length_readField_lt field).trans
      ((length_readBody_lt found_key).trans (length_lt_of_skipBlanks quote))
  obtain ⟨-, before, blank, split⟩ := skipBlanks_eq_cons_iff.1 quote
  obtain ⟨key, rfl, decodes⟩ := readBody_eq_ok_iff.1 found_key
  obtain ⟨_, found_colon, lead, value, lead_blank, fills, rfl⟩ := fills_of_readField field
  obtain ⟨gap, gap_blank, rfl⟩ := readColon_eq_ok_iff.1 found_colon
  let member : Member := ⟨key, gap, lead, value⟩
  have here : cs = before ++ (member.text ++ behind) := by rw [member.text_append, split]
  have spelled : member.Spaced ∧ Decodes member.key name := ⟨⟨gap_blank, lead_blank⟩, decodes⟩
  rcases next with ⟨later, comma, more⟩ | ⟨complete, close⟩
  · have := length_lt_of_skipBlanks comma
    obtain ⟨named, last, spelled_more, gathers, complete, row⟩ := rowThen_of_readMembers more
    exact ⟨(name, member) :: named, last, List.forall_mem_cons.2 ⟨spelled, spelled_more⟩,
      .cons fills gathers, complete,
      (rowThen_cons_iff rfl).2 ⟨before, behind, blank, here, .inl ⟨later, comma, row⟩⟩⟩
  · exact ⟨[(name, member)], found, List.forall_mem_singleton.2 spelled, .cons fills .nil, complete,
      (rowThen_cons_iff rfl).2 ⟨before, behind, blank, here, .inr ⟨rfl, close⟩⟩⟩
termination_by cs.length

theorem readMembers_of_rowThen {fields last : Fields} {named : List (List Char × Member)}
    {token : Token} (spelled : Named named) (gathers : Gathers fields named last)
    (complete : last.token = .ok token) {cs rest : List Char}
    (row : RowThen '\x7d' (named.map fun entry => entry.2.text) cs rest) :
    readMembers fields cs = .ok (token, rest) := by
  induction gathers generalizing cs with
  | nil => exact absurd row not_rowThen_nil
  | @cons fields found last name member named fills gathers ih =>
    obtain ⟨⟨spaced, decodes⟩, spelled⟩ := List.forall_mem_cons.1 spelled
    obtain ⟨before, behind, blank, rfl, next⟩ := (rowThen_cons_iff rfl).1 row
    have colon := spaced.readColon (member.lead ++ (member.value ++ behind))
    have field := readField_of_fills fills spaced.2 colon
    rw [member.text_append]
    refine readMembers_step_iff.2 ⟨_, skipBlanks_append blank rfl _, name, _,
      readBody_append_quote decodes _, found, behind, ?_⟩
    rcases next with ⟨later, comma, more⟩ | ⟨alone, close⟩
    · exact ⟨field (endsNumber_of_skipBlanks comma rfl),
        .inl ⟨later, comma, ih spelled complete more⟩⟩
    · obtain rfl := List.map_eq_nil_iff.1 alone
      cases gathers
      exact ⟨field (endsNumber_of_skipBlanks close rfl), .inr ⟨complete, close⟩⟩

/-! ## 4. Tokens as objects -/

theorem token_eq_ok_iff {fields : Fields} {token : Token} :
    fields.token = .ok token ↔ fields = ⟨some token.value, some token.kind⟩ := by
  obtain ⟨value | value, kind | kind⟩ := fields
  all_goals simp [Fields.token]
  obtain ⟨value', kind'⟩ := token
  simp

/-- How often a name may still come up that has to come up once: not
again if its field is filled, and then with the part that is wanted. -/
def Awaits {α : Type} (field : Option α) (part : α) (times : Nat) : Prop :=
  field = some part ∧ times = 0 ∨ field = none ∧ times = 1

theorem awaits_some_iff {α : Type} {found part : α} {times : Nat} :
    Awaits (some found) part times ↔ found = part ∧ times = 0 := by
  simp [Awaits]

theorem awaits_none_iff {α : Type} {part : α} {times : Nat} :
    Awaits none part times ↔ times = 1 := by
  simp [Awaits]

theorem awaits_zero_iff {α : Type} {field : Option α} {part : α} :
    Awaits field part 0 ↔ field = some part := by
  simp [Awaits]

theorem awaits_succ_iff {α : Type} {field : Option α} {part : α} {times : Nat} :
    Awaits field part (times + 1) ↔ field = none ∧ times = 0 := by
  simp [Awaits]

theorem gathers_cons_iff {fields last : Fields} {name : List Char} {member : Member}
    {named : List (List Char × Member)} :
    Gathers fields ((name, member) :: named) last
      ↔ ∃ found, Fills fields name member.value found ∧ Gathers found named last := by
  constructor
  · rintro (_ | ⟨fills, gathers⟩)
    exact ⟨_, fills, gathers⟩
  · rintro ⟨found, fills, gathers⟩
    exact .cons fills gathers

/-- Members complete a token if each of them is bound to what the token
demands, and the names that are missing come up once. -/
theorem gathers_iff {fields : Fields} {named : List (List Char × Member)} {token : Token} :
    Gathers fields named ⟨some token.value, some token.kind⟩
      ↔ (∀ entry ∈ named, Binds token entry.1 entry.2.value)
        ∧ Awaits fields.value token.value ((named.map Prod.fst).count "value".toList)
        ∧ Awaits fields.kind token.kind ((named.map Prod.fst).count "type".toList) := by
  have value_name : "value".toList = ['v', 'a', 'l', 'u', 'e'] := rfl
  have type_name : "type".toList = ['t', 'y', 'p', 'e'] := rfl
  induction named generalizing fields with
  | nil =>
    constructor
    · intro h
      cases h
      simp [Awaits]
    · rintro ⟨-, value, kind⟩
      obtain ⟨_, _⟩ := fields
      obtain rfl := awaits_zero_iff.1 value
      obtain rfl := awaits_zero_iff.1 kind
      exact .nil
  | cons entry named ih =>
    obtain ⟨name, member⟩ := entry
    simp only [gathers_cons_iff, ih, List.forall_mem_cons, List.map_cons, Fills, Binds, value_name,
      type_name]
    by_cases is_value : name = ['v', 'a', 'l', 'u', 'e']
    · subst is_value
      rw [List.count_cons_self, List.count_cons_of_ne (by decide)]
      simp only [if_true]
      constructor
      · rintro ⟨_, ⟨free, value, string, rfl⟩, binds, value_awaits, kind_awaits⟩
        obtain ⟨rfl, none⟩ := awaits_some_iff.1 value_awaits
        exact ⟨⟨string, binds⟩, awaits_succ_iff.2 ⟨free, none⟩, kind_awaits⟩
      · rintro ⟨⟨string, binds⟩, value_awaits, kind_awaits⟩
        obtain ⟨free, none⟩ := awaits_succ_iff.1 value_awaits
        exact ⟨_, ⟨free, token.value, string, rfl⟩, binds, awaits_some_iff.2 ⟨rfl, none⟩,
          kind_awaits⟩
    by_cases is_type : name = ['t', 'y', 'p', 'e']
    · subst is_type
      rw [List.count_cons_self, List.count_cons_of_ne (by decide)]
      simp only [if_neg is_value, if_true]
      constructor
      · rintro ⟨_, ⟨free, kind, denotes, rfl⟩, binds, value_awaits, kind_awaits⟩
        obtain ⟨rfl, none⟩ := awaits_some_iff.1 kind_awaits
        exact ⟨⟨denotes, binds⟩, value_awaits, awaits_succ_iff.2 ⟨free, none⟩⟩
      · rintro ⟨⟨denotes, binds⟩, value_awaits, kind_awaits⟩
        obtain ⟨free, none⟩ := awaits_succ_iff.1 kind_awaits
        exact ⟨_, ⟨free, token.kind, denotes, rfl⟩, binds, value_awaits,
          awaits_some_iff.2 ⟨rfl, none⟩⟩
    · rw [List.count_cons_of_ne is_value, List.count_cons_of_ne is_type]
      simp only [if_neg is_value, if_neg is_type]
      constructor
      · rintro ⟨_, ⟨formed, rfl⟩, binds, awaits⟩
        exact ⟨⟨formed, binds⟩, awaits⟩
      · rintro ⟨⟨formed, binds⟩, awaits⟩
        exact ⟨fields, ⟨formed, rfl⟩, binds, awaits⟩

/-- An object without members is no token, so there is always a first
member to read. -/
theorem readObject_eq_ok_iff_readMembers {cs rest : List Char} {token : Token} :
    readObject cs = .ok (token, rest) ↔ readMembers ⟨none, none⟩ cs = .ok (token, rest) := by
  unfold readObject
  split
  · next stop =>
    rw [readMembers_step_iff]
    simp [stop]
  · next start =>
    split
    · next brace =>
      rw [readMembers_step_iff]
      simp [start, brace]
    · rfl

theorem readObject_eq_ok_iff {cs rest : List Char} {token : Token} :
    readObject cs = .ok (token, rest)
      ↔ ∃ named : List (List Char × Member),
        (∀ entry ∈ named, entry.2.Spaced ∧ Decodes entry.2.key entry.1
          ∧ Binds token entry.1 entry.2.value)
        ∧ (named.map Prod.fst).count "value".toList = 1
        ∧ (named.map Prod.fst).count "type".toList = 1
        ∧ RowThen '\x7d' (named.map fun entry => entry.2.text) cs rest := by
  rw [readObject_eq_ok_iff_readMembers]
  constructor
  · intro h
    obtain ⟨named, last, spelled, gathers, complete, row⟩ := rowThen_of_readMembers h
    obtain rfl := token_eq_ok_iff.1 complete
    obtain ⟨binds, value, kind⟩ := gathers_iff.1 gathers
    exact ⟨named,
      fun entry listed => ⟨(spelled entry listed).1, (spelled entry listed).2, binds entry listed⟩,
      awaits_none_iff.1 value, awaits_none_iff.1 kind, row⟩
  · rintro ⟨named, each, value, kind, row⟩
    have spelled : Named named := fun entry listed =>
      ⟨(each entry listed).1, (each entry listed).2.1⟩
    have binds (entry) (listed : entry ∈ named) := (each entry listed).2.2
    have gathers : Gathers ⟨none, none⟩ named ⟨some token.value, some token.kind⟩ :=
      gathers_iff.2 ⟨binds, awaits_none_iff.2 value, awaits_none_iff.2 kind⟩
    exact readMembers_of_rowThen spelled gathers rfl row

/-! ## 5. Token lists -/

theorem readToken_eq_ok_iff {cs rest : List Char} {token : Token} :
    readToken cs = .ok (token, rest) ↔ BeginsWith (DenotesToken token) cs rest := by
  constructor
  · intro h
    cases start : skipBlanks cs with
    | nil => simp [readToken, start] at h
    | cons c inner =>
      obtain ⟨-, blanks, blank, rfl⟩ := skipBlanks_eq_cons_iff.1 start
      by_cases brace : c = '\x7b'
      · subst brace
        simp only [readToken, start] at h
        obtain ⟨named, each, value, kind, row, formed, rfl⟩ := readObject_eq_ok_iff.1 h
        exact ⟨blanks, _, blank, .object (.some formed) each value kind, by simp⟩
      by_cases bracket : c = '['
      · subst bracket
        simp only [readToken, start] at h
        obtain ⟨value, kind, string, denotes, row, formed, rfl⟩ := readCouple_eq_ok_iff.1 h
        exact ⟨blanks, _, blank, .couple (.some formed) string denotes, by simp⟩
      · simp [readToken, start, brace, bracket] at h
  · rintro ⟨blanks, _, blank, denotes, rfl⟩
    cases denotes with
    | @couple value kind inner enclosed string denotes =>
      rw [readToken, skipBlanks_brackets blank rfl inner ']' rest]
      cases enclosed with
      | some row => exact readCouple_eq_ok_iff.2 ⟨value, kind, string, denotes, inner, row, rfl⟩
    | @object named inner enclosed each value kind =>
      rw [readToken, skipBlanks_brackets blank rfl inner '\x7d' rest]
      generalize eq : (named.map fun entry => entry.2.text) = texts at enclosed
      cases enclosed with
      | none =>
        obtain rfl := List.map_eq_nil_iff.1 eq
        cases value
      | some row =>
        exact readObject_eq_ok_iff.2 ⟨named, each, value, kind, inner, eq ▸ row, rfl⟩

/-- Behind a token stands a comma and further tokens, or the bracket. -/
theorem readTokens_step_iff {cs rest : List Char} {tokens : List Token} :
    readTokens cs = .ok (tokens, rest)
      ↔ ∃ token behind, readToken cs = .ok (token, behind)
        ∧ ((∃ later others, skipBlanks behind = ',' :: later ∧ readTokens later = .ok (others, rest)
            ∧ tokens = token :: others)
          ∨ tokens = [token] ∧ skipBlanks behind = ']' :: rest) := by
  cases found : readToken cs with
  | error defect =>
    rw [readTokens]
    split
    · simp
    · next other => cases found.symm.trans other
  | ok answer =>
    obtain ⟨token, behind⟩ := answer
    rw [readTokens_eq found]
    simp only [Except.ok.injEq, Prod.mk.injEq, and_assoc, exists_and_left, exists_eq_left']
    cases next : skipBlanks behind with
    | nil => simp
    | cons c after =>
      simp only [List.cons.injEq]
      split
      · next comma =>
        simp only [comma, true_and, exists_eq_left', map_eq_ok_iff, Prod.exists, Prod.mk.injEq]
        constructor
        · rintro ⟨others, _, found, rfl, rfl⟩
          exact .inl ⟨others, found, rfl⟩
        · rintro (⟨others, found, rfl⟩ | ⟨-, other, -⟩)
          · exact ⟨others, rest, found, rfl, rfl⟩
          · cases other
      · split
        · next close => simp [close, eq_comm]
        · next no_comma no_close => simp [no_comma, no_close]

theorem readTokens_eq_ok_iff {cs rest : List Char} {tokens : List Token} :
    readTokens cs = .ok (tokens, rest)
      ↔ ∃ items, List.Forall₂ (fun item token => DenotesToken token item) items tokens
        ∧ RowThen ']' items cs rest := by
  induction tokens generalizing cs with
  | nil =>
    constructor
    · intro h
      obtain ⟨_, _, _, ⟨_, _, _, _, eq⟩ | ⟨eq, _⟩⟩ := readTokens_step_iff.1 h
      all_goals cases eq
    · rintro ⟨items, each, row⟩
      obtain rfl := List.forall₂_nil_right_iff.1 each
      exact absurd row not_rowThen_nil
  | cons token tokens ih =>
    constructor
    · intro h
      obtain ⟨token', behind, found, next⟩ := readTokens_step_iff.1 h
      obtain ⟨before, item, blank, denotes, split⟩ := readToken_eq_ok_iff.1 found
      rcases next with ⟨later, others, comma, more, eq⟩ | ⟨eq, close⟩
      · obtain ⟨rfl, rfl⟩ := List.cons.inj eq
        obtain ⟨items, each, row⟩ := ih.1 more
        exact ⟨item :: items, .cons denotes each,
          (rowThen_cons_iff rfl).2 ⟨before, behind, blank, split, .inl ⟨later, comma, row⟩⟩⟩
      · obtain ⟨rfl, rfl⟩ := List.cons.inj eq
        exact ⟨[item], .cons denotes .nil,
          (rowThen_cons_iff rfl).2 ⟨before, behind, blank, split, .inr ⟨rfl, close⟩⟩⟩
    · rintro ⟨_, each, row⟩
      obtain ⟨item, items, denotes, others, rfl⟩ := List.forall₂_cons_right_iff.1 each
      obtain ⟨before, behind, blank, split, next⟩ := (rowThen_cons_iff rfl).1 row
      have found := readToken_eq_ok_iff.2 ⟨before, item, blank, denotes, split⟩
      refine readTokens_step_iff.2 ⟨token, behind, found, ?_⟩
      rcases next with ⟨later, comma, more⟩ | ⟨rfl, close⟩
      · exact .inl ⟨later, tokens, comma, ih.2 ⟨items, others, more⟩, rfl⟩
      · obtain rfl := List.forall₂_nil_left_iff.1 others
        exact .inr ⟨rfl, close⟩

theorem readArray_eq_ok_iff {cs rest : List Char} {tokens : List Token} :
    readArray cs = .ok (tokens, rest)
      ↔ ∃ items inner, List.Forall₂ (fun item token => DenotesToken token item) items tokens
        ∧ Enclosed items inner ∧ cs = inner ++ ']' :: rest := by
  constructor
  · intro h
    unfold readArray at h
    split at h
    · cases h
    · next start =>
      split at h
      · next close =>
        cases h
        obtain ⟨-, blanks, blank, rfl⟩ := skipBlanks_eq_cons_iff.1 start
        exact ⟨[], blanks, .nil, .none blank, by rw [close]⟩
      · obtain ⟨items, each, inner, row, split⟩ := readTokens_eq_ok_iff.1 h
        exact ⟨items, inner, each, .some row, split⟩
  · rintro ⟨items, inner, each, enclosed, rfl⟩
    cases enclosed with
    | none blank =>
      obtain rfl := List.forall₂_nil_left_iff.1 each
      rw [readArray, skipBlanks_append blank rfl]
      rfl
    | some row =>
      have found : readTokens (inner ++ ']' :: rest) = .ok (tokens, rest) :=
        readTokens_eq_ok_iff.2 ⟨items, each, inner, row, rfl⟩
      obtain ⟨_, _, first, -⟩ := readTokens_step_iff.1 found
      unfold readArray
      split
      · next stop => simp [readToken, stop] at first
      · next c _ start =>
        split
        · next close => simp [readToken, start, close] at first
        · exact found

/-- Behind the array nothing may stand but blanks. -/
theorem parseChars_eq_ok_iff {cs : List Char} {tokens : List Token} :
    parseChars cs = .ok tokens
      ↔ ∃ inner after, skipBlanks cs = '[' :: inner ∧ readArray inner = .ok (tokens, after)
        ∧ IsBlanks after := by
  have whole (after : List Char) : (skipBlanks after).isEmpty = true ↔ IsBlanks after := by
    rw [isEmpty_skipBlanks, List.all_eq_true, IsBlanks]
  constructor
  · intro h
    unfold parseChars at h
    split at h
    · cases h
    · next start =>
      split at h
      · next bracket =>
        split at h
        · cases h
        · next found =>
          split at h
          · next stop =>
            cases h
            exact ⟨_, _, bracket ▸ start, found, (whole _).1 stop⟩
          · cases h
      · cases h
  · rintro ⟨inner, after, start, found, blank⟩
    simp [parseChars, start, found, (whole after).2 blank]

/-- A text is read as a token list just if it is an array of texts of
these tokens, and blanks around it. -/
theorem parse_eq_ok_iff (text : String) (tokens : List Token) :
    parse text = .ok tokens ↔ DenotesList text.toList tokens := by
  rw [parse, parseChars_eq_ok_iff]
  constructor
  · rintro ⟨_, after, start, found, after_blank⟩
    obtain ⟨-, before, before_blank, split⟩ := skipBlanks_eq_cons_iff.1 start
    obtain ⟨items, inner, each, enclosed, rfl⟩ := readArray_eq_ok_iff.1 found
    exact ⟨before, items, inner, after, split, before_blank, after_blank, enclosed, each⟩
  · rintro ⟨before, items, inner, after, split, before_blank, after_blank, enclosed, each⟩
    have start := skipBlanks_eq_cons_iff.2 ⟨rfl, before, before_blank, split⟩
    have found : readArray (inner ++ ']' :: after) = .ok (tokens, after) :=
      readArray_eq_ok_iff.2 ⟨items, inner, each, enclosed, rfl⟩
    exact ⟨_, after, start, found, after_blank⟩

end ScriptSyntax.Json
