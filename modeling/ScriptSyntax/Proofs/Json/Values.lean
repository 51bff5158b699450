/-
ScriptSyntax.Proofs.Json.Values — what is skipped is a JSON value, and
every JSON value can be skipped.

Nobody asks what a skipped value is, so all that is known of it is how
much of the text it took. `pastValue`, `pastItems` and `pastMembers` are
the three functions that skip, less the proof that they use something up.
What each may do next is said once (`pastItems_eq_ok_iff`,
`pastMembers_eq_ok_iff`, and `pastValue_bracket_iff` with its neighbours),
and no later proof looks further.

* `rowThen_cons_iff` — a row comes apart as a reader takes it. It is what
  every loop over items rests on, here and where tokens are read.
* `beginsWith_of_pastValue` — what is skipped is a value. The three
  functions call one another, so this is by induction on the length of the
  text.
* `isPassed_of_isValue` — a value is skipped whole where it may end. This
  is by induction on the value.
-/
import ScriptSyntax.Proofs.Json.Numbers
import ScriptSyntax.Proofs.Json.RoundTrip

namespace ScriptSyntax.Json

open Vocabulary

/-! ## 1. Blanks and colons -/

/-- Blanks are skipped up to a character that is none. -/
theorem skipBlanks_eq_cons_iff {cs rest : List Char} {c : Char} :
    skipBlanks cs = c :: rest
      ↔ isBlank c = false ∧ ∃ blanks, IsBlanks blanks ∧ cs = blanks ++ c :: rest := by
  constructor
  · intro h
    have plain := List.head?_dropWhile_not isBlank cs
    rw [← skipBlanks, h] at plain
    refine ⟨plain, cs.takeWhile isBlank, fun d hd => List.mem_takeWhile_imp hd, ?_⟩
    rw [← h, skipBlanks, List.takeWhile_append_dropWhile]
  · rintro ⟨plain, blanks, blank, rfl⟩
    exact skipBlanks_append blank plain rest

theorem readColon_eq_ok_iff {cs rest : List Char} :
    readColon cs = .ok rest ↔ ∃ gap, IsBlanks gap ∧ cs = gap ++ ':' :: rest := by
  constructor
  · intro h
    unfold readColon at h
    split at h
    · cases h
    · next found =>
      split at h
      · next colon =>
        cases h
        exact colon ▸ (skipBlanks_eq_cons_iff.1 found).2
      · cases h
  · rintro ⟨gap, blank, rfl⟩
    rw [readColon, skipBlanks_append blank rfl]
    rfl

/-- Whether a text begins with a part of some form, blanks before it or
not, and goes on with `rest`. -/
def BeginsWith (form : List Char → Prop) (cs rest : List Char) : Prop :=
  ∃ blanks part, IsBlanks blanks ∧ form part ∧ cs = blanks ++ (part ++ rest)

/-- Behind its first character, brackets and what they enclose are read
as such. -/
theorem skipBlanks_brackets {blanks : List Char} (blank : IsBlanks blanks) {first : Char}
    (plain : isBlank first = false) (inner : List Char) (last : Char) (after : List Char) :
    skipBlanks (blanks ++ ((first :: (inner ++ [last])) ++ after))
      = first :: (inner ++ last :: after) := by
  have split : (first :: (inner ++ [last])) ++ after = first :: (inner ++ last :: after) := by simp
  rw [split]
  exact skipBlanks_append blank plain _

/-- A member before further text, as a reader comes upon its parts. -/
theorem Member.text_append (member : Member) (after : List Char) :
    member.text ++ after = '"' :: (member.key ++ '"' :: (member.gap
      ++ ':' :: (member.lead ++ (member.value ++ after)))) := by
  simp [Member.text]

theorem Member.Spaced.readColon {member : Member} (spaced : member.Spaced) (value : List Char) :
    readColon (member.gap ++ ':' :: value) = .ok value :=
  readColon_eq_ok_iff.2 ⟨member.gap, spaced.1, rfl⟩

/-! ## 2. Rows

A reader comes upon an item, and then upon the character that says
whether there is another one. -/

/-- Whether a text begins with a row and the bracket that closes it, and
goes on with `rest`. -/
def RowThen (close : Char) (items : List (List Char)) (cs rest : List Char) : Prop :=
  ∃ row, Row items row ∧ cs = row ++ close :: rest

theorem Row.ne_nil {items : List (List Char)} {row : List Char} (h : Row items row) :
    items ≠ [] := by
  cases h <;> simp

/-- A row comes apart into its first item and what stands behind it: a
comma and another row, or the bracket. -/
theorem rowThen_cons_iff {close : Char} (plain : isBlank close = false) {item : List Char}
    {items : List (List Char)} {cs rest : List Char} :
    RowThen close (item :: items) cs rest
      ↔ ∃ before behind, IsBlanks before ∧ cs = before ++ (item ++ behind)
        ∧ ((∃ later, skipBlanks behind = ',' :: later ∧ RowThen close items later rest)
          ∨ items = [] ∧ skipBlanks behind = close :: rest) := by
  constructor
  · rintro ⟨row, formed, rfl⟩
    cases formed with
    | @last before item after before_blank after_blank =>
      exact ⟨before, after ++ close :: rest, before_blank, by simp,
        .inr ⟨rfl, skipBlanks_append after_blank plain rest⟩⟩
    | @more before item after row items before_blank after_blank formed =>
      exact ⟨before, after ++ ',' :: (row ++ close :: rest), before_blank, by simp,
        .inl ⟨_, skipBlanks_append after_blank rfl _, row, formed, rfl⟩⟩
  · rintro ⟨before, behind, before_blank, rfl, ⟨_, comma, row, formed, rfl⟩ | ⟨rfl, stop⟩⟩
    · obtain ⟨-, after, after_blank, rfl⟩ := skipBlanks_eq_cons_iff.1 comma
      exact ⟨_, .more before_blank after_blank formed, by simp⟩
    · obtain ⟨-, after, after_blank, rfl⟩ := skipBlanks_eq_cons_iff.1 stop
      exact ⟨_, .last before_blank after_blank, by simp⟩

theorem not_rowThen_nil {close : Char} {cs rest : List Char} : ¬ RowThen close [] cs rest :=
  fun ⟨_, row, _⟩ => row.ne_nil rfl

theorem rowThen_singleton_iff {close : Char} (plain : isBlank close = false) {item : List Char}
    {cs rest : List Char} :
    RowThen close [item] cs rest
      ↔ ∃ before behind, IsBlanks before ∧ cs = before ++ (item ++ behind)
        ∧ skipBlanks behind = close :: rest := by
  simp [rowThen_cons_iff plain, not_rowThen_nil]

/-! ## 3. One step -/

/-- What is left behind a value. -/
def pastValue (cs : List Char) : Except Defect (List Char) :=
  (skipValue cs).map Subtype.val

/-- What is left behind the items of an array and their bracket. -/
def pastItems (cs : List Char) : Except Defect (List Char) :=
  (skipItems cs).map Subtype.val

/-- What is left behind the members of an object and their brace. -/
def pastMembers (cs : List Char) : Except Defect (List Char) :=
  (skipMembers cs).map Subtype.val

theorem map_eq_ok_iff {α β : Type} {result : Except Defect α} {f : α → β} {b : β} :
    result.map f = .ok b ↔ ∃ a, result = .ok a ∧ f a = b := by
  cases result <;> simp [Except.map]

theorem map_val_ok {cs : List Char} (left : Rest cs) :
    (Except.ok left : Except Defect (Rest cs)).map Subtype.val = .ok left.val :=
  rfl

/-- To see a text as what is left of a longer one does not change it. -/
theorem map_val_map_widen {cs ds : List Char} (h : ds.length ≤ cs.length)
    (result : Except Defect (Rest ds)) :
    (result.map (Rest.widen h)).map Subtype.val = result.map Subtype.val := by
  cases result <;> rfl

theorem length_pastValue_lt {cs rest : List Char} (h : pastValue cs = .ok rest) :
    rest.length < cs.length := by
  obtain ⟨left, -, rfl⟩ := map_eq_ok_iff.1 h
  exact left.2

/-- Behind an item stands a comma and further items, or the bracket. -/
theorem pastItems_eq_ok_iff {cs rest : List Char} :
    pastItems cs = .ok rest
      ↔ ∃ behind, pastValue cs = .ok behind
        ∧ ((∃ later, skipBlanks behind = ',' :: later ∧ pastItems later = .ok rest)
          ∨ skipBlanks behind = ']' :: rest) := by
  rw [pastItems, skipItems, pastValue]
  cases skipValue cs with
  | error defect => simp [Except.map]
  | ok left =>
    obtain ⟨behind, shorter⟩ := left
    simp only [map_val_ok, Except.ok.injEq, exists_eq_left']
    split
    · next stop => simp [stop, Except.map]
    · next c later eq =>
      simp only [eq, List.cons.injEq]
      split
      · next comma =>
        rw [map_val_map_widen, ← pastItems]
        simp [comma]
      · split
        · next close => simp [close, Except.map]
        · next no_comma no_close => simp [no_comma, no_close, Except.map]

/-- Behind a member stands a comma and further members, or the brace. -/
theorem pastMembers_eq_ok_iff {cs rest : List Char} :
    pastMembers cs = .ok rest
      ↔ ∃ key, skipBlanks cs = '"' :: key ∧ ∃ colon, skipBody key = .ok colon
        ∧ ∃ value, readColon colon = .ok value ∧ ∃ behind, pastValue value = .ok behind
        ∧ ((∃ later, skipBlanks behind = ',' :: later ∧ pastMembers later = .ok rest)
          ∨ skipBlanks behind = '\x7d' :: rest) := by
  rw [pastMembers, skipMembers]
  split
  · next stop => simp [stop, Except.map]
  · next c key quote =>
    simp only [quote, List.cons.injEq]
    split
    · next is_quote =>
      simp only [is_quote, true_and, exists_eq_left']
      split
      · next failed => simp [failed, Except.map]
      · next colon literal =>
        simp only [literal, Except.ok.injEq, exists_eq_left']
        split
        · next failed => simp [failed, Except.map]
        · next value gap =>
          simp only [gap, Except.ok.injEq, exists_eq_left', pastValue]
          cases skipValue value with
          | error defect => simp [Except.map]
          | ok left =>
            obtain ⟨behind, shorter⟩ := left
            simp only [map_val_ok, Except.ok.injEq, exists_eq_left']
            split
            · next stop => simp [stop, Except.map]
            · next d later eq =>
              simp only [eq, List.cons.injEq]
              split
              · next comma =>
                rw [map_val_map_widen, ← pastMembers]
                simp [comma]
              · split
                · next close => simp [close, Except.map]
                · next no_comma no_close => simp [no_comma, no_close, Except.map]
    · next no_quote => simp [no_quote, Except.map]

/-- A value that begins with no bracket is a scalar. -/
theorem pastValue_eq_skipScalar {cs inner : List Char} {c : Char}
    (start : skipBlanks cs = c :: inner) (bracket : c ≠ '[') (brace : c ≠ '\x7b') :
    pastValue cs = skipScalar c inner := by
  rw [pastValue, skipValue]
  split
  · next other => cases start.symm.trans other
  · next other =>
    cases start.symm.trans other
    rw [if_neg bracket, if_neg brace]
    split
    · next failed =>
      rw [failed]
      rfl
    · next found => exact found.symm

/-- No value begins with a closing bracket. -/
theorem exists_start_of_pastValue {cs rest : List Char} (h : pastValue cs = .ok rest) :
    ∃ c inner, skipBlanks cs = c :: inner ∧ c ≠ ']' := by
  cases start : skipBlanks cs with
  | nil =>
    rw [pastValue, skipValue] at h
    split at h
    · cases h
    · next other => cases start.symm.trans other
  | cons c inner =>
    refine ⟨c, inner, rfl, ?_⟩
    rintro rfl
    rw [pastValue_eq_skipScalar start (by decide) (by decide)] at h
    cases h

theorem exists_start_of_pastItems {cs rest : List Char} (h : pastItems cs = .ok rest) :
    ∃ c inner, skipBlanks cs = c :: inner ∧ c ≠ ']' := by
  obtain ⟨behind, value, -⟩ := pastItems_eq_ok_iff.1 h
  exact exists_start_of_pastValue value

/-- An array is empty, or has items; these begin with no closing
bracket, so it is never both. -/
theorem pastValue_bracket_iff {cs inner rest : List Char} (start : skipBlanks cs = '[' :: inner) :
    pastValue cs = .ok rest ↔ skipBlanks inner = ']' :: rest ∨ pastItems inner = .ok rest := by
  rw [pastValue, skipValue]
  split
  · next other => cases start.symm.trans other
  · next other =>
    cases start.symm.trans other
    rw [if_pos rfl]
    split
    · next stop =>
      refine iff_of_false (by simp [Except.map]) ?_
      rintro (close | items)
      · cases stop.symm.trans close
      · obtain ⟨c, _, some, -⟩ := exists_start_of_pastItems items
        cases stop.symm.trans some
    · next d after first =>
      split
      · next close =>
        have no_items : ¬ pastItems inner = .ok rest := by
          intro items
          obtain ⟨c, _, some, other⟩ := exists_start_of_pastItems items
          cases first.symm.trans some
          exact other close
        simp [first, close, no_items, Except.map]
      · next other =>
        rw [map_val_map_widen, ← pastItems]
        simp [first, other]

/-- An object is empty, or has members. -/
theorem pastValue_brace_iff {cs inner rest : List Char} (start : skipBlanks cs = '\x7b' :: inner) :
    pastValue cs = .ok rest ↔ skipBlanks inner = '\x7d' :: rest ∨ pastMembers inner = .ok rest := by
  rw [pastValue, skipValue]
  split
  · next other => cases start.symm.trans other
  · next other =>
    cases start.symm.trans other
    rw [if_neg (by decide), if_pos rfl]
    split
    · next stop =>
      refine iff_of_false (by simp [Except.map]) ?_
      rintro (close | members)
      · cases stop.symm.trans close
      · obtain ⟨key, some, -⟩ := pastMembers_eq_ok_iff.1 members
        cases stop.symm.trans some
    · next d after first =>
      split
      · next close =>
        have no_members : ¬ pastMembers inner = .ok rest := by
          intro members
          obtain ⟨key, some, -⟩ := pastMembers_eq_ok_iff.1 members
          cases first.symm.trans some
          cases close
        simp [first, close, no_members, Except.map]
      · next other =>
        rw [map_val_map_widen, ← pastMembers]
        simp [first, other]

/-! ## 4. What is skipped is a value -/

theorem value_of_skipScalar {c : Char} {inner rest : List Char}
    (h : skipScalar c inner = .ok rest) :
    ∃ value, c :: inner = value ++ rest ∧ IsValue value := by
  unfold skipScalar at h
  split at h
  · next quote =>
    obtain ⟨body, rfl, formed⟩ := skipBody_eq_ok_iff.1 h
    exact ⟨inQuotes body, by simp [quote, inQuotes], .literal formed⟩
  split at h
  · next first =>
    rw [readWord_eq_ok_iff.1 h, first]
    exact ⟨['n', 'u', 'l', 'l'], rfl, .word (by decide)⟩
  split at h
  · next first =>
    rw [readWord_eq_ok_iff.1 h, first]
    exact ⟨['t', 'r', 'u', 'e'], rfl, .word (by decide)⟩
  split at h
  · next first =>
    rw [readWord_eq_ok_iff.1 h, first]
    exact ⟨['f', 'a', 'l', 's', 'e'], rfl, .word (by decide)⟩
  split at h
  · split at h
    · cases h
    · next found =>
      cases h
      obtain ⟨number, split, formed⟩ := exists_number_of_readNumber found
      exact ⟨number, split, .number formed⟩
  · cases h

-- The theorems rest on one another as the functions call one another:
-- each use is about a text that is shorter, or about an item of the text.
mutual

theorem beginsWith_of_pastValue {cs rest : List Char} (h : pastValue cs = .ok rest) :
    BeginsWith IsValue cs rest := by
  obtain ⟨c, inner, start, -⟩ := exists_start_of_pastValue h
  have shorter := length_lt_of_skipBlanks start
  obtain ⟨-, blanks, blank, rfl⟩ := skipBlanks_eq_cons_iff.1 start
  by_cases bracket : c = '['
  · subst bracket
    rcases (pastValue_bracket_iff start).1 h with close | found
    · obtain ⟨-, none, no_items, rfl⟩ := skipBlanks_eq_cons_iff.1 close
      exact ⟨blanks, _, blank, .array (.none no_items) (by simp), by simp⟩
    · obtain ⟨items, each, row, formed, rfl⟩ := rowThen_of_pastItems found
      exact ⟨blanks, _, blank, .array (.some formed) each, by simp⟩
  by_cases brace : c = '\x7b'
  · subst brace
    rcases (pastValue_brace_iff start).1 h with close | found
    · obtain ⟨-, none, no_members, rfl⟩ := skipBlanks_eq_cons_iff.1 close
      exact ⟨blanks, _, blank, @IsValue.object [] _ (.none no_members) (by simp) (by simp),
        by simp⟩
    · obtain ⟨members, keys, each, row, formed, rfl⟩ := rowThen_of_pastMembers found
      exact ⟨blanks, _, blank, .object (.some formed) keys each, by simp⟩
  · rw [pastValue_eq_skipScalar start bracket brace] at h
    obtain ⟨value, split, formed⟩ := value_of_skipScalar h
    exact ⟨blanks, value, blank, formed, by rw [split]⟩
termination_by (cs.length, 0)

theorem rowThen_of_pastItems {cs rest : List Char} (h : pastItems cs = .ok rest) :
    ∃ items, (∀ item ∈ items, IsValue item) ∧ RowThen ']' items cs rest := by
  obtain ⟨behind, found, next⟩ := pastItems_eq_ok_iff.1 h
  have shorter := length_pastValue_lt found
  obtain ⟨before, item, blank, formed, split⟩ := beginsWith_of_pastValue found
  rcases next with ⟨later, comma, more⟩ | close
  · have := length_lt_of_skipBlanks comma
    obtain ⟨items, each, row⟩ := rowThen_of_pastItems more
    exact ⟨item :: items, List.forall_mem_cons.2 ⟨formed, each⟩,
      (rowThen_cons_iff rfl).2 ⟨before, behind, blank, split, .inl ⟨later, comma, row⟩⟩⟩
  · exact ⟨[item], List.forall_mem_singleton.2 formed,
      (rowThen_cons_iff rfl).2 ⟨before, behind, blank, split, .inr ⟨rfl, close⟩⟩⟩
termination_by (cs.length, 1)

theorem rowThen_of_pastMembers {cs rest : List Char} (h : pastMembers cs = .ok rest) :
    ∃ members : List Member, (∀ member ∈ members, member.Spaced ∧ IsBody member.key)
      ∧ (∀ member ∈ members, IsValue member.value)
      ∧ RowThen '\x7d' (members.map Member.text) cs rest := by
  obtain ⟨literal, quote, colon, found_key, lead, found_colon, behind, found, next⟩ :=
    pastMembers_eq_ok_iff.1 h
  have shorter : lead.length < cs.length :=
    (length_readColon_lt found_colon).trans
      ((length_skipBody_lt found_key).trans (length_lt_of_skipBlanks quote))
  have left := length_pastValue_lt found
  obtain ⟨-, before, blank, split⟩ := skipBlanks_eq_cons_iff.1 quote
  obtain ⟨key, rfl, key_formed⟩ := skipBody_eq_ok_iff.1 found_key
  obtain ⟨gap, gap_blank, rfl⟩ := readColon_eq_ok_iff.1 found_colon
  obtain ⟨lead, value, lead_blank, formed, rfl⟩ := beginsWith_of_pastValue found
  let member : Member := ⟨key, gap, lead, value⟩
  have spaced : member.Spaced ∧ IsBody member.key := ⟨⟨gap_blank, lead_blank⟩, key_formed⟩
  have here : cs = before ++ (member.text ++ behind) := by rw [member.text_append, split]
  rcases next with ⟨later, comma, more⟩ | close
  · have := length_lt_of_skipBlanks comma
    obtain ⟨members, keys, each, row⟩ := rowThen_of_pastMembers more
    exact ⟨member :: members, List.forall_mem_cons.2 ⟨spaced, keys⟩,
      List.forall_mem_cons.2 ⟨formed, each⟩,
      (rowThen_cons_iff rfl).2 ⟨before, behind, blank, here, .inl ⟨later, comma, row⟩⟩⟩
  · exact ⟨[member], List.forall_mem_singleton.2 spaced, List.forall_mem_singleton.2 formed,
      (rowThen_cons_iff rfl).2 ⟨before, behind, blank, here, .inr ⟨rfl, close⟩⟩⟩
termination_by (cs.length, 1)

end

/-! ## 5. A value is skipped whole -/

/-- Whether a value is skipped whole, whatever blanks stand before it and
wherever a number may end. -/
def IsPassed (value : List Char) : Prop :=
  ∀ {blanks after : List Char}, IsBlanks blanks → EndsNumber after →
    pastValue (blanks ++ (value ++ after)) = .ok after

/-- A number may end before blanks and a mark. -/
theorem endsNumber_of_skipBlanks {cs rest : List Char} {c : Char}
    (start : skipBlanks cs = c :: rest) (mark : continuesNumber c = false) : EndsNumber cs := by
  obtain ⟨-, blanks, blank, rfl⟩ := skipBlanks_eq_cons_iff.1 start
  cases blanks with
  | nil => simpa [EndsNumber, EndsBefore] using mark
  | cons d blanks =>
    rcases isBlank_iff.1 (blank d List.mem_cons_self) with rfl | rfl | rfl | rfl
    all_goals simp [EndsNumber, EndsBefore, continuesNumber]

/-- A scalar begins with no bracket and with no blank. -/
theorem start_of_skipScalar {c : Char} {inner rest : List Char}
    (h : skipScalar c inner = .ok rest) : isBlank c = false ∧ c ≠ '[' ∧ c ≠ '\x7b' := by
  refine ⟨?_, ?_, ?_⟩
  · cases blank : isBlank c with
    | false => rfl
    | true =>
      rcases isBlank_iff.1 blank with rfl | rfl | rfl | rfl
      all_goals cases h
  · rintro rfl
    cases h
  · rintro rfl
    cases h

theorem isPassed_of_skipScalar {c : Char} {tail : List Char}
    (found : ∀ {after}, EndsNumber after → skipScalar c (tail ++ after) = .ok after) :
    IsPassed (c :: tail) := by
  intro blanks after blank stop
  obtain ⟨plain, bracket, brace⟩ := start_of_skipScalar (found stop)
  rw [List.cons_append, pastValue_eq_skipScalar (skipBlanks_append blank plain _) bracket brace]
  exact found stop

theorem isPassed_word {word : List Char} (listed : word ∈ words) : IsPassed word := by
  simp only [words, List.mem_cons, List.not_mem_nil, or_false] at listed
  rcases listed with rfl | rfl | rfl
  all_goals
    refine isPassed_of_skipScalar fun {after} _ => ?_
    exact readWord_eq_ok_iff.2 rfl

theorem isPassed_literal {body : List Char} (formed : IsBody body) : IsPassed (inQuotes body) := by
  refine isPassed_of_skipScalar fun {after} _ => ?_
  rw [skipScalar, if_pos rfl]
  exact skipBody_eq_ok_iff.2 ⟨body, by simp, formed⟩

theorem isPassed_number {number : List Char} (formed : IsNumber number) : IsPassed number := by
  obtain ⟨c, tail, rfl, first, read⟩ := readNumber_of_isNumber formed
  refine isPassed_of_skipScalar fun {after} stop => ?_
  obtain ⟨parts, found⟩ := read stop
  have quote : c ≠ '"' := by rintro rfl; exact absurd first (by decide)
  have n : c ≠ 'n' := by rintro rfl; exact absurd first (by decide)
  have t : c ≠ 't' := by rintro rfl; exact absurd first (by decide)
  have f : c ≠ 'f' := by rintro rfl; exact absurd first (by decide)
  rw [skipScalar, if_neg quote, if_neg n, if_neg t, if_neg f, if_pos first, found]

/-- A row of items is skipped with the bracket behind it. -/
theorem pastItems_of_rowThen {items : List (List Char)} (passed : ∀ item ∈ items, IsPassed item)
    {cs rest : List Char} (row : RowThen ']' items cs rest) : pastItems cs = .ok rest := by
  induction items generalizing cs with
  | nil => exact absurd row not_rowThen_nil
  | cons item items ih =>
    obtain ⟨item_passed, passed⟩ := List.forall_mem_cons.1 passed
    obtain ⟨before, behind, blank, rfl, ⟨later, comma, more⟩ | ⟨-, close⟩⟩ :=
      (rowThen_cons_iff rfl).1 row
    · have found := item_passed blank (endsNumber_of_skipBlanks comma rfl)
      exact pastItems_eq_ok_iff.2 ⟨behind, found, .inl ⟨later, comma, ih passed more⟩⟩
    · have found := item_passed blank (endsNumber_of_skipBlanks close rfl)
      exact pastItems_eq_ok_iff.2 ⟨behind, found, .inr close⟩

/-- A row of members is skipped with the brace behind it. -/
theorem pastMembers_of_rowThen {members : List Member}
    (keys : ∀ member ∈ members, member.Spaced ∧ IsBody member.key)
    (passed : ∀ member ∈ members, IsPassed member.value) {cs rest : List Char}
    (row : RowThen '\x7d' (members.map Member.text) cs rest) : pastMembers cs = .ok rest := by
  induction members generalizing cs with
  | nil => exact absurd row not_rowThen_nil
  | cons member members ih =>
    obtain ⟨⟨spaced, key_formed⟩, keys⟩ := List.forall_mem_cons.1 keys
    obtain ⟨value_passed, passed⟩ := List.forall_mem_cons.1 passed
    obtain ⟨before, behind, blank, rfl, next⟩ := (rowThen_cons_iff rfl).1 row
    have key (colon : List Char) : skipBody (member.key ++ '"' :: colon) = .ok colon :=
      skipBody_eq_ok_iff.2 ⟨member.key, rfl, key_formed⟩
    rw [member.text_append]
    refine pastMembers_eq_ok_iff.2
      ⟨_, skipBlanks_append blank rfl _, _, key _, _, spaced.readColon _, behind, ?_⟩
    rcases next with ⟨later, comma, more⟩ | ⟨-, close⟩
    · exact ⟨value_passed spaced.2 (endsNumber_of_skipBlanks comma rfl),
        .inl ⟨later, comma, ih keys passed more⟩⟩
    · exact ⟨value_passed spaced.2 (endsNumber_of_skipBlanks close rfl), .inr close⟩

/-- Every value is skipped whole. -/
theorem isPassed_of_isValue {value : List Char} (h : IsValue value) : IsPassed value := by
  induction h with
  | word listed => exact isPassed_word listed
  | number formed => exact isPassed_number formed
  | literal formed => exact isPassed_literal formed
  | @array items inner enclosed _ ih =>
    intro blanks after blank _
    rw [pastValue_bracket_iff (skipBlanks_brackets blank rfl inner ']' after)]
    cases enclosed with
    | none inner_blank => exact .inl (skipBlanks_append inner_blank rfl after)
    | some row => exact .inr (pastItems_of_rowThen ih ⟨inner, row, rfl⟩)
  | @object members inner enclosed keys _ ih =>
    intro blanks after blank _
    rw [pastValue_brace_iff (skipBlanks_brackets blank rfl inner '\x7d' after)]
    generalize eq : members.map Member.text = texts at enclosed
    cases enclosed with
    | none inner_blank => exact .inl (skipBlanks_append inner_blank rfl after)
    | some row => exact .inr (pastMembers_of_rowThen keys ih ⟨inner, eq ▸ row, rfl⟩)

end ScriptSyntax.Json
