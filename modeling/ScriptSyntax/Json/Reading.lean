/-
ScriptSyntax.Json.Reading — token lists from JSON text.

`Json.parse` reads an array of tokens, and answers any other text with
its first defect. A token is an object with one `value` and one `type`
among members that are skipped, or an array of just the two. The kind is
a string, or an object that binds the kind's name to null.
-/
import ScriptSyntax.Json.Skipping

namespace ScriptSyntax.Json

/-! ## 1. Values of the wrong form -/

/-- What is wrong with the text `c :: rest` where a value of another form
has to stand. An array or object is known for what it is by its bracket;
any other value is read first, and may be malformed itself. -/
def misplaced (c : Char) (rest : List Char) : Defect :=
  let judge {α : Type} : Except Defect α → Defect
    | .error defect => defect
    | .ok _ => .mismatched
  if c = '[' ∨ c = '\x7b' then .mismatched
  else if c = '"' then judge (readBody rest)
  else if c = 'n' then judge (readWord ['u', 'l', 'l'] rest)
  else if c = 't' then judge (readWord ['r', 'u', 'e'] rest)
  else if c = 'f' then judge (readWord ['a', 'l', 's', 'e'] rest)
  else if c = '-' || c.isDigit then
    match readNumber c rest with
    | .error defect => defect
    | .ok (parts, _) => if parts.outOfRange then .malformed else .mismatched
  else .malformed

/-! ## 2. The parts of a token -/

/-- Reads a string. -/
def readString (cs : List Char) : Except Defect (String × List Char) :=
  match skipBlanks cs with
  | [] => .error .truncated
  | c :: rest =>
    if c = '"' then
      match readBody rest with
      | .error defect => .error defect
      | .ok (text, after) => .ok (String.ofList text, after)
    else .error (misplaced c rest)

/-- Reads the name of a kind behind its opening quote. -/
def readKindName (cs : List Char) : Except Defect (TokenKind × List Char) :=
  match readBody cs with
  | .error defect => .error defect
  | .ok (name, rest) =>
    match TokenKind.ofName? (String.ofList name) with
    | some kind => .ok (kind, rest)
    | none => .error .mismatched

/-- Reads the key that names a kind. Anything but a string is malformed
here, since keys are strings in every object. -/
def readKindKey (cs : List Char) : Except Defect (TokenKind × List Char) :=
  match skipBlanks cs with
  | [] => .error .truncated
  | c :: rest => if c = '"' then readKindName rest else .error .malformed

/-- Reads a null. -/
def readNull (cs : List Char) : Except Defect (List Char) :=
  match skipBlanks cs with
  | [] => .error .truncated
  | c :: rest =>
    if c = 'n' then readWord ['u', 'l', 'l'] rest else .error (misplaced c rest)

/-- Reads a closing brace with nothing before it. -/
def readClose (cs : List Char) : Except Defect (List Char) :=
  match skipBlanks cs with
  | [] => .error .truncated
  | c :: rest => if c = '\x7d' then .ok rest else .error .malformed

/-- Reads a kind: its name, or an object in which its name has the value
null. -/
def readKind (cs : List Char) : Except Defect (TokenKind × List Char) :=
  match skipBlanks cs with
  | [] => .error .truncated
  | c :: rest =>
    if c = '"' then readKindName rest
    else if c = '\x7b' then do
      let (kind, rest) ← readKindKey rest
      let rest ← readColon rest
      let rest ← readNull rest
      let rest ← readClose rest
      return (kind, rest)
    else .error .malformed

theorem length_readString_lt {cs rest : List Char} {text : String}
    (h : readString cs = .ok (text, rest)) : rest.length < cs.length := by
  unfold readString at h
  split at h
  · cases h
  · next c tail eq =>
    split at h
    · split at h
      · cases h
      · next body =>
        cases h
        exact Nat.lt_trans (length_readBody_lt body) (length_lt_of_skipBlanks eq)
    · cases h

theorem length_readKindName_lt {cs rest : List Char} {kind : TokenKind}
    (h : readKindName cs = .ok (kind, rest)) : rest.length < cs.length := by
  unfold readKindName at h
  split at h
  · cases h
  · next name =>
    split at h
    · cases h
      exact length_readBody_lt name
    · cases h

theorem length_readKindKey_lt {cs rest : List Char} {kind : TokenKind}
    (h : readKindKey cs = .ok (kind, rest)) : rest.length < cs.length := by
  unfold readKindKey at h
  split at h
  · cases h
  · next c tail eq =>
    split at h
    · exact Nat.lt_trans (length_readKindName_lt h) (length_lt_of_skipBlanks eq)
    · cases h

theorem length_readNull_lt {cs rest : List Char} (h : readNull cs = .ok rest) :
    rest.length < cs.length := by
  unfold readNull at h
  split at h
  · cases h
  · next c tail eq =>
    split at h
    · exact Nat.lt_of_le_of_lt (length_readWord_le h) (length_lt_of_skipBlanks eq)
    · cases h

theorem length_readClose_lt {cs rest : List Char} (h : readClose cs = .ok rest) :
    rest.length < cs.length := by
  unfold readClose at h
  split at h
  · cases h
  · next c tail eq =>
    split at h
    · cases h
      exact length_lt_of_skipBlanks eq
    · cases h

theorem length_readKind_lt {cs rest : List Char} {kind : TokenKind}
    (h : readKind cs = .ok (kind, rest)) : rest.length < cs.length := by
  unfold readKind at h
  split at h
  · cases h
  · next c tail eq =>
    have blanks := length_lt_of_skipBlanks eq
    split at h
    · exact Nat.lt_trans (length_readKindName_lt h) blanks
    · split at h
      · obtain ⟨⟨kind', cs₁⟩, name, h⟩ := of_bind_eq_ok h
        obtain ⟨cs₂, colon, h⟩ := of_bind_eq_ok h
        obtain ⟨cs₃, null, h⟩ := of_bind_eq_ok h
        obtain ⟨cs₄, close, h⟩ := of_bind_eq_ok h
        cases h
        have := length_readKindKey_lt name
        have := length_readColon_lt colon
        have := length_readNull_lt null
        have := length_readClose_lt close
        omega
      · cases h

/-! ## 3. Tokens as objects -/

/-- What the members read so far say about a token. -/
structure Fields where
  value : Option String
  kind : Option TokenKind

/-- The token of an object, once its members are read; neither field may
be missing. -/
def Fields.token (fields : Fields) : Except Defect Token :=
  match fields.value, fields.kind with
  | some value, some kind => .ok ⟨value, kind⟩
  | _, _ => .error .mismatched

/-- Reads the colon and the value after a key. A key that fills a field
for the second time is refused at once. -/
def readField (fields : Fields) (key : List Char) (cs : List Char) :
    Except Defect (Fields × List Char) := do
  if key = ['v', 'a', 'l', 'u', 'e'] then
    if fields.value.isSome then .error .mismatched
    else
      let rest ← readColon cs
      let (value, rest) ← readString rest
      return ({ fields with value := some value }, rest)
  else if key = ['t', 'y', 'p', 'e'] then
    if fields.kind.isSome then .error .mismatched
    else
      let rest ← readColon cs
      let (kind, rest) ← readKind rest
      return ({ fields with kind := some kind }, rest)
  else
    let rest ← readColon cs
    let ⟨rest, _⟩ ← skipValue rest
    return (fields, rest)

theorem length_readField_lt {fields found : Fields} {key cs rest : List Char}
    (h : readField fields key cs = .ok (found, rest)) : rest.length < cs.length := by
  unfold readField at h
  split at h
  · split at h
    · cases h
    · obtain ⟨cs₁, colon, h⟩ := of_bind_eq_ok h
      obtain ⟨⟨value, cs₂⟩, string, h⟩ := of_bind_eq_ok h
      cases h
      exact Nat.lt_trans (length_readString_lt string) (length_readColon_lt colon)
  · split at h
    · split at h
      · cases h
      · obtain ⟨cs₁, colon, h⟩ := of_bind_eq_ok h
        obtain ⟨⟨kind, cs₂⟩, kindRead, h⟩ := of_bind_eq_ok h
        cases h
        exact Nat.lt_trans (length_readKind_lt kindRead) (length_readColon_lt colon)
    · obtain ⟨cs₁, colon, h⟩ := of_bind_eq_ok h
      obtain ⟨⟨after, shorter⟩, _, h⟩ := of_bind_eq_ok h
      cases h
      exact Nat.lt_trans shorter (length_readColon_lt colon)

/-- Reads the members of an object from the next key on, and the brace
after them. -/
def readMembers (fields : Fields) (cs : List Char) : Except Defect (Token × List Char) :=
  match key : skipBlanks cs with
  | [] => .error .truncated
  | c :: rest =>
    have := length_lt_of_skipBlanks key
    if c = '"' then
      match literal : readBody rest with
      | .error defect => .error defect
      | .ok (name, rest₁) =>
        have := length_readBody_lt literal
        match field : readField fields name rest₁ with
        | .error defect => .error defect
        | .ok (fields, rest₂) =>
          have := length_readField_lt field
          match next : skipBlanks rest₂ with
          | [] => .error .truncated
          | d :: after =>
            have := length_lt_of_skipBlanks next
            if d = ',' then readMembers fields after
            else if d = '\x7d' then fields.token.map fun token => (token, after)
            else .error .malformed
    else .error .malformed
termination_by cs.length

/-- Reads an object behind its opening brace. -/
def readObject (cs : List Char) : Except Defect (Token × List Char) :=
  match skipBlanks cs with
  | [] => .error .truncated
  | c :: _ => if c = '\x7d' then .error .mismatched else readMembers ⟨none, none⟩ cs

theorem length_readMembers_lt {fields : Fields} {cs rest : List Char} {token : Token}
    (h : readMembers fields cs = .ok (token, rest)) : rest.length < cs.length := by
  fun_induction readMembers fields cs with
  | case5 fields cs tail name rest₁ literal _ found rest₂ field _ after key _ next _ ih =>
    have := ih h
    omega
  | case6 fields cs tail name rest₁ literal _ found rest₂ field _ after =>
    cases complete : found.token with
    | error defect => simp [complete, Except.map] at h
    | ok token' =>
      simp only [complete, Except.map, Except.ok.injEq, Prod.mk.injEq] at h
      rw [← h.2]
      omega
  | _ => cases h

theorem length_readObject_lt {cs rest : List Char} {token : Token}
    (h : readObject cs = .ok (token, rest)) : rest.length < cs.length := by
  unfold readObject at h
  split at h
  · cases h
  · split at h
    · cases h
    · exact length_readMembers_lt h

/-! ## 4. Tokens as arrays -/

/-- Reads the kind that is the last item of an array, and the bracket
after it. -/
def readLastKind (cs : List Char) : Except Defect (TokenKind × List Char) :=
  match readKind cs with
  | .error defect => .error defect
  | .ok (kind, rest) =>
    match skipBlanks rest with
    | [] => .error .truncated
    | c :: after => if c = ']' then .ok (kind, after) else .error .malformed

/-- Reads the comma and the kind after a value. An array that ends before
its kind is of the wrong form. -/
def readAfterValue (value : String) (cs : List Char) : Except Defect (Token × List Char) :=
  match skipBlanks cs with
  | [] => .error .truncated
  | c :: rest =>
    if c = ']' then .error .mismatched
    else if c = ',' then
      match readLastKind rest with
      | .error defect => .error defect
      | .ok (kind, after) => .ok (⟨value, kind⟩, after)
    else .error .malformed

/-- Reads an array of value and kind behind its opening bracket. One with
fewer items is of the wrong form, one with more is malformed. -/
def readCouple (cs : List Char) : Except Defect (Token × List Char) :=
  match skipBlanks cs with
  | [] => .error .truncated
  | c :: _ =>
    if c = ']' then .error .mismatched
    else
      match readString cs with
      | .error defect => .error defect
      | .ok (value, rest) => readAfterValue value rest

theorem length_readLastKind_lt {cs rest : List Char} {kind : TokenKind}
    (h : readLastKind cs = .ok (kind, rest)) : rest.length < cs.length := by
  unfold readLastKind at h
  split at h
  · cases h
  · next found =>
    split at h
    · cases h
    · next eq =>
      split at h
      · cases h
        exact Nat.lt_trans (length_lt_of_skipBlanks eq) (length_readKind_lt found)
      · cases h

theorem length_readAfterValue_lt {value : String} {cs rest : List Char} {token : Token}
    (h : readAfterValue value cs = .ok (token, rest)) : rest.length < cs.length := by
  unfold readAfterValue at h
  split at h
  · cases h
  · next eq =>
    split at h
    · cases h
    · split at h
      · split at h
        · cases h
        · next found =>
          cases h
          exact Nat.lt_trans (length_readLastKind_lt found) (length_lt_of_skipBlanks eq)
      · cases h

theorem length_readCouple_lt {cs rest : List Char} {token : Token}
    (h : readCouple cs = .ok (token, rest)) : rest.length < cs.length := by
  unfold readCouple at h
  split at h
  · cases h
  · split at h
    · cases h
    · split at h
      · cases h
      · next found =>
        exact Nat.lt_trans (length_readAfterValue_lt h) (length_readString_lt found)

/-! ## 5. Token lists -/

/-- Reads a token. -/
def readToken (cs : List Char) : Except Defect (Token × List Char) :=
  match skipBlanks cs with
  | [] => .error .truncated
  | c :: rest =>
    if c = '\x7b' then readObject rest
    else if c = '[' then readCouple rest
    else .error (misplaced c rest)

/-- Reading a token uses up at least one character. -/
theorem length_readToken_lt {cs rest : List Char} {token : Token}
    (h : readToken cs = .ok (token, rest)) : rest.length < cs.length := by
  unfold readToken at h
  split at h
  · cases h
  · next c tail eq =>
    have := length_lt_of_skipBlanks eq
    split at h
    · exact Nat.lt_trans (length_readObject_lt h) this
    · split at h
      · exact Nat.lt_trans (length_readCouple_lt h) this
      · cases h

/-- Reads the tokens of an array from the next one on, and the bracket
after them. -/
def readTokens (cs : List Char) : Except Defect (List Token × List Char) :=
  match found : readToken cs with
  | .error defect => .error defect
  | .ok (token, rest) =>
    have := length_readToken_lt found
    match next : skipBlanks rest with
    | [] => .error .truncated
    | c :: after =>
      have := length_lt_of_skipBlanks next
      if c = ',' then
        match readTokens after with
        | .error defect => .error defect
        | .ok (tokens, rest) => .ok (token :: tokens, rest)
      else if c = ']' then .ok ([token], after)
      else .error .malformed
termination_by cs.length

/-- Reads an array of tokens behind its opening bracket. -/
def readArray (cs : List Char) : Except Defect (List Token × List Char) :=
  match skipBlanks cs with
  | [] => .error .truncated
  | c :: rest => if c = ']' then .ok ([], rest) else readTokens cs

/-- Reads a token list, which must be the whole text but for blanks. -/
def parseChars (cs : List Char) : Except Defect (List Token) :=
  match skipBlanks cs with
  | [] => .error .truncated
  | c :: rest =>
    if c = '[' then
      match readArray rest with
      | .error defect => .error defect
      | .ok (tokens, after) => if (skipBlanks after).isEmpty then .ok tokens else .error .malformed
    else .error (misplaced c rest)

/-- The token list that a text holds, or the text's first defect. -/
def parse (text : String) : Except Defect (List Token) :=
  parseChars text.toList

end ScriptSyntax.Json
