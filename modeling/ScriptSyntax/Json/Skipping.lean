/-
ScriptSyntax.Json.Skipping — values that are not wanted.

`skipValue` goes past any JSON value, however deeply nested. It asks only
that the value be well formed: numbers may have any size, and string
literals any escapes for surrogates.
-/
import ScriptSyntax.Json.Literal
import ScriptSyntax.Json.Number

namespace ScriptSyntax.Json

/-- Goes past the value `c :: rest`, unless it is an array or object. In
a number that is cut short the end of the text counts as a wrong
character. -/
def skipScalar (c : Char) (rest : List Char) : Except Defect (List Char) :=
  if c = '"' then skipBody rest
  else if c = 'n' then readWord ['u', 'l', 'l'] rest
  else if c = 't' then readWord ['r', 'u', 'e'] rest
  else if c = 'f' then readWord ['a', 'l', 's', 'e'] rest
  else if c = '-' || c.isDigit then
    match readNumber c rest with
    | .error _ => .error .malformed
    | .ok (_, after) => .ok after
  else .error .malformed

theorem length_skipScalar_le {c : Char} {cs rest : List Char}
    (h : skipScalar c cs = .ok rest) : rest.length ≤ cs.length := by
  unfold skipScalar at h
  split at h
  · exact Nat.le_of_lt (length_skipBody_lt h)
  · split at h
    · exact length_readWord_le h
    · split at h
      · exact length_readWord_le h
      · split at h
        · exact length_readWord_le h
        · split at h
          · split at h
            · cases h
            · next found =>
              cases h
              exact length_readNumber_le found
          · cases h

/-- What is left of a text after some of it has been read. -/
abbrev Rest (cs : List Char) : Type := { rest : List Char // rest.length < cs.length }

/-- What is left of a shorter text is left of the longer one. -/
def Rest.widen {cs ds : List Char} (h : ds.length ≤ cs.length) (rest : Rest ds) : Rest cs :=
  ⟨rest.1, Nat.lt_of_lt_of_le rest.2 h⟩

mutual

/-- Goes past a value, blanks before it or not. -/
def skipValue (cs : List Char) : Except Defect (Rest cs) :=
  match h : skipBlanks cs with
  | [] => .error .truncated
  | c :: rest =>
    have shorter := length_lt_of_skipBlanks h
    if c = '[' then
      match first : skipBlanks rest with
      | [] => .error .truncated
      | d :: after =>
        if d = ']' then .ok ⟨after, Nat.lt_trans (length_lt_of_skipBlanks first) shorter⟩
        else (skipItems rest).map (Rest.widen (Nat.le_of_lt shorter))
    else if c = '\x7b' then
      match first : skipBlanks rest with
      | [] => .error .truncated
      | d :: after =>
        if d = '\x7d' then .ok ⟨after, Nat.lt_trans (length_lt_of_skipBlanks first) shorter⟩
        else (skipMembers rest).map (Rest.widen (Nat.le_of_lt shorter))
    else
      match scalar : skipScalar c rest with
      | .error defect => .error defect
      | .ok after => .ok ⟨after, Nat.lt_of_le_of_lt (length_skipScalar_le scalar) shorter⟩
termination_by (cs.length, 0)

/-- Goes past the values of an array, of which there is at least one, and
the bracket after them. -/
def skipItems (cs : List Char) : Except Defect (Rest cs) :=
  match skipValue cs with
  | .error defect => .error defect
  | .ok ⟨rest, shorter⟩ =>
    match h : skipBlanks rest with
    | [] => .error .truncated
    | c :: after =>
      have shorter := Nat.lt_trans (length_lt_of_skipBlanks h) shorter
      if c = ',' then (skipItems after).map (Rest.widen (Nat.le_of_lt shorter))
      else if c = ']' then .ok ⟨after, shorter⟩
      else .error .malformed
termination_by (cs.length, 1)

/-- Goes past the members of an object, of which there is at least one,
and the brace after them. -/
def skipMembers (cs : List Char) : Except Defect (Rest cs) :=
  match key : skipBlanks cs with
  | [] => .error .truncated
  | c :: rest =>
    have shorter := length_lt_of_skipBlanks key
    if c = '"' then
      match literal : skipBody rest with
      | .error defect => .error defect
      | .ok rest₁ =>
        have shorter := Nat.lt_trans (length_skipBody_lt literal) shorter
        match colon : readColon rest₁ with
        | .error defect => .error defect
        | .ok rest₂ =>
          have shorter := Nat.lt_trans (length_readColon_lt colon) shorter
          match skipValue rest₂ with
          | .error defect => .error defect
          | .ok ⟨rest₃, shorter₃⟩ =>
            match h : skipBlanks rest₃ with
            | [] => .error .truncated
            | d :: after =>
              have shorter :=
                Nat.lt_trans (length_lt_of_skipBlanks h) (Nat.lt_trans shorter₃ shorter)
              if d = ',' then (skipMembers after).map (Rest.widen (Nat.le_of_lt shorter))
              else if d = '\x7d' then .ok ⟨after, shorter⟩
              else .error .malformed
    else .error .malformed
termination_by (cs.length, 1)

end

end ScriptSyntax.Json
