/-
ScriptSyntax.Proofs.Token.Display — a token is known from its display.

A display is a fixed frame with two words in it, the name of the kind and
the quoted value. The name ends at the comma behind it, for names are
letters alone; and the value ends where its quotes say, even if it imitates
the frame.

* `TokenKind.isAlpha_of_mem_name` — the letters of a name.
* `Token.display_eq_iff` — displays tell tokens apart, and quoting tells
  texts apart whichever characters it shows as they are.
-/
import ScriptSyntax.Token.Basic
import ScriptSyntax.Proofs.Text.Parts

namespace ScriptSyntax

/-- The names of kinds are made of letters. -/
theorem TokenKind.isAlpha_of_mem_name {kind : TokenKind} {c : Char} (h : c ∈ kind.name.toList) :
    c.isAlpha = true := by
  have letters : kind.name.toList.all Char.isAlpha = true := by cases kind <;> decide
  exact List.all_eq_true.1 letters c h

namespace Token

/-- A display in its parts: up to the comma, and behind it. -/
theorem toList_display (token : Token) :
    token.display.toList
      = "Token \x7b kind: ".toList ++ (token.kind.name.toList
        ++ ',' :: (" value: ".toList
          ++ (Quoted.encode '"' Printable.isShown token.value.toList ++ " \x7d".toList))) := by
  have whole : token.display = "Token \x7b kind: " ++ token.kind.name ++ ", value: "
      ++ Quoted.string token.value ++ " \x7d" := rfl
  have comma : ", value: ".toList = ',' :: " value: ".toList := by decide
  simp only [whole, Quoted.string, String.toList_append, String.toList_ofList, comma,
    List.append_assoc, List.cons_append]

/-- Tokens that are displayed alike are the same. -/
theorem display_inj {token other : Token} (h : token.display = other.display) :
    token = other := by
  have parts := congrArg String.toList h
  rw [toList_display, toList_display] at parts
  have comma (kind : TokenKind) : ',' ∉ kind.name.toList := fun mem => by
    cases TokenKind.isAlpha_of_mem_name mem
  obtain ⟨name, behind⟩ :=
    append_cons_inj (comma _) (comma _) (List.append_cancel_left parts)
  obtain ⟨value, -⟩ := Quoted.encode_append_inj (by decide) (List.append_cancel_left behind)
  obtain ⟨value', kind⟩ := token
  obtain ⟨other_value, other_kind⟩ := other
  obtain rfl := TokenKind.name_inj (String.toList_inj.1 name)
  obtain rfl := String.toList_inj.1 value
  rfl

/-- Tokens are displayed alike just if they are the same. What it rests on
is that quoted texts are written alike just if they are the same, whichever
characters are shown as they are. -/
theorem display_eq_iff :
    (∀ token other : Token, token.display = other.display ↔ token = other)
      ∧ ∀ (shown : Char → Bool) (text other : List Char),
        Quoted.encode '"' shown text = Quoted.encode '"' shown other ↔ text = other := by
  constructor
  · intro token other
    exact ⟨display_inj, congrArg display⟩
  · intro shown text other
    exact ⟨Quoted.encode_inj (by decide), congrArg _⟩

end Token

end ScriptSyntax
