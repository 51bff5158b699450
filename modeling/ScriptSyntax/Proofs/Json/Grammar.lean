/-
ScriptSyntax.Proofs.Json.Grammar — which JSON texts hold token lists.

The reader goes through a text from left to right and keeps what it has
found in fields and in lists. The grammar says what the text is like, and
knows nothing of an order in which it is looked at.

* `Decodes` — the text of a literal, and the characters that it spells.
  A character has many spellings: itself, a letter behind a backslash, or
  the digits of its code units (`Spelling`).
* `Enclosed` — items between brackets, with commas between them and with
  blanks around them. It is the one rule for separators, and so the one
  place where a trailing comma is ruled out.
* `IsValue` — any JSON value. Its literals need only be well formed
  (`IsBody`), for nobody asks what they spell.
* `DenotesToken`, `DenotesList` — the texts of tokens and of token lists.
-/
import Mathlib.Data.List.Forall2
import ScriptSyntax.Json.Reading

namespace ScriptSyntax.Json

open Vocabulary

/-! ## 1. Literals -/

/-- The letters that may stand behind a backslash, and the characters
that they stand for. -/
def escapeLetters : List (Char × Char) :=
  [('"', '"'), ('\\', '\\'), ('/', '/'), ('b', '\x08'), ('f', '\x0c'), ('n', '\n'),
   ('r', '\r'), ('t', '\t')]

/-- The code units of a character in UTF-16. A character that does not fit
one unit has a pair of surrogates. -/
def codeUnits (c : Char) : List Nat :=
  if c.toNat < 0x10000 then [c.toNat]
  else [0xd800 + (c.toNat - 0x10000) / 0x400, 0xdc00 + (c.toNat - 0x10000) % 0x400]

/-- Whether digits are the four hexadecimal digits of a code unit, in
either case. -/
structure SpellsUnit (digits : List Char) (unit : Nat) : Prop where
  length_eq : digits.length = 4
  isSome_value : ∀ digit ∈ digits, (Hex.value? digit).isSome
  ofDigits_eq : Hex.ofDigits digits = unit

/-- An escape for a code unit with the given digits. -/
def unitEscape (digits : List Char) : List Char := '\\' :: 'u' :: digits

/-- The ways to write a character in a literal. -/
inductive Spelling (c : Char) : List Char → Prop where
  /-- As it is, unless it ends the literal, begins an escape or is a
  control. -/
  | plain : c ≠ '"' → c ≠ '\\' → 0x20 ≤ c.toNat → Spelling c [c]
  | letter {letter : Char} : (letter, c) ∈ escapeLetters → Spelling c ['\\', letter]
  /-- By its code units, one or two. -/
  | units {pieces : List (List Char)} :
    List.Forall₂ SpellsUnit pieces (codeUnits c) → Spelling c (pieces.flatMap unitEscape)

/-- Whether a text between quotes spells the given characters. -/
inductive Decodes : List Char → List Char → Prop where
  | nil : Decodes [] []
  | cons {c : Char} {spelling body text : List Char} :
    Spelling c spelling → Decodes body text → Decodes (spelling ++ body) (c :: text)

/-- Whether a text between quotes is well formed. A code unit may stand
in it that belongs to no character. -/
inductive IsBody : List Char → Prop where
  | nil : IsBody []
  | plain {c : Char} {body : List Char} :
    c ≠ '"' → c ≠ '\\' → 0x20 ≤ c.toNat → IsBody body → IsBody (c :: body)
  | letter {letter c : Char} {body : List Char} :
    (letter, c) ∈ escapeLetters → IsBody body → IsBody ('\\' :: letter :: body)
  | unit {digits body : List Char} {unit : Nat} :
    SpellsUnit digits unit → IsBody body → IsBody (unitEscape digits ++ body)

/-- The literal of which a text is the body. -/
def inQuotes (body : List Char) : List Char := '"' :: (body ++ ['"'])

/-- Whether a text is a literal that spells the given string. -/
def IsString (text : List Char) (value : String) : Prop :=
  ∃ body, text = inQuotes body ∧ Decodes body value.toList

/-! ## 2. Numbers -/

def IsDigits (digits : List Char) : Prop :=
  digits ≠ [] ∧ ∀ c ∈ digits, c.isDigit = true

/-- Digits of which the first is zero only where it is the only one. -/
def IsWhole (digits : List Char) : Prop :=
  IsDigits digits ∧ (digits.head? = some '0' → digits = ['0'])

/-- A period and digits behind it. -/
def IsFractional (text : List Char) : Prop :=
  ∃ digits, text = '.' :: digits ∧ IsDigits digits

/-- The letter of an exponent, a sign or none, and digits. -/
def IsExponent (text : List Char) : Prop :=
  ∃ letter sign digits, text = letter :: (sign ++ digits) ∧ (letter = 'e' ∨ letter = 'E')
    ∧ (sign = [] ∨ sign = ['+'] ∨ sign = ['-']) ∧ IsDigits digits

/-- A number of any size. -/
def IsNumber (text : List Char) : Prop :=
  ∃ sign whole fraction exponent, text = sign ++ (whole ++ (fraction ++ exponent))
    ∧ (sign = [] ∨ sign = ['-']) ∧ IsWhole whole ∧ (fraction = [] ∨ IsFractional fraction)
    ∧ (exponent = [] ∨ IsExponent exponent)

/-! ## 3. Brackets -/

def IsBlanks (blanks : List Char) : Prop := ∀ c ∈ blanks, isBlank c = true

/-- Items with a comma between any two, and blanks around each or not. -/
inductive Row : List (List Char) → List Char → Prop where
  | last {before item after : List Char} :
    IsBlanks before → IsBlanks after → Row [item] (before ++ (item ++ after))
  | more {before item after rest : List Char} {items : List (List Char)} :
    IsBlanks before → IsBlanks after → Row items rest →
      Row (item :: items) (before ++ (item ++ (after ++ ',' :: rest)))

/-- What stands between two brackets: items, or blanks. -/
inductive Enclosed : List (List Char) → List Char → Prop where
  | none {blanks : List Char} : IsBlanks blanks → Enclosed [] blanks
  | some {items : List (List Char)} {row : List Char} : Row items row → Enclosed items row

/-- A member of an object as it is written: the body of its key, the
blanks on both sides of the colon, and the value. -/
structure Member where
  key : List Char
  gap : List Char
  lead : List Char
  value : List Char

namespace Member

def text (member : Member) : List Char :=
  '"' :: (member.key ++ '"' :: (member.gap ++ ':' :: (member.lead ++ member.value)))

/-- Whether nothing but blanks stands beside the colon. -/
def Spaced (member : Member) : Prop :=
  IsBlanks member.gap ∧ IsBlanks member.lead

end Member

/-! ## 4. Values -/

/-- The three words that are values. -/
def words : List (List Char) :=
  [['n', 'u', 'l', 'l'], ['t', 'r', 'u', 'e'], ['f', 'a', 'l', 's', 'e']]

/-- Whether a text is a JSON value. -/
inductive IsValue : List Char → Prop where
  | word {word : List Char} : word ∈ words → IsValue word
  | number {number : List Char} : IsNumber number → IsValue number
  | literal {body : List Char} : IsBody body → IsValue (inQuotes body)
  | array {items : List (List Char)} {inner : List Char} :
    Enclosed items inner → (∀ item ∈ items, IsValue item) → IsValue ('[' :: (inner ++ [']']))
  | object {members : List Member} {inner : List Char} :
    Enclosed (members.map Member.text) inner →
      (∀ member ∈ members, member.Spaced ∧ IsBody member.key) →
      (∀ member ∈ members, IsValue member.value) →
      IsValue ('\x7b' :: (inner ++ ['\x7d']))

/-! ## 5. Tokens -/

/-- The texts of a kind: a literal that spells its name, or an object in
which its name is bound to null. -/
inductive DenotesKind (kind : TokenKind) : List Char → Prop where
  | name {text : List Char} : IsString text kind.name → DenotesKind kind text
  | object {member : Member} {inner : List Char} :
    Enclosed [member.text] inner → member.Spaced → Decodes member.key kind.name.toList →
      member.value = ['n', 'u', 'l', 'l'] → DenotesKind kind ('\x7b' :: (inner ++ ['\x7d']))

/-- What a token demands of a member with the given name: two names are
bound to its parts, and any other to any value. -/
def Binds (token : Token) (name text : List Char) : Prop :=
  if name = "value".toList then IsString text token.value
  else if name = "type".toList then DenotesKind token.kind text
  else IsValue text

/-- The texts of a token. -/
inductive DenotesToken (token : Token) : List Char → Prop where
  /-- An array of value and kind. -/
  | couple {value kind inner : List Char} :
    Enclosed [value, kind] inner → IsString value token.value → DenotesKind token.kind kind →
      DenotesToken token ('[' :: (inner ++ [']']))
  /-- An object in which the two names stand once each, among members of
  other names, in any order. -/
  | object {named : List (List Char × Member)} {inner : List Char} :
    Enclosed (named.map fun entry => entry.2.text) inner →
      (∀ entry ∈ named, entry.2.Spaced ∧ Decodes entry.2.key entry.1
        ∧ Binds token entry.1 entry.2.value) →
      (named.map Prod.fst).count "value".toList = 1 →
      (named.map Prod.fst).count "type".toList = 1 →
      DenotesToken token ('\x7b' :: (inner ++ ['\x7d']))

/-- Whether a text is an array of the given tokens, and blanks around
it. -/
def DenotesList (text : List Char) (tokens : List Token) : Prop :=
  ∃ before items inner after, text = before ++ '[' :: (inner ++ ']' :: after)
    ∧ IsBlanks before ∧ IsBlanks after ∧ Enclosed items inner
    ∧ List.Forall₂ (fun item token => DenotesToken token item) items tokens

end ScriptSyntax.Json
