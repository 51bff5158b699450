/-
ScriptSyntax.Text.Quoted — text between delimiters, escaped so that it
stays on one line and shows what it holds.

`encode` is parametrised by the delimiter and by the set of characters
shown as they are: every reading of a quoted text depends on the escapes
of the delimiter and of the backslash, and on nothing else.
-/
import ScriptSyntax.Text.Hex
import ScriptSyntax.Text.Printable

namespace ScriptSyntax.Quoted

/-- How one character is written: the null, tab, line feed and carriage
return by a letter, the backslash and the delimiter after a backslash,
a character that is not shown by its code point, any other as itself. -/
def escape (delimiter : Char) (shown : Char → Bool) (c : Char) : List Char :=
  if c = '\x00' then ['\\', '0']
  else if c = '\t' then ['\\', 't']
  else if c = '\n' then ['\\', 'n']
  else if c = '\r' then ['\\', 'r']
  else if c = '\\' ∨ c = delimiter then ['\\', c]
  else if shown c then [c]
  else ['\\', 'u', '\x7b'] ++ Hex.digits c.toNat ++ ['\x7d']

/-- A text with each character escaped, delimiters at both ends. -/
def encode (delimiter : Char) (shown : Char → Bool) (text : List Char) : List Char :=
  delimiter :: text.flatMap (escape delimiter shown) ++ [delimiter]

/-- A string between double quotes. -/
def string (text : String) : String :=
  String.ofList (encode '"' Printable.isShown text.toList)

/-- A character between single quotes. -/
def character (c : Char) : String :=
  String.ofList (encode '\'' Printable.isShown [c])

end ScriptSyntax.Quoted
