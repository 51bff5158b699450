/-
ScriptSyntax.Token.Vocabulary — the letters and words that a script is
written in.

Character classes are ASCII classes: outside of string literals a script
admits no other character, so no wider class can ever be asked for.
-/
import ScriptSyntax.Token.Basic

namespace ScriptSyntax.Vocabulary

/-! ## 1. Character classes -/

/-- The characters that separate tokens and mean nothing else. -/
def isBlank (c : Char) : Bool :=
  c == ' ' || c == '\t' || c == '\n' || c == '\r'

/-- The characters of a number after its first. -/
def isNumeric (c : Char) : Bool :=
  c.isDigit || c == '.'

/-- The characters that begin a word. -/
def isWordStart (c : Char) : Bool :=
  c.isAlpha || c == '_'

/-- The characters of a word after its first. -/
def isWordPart (c : Char) : Bool :=
  c.isAlphanum || c == '_'

/-! ## 2. Keywords -/

/-- The words that are not free to be names, with their kinds. -/
def keywords : List (String × TokenKind) :=
  [("grant", .letWord), ("const", .constWord), ("func", .funcWord), ("if", .ifWord),
   ("else", .elseWord), ("for", .forWord)]

/-- The kind of a keyword; a name has none. -/
def keyword? (word : String) : Option TokenKind :=
  keywords.lookup word

/-- A word is a keyword, or else an identifier. -/
def wordToken (word : String) : Token :=
  ⟨word, (keyword? word).getD .identifier⟩

/-! ## 3. Marks -/

/-- The marks whose kind does not depend on the character after them.
A plus or minus sign is an operator where it neither doubles nor begins
a number. -/
def punctuation : List (Char × TokenKind) :=
  [('(', .openParen), (')', .closeParen), ('\x7b', .openBrace), ('\x7d', .closeBrace),
   ('[', .openBracket), (']', .closeBracket), ('+', .binaryOperator), ('-', .binaryOperator),
   ('*', .binaryOperator), ('%', .binaryOperator), ('/', .binaryOperator), ('<', .lesser),
   ('>', .greater), ('.', .dot), (';', .semicolon), (':', .colon), (',', .comma), ('|', .bar)]

/-- The kind of a mark of punctuation. -/
def punctuation? (c : Char) : Option TokenKind :=
  punctuation.lookup c

/-- The marks that are part of a longer one where the right character
follows. -/
def openMarks : List (Char × TokenKind) :=
  [('=', .equals), ('&', .ampersand), ('!', .exclamation)]

/-- The kind of a character that is a token by itself. -/
def mark? (c : Char) : Option TokenKind :=
  (punctuation ++ openMarks).lookup c

end ScriptSyntax.Vocabulary
