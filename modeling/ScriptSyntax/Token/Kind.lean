/-
ScriptSyntax.Token.Kind — the thirty kinds of token.

A kind has one name, the word under which it appears in listings, in
displays and in JSON. Main statements: names tell kinds apart
(`ofName?_name`), and only names are read back (`name_of_ofName?`).
-/

namespace ScriptSyntax

/-- What a token is: a literal, a name, a keyword, an operator, a mark
of punctuation, or the end of the text. -/
inductive TokenKind where
  | number
  | identifier
  | string
  | letWord
  | constWord
  | funcWord
  | ifWord
  | elseWord
  | forWord
  | binaryOperator
  | equals
  | comma
  | colon
  | semicolon
  | dot
  | openParen
  | closeParen
  | openBrace
  | closeBrace
  | openBracket
  | closeBracket
  | greater
  | lesser
  | equalsCompare
  | notEqualsCompare
  | exclamation
  | and
  | ampersand
  | bar
  | endOfFile
  deriving DecidableEq

namespace TokenKind

/-- Every kind once, in the order in which they are declared. -/
def all : List TokenKind :=
  [.number, .identifier, .string, .letWord, .constWord, .funcWord, .ifWord,
   .elseWord, .forWord, .binaryOperator, .equals, .comma, .colon, .semicolon,
   .dot, .openParen, .closeParen, .openBrace, .closeBrace, .openBracket,
   .closeBracket, .greater, .lesser, .equalsCompare, .notEqualsCompare,
   .exclamation, .and, .ampersand, .bar, .endOfFile]

/-- The word that stands for a kind wherever one is written. -/
def name : TokenKind → String
  | .number => "Number"
  | .identifier => "Identifier"
  | .string => "String"
  | .letWord => "Let"
  | .constWord => "Const"
  | .funcWord => "Func"
  | .ifWord => "If"
  | .elseWord => "Else"
  | .forWord => "For"
  | .binaryOperator => "BinaryOperator"
  | .equals => "Equals"
  | .comma => "Comma"
  | .colon => "Colon"
  | .semicolon => "Semicolon"
  | .dot => "Dot"
  | .openParen => "OpenParen"
  | .closeParen => "CloseParen"
  | .openBrace => "OpenBrace"
  | .closeBrace => "CloseBrace"
  | .openBracket => "OpenBracket"
  | .closeBracket => "CloseBracket"
  | .greater => "Greater"
  | .lesser => "Lesser"
  | .equalsCompare => "EqualsCompare"
  | .notEqualsCompare => "NotEqualsCompare"
  | .exclamation => "Exclamation"
  | .and => "And"
  | .ampersand => "Ampersand"
  | .bar => "Bar"
  | .endOfFile => "EOF"

/-- The kind that a word names, if it names one: the spelling must agree
exactly. -/
def ofName? (word : String) : Option TokenKind :=
  all.find? fun kind => kind.name == word

/-- A kind's name reads back as that kind. -/
@[simp] theorem ofName?_name (kind : TokenKind) : ofName? kind.name = some kind := by
  cases kind <;> decide

/-- Nothing but its name is read as a kind. -/
theorem name_of_ofName? {word : String} {kind : TokenKind}
    (h : ofName? word = some kind) : kind.name = word := by
  simpa using List.find?_some h

theorem name_inj {a b : TokenKind} (h : a.name = b.name) : a = b := by
  have := ofName?_name a
  rw [h, ofName?_name] at this
  exact (Option.some.inj this).symm

end TokenKind

end ScriptSyntax
