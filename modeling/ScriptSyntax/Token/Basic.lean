/-
ScriptSyntax.Token.Basic — tokens, and the two forms in which they are
shown to a person.

* `Token.display` is for one token: kind and value, the value quoted.
* `Token.line` is one line of a listing; a kind with a spelling of its
  own is listed without its value. `Token.listing` is the lines of many
  tokens, one below the other.
-/
import ScriptSyntax.Token.Kind
import ScriptSyntax.Text.Quoted

namespace ScriptSyntax

/-- A piece of a script: what it is, and the text that it carries. -/
structure Token where
  value : String
  kind : TokenKind
  deriving DecidableEq

namespace Token

/-- The token that closes every token list. -/
def endOfFile : Token := ⟨"EndOfFile", .endOfFile⟩

/-- Whether the token closes a token list. -/
def isEndOfFile (token : Token) : Bool :=
  token.kind == .endOfFile

/-- Whether the token's kind is among those given. -/
def isOneOf (token : Token) (kinds : List TokenKind) : Bool :=
  kinds.contains token.kind

/-! ## Showing tokens -/

/-- Kind and value of a token, on one line. -/
def display (token : Token) : String :=
  "Token \x7b kind: " ++ token.kind.name ++ ", value: " ++ Quoted.string token.value ++ " \x7d"

/-- The kinds whose tokens differ in their values alone. -/
def valueKinds : List TokenKind := [.string, .identifier, .number]

/-- One line of a listing, with the line feed that ends it. -/
def line (token : Token) : String :=
  token.kind.name ++ " (" ++ (if token.isOneOf valueKinds then token.value else "") ++ ")\n"

/-- The lines of the tokens, in order. -/
def listing (tokens : List Token) : String :=
  String.join (tokens.map line)

end Token

end ScriptSyntax
