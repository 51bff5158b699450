/-
ScriptSyntax.Json.Writing — token lists as JSON text.

A token is an object with the members `value` and `type`, in this order.
There is one writer for all layouts: a `Layout` says what goes before
each item at each depth, and after a colon. `Layout.compact` puts nothing
there, `Layout.pretty` line feeds and spaces.
-/
import ScriptSyntax.Json.Literal

namespace ScriptSyntax.Json

/-- The blanks that a text is laid out with. -/
structure Layout where
  /-- What stands before an item, or a closing bracket, at some depth. -/
  line : Nat → List Char
  /-- What stands between a colon and a value. -/
  gap : List Char

/-- No blanks at all. -/
def Layout.compact : Layout := ⟨fun _ => [], []⟩

/-- Every item on a line of its own, two spaces further in at each
depth. -/
def Layout.pretty : Layout := ⟨fun depth => '\n' :: List.replicate (2 * depth) ' ', [' ']⟩

/-- A member of an object, whose value is a string. -/
def member (layout : Layout) (key value : String) : List Char :=
  stringLiteral key ++ ':' :: layout.gap ++ stringLiteral value

/-- A token as an object at some depth. -/
def tokenText (layout : Layout) (depth : Nat) (token : Token) : List Char :=
  '\x7b' :: layout.line (depth + 1) ++ member layout "value" token.value
    ++ ',' :: layout.line (depth + 1) ++ member layout "type" token.kind.name
    ++ layout.line depth ++ ['\x7d']

/-- A token list as an array. An empty one has no line inside it. -/
def listText (layout : Layout) : List Token → List Char
  | [] => ['[', ']']
  | token :: tokens =>
    '[' :: layout.line 1 ++ tokenText layout 1 token
      ++ tokens.flatMap (fun token => ',' :: layout.line 1 ++ tokenText layout 1 token)
      ++ layout.line 0 ++ [']']

/-- One token on one line. -/
def ofToken (token : Token) : String :=
  String.ofList (tokenText Layout.compact 0 token)

/-- A token list on one line. -/
def compact (tokens : List Token) : String :=
  String.ofList (listText Layout.compact tokens)

/-- A token list with a line for every member of every token. -/
def pretty (tokens : List Token) : String :=
  String.ofList (listText Layout.pretty tokens)

end ScriptSyntax.Json
