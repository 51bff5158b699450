/-
ScriptSyntax.Tree.Leaf — the expression that a single token stands for.
-/
import ScriptSyntax.Tree.Basic
import ScriptSyntax.Token.Basic
import ScriptSyntax.Numeral.Decimal
import ScriptSyntax.Fault

namespace ScriptSyntax

/-- A number, a string or an identifier as an expression. A number must
spell a numeral; no other token is an expression by itself. -/
def Expr.ofToken (token : Token) : Except Fault Expr :=
  match token.kind with
  | .number =>
    match Numeral.read? token.value with
    | some value => .ok (.numeric value)
    | none => .error (.malformedNumber token.value)
  | .string => .ok (.string token.value)
  | .identifier => .ok (.identifier token.value)
  | _ => .error (.unexpectedToken token.value)

end ScriptSyntax
