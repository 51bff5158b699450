/-
ScriptSyntax.Tree.Equality — when two trees are equal.

Trees are equal if they have the same shape and carry the same texts and
flags, and their numbers are equal as numbers: zeros of either sign are,
and what is not a number equals nothing, so that a tree that holds one is
not equal to itself.
-/
import ScriptSyntax.Tree.Basic

namespace ScriptSyntax

/-! ## 1. Expressions -/

mutual

/-- Equality of expressions. -/
def Expr.equals : Expr → Expr → Bool
  | .assignment a b, .assignment a' b' => a.equals a' && b.equals b'
  | .member a b computed, .member a' b' computed' =>
    a.equals a' && b.equals b' && computed == computed'
  | .call a args, .call a' args' => a.equals a' && Expr.listEquals args args'
  | .binary a b operator, .binary a' b' operator' =>
    a.equals a' && b.equals b' && operator == operator'
  | .identifier symbol, .identifier symbol' => symbol == symbol'
  | .numeric x, .numeric x' => x.equals x'
  | .string text, .string text' => text == text'
  | .property entry, .property entry' => entry.equals entry'
  | .object entries, .object entries' => Property.listEquals entries entries'
  | _, _ => false

/-- Equality of entries: the same key, and equal values or none. -/
def Property.equals : Property → Property → Bool
  | .entry key value, .entry key' value' => key == key' && Expr.optionEquals value value'

/-- Equality of optional expressions: both there and equal, or both
missing. -/
def Expr.optionEquals : Option Expr → Option Expr → Bool
  | none, none => true
  | some a, some a' => a.equals a'
  | _, _ => false

/-- Equality of lists of expressions: the same length, and equal item by
item. -/
def Expr.listEquals : List Expr → List Expr → Bool
  | [], [] => true
  | a :: rest, a' :: rest' => a.equals a' && Expr.listEquals rest rest'
  | _, _ => false

/-- Equality of lists of entries: the same length, and equal item by
item. -/
def Property.listEquals : List Property → List Property → Bool
  | [], [] => true
  | p :: rest, p' :: rest' => p.equals p' && Property.listEquals rest rest'
  | _, _ => false

end

/-- Equality of assignments. -/
def Assignment.equals (a b : Assignment) : Bool :=
  a.assignee.equals b.assignee && a.value.equals b.value

/-- Equality of declarations. -/
def Declaration.equals (a b : Declaration) : Bool :=
  a.constant == b.constant && a.name == b.name && Expr.optionEquals a.value b.value

/-! ## 2. Statements -/

mutual

/-- Equality of statements. -/
def Stmt.equals : Stmt → Stmt → Bool
  | .program body, .program body' => Stmt.listEquals body body'
  | .declare declaration, .declare declaration' => declaration.equals declaration'
  | .function name parameters body, .function name' parameters' body' =>
    name == name' && parameters == parameters' && Stmt.listEquals body body'
  | .conditional test body alternate, .conditional test' body' alternate' =>
    test.equals test' && Stmt.listEquals body body' && Stmt.optionEquals alternate alternate'
  | .loop declaration test update body, .loop declaration' test' update' body' =>
    declaration.equals declaration' && test.equals test' && update.equals update'
      && Stmt.listEquals body body'
  | .attempt body alternate, .attempt body' alternate' =>
    Stmt.listEquals body body' && Stmt.listEquals alternate alternate'
  | .expression expr, .expression expr' => expr.equals expr'
  | _, _ => false

/-- Equality of optional bodies: both there and equal, or both missing. -/
def Stmt.optionEquals : Option (List Stmt) → Option (List Stmt) → Bool
  | none, none => true
  | some body, some body' => Stmt.listEquals body body'
  | _, _ => false

/-- Equality of bodies: the same length, and equal item by item. -/
def Stmt.listEquals : List Stmt → List Stmt → Bool
  | [], [] => true
  | stmt :: rest, stmt' :: rest' => stmt.equals stmt' && Stmt.listEquals rest rest'
  | _, _ => false

end

end ScriptSyntax
