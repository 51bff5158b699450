/-
ScriptSyntax.Tree.Basic — syntax trees.

Every node is a statement; an expression is one where it stands as a
statement by itself. A node carries a tag, whose name is what a reader of
trees matches on.
-/
import ScriptSyntax.Numeral.Binary64

namespace ScriptSyntax

/-! ## 1. Tags -/

/-- The kinds of node. -/
inductive NodeTag where
  | program
  | varDeclaration
  | funcDeclaration
  | ifStatement
  | forStatement
  | tryCatchStatement
  | assignmentExpr
  | memberExpr
  | callExpr
  | binaryExpr
  | identifier
  | numericLiteral
  | stringLiteral
  | property
  | objectLiteral
  deriving DecidableEq

namespace NodeTag

/-- Whether the nodes of a tag are expressions. -/
def isExpression : NodeTag → Bool
  | .program | .varDeclaration | .funcDeclaration | .ifStatement | .forStatement
  | .tryCatchStatement => false
  | .assignmentExpr | .memberExpr | .callExpr | .binaryExpr | .identifier | .numericLiteral
  | .stringLiteral | .property | .objectLiteral => true

/-- The name of a tag. Readers of trees know the numeric literal by a
spelling of its own. -/
def name : NodeTag → String
  | .program => "Program"
  | .varDeclaration => "VarDeclaration"
  | .funcDeclaration => "FuncDeclaration"
  | .ifStatement => "IfStatement"
  | .forStatement => "ForStatement"
  | .tryCatchStatement => "TryCatchStatement"
  | .assignmentExpr => "AssignmentExpr"
  | .memberExpr => "MemberExpr"
  | .callExpr => "CallExpr"
  | .binaryExpr => "BinaryExpr"
  | .identifier => "Identifier"
  | .numericLiteral => "NumbericLiteral"
  | .stringLiteral => "StringLiteral"
  | .property => "Property"
  | .objectLiteral => "ObjectLiteral"

end NodeTag

/-! ## 2. Expressions -/

mutual

/-- An expression. -/
inductive Expr where
  | assignment (assignee value : Expr)
  /-- A member, written `object.property`, or `object[property]` where it
  is computed. -/
  | member (object property : Expr) (computed : Bool)
  | call (caller : Expr) (arguments : List Expr)
  /-- The operator is the value of its token, so equality reads `is`. -/
  | binary (left right : Expr) (operator : String)
  | identifier (symbol : String)
  | numeric (value : Binary64)
  | string (value : String)
  | property (entry : Property)
  | object (entries : List Property)

/-- An entry of an object: `key: value`, or `key` alone. -/
inductive Property where
  | entry (key : String) (value : Option Expr)

end

/-- An assignment that stands where no other expression may. -/
structure Assignment where
  assignee : Expr
  value : Expr

/-- An assignment is an expression. -/
def Assignment.toExpr (update : Assignment) : Expr :=
  .assignment update.assignee update.value

/-! ## 3. Statements -/

/-- The declaration of a variable, which may have no value yet. -/
structure Declaration where
  constant : Bool
  name : String
  value : Option Expr

/-- A statement. -/
inductive Stmt where
  | program (body : List Stmt)
  | declare (declaration : Declaration)
  | function (name : String) (parameters : List String) (body : List Stmt)
  /-- An alternative that is missing is not one that is empty. -/
  | conditional (test : Expr) (body : List Stmt) (alternate : Option (List Stmt))
  | loop (declaration : Declaration) (test : Expr) (update : Assignment) (body : List Stmt)
  | attempt (body alternate : List Stmt)
  | expression (expr : Expr)

instance : Coe Assignment Expr := ⟨Assignment.toExpr⟩
instance : Coe Expr Stmt := ⟨.expression⟩
instance : Coe Declaration Stmt := ⟨.declare⟩

/-- The tag of an expression. -/
def Expr.tag : Expr → NodeTag
  | .assignment .. => .assignmentExpr
  | .member .. => .memberExpr
  | .call .. => .callExpr
  | .binary .. => .binaryExpr
  | .identifier _ => .identifier
  | .numeric _ => .numericLiteral
  | .string _ => .stringLiteral
  | .property _ => .property
  | .object _ => .objectLiteral

/-- The tag of a statement; that of its expression where it is one. -/
def Stmt.tag : Stmt → NodeTag
  | .program _ => .program
  | .declare _ => .varDeclaration
  | .function .. => .funcDeclaration
  | .conditional .. => .ifStatement
  | .loop .. => .forStatement
  | .attempt .. => .tryCatchStatement
  | .expression expr => expr.tag

/-- The expression that a statement consists of. -/
def Stmt.asExpr? : Stmt → Option Expr
  | .expression expr => some expr
  | _ => none

/-- A statement is an expression just if its tag says so. -/
theorem Stmt.isSome_asExpr? (stmt : Stmt) :
    stmt.asExpr?.isSome = stmt.tag.isExpression := by
  cases stmt with
  | expression expr => cases expr <;> rfl
  | _ => rfl

end ScriptSyntax
