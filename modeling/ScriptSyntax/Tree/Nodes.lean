/-
ScriptSyntax.Tree.Nodes — the nodes of a tree, one after the other.

A node comes before its children, and these come in the order in which
the constructors name them. The declaration and the update of a loop are
nodes, and so are the entries of an object; parts that are missing are
not.
-/
import ScriptSyntax.Tree.Basic

namespace ScriptSyntax

/-- What a leaf stands for. -/
inductive Literal where
  | numeric (value : Binary64)
  | string (value : String)
  | identifier (symbol : String)

/-- A node without its children. -/
structure Node where
  tag : NodeTag
  literal : Option Literal

/-- A node that has children, or could have. -/
def Node.inner (tag : NodeTag) : Node := ⟨tag, none⟩

/-! ## 1. Expressions -/

mutual

/-- The nodes of an expression, itself first. -/
def Expr.nodes : Expr → List Node
  | .assignment assignee value => .inner .assignmentExpr :: (assignee.nodes ++ value.nodes)
  | .member object property _ => .inner .memberExpr :: (object.nodes ++ property.nodes)
  | .call caller arguments => .inner .callExpr :: (caller.nodes ++ Expr.listNodes arguments)
  | .binary left right _ => .inner .binaryExpr :: (left.nodes ++ right.nodes)
  | .identifier symbol => [⟨.identifier, some (.identifier symbol)⟩]
  | .numeric value => [⟨.numericLiteral, some (.numeric value)⟩]
  | .string value => [⟨.stringLiteral, some (.string value)⟩]
  | .property entry => entry.nodes
  | .object entries => .inner .objectLiteral :: Property.listNodes entries

/-- The nodes of an entry, itself first. -/
def Property.nodes : Property → List Node
  | .entry _ value => .inner .property :: Expr.optionNodes value

/-- The nodes of an expression that may be missing. -/
def Expr.optionNodes : Option Expr → List Node
  | none => []
  | some expr => expr.nodes

/-- The nodes of several expressions. -/
def Expr.listNodes : List Expr → List Node
  | [] => []
  | expr :: rest => expr.nodes ++ Expr.listNodes rest

/-- The nodes of several entries. -/
def Property.listNodes : List Property → List Node
  | [] => []
  | entry :: rest => entry.nodes ++ Property.listNodes rest

end

/-- The nodes of a declaration, itself first. -/
def Declaration.nodes (declaration : Declaration) : List Node :=
  .inner .varDeclaration :: Expr.optionNodes declaration.value

/-! ## 2. Statements -/

mutual

/-- The nodes of a statement, itself first. -/
def Stmt.nodes : Stmt → List Node
  | .program body => .inner .program :: Stmt.listNodes body
  | .declare declaration => declaration.nodes
  | .function _ _ body => .inner .funcDeclaration :: Stmt.listNodes body
  | .conditional test body alternate =>
    .inner .ifStatement :: (test.nodes ++ Stmt.listNodes body ++ Stmt.optionNodes alternate)
  | .loop declaration test update body =>
    .inner .forStatement
      :: (declaration.nodes ++ test.nodes ++ update.toExpr.nodes ++ Stmt.listNodes body)
  | .attempt body alternate =>
    .inner .tryCatchStatement :: (Stmt.listNodes body ++ Stmt.listNodes alternate)
  | .expression expr => expr.nodes

/-- The nodes of a body that may be missing. -/
def Stmt.optionNodes : Option (List Stmt) → List Node
  | none => []
  | some body => Stmt.listNodes body

/-- The nodes of a body. -/
def Stmt.listNodes : List Stmt → List Node
  | [] => []
  | stmt :: rest => stmt.nodes ++ Stmt.listNodes rest

end

/-! ## 3. The first node -/

/-- The first node of an expression is the expression. -/
theorem Expr.head_nodes (expr : Expr) : expr.nodes.head?.map Node.tag = some expr.tag := by
  cases expr with
  | property entry =>
    cases entry
    simp [Expr.nodes, Property.nodes, Node.inner, Expr.tag]
  | _ => simp [Expr.nodes, Node.inner, Expr.tag]

/-- The first node of a statement is the statement. -/
theorem Stmt.head_nodes (stmt : Stmt) : stmt.nodes.head?.map Node.tag = some stmt.tag := by
  cases stmt with
  | expression expr =>
    rw [Stmt.nodes]
    exact expr.head_nodes
  | _ => simp [Stmt.nodes, Declaration.nodes, Node.inner, Stmt.tag]

end ScriptSyntax
