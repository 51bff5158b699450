/-
ScriptSyntax.Proofs.Tree.Equality — what equality of trees means, and
which of the laws of equality it keeps.

A tree is its outline, which is all of it but its numbers, and the numbers
in the order of their places. Outlines are compared as they are; numbers
that stand at one place have to be one number. What is no number is not
one with itself, so equality is symmetric and transitive, but a tree that
holds such a value is not equal to itself.

* `outline` puts zero in the place of every number; `numerals` lists the
  numbers of a tree's nodes.
* `Expr.agree`, `Stmt.agree` — trees are equal just if they have one
  outline, and their numbers are the same, one by one.
* `Equates` is all that is said of the equality of a sort of tree;
  `equates_of_iff` derives it from such an equivalence.
* `equals_expr_stmt` — it holds of expressions and of statements.
-/
import ScriptSyntax.Tree.Equality
import ScriptSyntax.Tree.Nodes
import ScriptSyntax.Proofs.Numeral.Magnitudes
import ScriptSyntax.Proofs.Tree.Leaf
import Mathlib.Data.List.Forall2

namespace ScriptSyntax

/-! ## 1. Outlines -/

/-- The number that takes the place of all others in an outline. -/
def Binary64.blank : Binary64 := .signed false (Magnitude.ofBits 0)

mutual

/-- An expression with the same number at all places of numbers. -/
def Expr.outline : Expr → Expr
  | .assignment assignee value => .assignment assignee.outline value.outline
  | .member object property computed => .member object.outline property.outline computed
  | .call caller arguments => .call caller.outline (Expr.listOutline arguments)
  | .binary left right operator => .binary left.outline right.outline operator
  | .identifier symbol => .identifier symbol
  | .numeric _ => .numeric .blank
  | .string value => .string value
  | .property entry => .property entry.outline
  | .object entries => .object (Property.listOutline entries)

def Property.outline : Property → Property
  | .entry key value => .entry key (Expr.optionOutline value)

def Expr.optionOutline : Option Expr → Option Expr
  | none => none
  | some expr => some expr.outline

def Expr.listOutline : List Expr → List Expr
  | [] => []
  | expr :: rest => expr.outline :: Expr.listOutline rest

def Property.listOutline : List Property → List Property
  | [] => []
  | entry :: rest => entry.outline :: Property.listOutline rest

end

def Assignment.outline (update : Assignment) : Assignment :=
  ⟨update.assignee.outline, update.value.outline⟩

def Declaration.outline (declaration : Declaration) : Declaration :=
  { declaration with value := Expr.optionOutline declaration.value }

mutual

/-- A statement with the same number at all places of numbers. -/
def Stmt.outline : Stmt → Stmt
  | .program body => .program (Stmt.listOutline body)
  | .declare declaration => .declare declaration.outline
  | .function name parameters body => .function name parameters (Stmt.listOutline body)
  | .conditional test body alternate =>
    .conditional test.outline (Stmt.listOutline body) (Stmt.optionOutline alternate)
  | .loop declaration test update body =>
    .loop declaration.outline test.outline update.outline (Stmt.listOutline body)
  | .attempt body alternate => .attempt (Stmt.listOutline body) (Stmt.listOutline alternate)
  | .expression expr => .expression expr.outline

def Stmt.optionOutline : Option (List Stmt) → Option (List Stmt)
  | none => none
  | some body => some (Stmt.listOutline body)

def Stmt.listOutline : List Stmt → List Stmt
  | [] => []
  | stmt :: rest => stmt.outline :: Stmt.listOutline rest

end

/-! ## 2. Numbers in order -/

/-- The number that a leaf stands for, if it is one. -/
def Literal.numeral? : Literal → Option Binary64
  | .numeric value => some value
  | _ => none

/-- The numbers among some nodes, in order. -/
def numerals (nodes : List Node) : List Binary64 :=
  nodes.filterMap fun node => node.literal.bind Literal.numeral?

@[simp] theorem numerals_nil : numerals [] = [] := rfl

@[simp] theorem numerals_inner (tag : NodeTag) (nodes : List Node) :
    numerals (Node.inner tag :: nodes) = numerals nodes := rfl

@[simp] theorem numerals_leaf (tag : NodeTag) (literal : Literal) :
    numerals [⟨tag, some literal⟩] = literal.numeral?.toList := by
  cases literal <;> rfl

@[simp] theorem numerals_append (nodes more : List Node) :
    numerals (nodes ++ more) = numerals nodes ++ numerals more := List.filterMap_append

/-- Whether the numbers of two lists are the same, one by one. -/
def SameNumbers : List Binary64 → List Binary64 → Prop := List.Forall₂ Binary64.SameNumber

/-! ## 3. Agreement, part by part -/

/-- Whether two parts of trees are equal just if they have one outline and
the same numbers. The numbers are those in front of others, so that parts
can be put together. -/
def Agree (equal outline : Prop) (xs xs' : List Binary64) : Prop :=
  ∀ ys ys', equal ∧ SameNumbers ys ys' ↔ outline ∧ SameNumbers (xs ++ ys) (xs' ++ ys')

namespace Agree

theorem iff {equal outline : Prop} {xs xs' : List Binary64} (h : Agree equal outline xs xs') :
    equal ↔ outline ∧ SameNumbers xs xs' := by
  have whole := h [] []
  rw [List.append_nil, List.append_nil] at whole
  exact (and_iff_left List.Forall₂.nil).symm.trans whole

/-- What has no numbers agrees if it is the same. -/
theorem fixed (same : Prop) : Agree same same [] [] := fun _ _ => Iff.rfl

/-- What is neither equal nor the same in outline agrees. -/
theorem never {equal outline : Prop} {xs xs' : List Binary64} (h : ¬ equal) (h' : ¬ outline) :
    Agree equal outline xs xs' := fun _ _ => iff_of_false (fun e => h e.1) (fun o => h' o.1)

/-- Numbers agree if they are the same number. -/
theorem number (x y : Binary64) : Agree (x.equals y = true) True [x] [y] := by
  intro ys ys'
  rw [Binary64.equals_eq_true_iff, true_and]
  exact List.forall₂_cons.symm

/-- Parts that agree do so together. -/
theorem both {p q o o' : Prop} {xs xs' zs zs' : List Binary64} (first : Agree p o xs xs')
    (second : Agree q o' zs zs') : Agree (p ∧ q) (o ∧ o') (xs ++ zs) (xs' ++ zs') := by
  intro ys ys'
  rw [and_assoc, second, and_left_comm, first, and_left_comm, and_assoc, List.append_assoc,
    List.append_assoc]

end Agree

/-! ## 4. Expressions -/

mutual

/-- Expressions agree; the cases are their constructors. -/
theorem Expr.agree : ∀ a b : Expr, Agree (a.equals b = true) (a.outline = b.outline)
    (numerals a.nodes) (numerals b.nodes)
  | .assignment assignee value, b => by
    cases b with
    | assignment assignee' value' =>
      simpa [Expr.equals, Expr.outline, Expr.nodes] using
        (assignee.agree assignee').both (value.agree value')
    | _ => exact .never (by simp [Expr.equals]) (by simp [Expr.outline])
  | .member object property computed, b => by
    cases b with
    | member object' property' computed' =>
      simpa [Expr.equals, Expr.outline, Expr.nodes, and_assoc] using
        (object.agree object').both ((property.agree property').both (.fixed (computed = computed')))
    | _ => exact .never (by simp [Expr.equals]) (by simp [Expr.outline])
  | .call caller arguments, b => by
    cases b with
    | call caller' arguments' =>
      simpa [Expr.equals, Expr.outline, Expr.nodes] using
        (caller.agree caller').both (Expr.listAgree arguments arguments')
    | _ => exact .never (by simp [Expr.equals]) (by simp [Expr.outline])
  | .binary left right operator, b => by
    cases b with
    | binary left' right' operator' =>
      simpa [Expr.equals, Expr.outline, Expr.nodes, and_assoc] using
        (left.agree left').both ((right.agree right').both (.fixed (operator = operator')))
    | _ => exact .never (by simp [Expr.equals]) (by simp [Expr.outline])
  | .identifier symbol, b => by
    cases b with
    | identifier symbol' =>
      simpa [Expr.equals, Expr.outline, Expr.nodes, Literal.numeral?] using
        Agree.fixed (symbol = symbol')
    | _ => exact .never (by simp [Expr.equals]) (by simp [Expr.outline])
  | .numeric x, b => by
    cases b with
    | numeric y =>
      simpa [Expr.equals, Expr.outline, Expr.nodes, Literal.numeral?] using Agree.number x y
    | _ => exact .never (by simp [Expr.equals]) (by simp [Expr.outline])
  | .string text, b => by
    cases b with
    | string text' =>
      simpa [Expr.equals, Expr.outline, Expr.nodes, Literal.numeral?] using
        Agree.fixed (text = text')
    | _ => exact .never (by simp [Expr.equals]) (by simp [Expr.outline])
  | .property entry, b => by
    cases b with
    | property entry' =>
      simpa [Expr.equals, Expr.outline, Expr.nodes] using entry.agree entry'
    | _ => exact .never (by simp [Expr.equals]) (by simp [Expr.outline])
  | .object entries, b => by
    cases b with
    | object entries' =>
      simpa [Expr.equals, Expr.outline, Expr.nodes] using Property.listAgree entries entries'
    | _ => exact .never (by simp [Expr.equals]) (by simp [Expr.outline])

theorem Property.agree : ∀ a b : Property, Agree (a.equals b = true) (a.outline = b.outline)
    (numerals a.nodes) (numerals b.nodes)
  | .entry key value, .entry key' value' => by
    simpa [Property.equals, Property.outline, Property.nodes] using
      (Agree.fixed (key = key')).both (Expr.optionAgree value value')

theorem Expr.optionAgree : ∀ a b : Option Expr,
    Agree (Expr.optionEquals a b = true) (Expr.optionOutline a = Expr.optionOutline b)
      (numerals (Expr.optionNodes a)) (numerals (Expr.optionNodes b))
  | none, none => by
    simpa [Expr.optionEquals, Expr.optionOutline, Expr.optionNodes] using Agree.fixed True
  | some a, some b => by
    simpa [Expr.optionEquals, Expr.optionOutline, Expr.optionNodes] using a.agree b
  | none, some _ => .never (by simp [Expr.optionEquals]) (by simp [Expr.optionOutline])
  | some _, none => .never (by simp [Expr.optionEquals]) (by simp [Expr.optionOutline])

theorem Expr.listAgree : ∀ a b : List Expr,
    Agree (Expr.listEquals a b = true) (Expr.listOutline a = Expr.listOutline b)
      (numerals (Expr.listNodes a)) (numerals (Expr.listNodes b))
  | [], [] => by
    simpa [Expr.listEquals, Expr.listOutline, Expr.listNodes] using Agree.fixed True
  | a :: rest, b :: rest' => by
    simpa [Expr.listEquals, Expr.listOutline, Expr.listNodes] using
      (a.agree b).both (Expr.listAgree rest rest')
  | [], _ :: _ => .never (by simp [Expr.listEquals]) (by simp [Expr.listOutline])
  | _ :: _, [] => .never (by simp [Expr.listEquals]) (by simp [Expr.listOutline])

theorem Property.listAgree : ∀ a b : List Property,
    Agree (Property.listEquals a b = true) (Property.listOutline a = Property.listOutline b)
      (numerals (Property.listNodes a)) (numerals (Property.listNodes b))
  | [], [] => by
    simpa [Property.listEquals, Property.listOutline, Property.listNodes] using Agree.fixed True
  | a :: rest, b :: rest' => by
    simpa [Property.listEquals, Property.listOutline, Property.listNodes] using
      (a.agree b).both (Property.listAgree rest rest')
  | [], _ :: _ => .never (by simp [Property.listEquals]) (by simp [Property.listOutline])
  | _ :: _, [] => .never (by simp [Property.listEquals]) (by simp [Property.listOutline])

end

/-! ## 5. Statements -/

theorem Declaration.agree (a b : Declaration) :
    Agree (a.equals b = true) (a.outline = b.outline) (numerals a.nodes) (numerals b.nodes) := by
  simpa [Declaration.equals, Declaration.outline, Declaration.nodes, and_assoc] using
    (Agree.fixed (a.constant = b.constant)).both
      ((Agree.fixed (a.name = b.name)).both (Expr.optionAgree a.value b.value))

theorem Assignment.agree (a b : Assignment) :
    Agree (a.equals b = true) (a.outline = b.outline) (numerals a.toExpr.nodes)
      (numerals b.toExpr.nodes) := by
  simpa [Assignment.equals, Assignment.outline, Assignment.toExpr, Expr.nodes] using
    (a.assignee.agree b.assignee).both (a.value.agree b.value)

mutual

/-- Statements agree; the cases are their constructors. -/
theorem Stmt.agree : ∀ a b : Stmt, Agree (a.equals b = true) (a.outline = b.outline)
    (numerals a.nodes) (numerals b.nodes)
  | .program body, b => by
    cases b with
    | program body' =>
      simpa [Stmt.equals, Stmt.outline, Stmt.nodes] using Stmt.listAgree body body'
    | _ => exact .never (by simp [Stmt.equals]) (by simp [Stmt.outline])
  | .declare declaration, b => by
    cases b with
    | declare declaration' =>
      simpa [Stmt.equals, Stmt.outline, Stmt.nodes] using declaration.agree declaration'
    | _ => exact .never (by simp [Stmt.equals]) (by simp [Stmt.outline])
  | .function name parameters body, b => by
    cases b with
    | function name' parameters' body' =>
      simpa [Stmt.equals, Stmt.outline, Stmt.nodes, and_assoc] using
        (Agree.fixed (name = name')).both
          ((Agree.fixed (parameters = parameters')).both (Stmt.listAgree body body'))
    | _ => exact .never (by simp [Stmt.equals]) (by simp [Stmt.outline])
  | .conditional test body alternate, b => by
    cases b with
    | conditional test' body' alternate' =>
      simpa [Stmt.equals, Stmt.outline, Stmt.nodes, and_assoc] using
        (test.agree test').both
          ((Stmt.listAgree body body').both (Stmt.optionAgree alternate alternate'))
    | _ => exact .never (by simp [Stmt.equals]) (by simp [Stmt.outline])
  | .loop declaration test update body, b => by
    cases b with
    | loop declaration' test' update' body' =>
      simpa [Stmt.equals, Stmt.outline, Stmt.nodes, and_assoc] using
        (declaration.agree declaration').both
          ((test.agree test').both ((update.agree update').both (Stmt.listAgree body body')))
    | _ => exact .never (by simp [Stmt.equals]) (by simp [Stmt.outline])
  | .attempt body alternate, b => by
    cases b with
    | attempt body' alternate' =>
      simpa [Stmt.equals, Stmt.outline, Stmt.nodes] using
        (Stmt.listAgree body body').both (Stmt.listAgree alternate alternate')
    | _ => exact .never (by simp [Stmt.equals]) (by simp [Stmt.outline])
  | .expression expr, b => by
    cases b with
    | expression expr' =>
      simpa [Stmt.equals, Stmt.outline, Stmt.nodes] using expr.agree expr'
    | _ => exact .never (by simp [Stmt.equals]) (by simp [Stmt.outline])

theorem Stmt.optionAgree : ∀ a b : Option (List Stmt),
    Agree (Stmt.optionEquals a b = true) (Stmt.optionOutline a = Stmt.optionOutline b)
      (numerals (Stmt.optionNodes a)) (numerals (Stmt.optionNodes b))
  | none, none => by
    simpa [Stmt.optionEquals, Stmt.optionOutline, Stmt.optionNodes] using Agree.fixed True
  | some a, some b => by
    simpa [Stmt.optionEquals, Stmt.optionOutline, Stmt.optionNodes] using Stmt.listAgree a b
  | none, some _ => .never (by simp [Stmt.optionEquals]) (by simp [Stmt.optionOutline])
  | some _, none => .never (by simp [Stmt.optionEquals]) (by simp [Stmt.optionOutline])

theorem Stmt.listAgree : ∀ a b : List Stmt,
    Agree (Stmt.listEquals a b = true) (Stmt.listOutline a = Stmt.listOutline b)
      (numerals (Stmt.listNodes a)) (numerals (Stmt.listNodes b))
  | [], [] => by
    simpa [Stmt.listEquals, Stmt.listOutline, Stmt.listNodes] using Agree.fixed True
  | a :: rest, b :: rest' => by
    simpa [Stmt.listEquals, Stmt.listOutline, Stmt.listNodes] using
      (a.agree b).both (Stmt.listAgree rest rest')
  | [], _ :: _ => .never (by simp [Stmt.listEquals]) (by simp [Stmt.listOutline])
  | _ :: _, [] => .never (by simp [Stmt.listEquals]) (by simp [Stmt.listOutline])

end

/-! ## 6. The laws of equality -/

/-- Whether a node is the leaf that a token of a script stands for. -/
def Node.IsOfScript (node : Node) : Prop :=
  ∃ source file tokens token expr, tokenize source file = .ok tokens ∧ token ∈ tokens
    ∧ Expr.ofToken token = .ok expr ∧ expr.nodes = [node]

/-- What there is to say about the equality of a sort of tree. -/
structure Equates {Tree : Type} (equals : Tree → Tree → Bool) (outline : Tree → Tree)
    (nodes : Tree → List Node) : Prop where
  /-- Trees are equal just if they have one outline, and the numbers at the
  same places are the same. -/
  iff : ∀ a b, equals a b = true
    ↔ outline a = outline b ∧ SameNumbers (numerals (nodes a)) (numerals (nodes b))
  symm : ∀ a b, equals a b = true → equals b a = true
  trans : ∀ a b c, equals a b = true → equals b c = true → equals a c = true
  /-- A tree is equal to itself just if all its numbers are numbers, -/
  self_iff : ∀ a, equals a a = true ↔ ∀ node ∈ nodes a, node.literal ≠ some (.numeric .nan)
  /-- and that is so where all its leaves come from scripts. -/
  self_of_script : ∀ a, (∀ node ∈ nodes a, node.literal.isSome → node.IsOfScript) →
    equals a a = true

theorem SameNumbers.symm {xs ys : List Binary64} (h : SameNumbers xs ys) : SameNumbers ys xs :=
  List.Forall₂.flip (h.imp fun _ _ => Binary64.sameNumber_comm.1)

theorem SameNumbers.trans {xs ys zs : List Binary64} (h : SameNumbers xs ys)
    (h' : SameNumbers ys zs) : SameNumbers xs zs := by
  induction h generalizing zs with
  | nil => exact h'
  | cons first _ ih =>
    cases h' with
    | cons first' rest' => exact .cons (first.trans first') (ih rest')

theorem sameNumbers_self_iff (xs : List Binary64) : SameNumbers xs xs ↔ ∀ x ∈ xs, x ≠ .nan := by
  rw [SameNumbers, List.forall₂_same]
  simp only [Binary64.sameNumber_self_iff]

theorem mem_numerals_iff {nodes : List Node} {value : Binary64} :
    value ∈ numerals nodes ↔ ∃ node ∈ nodes, node.literal = some (.numeric value) := by
  have carries (literal : Literal) : literal.numeral? = some value ↔ literal = .numeric value := by
    cases literal <;> simp [Literal.numeral?]
  simp only [numerals, List.mem_filterMap, Option.bind_eq_some_iff, carries, exists_eq_right]

/-- The leaf of a script's token is a number wherever it is one of the
numeric kind. -/
theorem Node.IsOfScript.ne_nan {node : Node} (h : node.IsOfScript) :
    node.literal ≠ some (.numeric .nan) := by
  obtain ⟨source, file, tokens, token, expr, accepted, mem, came, leaf⟩ := h
  have stands := standsFor_ofToken (wellFormed_of_mem_tokenize accepted token mem)
  rw [came] at stands
  cases stands <;>
    · simp only [Expr.nodes, List.cons.injEq, and_true] at leaf
      simp [← leaf]

/-- All of it follows from what equality means. -/
theorem equates_of_iff {Tree : Type} {equals : Tree → Tree → Bool} {outline : Tree → Tree}
    {nodes : Tree → List Node}
    (iff : ∀ a b, equals a b = true
      ↔ outline a = outline b ∧ SameNumbers (numerals (nodes a)) (numerals (nodes b))) :
    Equates equals outline nodes := by
  have self_iff (a : Tree) :
      equals a a = true ↔ ∀ node ∈ nodes a, node.literal ≠ some (.numeric .nan) := by
    rw [iff, sameNumbers_self_iff]
    constructor
    · rintro ⟨-, numbers⟩ node mem nan
      exact numbers _ (mem_numerals_iff.2 ⟨node, mem, nan⟩) rfl
    · refine fun h => ⟨rfl, fun x found => ?_⟩
      rintro rfl
      obtain ⟨node, mem, nan⟩ := mem_numerals_iff.1 found
      exact h node mem nan
  refine ⟨iff, fun a b h => ?_, fun a b c h h' => ?_, self_iff, fun a scripts => ?_⟩
  · obtain ⟨same, numbers⟩ := (iff a b).1 h
    exact (iff b a).2 ⟨same.symm, numbers.symm⟩
  · obtain ⟨same, numbers⟩ := (iff a b).1 h
    obtain ⟨same', numbers'⟩ := (iff b c).1 h'
    exact (iff a c).2 ⟨same.trans same', numbers.trans numbers'⟩
  · refine (self_iff a).2 fun node mem nan => ?_
    exact (scripts node mem (by rw [nan]; rfl)).ne_nan nan

/-- Equality of expressions and of statements compares outlines, and the
numbers one by one; zeros of either sign are the same number there, what is
no number is the same as nothing, and in outline an alternative that is
missing is not one that is empty. So it is symmetric and transitive, and
fails of a tree and itself just if there is a value in it that is no
number. -/
theorem equals_expr_stmt :
    Equates Expr.equals Expr.outline Expr.nodes
      ∧ Equates Stmt.equals Stmt.outline Stmt.nodes
      ∧ (∀ negative negative', Binary64.SameNumber (.signed negative (Magnitude.ofBits 0))
        (.signed negative' (Magnitude.ofBits 0)))
      ∧ (∀ x, ¬ Binary64.SameNumber .nan x)
      ∧ ∀ test body test' body', Stmt.outline (.conditional test body none)
        ≠ Stmt.outline (.conditional test' body' (some [])) := by
  refine ⟨equates_of_iff fun a b => (a.agree b).iff, equates_of_iff fun a b => (a.agree b).iff,
    fun negative negative' => ?_, ?_, fun test body test' body' => ?_⟩
  · rw [← Binary64.equals_eq_true_iff]
    simp [Binary64.equals]
  · rintro x ⟨number, nan, -⟩
    cases nan
  · simp [Stmt.outline, Stmt.optionOutline]

/-- A tree whose leaves are tokens of a script. -/
theorem equals_expr_stmt_assignment :
    (∃ tokens, tokenize "x=-1.5" none = .ok tokens
        ∧ ∀ token ∈ [⟨"x", .identifier⟩, ⟨"-1.5", .number⟩], token ∈ tokens)
      ∧ ∃ number, Expr.ofToken ⟨"-1.5", .number⟩ = .ok (.numeric number)
        ∧ Expr.equals (.assignment (.identifier "x") (.numeric number))
          (.assignment (.identifier "x") (.numeric number)) = true := by
  have accepted : tokenize "x=-1.5" none
      = .ok [⟨"x", .identifier⟩, ⟨"=", .equals⟩, ⟨"-1.5", .number⟩, ⟨"EndOfFile", .endOfFile⟩] := by
    decide +kernel
  obtain ⟨number, read⟩ : ∃ number, Expr.ofToken ⟨"-1.5", .number⟩ = .ok (.numeric number) :=
    ⟨_, rfl⟩
  have first : Node.IsOfScript ⟨.identifier, some (.identifier "x")⟩ :=
    ⟨_, _, _, ⟨"x", .identifier⟩, _, accepted, by simp, rfl, rfl⟩
  have second : Node.IsOfScript ⟨.numericLiteral, some (.numeric number)⟩ :=
    ⟨_, _, _, ⟨"-1.5", .number⟩, _, accepted, by simp, read, rfl⟩
  refine ⟨⟨_, accepted, by simp⟩, number, read, ?_⟩
  refine equals_expr_stmt.1.self_of_script _ fun node mem leaf => ?_
  simp only [Expr.nodes, List.cons_append, List.nil_append, List.mem_cons, List.not_mem_nil,
    or_false] at mem
  rcases mem with rfl | rfl | rfl
  · cases leaf
  · exact first
  · exact second

end ScriptSyntax
