import MicroRust.Tree.Item

/-! The nodes of a crate as a plain tree, and walks through it.

Every walk is a function on the plain tree, so all of them see the same nodes in the same order. -/

namespace MicroRust

open Text

inductive Node where
  | crate (c : Crate)
  | function (fn : Function)
  | prototype (proto : Prototype)
  | param (p : Param)
  | static (decl : Static)
  | foreign (block : ForeignBlock)
  | stmt (s : Stmt)
  | expr (e : Expr)

inductive Outline where
  | node (label : Node) (children : List Outline)

mutual

def Expr.outline : Expr → Outline
  | .literal span value => .node (.expr (.literal span value)) []
  | .path span name => .node (.expr (.path span name)) []
  | .underscore span => .node (.expr (.underscore span)) []
  | .grouped span inner => .node (.expr (.grouped span inner)) [inner.outline]
  | .call span calleeSpan callee args =>
    .node (.expr (.call span calleeSpan callee args)) (outlineArgs args)
  | .assign span target value =>
    .node (.expr (.assign span target value)) [target.outline, value.outline]
  | .binary span op lhs rhs => .node (.expr (.binary span op lhs rhs)) [lhs.outline, rhs.outline]
  | .negation span op operand => .node (.expr (.negation span op operand)) [operand.outline]
  | .cast span operand type => .node (.expr (.cast span operand type)) [operand.outline]
  | .block body => body.outline
  | .loop span body => .node (.expr (.loop span body)) [body.outline]
  | .whileLoop span cond body =>
    .node (.expr (.whileLoop span cond body)) [cond.outline, body.outline]
  | .conditional span cond thenBlock alternative =>
    .node (.expr (.conditional span cond thenBlock alternative))
      (cond.outline :: thenBlock.outline :: outlineOption alternative)
  | .unsafeBlock span body => .node (.expr (.unsafeBlock span body)) [body.outline]
  | .ret span value => .node (.expr (.ret span value)) (outlineOption value)

def outlineArgs : List Expr → List Outline
  | [] => []
  | e :: rest => e.outline :: outlineArgs rest

def outlineOption : Option Expr → List Outline
  | none => []
  | some e => [e.outline]

def Stmt.outline : Stmt → Outline
  | .binding span mutable pattern type init =>
    .node (.stmt (.binding span mutable pattern type init))
      (.node (.expr pattern.toExpr) [] :: outlineOption init)
  | .expr span e => .node (.stmt (.expr span e)) [e.outline]

def outlineStmts : List Stmt → List Outline
  | [] => []
  | s :: rest => s.outline :: outlineStmts rest

def Block.outline : Block → Outline
  | .mk span stmts tail =>
    .node (.expr (.block (.mk span stmts tail))) (outlineStmts stmts ++ outlineOption tail)

end

def Param.outline (p : Param) : Outline :=
  .node (.param p) [.node (.expr p.pattern.toExpr) []]

def Prototype.outline (proto : Prototype) : Outline :=
  .node (.prototype proto) (proto.params.map Param.outline)

def Function.outline (fn : Function) : Outline :=
  .node (.function fn) [fn.proto.outline, fn.body.outline]

def Static.outline (decl : Static) : Outline := .node (.static decl) (outlineOption decl.init)

def ForeignItem.outline : ForeignItem → Outline
  | .prototype proto => proto.outline
  | .static decl => decl.outline

def Item.outline : Item → Outline
  | .function fn => fn.outline
  | .static decl => decl.outline
  | .foreign block => .node (.foreign block) (block.items.map ForeignItem.outline)

def Crate.outline (c : Crate) : Outline := .node (.crate c) (c.items.map Item.outline)

namespace Node

def span : Node → Span
  | .crate c => c.span
  | .function fn => fn.span
  | .prototype proto => proto.span
  | .param p => p.span
  | .static decl => decl.span
  | .foreign block => block.span
  | .stmt s => s.span
  | .expr e => e.span

def mutability (mutable : Bool) : String := if mutable then " mut" else ""

def operationName : BinaryOp → String
  | .arith _ => "Operator (Arithmetic or Logical)"
  | .compare _ => "Operator (Comparison)"
  | .lazy _ => "Operator (Lazy Boolean)"

def exprText : Expr → String
  | .literal span value => s!"Literal {span.text} {value.type.name} {value.text}"
  | .path span name => s!"Path {span.text} {name}"
  | .underscore span => s!"Underscore {span.text}"
  | .grouped span _ => s!"Grouped {span.text}"
  | .call span _ callee _ => s!"Function Call {span.text} {callee}"
  | .assign span _ _ => s!"Assignment {span.text}"
  | .binary span op _ _ => s!"{operationName op} {span.text} `{op.text}`"
  | .negation span op _ => s!"Operator (Negation) {span.text} `{op.text}`"
  | .cast span _ type => s!"Type Cast {span.text} {type.kind.name}"
  | .block body => s!"Block {body.span.text}"
  | .loop span _ => s!"Loop {span.text}"
  | .whileLoop span _ _ => s!"While {span.text}"
  | .conditional span _ _ _ => s!"If {span.text}"
  | .unsafeBlock span _ => s!"Unsafe Block {span.text}"
  | .ret span _ => s!"Return {span.text}"

def text : Node → String
  | .crate _ => "Crate"
  | .function fn => s!"Function {quoted fn.proto.name} {fn.span.text}"
  | .prototype proto => s!"Function Prototype: {proto.name} -> {proto.result.kind.name}"
  | .param p => s!"Param{mutability p.mutable} {p.span.text} {p.type.kind.name}"
  | .static decl =>
    s!"Static{mutability decl.mutable} {quoted decl.name} {decl.span.text} {decl.type.kind.name}"
  | .foreign block => s!"Extern {quoted block.abi} {block.span.text}"
  | .stmt (.binding span mutable _ type _) =>
    s!"Let{mutability mutable} {span.text} {type.kind.name}"
  | .stmt (.expr span _) => s!"ExprStmt {span.text}"
  | .expr e => exprText e

end Node

namespace Outline

mutual

def nodesAt (depth : Nat) : Outline → List (Nat × Node)
  | .node label children => (depth, label) :: nodesOfAll (depth + 1) children

def nodesOfAll (depth : Nat) : List Outline → List (Nat × Node)
  | [] => []
  | tree :: rest => nodesAt depth tree ++ nodesOfAll depth rest

end

def nodes (tree : Outline) : List Node := (nodesAt 0 tree).map (·.2)

mutual

/-- The nodes in source order, without those below a node that `enter` refuses. -/
def inspect (enter : Node → Bool) : Outline → List Node
  | .node label children => label :: if enter label then inspectAll enter children else []

def inspectAll (enter : Node → Bool) : List Outline → List Node
  | [] => []
  | tree :: rest => inspect enter tree ++ inspectAll enter rest

end

mutual

/-- One line for each node, `first` before the node itself and `rest` before what is below it. -/
def linesFrom (first rest : String) : Outline → List String
  | .node label children => (first ++ label.text) :: linesOfAll rest children

/-- The lines of the parts of a node. Branches lead to all parts, and a bent one to the last. -/
def linesOfAll (margin : String) : List Outline → List String
  | [] => []
  | [tree] => linesFrom (margin ++ "╰─ ") (margin ++ "   ") tree
  | tree :: rest => linesFrom (margin ++ "├─ ") (margin ++ "│  ") tree ++ linesOfAll margin rest

end

def lines (tree : Outline) : List String := linesFrom "" "" tree

end Outline

end MicroRust
