import MicroRust.Tree.Capability
import MicroRust.Tree.Operator

/-! Types, expressions, statements and blocks. -/

namespace MicroRust

inductive TypeKind where
  | unit | i32 | f64 | bool
deriving DecidableEq, Repr

namespace TypeKind

def all : List TypeKind := [.unit, .i32, .f64, .bool]

def name : TypeKind → String
  | .unit => "()"
  | .i32 => "i32"
  | .f64 => "f64"
  | .bool => "bool"

def ofName? (s : String) : Option TypeKind := all.find? fun k => k.name = s

def number : TypeKind → Nat
  | .unit => 0
  | .i32 => 1
  | .f64 => 2
  | .bool => 3

def nameOf (n : Int) : String := ((numbered? all n).map name).getD s!"TypeKind({n})"

end TypeKind

/-- A type as it is written at a place. A result type that is left out stands at the empty range
behind the parameters. -/
structure TypeRef where
  kind : TypeKind
  span : Span
deriving DecidableEq, Repr

inductive Literal where
  | int (value : Int32)
  | float (value : Binary64)
  | bool (value : Bool)
  | unit
deriving DecidableEq, Repr

namespace Literal

def type : Literal → TypeKind
  | .int _ => .i32
  | .float _ => .f64
  | .bool _ => .bool
  | .unit => .unit

def text : Literal → String
  | .int value => toString value.toInt
  | .float value => value.text
  | .bool value => if value then "true" else "false"
  | .unit => "()"

end Literal

inductive Pattern where
  | named (span : Span) (name : String)
  | wildcard (span : Span)
deriving DecidableEq, Repr

def Pattern.span : Pattern → Span
  | .named span _ => span
  | .wildcard span => span

mutual

inductive Expr where
  | literal (span : Span) (value : Literal)
  | path (span : Span) (name : String)
  | underscore (span : Span)
  | grouped (span : Span) (inner : Expr)
  | call (span : Span) (calleeSpan : Span) (callee : String) (args : List Expr)
  | assign (span : Span) (target value : Expr)
  | binary (span : Span) (op : BinaryOp) (lhs rhs : Expr)
  | negation (span : Span) (op : NegOp) (operand : Expr)
  | cast (span : Span) (operand : Expr) (type : TypeRef)
  | block (body : Block)
  | loop (span : Span) (body : Block)
  | whileLoop (span : Span) (cond : Expr) (body : Block)
  /-- The alternative of a conditional is a block or a further conditional. -/
  | conditional (span : Span) (cond : Expr) (thenBlock : Block) (alternative : Option Expr)
  | unsafeBlock (span : Span) (body : Block)
  | ret (span : Span) (value : Option Expr)

inductive Stmt where
  | binding (span : Span) (mutable : Bool) (pattern : Pattern) (type : TypeRef)
      (init : Option Expr)
  | expr (span : Span) (expr : Expr)

inductive Block where
  | mk (span : Span) (stmts : List Stmt) (tail : Option Expr)

end

def Block.span : Block → Span
  | .mk span _ _ => span

def Block.stmts : Block → List Stmt
  | .mk _ stmts _ => stmts

def Block.tail : Block → Option Expr
  | .mk _ _ tail => tail

def Stmt.span : Stmt → Span
  | .binding span _ _ _ _ => span
  | .expr span _ => span

namespace Expr

def span : Expr → Span
  | .literal span _ => span
  | .path span _ => span
  | .underscore span => span
  | .grouped span _ => span
  | .call span _ _ _ => span
  | .assign span _ _ => span
  | .binary span _ _ _ => span
  | .negation span _ _ => span
  | .cast span _ _ => span
  | .block body => body.span
  | .loop span _ => span
  | .whileLoop span _ _ => span
  | .conditional span _ _ _ => span
  | .unsafeBlock span _ => span
  | .ret span _ => span

/-- A name is a place, a value and an assignee; `_` is an assignee only; all else is a value. -/
def capability : Expr → Capability
  | .path _ _ => (Capability.place.union .value).union .assignee
  | .underscore _ => .assignee
  | _ => .value

def isBlockLike : Expr → Bool
  | .block _ => true
  | .loop _ _ => true
  | .whileLoop _ _ _ => true
  | .conditional _ _ _ _ => true
  | .unsafeBlock _ _ => true
  | _ => false

end Expr

def Pattern.toExpr : Pattern → Expr
  | .named span name => .path span name
  | .wildcard span => .underscore span

end MicroRust
