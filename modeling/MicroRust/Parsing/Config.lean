import MicroRust.Parsing.Error
import MicroRust.Tree.Item

/-! Configurations of the parser.

The parser takes one token at a time. Between two tokens it holds the constructs that are still
open, the innermost first, and what it waits for next. -/

namespace MicroRust.Parsing

inductive BlockRole where
  | plain
  | loopBody (start : Position)
  | whileBody (start : Position) (cond : Expr)
  | thenBranch (start : Position) (cond : Expr)
  | elseBranch (start : Position) (cond : Expr) (thenBlock : Block)
  | unsafeBody (start : Position)
  | functionBody (proto : Prototype)

structure BindingHead where
  start : Position
  mutable : Bool
  pattern : Pattern
  type : TypeRef

structure StaticHead where
  start : Position
  mutable : Bool
  name : String
  type : TypeRef

structure FunctionHead where
  start : Position
  name : String
  params : List Param

/-- A construct that is still open. The expression being read goes into the innermost one. Parts
already read are held with the last one first. -/
inductive Frame where
  | operation (op : InfixOp) (lhs : Expr)
  | negation (start : Position) (op : NegOp)
  | ret (start : Position)
  | group (start : Position)
  | call (calleeSpan : Span) (callee : String) (args : List Expr)
  | ifCondition (start : Position)
  | whileCondition (start : Position)
  | elseIf (start : Position) (cond : Expr) (thenBlock : Block)
  | block (start : Position) (role : BlockRole) (stmts : List Stmt)
  | binding (head : BindingHead)
  | static (head : StaticHead)
  | foreign (start : Position) (abi : String) (items : List ForeignItem)

inductive TypeSlot where
  | param (head : FunctionHead) (start : Position) (mutable : Bool) (pattern : Pattern)
  | result (head : FunctionHead)
  | binding (start : Position) (mutable : Bool) (pattern : Pattern)
  | static (start : Position) (mutable : Bool) (name : String)
  | cast (operand : Expr)

inductive Control where
  | item
  | foreignItem
  | abi (start : Position)
  | foreignOpen (start : Position) (abi : String)
  | functionName (start : Position)
  | paramsOpen (start : Position) (name : String)
  | param (head : FunctionHead)
  | paramPattern (head : FunctionHead) (start : Position)
  | paramColon (head : FunctionHead) (start : Position) (mutable : Bool) (pattern : Pattern)
  | paramNext (head : FunctionHead)
  | result (head : FunctionHead) (stop : Position)
  | body (proto : Prototype)
  | staticMut (start : Position)
  | staticName (start : Position) (mutable : Bool)
  | staticColon (start : Position) (mutable : Bool) (name : String)
  | staticInit (head : StaticHead)
  | bindingMut (start : Position)
  | bindingPattern (start : Position) (mutable : Bool)
  | bindingColon (start : Position) (mutable : Bool) (pattern : Pattern)
  | bindingInit (head : BindingHead)
  | type (slot : TypeSlot)
  | typeClose (start : Position) (slot : TypeSlot)
  | statement
  | operand
  /-- What follows an opening parenthesis: an expression, or the other half of the unit value. -/
  | groupOpen (start : Position)
  | pathNext (span : Span) (name : String)
  | argument
  | returnValue (span : Span)
  | blockOpen (role : BlockRole)
  | afterThen (start : Position) (cond : Expr) (thenBlock : Block)
  | afterElse (start : Position) (cond : Expr) (thenBlock : Block)
  | operator (operand : Expr)

/-- A configuration. Items and recovered errors are held with the last one first. -/
structure Config where
  items : List Item := []
  recovered : List Recovered := []
  frames : List Frame := []
  control : Control := .item

namespace Config

def initial : Config := {}

def expect (c : Config) (control : Control) : Config := { c with control }

def push (c : Config) (frame : Frame) (control : Control) : Config :=
  { c with frames := frame :: c.frames, control }

def replace (c : Config) (frames : List Frame) (control : Control) : Config :=
  { c with frames, control }

def note (c : Config) (e : Recovered) : Config := { c with recovered := e :: c.recovered }

def require (c : Config) (role : Capability) (slot : String) (e : Expr) : Config :=
  if e.capability.has role then c else c.note (.wrongRole e.span role e.capability slot)

def requireValue (c : Config) (slot : String) (e : Expr) : Config := c.require .value slot e

end Config

end MicroRust.Parsing
