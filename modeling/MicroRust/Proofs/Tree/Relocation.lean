import MicroRust.Parsing.Error
import MicroRust.Proofs.Tree.Levels
import MicroRust.Token.Lexer

/-! Trees, tokens and errors with every place moved.

A map of places carries over to everything that has a range. The map to one place gives trees
without ranges: two trees that agree there differ in their ranges only. -/

namespace MicroRust

variable (f : Position → Position)

def Span.relocate (s : Span) : Span := ⟨f s.start, f s.stop⟩

def Token.relocate (t : Token) : Token := ⟨t.lexeme, t.span.relocate f⟩

def TypeRef.relocate (t : TypeRef) : TypeRef := ⟨t.kind, t.span.relocate f⟩

def Pattern.relocate : Pattern → Pattern
  | .named span name => .named (span.relocate f) name
  | .wildcard span => .wildcard (span.relocate f)

mutual

def Expr.relocate : Expr → Expr
  | .literal span value => .literal (span.relocate f) value
  | .path span name => .path (span.relocate f) name
  | .underscore span => .underscore (span.relocate f)
  | .grouped span inner => .grouped (span.relocate f) inner.relocate
  | .call span calleeSpan callee args =>
    .call (span.relocate f) (calleeSpan.relocate f) callee (relocateArgs args)
  | .assign span target value => .assign (span.relocate f) target.relocate value.relocate
  | .binary span op lhs rhs => .binary (span.relocate f) op lhs.relocate rhs.relocate
  | .negation span op operand => .negation (span.relocate f) op operand.relocate
  | .cast span operand type => .cast (span.relocate f) operand.relocate (type.relocate f)
  | .block body => .block body.relocate
  | .loop span body => .loop (span.relocate f) body.relocate
  | .whileLoop span cond body => .whileLoop (span.relocate f) cond.relocate body.relocate
  | .conditional span cond thenBlock alternative =>
    .conditional (span.relocate f) cond.relocate thenBlock.relocate (relocateOption alternative)
  | .unsafeBlock span body => .unsafeBlock (span.relocate f) body.relocate
  | .ret span value => .ret (span.relocate f) (relocateOption value)

def relocateArgs : List Expr → List Expr
  | [] => []
  | e :: rest => e.relocate :: relocateArgs rest

def relocateOption : Option Expr → Option Expr
  | none => none
  | some e => some e.relocate

def Stmt.relocate : Stmt → Stmt
  | .binding span mutable pattern type init =>
    .binding (span.relocate f) mutable (pattern.relocate f) (type.relocate f) (relocateOption init)
  | .expr span e => .expr (span.relocate f) e.relocate

def relocateStmts : List Stmt → List Stmt
  | [] => []
  | s :: rest => s.relocate :: relocateStmts rest

def Block.relocate : Block → Block
  | .mk span stmts tail => .mk (span.relocate f) (relocateStmts stmts) (relocateOption tail)

end

@[simp] theorem relocateArgs_eq_map (args : List Expr) :
    relocateArgs f args = args.map (Expr.relocate f) := by
  induction args with
  | nil => rfl
  | cons e rest ih => simp only [relocateArgs, ih, List.map_cons]

@[simp] theorem relocateStmts_eq_map (stmts : List Stmt) :
    relocateStmts f stmts = stmts.map (Stmt.relocate f) := by
  induction stmts with
  | nil => rfl
  | cons s rest ih => simp only [relocateStmts, ih, List.map_cons]

@[simp] theorem relocateOption_eq_map (e : Option Expr) :
    relocateOption f e = e.map (Expr.relocate f) := by
  cases e <;> rfl

def Param.relocate (p : Param) : Param :=
  ⟨p.span.relocate f, p.mutable, p.pattern.relocate f, p.type.relocate f⟩

def Prototype.relocate (p : Prototype) : Prototype :=
  ⟨p.span.relocate f, p.name, p.params.map (Param.relocate f), p.result.relocate f⟩

def Static.relocate (s : Static) : Static :=
  ⟨s.span.relocate f, s.name, s.mutable, s.type.relocate f, s.init.map (Expr.relocate f)⟩

def Function.relocate (fn : Function) : Function :=
  ⟨fn.span.relocate f, fn.proto.relocate f, fn.body.relocate f⟩

def ForeignItem.relocate : ForeignItem → ForeignItem
  | .prototype proto => .prototype (proto.relocate f)
  | .static decl => .static (decl.relocate f)

def ForeignBlock.relocate (b : ForeignBlock) : ForeignBlock :=
  ⟨b.span.relocate f, b.abi, b.items.map (ForeignItem.relocate f)⟩

def Item.relocate : Item → Item
  | .function fn => .function (fn.relocate f)
  | .static decl => .static (decl.relocate f)
  | .foreign block => .foreign (block.relocate f)

def Crate.relocate (c : Crate) : Crate :=
  ⟨c.name, c.items.map (Item.relocate f), c.span.relocate f⟩

def Recovered.relocate : Recovered → Recovered
  | .wrongRole span expected actual slot => .wrongRole (span.relocate f) expected actual slot
  | .staticWithoutInit span => .staticWithoutInit (span.relocate f)
  | .externStaticWithInit span => .externStaticWithInit (span.relocate f)
  | .externFunctionWithBody span => .externFunctionWithBody (span.relocate f)
  | .unclassified number span => .unclassified number (span.relocate f)
  | .missingToken expected place => .missingToken expected (f place)
  | .unsupportedAbi span abi => .unsupportedAbi (span.relocate f) abi

def LexFailure.relocate : LexFailure → LexFailure
  | .lexical e => .lexical ⟨e.cause, e.span.relocate f⟩
  | .unreadable name reason => .unreadable name reason

def ParseError.relocate : ParseError → ParseError
  | .endOfTokens => .endOfTokens
  | .unexpected actual expected => .unexpected (actual.relocate f) expected
  | .lexical e => .lexical ⟨e.cause, e.span.relocate f⟩
  | .unreadable name reason => .unreadable name reason
  | .recovered errors => .recovered (errors.map (Recovered.relocate f))

def Reading.relocate : Reading → Reading
  | .ok t => .ok (t.relocate f)
  | .error failure => .error (failure.relocate f)

@[simp] theorem Block.span_relocate (b : Block) : (b.relocate f).span = b.span.relocate f := by
  cases b
  rfl

namespace Expr

@[simp] theorem span_relocate (e : Expr) : (e.relocate f).span = e.span.relocate f := by
  cases e with
  | block body => exact body.span_relocate f
  | _ => rfl

@[simp] theorem capability_relocate (e : Expr) : (e.relocate f).capability = e.capability := by
  cases e <;> rfl

@[simp] theorem isBlockLike_relocate (e : Expr) : (e.relocate f).isBlockLike = e.isBlockLike := by
  cases e <;> rfl

end Expr

def nowhere (_ : Position) : Position := Position.origin

def noSpan : Span := Span.point Position.origin

abbrev Expr.bare (e : Expr) : Expr := e.relocate nowhere

abbrev Stmt.bare (s : Stmt) : Stmt := s.relocate nowhere

abbrev Block.bare (b : Block) : Block := b.relocate nowhere

abbrev Item.bare (item : Item) : Item := item.relocate nowhere

abbrev Crate.bare (c : Crate) : Crate := c.relocate nowhere

def unplaced (lexeme : Lexeme) : Token := ⟨lexeme, noSpan⟩

theorem Token.relocate_nowhere (t : Token) : t.relocate nowhere = unplaced t.lexeme := rfl

end MicroRust
