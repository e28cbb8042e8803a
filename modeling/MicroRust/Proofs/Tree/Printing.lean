import MicroRust.Proofs.Tree.Phrase
import MicroRust.Proofs.Tree.Relocation

/-! Trees written out as lexemes, and the trees that can be read back.

A tree is written with a semicolon behind every statement, with no comma behind the last member of a
list and without a result type `()`. It can be read back if no parentheses are missing, if every
expression has the role that its slot wants, and if no `return` would take more, or less, than its
own operand. -/

namespace MicroRust

def commaSeparated : List (List Lexeme) → List Lexeme
  | [] => []
  | [member] => member
  | member :: rest => member ++ .symbol .comma :: commaSeparated rest

def Literal.lexemes : Literal → List Lexeme
  | .int value => [.integer (Literal.int value).text value]
  | .float value => [.float value.text value]
  | .bool value => [.boolean value]
  | .unit => [.symbol .lparen, .symbol .rparen]

def TypeKind.lexemes : TypeKind → List Lexeme
  | .unit => [.symbol .lparen, .symbol .rparen]
  | kind => [.identifier kind.name]

def mutLexemes (mutable : Bool) : List Lexeme := if mutable then [.keyword .mutWord] else []

def Pattern.lexeme : Pattern → Lexeme
  | .named _ name => .identifier name
  | .wildcard _ => .underscore

def binderLexemes (mutable : Bool) (pattern : Pattern) (type : TypeRef) : List Lexeme :=
  mutLexemes mutable ++ pattern.lexeme :: .symbol .colon :: type.kind.lexemes

mutual

def Expr.lexemes : Expr → List Lexeme
  | .literal _ value => value.lexemes
  | .path _ name => [.identifier name]
  | .underscore _ => [.underscore]
  | .grouped _ inner => .symbol .lparen :: inner.lexemes ++ [.symbol .rparen]
  | .call _ _ callee args =>
    .identifier callee :: .symbol .lparen :: argsLexemes args ++ [.symbol .rparen]
  | .assign _ target value => target.lexemes ++ .symbol .assign :: value.lexemes
  | .binary _ op lhs rhs => lhs.lexemes ++ .symbol op.symbol :: rhs.lexemes
  | .negation _ op operand => .symbol op.symbol :: operand.lexemes
  | .cast _ operand type => operand.lexemes ++ .keyword .asWord :: type.kind.lexemes
  | .block body => body.lexemes
  | .loop _ body => .keyword .loopWord :: body.lexemes
  | .whileLoop _ cond body => .keyword .whileWord :: cond.lexemes ++ body.lexemes
  | .conditional _ cond thenBlock alternative =>
    .keyword .ifWord :: cond.lexemes ++ thenBlock.lexemes ++
      optionLexemes [.keyword .elseWord] alternative
  | .unsafeBlock _ body => .keyword .unsafeWord :: body.lexemes
  | .ret _ value => .keyword .returnWord :: optionLexemes [] value

def argsLexemes : List Expr → List Lexeme
  | [] => []
  | [e] => e.lexemes
  | e :: rest => e.lexemes ++ .symbol .comma :: argsLexemes rest

def optionLexemes (front : List Lexeme) : Option Expr → List Lexeme
  | none => []
  | some e => front ++ e.lexemes

def Stmt.lexemes : Stmt → List Lexeme
  | .binding _ mutable pattern type init =>
    .keyword .letWord :: binderLexemes mutable pattern type ++
      optionLexemes [.symbol .assign] init ++ [.symbol .semicolon]
  | .expr _ e => e.lexemes ++ [.symbol .semicolon]

def stmtsLexemes : List Stmt → List Lexeme
  | [] => []
  | s :: rest => s.lexemes ++ stmtsLexemes rest

def Block.lexemes : Block → List Lexeme
  | .mk _ stmts tail =>
    .symbol .lbrace :: stmtsLexemes stmts ++ optionLexemes [] tail ++ [.symbol .rbrace]

end

def Param.lexemes (p : Param) : List Lexeme := binderLexemes p.mutable p.pattern p.type

def Prototype.lexemes (p : Prototype) : List Lexeme :=
  .keyword .fnWord :: .identifier p.name :: .symbol .lparen ::
    commaSeparated (p.params.map Param.lexemes) ++ .symbol .rparen ::
    if p.result.kind = .unit then [] else .symbol .arrow :: p.result.kind.lexemes

def Static.lexemes (s : Static) : List Lexeme :=
  .keyword .staticWord :: mutLexemes s.mutable ++ .identifier s.name :: .symbol .colon ::
    s.type.kind.lexemes ++ optionLexemes [.symbol .assign] s.init ++ [.symbol .semicolon]

def ForeignItem.lexemes : ForeignItem → List Lexeme
  | .prototype proto => proto.lexemes ++ [.symbol .semicolon]
  | .static decl => decl.lexemes

def Item.lexemes : Item → List Lexeme
  | .function fn => fn.proto.lexemes ++ fn.body.lexemes
  | .static decl => decl.lexemes
  | .foreign block =>
    .keyword .externWord :: .abi block.abi :: .symbol .lbrace ::
      block.items.flatMap ForeignItem.lexemes ++ [.symbol .rbrace]

def Crate.lexemes (c : Crate) : List Lexeme := c.items.flatMap Item.lexemes

theorem Literal.eof_notMem (value : Literal) : .eof ∉ value.lexemes := by
  cases value <;> simp [lexemes]

theorem TypeKind.eof_notMem (kind : TypeKind) : .eof ∉ kind.lexemes := by
  cases kind <;> simp [lexemes]

theorem eof_notMem_mut (mutable : Bool) : .eof ∉ mutLexemes mutable := by
  cases mutable <;> simp [mutLexemes]

theorem eof_notMem_binder (mutable : Bool) (pattern : Pattern) (type : TypeRef) :
    .eof ∉ binderLexemes mutable pattern type := by
  cases pattern <;>
    simp [binderLexemes, Pattern.lexeme, eof_notMem_mut, TypeKind.eof_notMem]

mutual

theorem Expr.eof_notMem : ∀ e : Expr, .eof ∉ e.lexemes
  | .literal _ value => value.eof_notMem
  | .path _ _ => by simp [Expr.lexemes]
  | .underscore _ => by simp [Expr.lexemes]
  | .grouped _ inner => by simp [Expr.lexemes, inner.eof_notMem]
  | .call _ _ _ args => by simp [Expr.lexemes, eof_notMem_args args]
  | .assign _ target value => by simp [Expr.lexemes, target.eof_notMem, value.eof_notMem]
  | .binary _ _ lhs rhs => by simp [Expr.lexemes, lhs.eof_notMem, rhs.eof_notMem]
  | .negation _ _ operand => by simp [Expr.lexemes, operand.eof_notMem]
  | .cast _ operand type => by simp [Expr.lexemes, operand.eof_notMem, type.kind.eof_notMem]
  | .block body => body.eof_notMem
  | .loop _ body => by simp [Expr.lexemes, body.eof_notMem]
  | .whileLoop _ cond body => by simp [Expr.lexemes, cond.eof_notMem, body.eof_notMem]
  | .conditional _ cond thenBlock alternative => by
    simp [Expr.lexemes, cond.eof_notMem, thenBlock.eof_notMem, eof_notMem_option alternative]
  | .unsafeBlock _ body => by simp [Expr.lexemes, body.eof_notMem]
  | .ret _ value => by simp [Expr.lexemes, eof_notMem_option value]

theorem eof_notMem_args : ∀ args : List Expr, .eof ∉ argsLexemes args
  | [] => by simp [argsLexemes]
  | [e] => e.eof_notMem
  | e :: e' :: rest => by simp [argsLexemes, e.eof_notMem, eof_notMem_args (e' :: rest)]

theorem eof_notMem_option : ∀ (e : Option Expr) {front : List Lexeme}, .eof ∉ front →
    .eof ∉ optionLexemes front e
  | none, _, _ => by simp [optionLexemes]
  | some e, _, h => by simp [optionLexemes, h, e.eof_notMem]

theorem Stmt.eof_notMem : ∀ s : Stmt, .eof ∉ s.lexemes
  | .binding _ _ _ _ init => by
    simp [Stmt.lexemes, eof_notMem_binder, eof_notMem_option init]
  | .expr _ e => by simp [Stmt.lexemes, e.eof_notMem]

theorem eof_notMem_stmts : ∀ stmts : List Stmt, .eof ∉ stmtsLexemes stmts
  | [] => by simp [stmtsLexemes]
  | s :: rest => by simp [stmtsLexemes, s.eof_notMem, eof_notMem_stmts rest]

theorem Block.eof_notMem : ∀ b : Block, .eof ∉ b.lexemes
  | .mk _ stmts tail => by
    simp [Block.lexemes, eof_notMem_stmts stmts, eof_notMem_option tail]

end

theorem eof_notMem_commaSeparated (members : List (List Lexeme)) (h : ∀ m ∈ members, .eof ∉ m) :
    .eof ∉ commaSeparated members := by
  fun_induction commaSeparated members with
  | case1 => simp
  | case2 member => exact h member (by simp)
  | case3 member rest hne ih =>
    obtain ⟨hm, hrest⟩ := List.forall_mem_cons.1 h
    simp [hm, ih hrest]

theorem Prototype.eof_notMem (p : Prototype) : .eof ∉ p.lexemes := by
  have hparams := eof_notMem_commaSeparated (p.params.map Param.lexemes)
    (List.forall_mem_map.2 fun q _ => eof_notMem_binder q.mutable q.pattern q.type)
  simp only [lexemes]
  split <;> simp [hparams, TypeKind.eof_notMem]

theorem Static.eof_notMem (s : Static) : .eof ∉ s.lexemes := by
  simp [lexemes, eof_notMem_mut, TypeKind.eof_notMem, eof_notMem_option s.init]

theorem Item.eof_notMem (item : Item) : .eof ∉ item.lexemes := by
  cases item with
  | function fn => simp [lexemes, fn.proto.eof_notMem, fn.body.eof_notMem]
  | static decl => exact decl.eof_notMem
  | foreign block =>
    simp only [lexemes, List.cons_append, List.mem_cons, reduceCtorEq, List.mem_append,
      List.mem_flatMap, List.not_mem_nil, or_false, false_or]
    rintro ⟨d, -, hd⟩
    cases d with
    | prototype proto => simp [ForeignItem.lexemes, proto.eof_notMem] at hd
    | static decl => exact decl.eof_notMem hd

theorem Crate.eof_notMem (c : Crate) : .eof ∉ c.lexemes := by
  simp [lexemes, Item.eof_notMem]

namespace Expr

def IsValue (e : Expr) : Prop := e.capability.has .value = true

def IsAssignee : Expr → Prop
  | .path _ _ => True
  | .underscore _ => True
  | _ => False

def IsAlternative : Expr → Prop
  | .block _ => True
  | .conditional _ _ _ _ => True
  | _ => False

/-- The expression ends with a `return` without a value. -/
def EndsBare : Expr → Prop
  | .assign _ _ value => value.EndsBare
  | .binary _ _ _ rhs => rhs.EndsBare
  | .negation _ _ operand => operand.EndsBare
  | .ret _ none => True
  | .ret _ (some e) => e.EndsBare
  | _ => False

/-- The expression ends with a `return` and its value, which would take in an operator behind it. -/
def EndsValued : Expr → Prop
  | .assign _ _ value => value.EndsValued
  | .binary _ _ _ rhs => rhs.EndsValued
  | .negation _ _ operand => operand.EndsValued
  | .ret _ value => value.isSome
  | _ => False

instance decidableEndsBare : DecidablePred EndsBare
  | .assign _ _ value => decidableEndsBare value
  | .binary _ _ _ rhs => decidableEndsBare rhs
  | .negation _ _ operand => decidableEndsBare operand
  | .ret _ none => isTrue trivial
  | .ret _ (some e) => decidableEndsBare e
  | .literal .. | .path .. | .underscore .. | .grouped .. | .call .. | .cast .. | .block ..
  | .loop .. | .whileLoop .. | .conditional .. | .unsafeBlock .. => isFalse id

instance decidableEndsValued : DecidablePred EndsValued
  | .assign _ _ value => decidableEndsValued value
  | .binary _ _ _ rhs => decidableEndsValued rhs
  | .negation _ _ operand => decidableEndsValued operand
  | .ret _ value => inferInstanceAs (Decidable (value.isSome = true))
  | .literal .. | .path .. | .underscore .. | .grouped .. | .call .. | .cast .. | .block ..
  | .loop .. | .whileLoop .. | .conditional .. | .unsafeBlock .. => isFalse id

instance : DecidablePred IsValue := fun _ => inferInstanceAs (Decidable (_ = true))

instance : DecidablePred IsAssignee := fun e => by
  unfold IsAssignee
  split <;> infer_instance

instance : DecidablePred IsAlternative := fun e => by
  unfold IsAlternative
  split <;> infer_instance

instance : DecidablePred Layered := fun e => by
  unfold Layered
  split <;> infer_instance

/-- The parts of an expression may stand where they stand. -/
def Placed : Expr → Prop
  | .grouped _ inner => inner.IsValue
  | .call _ _ _ args => ∀ e ∈ args, e.IsValue
  | .assign _ target value => target.IsAssignee ∧ value.IsValue
  | .binary _ op lhs rhs =>
    lhs.IsValue ∧ rhs.IsValue ∧ ¬lhs.EndsValued ∧ (op = .arith .sub → ¬lhs.EndsBare)
  | .negation _ _ operand => operand.IsValue
  | .cast _ operand _ => operand.IsValue ∧ ¬operand.EndsValued
  | .block body => ∀ e ∈ body.tail, e.IsValue
  | .whileLoop _ cond _ => cond.IsValue ∧ ¬cond.EndsBare
  | .conditional _ cond _ alternative =>
    cond.IsValue ∧ ¬cond.EndsBare ∧ ∀ e ∈ alternative, e.IsAlternative
  | .ret _ value => ∀ e ∈ value, e.IsValue
  | _ => True

instance : DecidablePred Placed := fun e => by
  unfold Placed
  split <;> infer_instance

end Expr

def Item.Initialized : Item → Prop
  | .static decl => decl.init.isSome
  | _ => True

instance : DecidablePred Item.Initialized := fun item => by
  unfold Item.Initialized
  split <;> infer_instance

def ForeignItem.Uninitialized : ForeignItem → Prop
  | .static decl => decl.init.isNone
  | .prototype _ => True

instance : DecidablePred ForeignItem.Uninitialized := fun d => by
  unfold ForeignItem.Uninitialized
  split <;> infer_instance

def Node.WellFormed : Node → Prop
  | .expr e => e.Layered ∧ e.Placed
  | .stmt (.binding _ _ _ _ init) => ∀ e ∈ init, e.IsValue
  | .static decl => ∀ e ∈ decl.init, e.IsValue
  | .foreign block => block.abi = "C" ∧ ∀ d ∈ block.items, d.Uninitialized
  | .crate c => ∀ item ∈ c.items, item.Initialized
  | _ => True

instance : DecidablePred Node.WellFormed := fun n => by
  unfold Node.WellFormed
  split <;> infer_instance

def Crate.WellFormed (c : Crate) : Prop := c.outline.Every Node.WellFormed

instance : DecidablePred Crate.WellFormed := fun c =>
  inferInstanceAs (Decidable (∀ n ∈ c.outline.nodes, n.WellFormed))

end MicroRust
