import MicroRust.Tree.Outline

/-! How tightly expressions bind, and trees whose operations agree with it.

A property of a whole tree is stated of every node of its outline, and taken apart construct by
construct. -/

namespace MicroRust

namespace Outline

def Every (P : Node → Prop) (tree : Outline) : Prop := ∀ n ∈ tree.nodes, P n

mutual

theorem map_snd_nodesAt (d : Nat) : ∀ tree : Outline, (nodesAt d tree).map (·.2) = tree.nodes
  | .node label children => by
    have hd := map_snd_nodesOfAll (d + 1) children
    have h0 := map_snd_nodesOfAll 1 children
    simp only [nodes, nodesAt, List.map_cons, hd, h0]

theorem map_snd_nodesOfAll (d : Nat) :
    ∀ trees : List Outline, (nodesOfAll d trees).map (·.2) = trees.flatMap nodes
  | [] => rfl
  | tree :: rest => by
    simp only [nodesOfAll, List.map_append, map_snd_nodesAt d tree, map_snd_nodesOfAll d rest,
      List.flatMap_cons]

end

theorem nodes_node (label : Node) (children : List Outline) :
    (node label children).nodes = label :: children.flatMap nodes := by
  simp only [nodes, nodesAt, List.map_cons, map_snd_nodesOfAll]

@[simp] theorem every_node {P : Node → Prop} (label : Node) (children : List Outline) :
    (node label children).Every P ↔ P label ∧ ∀ tree ∈ children, tree.Every P := by
  simp only [Every, nodes_node, List.mem_cons, List.mem_flatMap]
  constructor
  · intro h
    exact ⟨h _ (.inl rfl), fun tree ht n hn => h n (.inr ⟨tree, ht, hn⟩)⟩
  · rintro ⟨hl, hc⟩ n (rfl | ⟨tree, ht, hn⟩)
    · exact hl
    · exact hc tree ht n hn

end Outline

@[simp] theorem outlineArgs_eq_map (args : List Expr) :
    outlineArgs args = args.map Expr.outline := by
  induction args with
  | nil => rfl
  | cons e rest ih => simp only [outlineArgs, ih, List.map_cons]

@[simp] theorem outlineStmts_eq_map (stmts : List Stmt) :
    outlineStmts stmts = stmts.map Stmt.outline := by
  induction stmts with
  | nil => rfl
  | cons s rest ih => simp only [outlineStmts, ih, List.map_cons]

@[simp] theorem outlineOption_eq_map (e : Option Expr) :
    outlineOption e = e.toList.map Expr.outline := by
  cases e <;> rfl

namespace Expr

def level : Expr → Nat
  | .assign _ _ _ => 0
  | .binary _ op _ _ => op.level
  | .cast _ _ _ => castLevel
  | .negation _ _ _ => 10
  | _ => 11

/-- The operands of the outermost operation bind tightly enough to stand there without parentheses:
chains of one level grow to the left, and comparisons do not chain. -/
def Layered : Expr → Prop
  | .assign _ _ value => 1 ≤ value.level
  | .binary _ (.compare _) lhs rhs => 4 ≤ lhs.level ∧ 4 ≤ rhs.level
  | .binary _ op lhs rhs => op.level ≤ lhs.level ∧ op.level + 1 ≤ rhs.level
  | .cast _ operand _ => castLevel ≤ operand.level
  | .negation _ _ operand => 10 ≤ operand.level
  | _ => True

end Expr

def Node.Layered : Node → Prop
  | .expr e => e.Layered
  | _ => True

def Expr.Stratified (e : Expr) : Prop := e.outline.Every Node.Layered

def Stmt.Stratified (s : Stmt) : Prop := s.outline.Every Node.Layered

def Block.Stratified (b : Block) : Prop := b.outline.Every Node.Layered

def ForeignItem.Stratified (item : ForeignItem) : Prop := item.outline.Every Node.Layered

def Item.Stratified (item : Item) : Prop := item.outline.Every Node.Layered

def Crate.Stratified (c : Crate) : Prop := c.outline.Every Node.Layered

theorem Crate.stratified_iff (c : Crate) : c.Stratified ↔ ∀ item ∈ c.items, item.Stratified := by
  simp [Stratified, Crate.outline, Node.Layered, Item.Stratified]

theorem BinaryOp.level_le (op : BinaryOp) : op.level ≤ 8 := by
  fun_cases BinaryOp.level op <;> decide

theorem InfixOp.level_le (op : InfixOp) : op.level ≤ 8 := by
  cases op with
  | assign => exact Nat.zero_le _
  | binary op => exact op.level_le

theorem Expr.layered_binary_iff (s : Span) (op : BinaryOp) (lhs rhs : Expr) :
    (binary s op lhs rhs).Layered ↔
      op.level ≤ lhs.level ∧ (op.level = 3 → lhs.level ≠ 3) ∧ op.level < rhs.level := by
  cases op with
  | compare cmp =>
    simp only [Layered, BinaryOp.level, forall_const]
    omega
  | arith op =>
    have hne : (BinaryOp.arith op).level ≠ 3 := by cases op <;> decide
    simp only [Layered]
    omega
  | lazy op =>
    have hne : (BinaryOp.lazy op).level ≠ 3 := by cases op <;> decide
    simp only [Layered]
    omega

@[simp] theorem Block.span_mk (s : Span) (stmts : List Stmt) (tail : Option Expr) :
    (Block.mk s stmts tail).span = s := rfl

namespace Expr

attribute [local simp] Stratified Layered Node.Layered outline

@[simp] theorem stratified_literal (s : Span) (v : Literal) : (literal s v).Stratified := by
  simp

@[simp] theorem stratified_path (s : Span) (name : String) : (path s name).Stratified := by
  simp

@[simp] theorem stratified_underscore (s : Span) : (underscore s).Stratified := by
  simp

@[simp] theorem stratified_grouped (s : Span) (e : Expr) :
    (grouped s e).Stratified ↔ e.Stratified := by
  simp

@[simp] theorem stratified_call (s t : Span) (f : String) (args : List Expr) :
    (call s t f args).Stratified ↔ ∀ e ∈ args, e.Stratified := by
  simp

@[simp] theorem stratified_assign (s : Span) (target value : Expr) :
    (assign s target value).Stratified ↔
      1 ≤ value.level ∧ target.Stratified ∧ value.Stratified := by
  simp

@[simp] theorem stratified_binary (s : Span) (op : BinaryOp) (lhs rhs : Expr) :
    (binary s op lhs rhs).Stratified ↔
      (binary s op lhs rhs).Layered ∧ lhs.Stratified ∧ rhs.Stratified := by
  simp

@[simp] theorem stratified_negation (s : Span) (op : NegOp) (e : Expr) :
    (negation s op e).Stratified ↔ 10 ≤ e.level ∧ e.Stratified := by
  simp

@[simp] theorem stratified_cast (s : Span) (e : Expr) (type : TypeRef) :
    (cast s e type).Stratified ↔ castLevel ≤ e.level ∧ e.Stratified := by
  simp

@[simp] theorem stratified_block (b : Block) : (block b).Stratified ↔ b.Stratified := by
  simp [Block.Stratified]

@[simp] theorem stratified_loop (s : Span) (b : Block) : (loop s b).Stratified ↔ b.Stratified := by
  simp [Block.Stratified]

@[simp] theorem stratified_whileLoop (s : Span) (cond : Expr) (b : Block) :
    (whileLoop s cond b).Stratified ↔ cond.Stratified ∧ b.Stratified := by
  simp [Block.Stratified]

@[simp] theorem stratified_conditional (s : Span) (cond : Expr) (b : Block) (alt : Option Expr) :
    (conditional s cond b alt).Stratified ↔
      cond.Stratified ∧ b.Stratified ∧ ∀ e ∈ alt, e.Stratified := by
  simp [Block.Stratified]

@[simp] theorem stratified_unsafeBlock (s : Span) (b : Block) :
    (unsafeBlock s b).Stratified ↔ b.Stratified := by
  simp [Block.Stratified]

@[simp] theorem stratified_ret (s : Span) (value : Option Expr) :
    (ret s value).Stratified ↔ ∀ e ∈ value, e.Stratified := by
  simp

end Expr

@[simp] theorem Stmt.stratified_binding (s : Span) (mutable : Bool) (pattern : Pattern)
    (type : TypeRef) (init : Option Expr) :
    (Stmt.binding s mutable pattern type init).Stratified ↔ ∀ e ∈ init, e.Stratified := by
  cases pattern <;>
    simp [Stratified, outline, Node.Layered, Expr.Layered, Expr.Stratified, Pattern.toExpr]

@[simp] theorem Stmt.stratified_expr (s : Span) (e : Expr) :
    (Stmt.expr s e).Stratified ↔ e.Stratified := by
  simp [Stratified, outline, Node.Layered, Expr.Stratified]

@[simp] theorem Block.stratified_mk (s : Span) (stmts : List Stmt) (tail : Option Expr) :
    (Block.mk s stmts tail).Stratified ↔
      (∀ stmt ∈ stmts, stmt.Stratified) ∧ ∀ e ∈ tail, e.Stratified := by
  simp [Stratified, outline, Node.Layered, Expr.Layered, Expr.Stratified, Stmt.Stratified, or_imp,
    forall_and]

theorem Prototype.every_layered (proto : Prototype) : proto.outline.Every Node.Layered := by
  simp only [Prototype.outline, Outline.every_node, List.forall_mem_map]
  refine ⟨trivial, fun p _ => ?_⟩
  cases h : p.pattern <;> simp [Param.outline, h, Pattern.toExpr, Node.Layered, Expr.Layered]

@[simp] theorem ForeignItem.stratified_prototype (proto : Prototype) :
    (ForeignItem.prototype proto).Stratified := proto.every_layered

@[simp] theorem ForeignItem.stratified_static (decl : Static) :
    (ForeignItem.static decl).Stratified ↔ ∀ e ∈ decl.init, e.Stratified := by
  simp [Stratified, outline, Static.outline, Node.Layered, Expr.Stratified]

@[simp] theorem Item.stratified_function (fn : Function) :
    (Item.function fn).Stratified ↔ fn.body.Stratified := by
  simp [Stratified, outline, Function.outline, Node.Layered, fn.proto.every_layered,
    Block.Stratified]

@[simp] theorem Item.stratified_static (decl : Static) :
    (Item.static decl).Stratified ↔ ∀ e ∈ decl.init, e.Stratified := by
  simp [Stratified, outline, Static.outline, Node.Layered, Expr.Stratified]

@[simp] theorem Item.stratified_foreign (block : ForeignBlock) :
    (Item.foreign block).Stratified ↔ ∀ d ∈ block.items, d.Stratified := by
  simp [Stratified, outline, Node.Layered, ForeignItem.Stratified]

end MicroRust
