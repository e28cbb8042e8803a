import MicroRust.Proofs.Tree.Printing

/-! Where an expression stands in a tree, said without a walk, and that a walk comes to it.

Last, a property of trees that says of every place behind an `else` what stands there. -/

namespace MicroRust

def Stmt.exprs : Stmt → List Expr
  | .binding _ _ _ _ init => init.toList
  | .expr _ e => [e]

def Block.exprs (b : Block) : List Expr := b.stmts.flatMap Stmt.exprs ++ b.tail.toList

def Expr.parts : Expr → List Expr
  | .literal _ _ => []
  | .path _ _ => []
  | .underscore _ => []
  | .grouped _ inner => [inner]
  | .call _ _ _ args => args
  | .assign _ target value => [target, value]
  | .binary _ _ lhs rhs => [lhs, rhs]
  | .negation _ _ operand => [operand]
  | .cast _ operand _ => [operand]
  | .block body => body.exprs
  | .loop _ body => [.block body]
  | .whileLoop _ cond body => [cond, .block body]
  | .conditional _ cond thenBlock alternative => cond :: .block thenBlock :: alternative.toList
  | .unsafeBlock _ body => [.block body]
  | .ret _ value => value.toList

def ForeignItem.exprs : ForeignItem → List Expr
  | .prototype _ => []
  | .static decl => decl.init.toList

def Item.exprs : Item → List Expr
  | .function fn => [.block fn.body]
  | .static decl => decl.init.toList
  | .foreign block => block.items.flatMap ForeignItem.exprs

/-- An expression stands in another one, at any depth. -/
inductive Expr.Within (e : Expr) : Expr → Prop where
  | self : Within e e
  | part {inner outer : Expr} (hpart : inner ∈ outer.parts) (h : Within e inner) : Within e outer

def Expr.In (e : Expr) (c : Crate) : Prop :=
  ∃ item ∈ c.items, ∃ outer ∈ item.exprs, e.Within outer

theorem Span.sizeOf_pos (s : Span) : 0 < sizeOf s := by
  cases s
  simp only [Span.mk.sizeOf_spec]
  omega

theorem sizeOf_lt_of_mem_toList {e : Expr} {o : Option Expr} (h : e ∈ o.toList) :
    sizeOf e < sizeOf o := by
  obtain rfl := Option.mem_toList.1 h
  simp

theorem Stmt.sizeOf_lt_of_mem_exprs {e : Expr} {s : Stmt} (h : e ∈ s.exprs) :
    sizeOf e < sizeOf s := by
  cases s with
  | binding span mutable pattern type init =>
    have hlt := sizeOf_lt_of_mem_toList h
    simp only [binding.sizeOf_spec]
    omega
  | expr span e =>
    obtain rfl := List.mem_singleton.1 h
    simp only [expr.sizeOf_spec]
    omega

theorem Block.sizeOf_lt_of_mem_exprs {e : Expr} {b : Block} (h : e ∈ b.exprs) :
    sizeOf e < sizeOf b := by
  obtain ⟨span, stmts, tail⟩ := b
  simp only [mk.sizeOf_spec]
  rcases List.mem_append.1 h with h | h
  · obtain ⟨s, hs, he⟩ := List.mem_flatMap.1 h
    have hstmt := List.sizeOf_lt_of_mem hs
    have hlt := Stmt.sizeOf_lt_of_mem_exprs he
    simp only [Block.stmts] at hstmt
    omega
  · have hlt := sizeOf_lt_of_mem_toList h
    simp only [Block.tail] at hlt
    omega

theorem Expr.sizeOf_lt_of_mem_parts {inner e : Expr} (h : inner ∈ e.parts) :
    sizeOf inner < sizeOf e := by
  cases e with
  | literal | path | underscore => cases h
  | call span calleeSpan callee args =>
    have hlt : sizeOf inner < sizeOf args := List.sizeOf_lt_of_mem h
    simp only [call.sizeOf_spec]
    omega
  | block body =>
    have hlt := Block.sizeOf_lt_of_mem_exprs h
    simp only [block.sizeOf_spec]
    omega
  | ret span value =>
    have hlt := sizeOf_lt_of_mem_toList h
    simp only [ret.sizeOf_spec]
    omega
  | conditional span cond thenBlock alternative =>
    have hspan := span.sizeOf_pos
    simp only [conditional.sizeOf_spec]
    simp only [parts, List.mem_cons] at h
    rcases h with rfl | rfl | h
    · omega
    · simp only [block.sizeOf_spec]
      omega
    · have hlt := sizeOf_lt_of_mem_toList h
      omega
  | grouped span | assign span | binary span | negation span | cast span | loop span
  | whileLoop span | unsafeBlock span =>
    have hspan := span.sizeOf_pos
    simp only [parts, List.mem_cons, List.not_mem_nil, or_false] at h
    grind

section

-- A walk comes to patterns too, as expressions that stand nowhere.
variable {x : Expr} (hx : ∀ p : Pattern, x ≠ p.toExpr)
include hx

theorem Stmt.mem_nodes_iff (s : Stmt) :
    Node.expr x ∈ s.outline.nodes ↔ ∃ e ∈ s.exprs, Node.expr x ∈ e.outline.nodes := by
  cases s with
  | binding s mutable pattern type init =>
    simp [outline, exprs, Outline.nodes_node, List.flatMap_map, hx pattern]
  | expr s e => simp [outline, exprs, Outline.nodes_node]

theorem Block.mem_nodes_iff (b : Block) :
    Node.expr x ∈ b.outline.nodes ↔
      x = .block b ∨ ∃ e ∈ b.exprs, Node.expr x ∈ e.outline.nodes := by
  obtain ⟨s, stmts, tail⟩ := b
  simp only [outline, exprs, Block.stmts, Block.tail, Outline.nodes_node, outlineStmts_eq_map,
    outlineOption_eq_map, List.flatMap_append, List.flatMap_map, List.mem_cons, List.mem_append,
    List.mem_flatMap, Stmt.mem_nodes_iff hx, Node.expr.injEq]
  refine or_congr_right ⟨?_, ?_⟩
  · rintro (⟨stmt, hstmt, e, he, h⟩ | ⟨e, he, h⟩)
    · exact ⟨e, .inl ⟨stmt, hstmt, he⟩, h⟩
    · exact ⟨e, .inr he, h⟩
  · rintro ⟨e, ⟨stmt, hstmt, he⟩ | he, h⟩
    · exact .inl ⟨stmt, hstmt, e, he, h⟩
    · exact .inr ⟨e, he, h⟩

theorem Expr.mem_nodes_iff (e : Expr) :
    Node.expr x ∈ e.outline.nodes ↔
      x = e ∨ ∃ inner ∈ e.parts, Node.expr x ∈ inner.outline.nodes := by
  cases e with
  | block b => simp [outline, parts, Block.mem_nodes_iff hx]
  | _ => simp [outline, parts, Outline.nodes_node, List.flatMap_map]

theorem Expr.mem_nodes_iff_within (e : Expr) : Node.expr x ∈ e.outline.nodes ↔ x.Within e := by
  constructor
  · intro h
    induction hn : sizeOf e using Nat.strongRecOn generalizing e with
    | _ n ih =>
      rcases (mem_nodes_iff hx e).1 h with rfl | ⟨inner, hpart, hinner⟩
      · exact .self
      · exact .part hpart (ih _ (hn ▸ sizeOf_lt_of_mem_parts hpart) inner hinner rfl)
  · intro h
    induction h with
    | self => exact (mem_nodes_iff hx _).2 (.inl rfl)
    | part hpart h ih => exact (mem_nodes_iff hx _).2 (.inr ⟨_, hpart, ih⟩)

theorem Prototype.not_mem_nodes (proto : Prototype) : Node.expr x ∉ proto.outline.nodes := by
  simp [outline, Param.outline, Outline.nodes_node, List.flatMap_map, hx]

theorem ForeignItem.mem_nodes_iff (item : ForeignItem) :
    Node.expr x ∈ item.outline.nodes ↔ ∃ e ∈ item.exprs, Node.expr x ∈ e.outline.nodes := by
  cases item with
  | prototype proto => simp [outline, exprs, Prototype.not_mem_nodes hx]
  | static decl => simp [outline, exprs, Static.outline, Outline.nodes_node, List.flatMap_map]

theorem Item.mem_nodes_iff (item : Item) :
    Node.expr x ∈ item.outline.nodes ↔ ∃ e ∈ item.exprs, Node.expr x ∈ e.outline.nodes := by
  cases item with
  | function fn =>
    simp [outline, exprs, Function.outline, Outline.nodes_node, Prototype.not_mem_nodes hx,
      Expr.outline]
  | static decl => simp [outline, exprs, Static.outline, Outline.nodes_node, List.flatMap_map]
  | foreign block =>
    simp only [outline, exprs, Outline.nodes_node, List.flatMap_map, List.mem_cons,
      List.mem_flatMap, ForeignItem.mem_nodes_iff hx, reduceCtorEq, false_or]
    constructor
    · rintro ⟨item, hitem, e, he, h⟩
      exact ⟨e, ⟨item, hitem, he⟩, h⟩
    · rintro ⟨e, ⟨item, hitem, he⟩, h⟩
      exact ⟨item, hitem, e, he, h⟩

theorem Crate.mem_nodes_iff (c : Crate) : Node.expr x ∈ c.outline.nodes ↔ x.In c := by
  simp only [outline, Outline.nodes_node, List.flatMap_map, List.mem_cons, List.mem_flatMap,
    Item.mem_nodes_iff hx, Expr.mem_nodes_iff_within hx, reduceCtorEq, false_or]
  rfl

end

def Expr.Branches : Expr → Prop
  | .conditional _ _ _ alternative => ∀ e ∈ alternative, e.IsAlternative
  | _ => True

inductive Expr.Branched : Expr → Prop where
  | intro {e : Expr} (own : e.Branches) (parts : ∀ inner ∈ e.parts, inner.Branched) : Branched e

namespace Expr.Branched

variable {e inner : Expr}

theorem own (h : e.Branched) : e.Branches := by
  cases h
  assumption

theorem parts (h : e.Branched) : ∀ inner ∈ e.parts, inner.Branched := by
  cases h
  assumption

theorem leaf (hparts : e.parts = []) (own : e.Branches) : e.Branched :=
  .intro own (by simp [hparts])

theorem one (hparts : e.parts = [inner]) (own : e.Branches) (h : inner.Branched) : e.Branched :=
  .intro own (by simpa [hparts] using h)

theorem two {first second : Expr} (hparts : e.parts = [first, second]) (own : e.Branches)
    (hf : first.Branched) (hs : second.Branched) : e.Branched :=
  .intro own (by simpa [hparts] using ⟨hf, hs⟩)

end Expr.Branched

def Stmt.Branched (s : Stmt) : Prop := ∀ e ∈ s.exprs, e.Branched

def ForeignItem.Branched (d : ForeignItem) : Prop := ∀ e ∈ d.exprs, e.Branched

def Item.Branched (item : Item) : Prop := ∀ e ∈ item.exprs, e.Branched

theorem ForeignItem.Branched.prototype (proto : Prototype) :
    (ForeignItem.prototype proto).Branched := by
  simp [ForeignItem.Branched, ForeignItem.exprs]

theorem option_branched {e : Option Expr} (h : ∀ x ∈ e, x.Branched) : ∀ x ∈ e.toList, x.Branched :=
  fun x hx => h x (Option.mem_toList.1 hx)

end MicroRust
