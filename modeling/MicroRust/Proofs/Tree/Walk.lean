import Mathlib.Data.List.Basic
import MicroRust.Proofs.Tree.Within

/-! The expressions of a tree in source order, said without a walk.

What a walk finds in expressions it finds in this order, and in each of them once, wherever they
stand. -/

namespace MicroRust

def Expr.subexprs (e : Expr) : List Expr :=
  e :: e.parts.attach.flatMap fun inner => inner.1.subexprs
termination_by sizeOf e
decreasing_by exact Expr.sizeOf_lt_of_mem_parts inner.2

def Crate.subexprs (c : Crate) : List Expr :=
  c.items.flatMap fun item => item.exprs.flatMap Expr.subexprs

theorem Expr.subexprs_eq (e : Expr) : e.subexprs = e :: e.parts.flatMap subexprs := by
  have hattach := List.flatMap_map Subtype.val e.parts.attach (g := subexprs)
  rw [List.attach_map_subtype_val] at hattach
  rw [subexprs, hattach]

def Node.expr? : Node → Option Expr
  | .expr e => some e
  | _ => none

variable {β : Type} {f : Expr → Option β}

def Outline.found (f : Expr → Option β) (o : Outline) : List β :=
  o.nodes.filterMap fun n => n.expr?.bind f

theorem Outline.found_node (label : Node) (children : List Outline) :
    (node label children).found f =
      (label.expr?.bind f).toList ++ children.flatMap (found f) := by
  rw [found, nodes_node, List.filterMap_cons, List.filterMap_flatMap]
  cases label.expr?.bind f <;> rfl

theorem Static.found_outline (decl : Static) :
    decl.outline.found f = decl.init.toList.flatMap fun e => e.outline.found f := by
  simp [outline, Outline.found_node, Node.expr?, List.flatMap_map]

section

-- A walk comes to patterns too, as expressions that stand nowhere.
variable (hf : ∀ p : Pattern, f p.toExpr = none)
include hf

theorem Stmt.found_outline (s : Stmt) :
    s.outline.found f = s.exprs.flatMap fun e => e.outline.found f := by
  cases s with
  | binding span mutable pattern type init =>
    simp [outline, exprs, Outline.found_node, Node.expr?, List.flatMap_map, hf]
  | expr span e => simp [outline, exprs, Outline.found_node, Node.expr?]

theorem Expr.found_outline (e : Expr) :
    e.outline.found f = (f e).toList ++ e.parts.flatMap fun inner => inner.outline.found f := by
  cases e with
  | block body =>
    obtain ⟨span, stmts, tail⟩ := body
    have hstmts : (stmts.map Stmt.outline).flatMap (Outline.found f) =
        (stmts.flatMap Stmt.exprs).flatMap fun e => e.outline.found f := by
      rw [List.flatMap_map, List.flatMap_assoc]
      exact List.flatMap_congr fun s _ => s.found_outline hf
    rw [outline, Block.outline, Outline.found_node, outlineStmts_eq_map, outlineOption_eq_map,
      List.flatMap_append, hstmts, List.flatMap_map, ← List.flatMap_append]
    rfl
  | _ => simp [outline, parts, Outline.found_node, Node.expr?, List.flatMap_map]

theorem Expr.found_eq (e : Expr) : e.outline.found f = e.subexprs.filterMap f := by
  induction hn : sizeOf e using Nat.strongRecOn generalizing e with
  | _ n ih =>
    have hparts : (e.parts.flatMap fun inner => inner.outline.found f) =
        e.parts.flatMap fun inner => inner.subexprs.filterMap f :=
      List.flatMap_congr fun inner hi => ih _ (hn ▸ sizeOf_lt_of_mem_parts hi) inner rfl
    rw [found_outline hf, hparts, subexprs_eq, List.filterMap_cons, List.filterMap_flatMap]
    cases f e <;> rfl

theorem Prototype.found_outline (proto : Prototype) : proto.outline.found f = [] := by
  simp [outline, Param.outline, Outline.found_node, Node.expr?, List.flatMap_map, hf]

theorem ForeignItem.found_outline (item : ForeignItem) :
    item.outline.found f = item.exprs.flatMap fun e => e.outline.found f := by
  cases item with
  | prototype proto => exact proto.found_outline hf
  | static decl => exact decl.found_outline

theorem Item.found_outline (item : Item) :
    item.outline.found f = item.exprs.flatMap fun e => e.outline.found f := by
  cases item with
  | function fn =>
    simp [outline, exprs, Function.outline, Outline.found_node, Node.expr?,
      fn.proto.found_outline hf, Expr.outline]
  | static decl => exact decl.found_outline
  | foreign block =>
    simp [outline, exprs, Outline.found_node, Node.expr?, List.flatMap_map, List.flatMap_assoc,
      ForeignItem.found_outline hf]

theorem Crate.found_outline (c : Crate) : c.outline.found f = c.subexprs.filterMap f := by
  have hitem (item : Item) :
      item.outline.found f = (item.exprs.flatMap Expr.subexprs).filterMap f := by
    rw [item.found_outline hf, List.filterMap_flatMap]
    exact List.flatMap_congr fun e _ => e.found_eq hf
  simp [outline, subexprs, Outline.found_node, Node.expr?, List.flatMap_map, hitem,
    List.filterMap_flatMap]

end

end MicroRust
