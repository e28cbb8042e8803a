import MicroRust.Diagnostic.Lint
import MicroRust.Proofs.Tree.Within

/-! Which loops a crate is warned of.

The warnings come from a walk through the nodes of the crate. No loop on the literal `true` escapes
a warning, wherever it stands. -/

namespace MicroRust

/-- The literal `true` in any number of parentheses. -/
inductive Expr.IsTrue : Expr → Prop where
  | literal (span : Span) : IsTrue (.literal span (.bool true))
  | grouped {inner : Expr} (span : Span) (h : IsTrue inner) : IsTrue (.grouped span inner)

def Crate.LoopsOnTrue (c : Crate) : Prop :=
  ∃ span cond body, (Expr.whileLoop span cond body).In c ∧ cond.IsTrue

theorem Expr.isTrueLiteral_iff (e : Expr) : e.isTrueLiteral = true ↔ e.IsTrue := by
  constructor
  · intro h
    fun_induction Expr.isTrueLiteral e with
    | case1 span inner ih => exact .grouped span (ih h)
    | case2 span value =>
      subst h
      exact .literal span
    | case3 => cases h
  · intro h
    induction h with
    | literal span => rfl
    | grouped span h ih => exact ih

namespace Diagnostic

theorem whileLoop_ne_pattern (span : Span) (cond : Expr) (body : Block) (p : Pattern) :
    Expr.whileLoop span cond body ≠ p.toExpr := by
  cases p <;> nofun

theorem lintNode_eq_some_iff (n : Node) (d : Diagnostic) :
    lintNode n = some d ↔ ∃ span cond body, n = .expr (.whileLoop span cond body) ∧
      cond.IsTrue ∧ d = constantCondition ⟨span.start, cond.span.stop⟩ := by
  constructor
  · intro h
    unfold lintNode at h
    split at h
    · rename_i span cond body
      split at h
      · rename_i htrue
        exact ⟨span, cond, body, rfl, cond.isTrueLiteral_iff.1 htrue, (Option.some.inj h).symm⟩
      · cases h
    · cases h
  · rintro ⟨span, cond, body, rfl, htrue, rfl⟩
    rw [lintNode, if_pos (cond.isTrueLiteral_iff.2 htrue)]

theorem mem_lint_iff (c : Crate) (d : Diagnostic) :
    d ∈ lint c ↔ ∃ span cond body, (Expr.whileLoop span cond body).In c ∧ cond.IsTrue ∧
      d = constantCondition ⟨span.start, cond.span.stop⟩ := by
  rw [lint, List.mem_filterMap]
  constructor
  · rintro ⟨n, hn, hd⟩
    obtain ⟨span, cond, body, rfl, htrue, rfl⟩ := (lintNode_eq_some_iff n d).1 hd
    exact ⟨span, cond, body, (c.mem_nodes_iff (whileLoop_ne_pattern _ _ _)).1 hn, htrue, rfl⟩
  · rintro ⟨span, cond, body, hin, htrue, rfl⟩
    refine ⟨_, (c.mem_nodes_iff (whileLoop_ne_pattern _ _ _)).2 hin, ?_⟩
    exact (lintNode_eq_some_iff _ _).2 ⟨span, cond, body, rfl, htrue, rfl⟩

end Diagnostic

end MicroRust
