import MicroRust.Diagnostic.Basic
import MicroRust.Tree.Outline

/-! Warnings about crates that are well formed. -/

namespace MicroRust

def Expr.isTrueLiteral : Expr → Bool
  | .grouped _ inner => inner.isTrueLiteral
  | .literal _ (.bool value) => value
  | _ => false

namespace Diagnostic

def constantCondition (span : Span) : Diagnostic :=
  { severity := .warning, category := .semantic, code := "W0001",
    title := "Constant loop condition",
    message := "Denote infinite loops with 'loop \x7b ... \x7d'", span }

def lintNode : Node → Option Diagnostic
  | .expr (.whileLoop span cond _) =>
    if cond.isTrueLiteral then some (constantCondition ⟨span.start, cond.span.stop⟩) else none
  | _ => none

def lint (c : Crate) : List Diagnostic := c.outline.nodes.filterMap lintNode

end Diagnostic

end MicroRust
