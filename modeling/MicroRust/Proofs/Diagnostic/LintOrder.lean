import MicroRust.Proofs.Diagnostic.Limit
import MicroRust.Proofs.Diagnostic.Lint
import MicroRust.Proofs.Diagnostic.Order
import MicroRust.Proofs.Parsing.Spans
import MicroRust.Proofs.Tree.Walk

/-! The order of the warnings about a crate.

A loop begins with its word, before everything that stands in it. So the loops of a crate, taken as
they stand in the tree, begin one behind the other, and the warnings about them are sorted. -/

namespace MicroRust

def Expr.loop? : Expr → Option (Span × Expr)
  | .whileLoop span cond _ => some (span, cond)
  | _ => none

theorem Pattern.loop?_toExpr (p : Pattern) : p.toExpr.loop? = none := by
  cases p <;> rfl

def Crate.loops (c : Crate) : List (Span × Expr) := c.subexprs.filterMap Expr.loop?

instance (e : Expr) : Decidable e.IsTrue := decidable_of_iff _ e.isTrueLiteral_iff

namespace Diagnostic

/-- The warning about a loop, from its start to the end of its condition. -/
def loopWarning (l : Span × Expr) : Diagnostic where
  severity := .warning
  category := .semantic
  code := "W0001"
  title := "Constant loop condition"
  message := "Denote infinite loops with 'loop \x7b ... \x7d'"
  span := ⟨l.1.start, l.2.span.stop⟩

def lintExpr (e : Expr) : Option Diagnostic :=
  e.loop?.bind fun l => if l.2.IsTrue then some (loopWarning l) else none

theorem lintNode_eq (n : Node) : lintNode n = n.expr?.bind lintExpr := by
  cases n with
  | expr e =>
    cases e with
    | whileLoop span cond body =>
      by_cases htrue : cond.IsTrue
      · have hlit := cond.isTrueLiteral_iff.2 htrue
        simp [lintNode, Node.expr?, lintExpr, Expr.loop?, htrue, hlit, loopWarning, constantCondition]
      · have hlit := mt cond.isTrueLiteral_iff.1 htrue
        simp [lintNode, Node.expr?, lintExpr, Expr.loop?, htrue, hlit]
    | _ => rfl
  | _ => rfl

theorem lint_eq (c : Crate) : lint c = (c.loops.filter (·.2.IsTrue)).map loopWarning := by
  have hpattern (p : Pattern) : lintExpr p.toExpr = none := by
    rw [lintExpr, p.loop?_toExpr]
    rfl
  have hlint : lint c = c.outline.found lintExpr :=
    List.filterMap_congr fun n _ => lintNode_eq n
  rw [hlint, c.found_outline hpattern, Crate.loops, ← List.filterMap_eq_map, List.filterMap_filter,
    List.filterMap_filterMap]
  refine List.filterMap_congr fun e _ => ?_
  simp only [lintExpr, decide_eq_true_eq, Function.comp_apply]

end Diagnostic

/-- The word of the loop and the tokens of its condition stand among the tokens, without a gap. -/
def Opens (ts : List Token) (l : Span × Expr) : Prop :=
  ∃ (word : Span) (cond : ExprPhrase), l.1.start = word.start ∧ l.2 = cond.tree ∧
    ⟨.keyword .whileWord, word⟩ :: cond.tokens <:+: ts

theorem Opens.exists_token {ts : List Token} {l : Span × Expr} (h : Opens ts l) :
    ∃ t ∈ ts, t.span.start = l.1.start := by
  obtain ⟨word, cond, hstart, -, htokens⟩ := h
  exact ⟨_, htokens.subset (List.mem_cons_self ..), hstart.symm⟩

namespace Part

def loops (p : Part) : List (Span × Expr) := p.outline.found Expr.loop?

theorem found_of_children {o : Outline} {parts : List Part} (h : o.children = parts.map outline) :
    o.found Expr.loop? = (o.label.expr?.bind Expr.loop?).toList ++ parts.flatMap loops := by
  have hnode := Outline.found_node (f := Expr.loop?) o.label o.children
  rwa [← o.eq_node, h, List.flatMap_map] at hnode

theorem loops_eq (p : Part) :
    p.loops = (p.outline.label.expr?.bind Expr.loop?).toList ++ p.children.flatMap loops :=
  found_of_children p.children_outline

theorem eq_whileLoop {p : Part} {l : Span × Expr}
    (h : p.outline.label.expr?.bind Expr.loop? = some l) :
    ∃ word cond body, p = .expr (.whileLoop word cond body) ∧
      l = (⟨word.start, body.tree.span.stop⟩, cond.tree) := by
  cases p with
  | function | prototype | param | static | foreign => cases h
  | stmt s =>
    rw [outline, Stmt.label_outline] at h
    cases h
  | pattern p => cases p <;> cases h
  | expr e =>
    rw [outline, Expr.label_outline] at h
    cases e with
    | whileLoop word cond body => exact ⟨word, cond, body, rfl, (Option.some.inj h).symm⟩
    | operation lhs op sign rhs => cases op <;> cases h
    | _ => cases h

variable {ts : List Token} {parts : List Part}

theorem opens_of_laid (hlaid : Laid ts (parts.map tokens))
    (h : ∀ p ∈ parts, ∀ l ∈ p.loops, Opens p.tokens l) : ∀ l ∈ parts.flatMap loops, Opens ts l := by
  intro l hl
  obtain ⟨p, hp, hl⟩ := List.mem_flatMap.1 hl
  obtain ⟨word, cond, hstart, hcond, htokens⟩ := h p hp l hl
  exact ⟨word, cond, hstart, hcond, htokens.trans (hlaid.isInfix (List.mem_map_of_mem hp))⟩

theorem opens (p : Part) : ∀ l ∈ p.loops, Opens p.tokens l := by
  induction p using Part.induction with
  | h p ih =>
    intro l hl
    rw [loops_eq] at hl
    rcases List.mem_append.1 hl with hl | hl
    · obtain ⟨word, cond, body, rfl, rfl⟩ := eq_whileLoop (Option.mem_toList.1 hl)
      exact ⟨word, cond, rfl, rfl, (List.prefix_append ..).isInfix⟩
    · exact opens_of_laid p.laid ih l hl

theorem pairwise_of_laid (hseq : Sequential ts) (hlaid : Laid ts (parts.map tokens))
    (h : ∀ p ∈ parts, p.loops.Pairwise (·.1.start < ·.1.start)) :
    (parts.flatMap loops).Pairwise (·.1.start < ·.1.start) := by
  refine List.pairwise_flatMap.2 ⟨h, ?_⟩
  refine (List.pairwise_map.1 (hlaid.pairwise hseq.2)).imp_of_mem fun {p q} hp _ hpq l hl m hm => ?_
  obtain ⟨t, ht, hstart⟩ := (p.opens l hl).exists_token
  obtain ⟨u, hu, hstart'⟩ := (q.opens m hm).exists_token
  have hts := (hlaid.sublist (List.mem_map_of_mem hp)).subset ht
  rw [← hstart, ← hstart']
  exact lt_of_lt_of_le (hseq.1 t hts).2 (hpq t ht u hu)

theorem pairwise_loops (p : Part) :
    Sequential p.tokens → p.loops.Pairwise (·.1.start < ·.1.start) := by
  induction p using Part.induction with
  | h p ih =>
    intro hp
    have hchildren := pairwise_of_laid hp p.laid fun c hc =>
      ih c hc (hp.sublist (p.laid.sublist (List.mem_map_of_mem hc)))
    rw [loops_eq]
    cases hown : p.outline.label.expr?.bind Expr.loop? with
    | none => exact hchildren
    | some l =>
      obtain ⟨word, cond, body, rfl, rfl⟩ := eq_whileLoop hown
      refine List.pairwise_cons.2 ⟨fun m hm => ?_, hchildren⟩
      -- The word of the loop stands in front of the tokens of its parts.
      have hlaid : Laid (cond.tokens ++ body.tokens)
          ([Part.expr cond, .expr (.block body)].map tokens) :=
        .piece cond.tokens (.whole body.tokens)
      obtain ⟨t, ht, hstart⟩ := (opens_of_laid hlaid (fun c _ => c.opens) m hm).exists_token
      rw [← hstart]
      exact lt_of_lt_of_le (hp.1 _ (List.mem_cons_self ..)).2 ((List.pairwise_cons.1 hp.2).1 t ht)

theorem loops_crate {c : Crate} (h : c.outline.children = parts.map outline) :
    c.loops = parts.flatMap loops := by
  rw [Crate.loops, ← c.found_outline Pattern.loop?_toExpr, found_of_children h]
  rfl

end Part

theorem Engine.sublist_sort {e : Engine} {ds : List Diagnostic}
    (hds : ds.Pairwise fun a b => a.key ≤ b.key) (h : ds.Sublist e.diagnostics) :
    ds.Sublist e.sort.diagnostics :=
  List.sublist_mergeSort not_precedes_trans not_precedes_total
    (hds.imp (not_precedes_iff _ _).2) h

namespace Diagnostic

theorem key_seen_le {l m : Span × Expr} (policy : Policy) (hl : l.1.start.isValid = true)
    (hm : m.1.start.isValid = true) (h : l.1.start ≤ m.1.start) :
    (policy.seen (loopWarning l)).key ≤ (policy.seen (loopWarning m)).key :=
  (key_le_iff (a := policy.seen (loopWarning l)) (b := policy.seen (loopWarning m)) hl hm rfl).2 h

/-- The warnings about a crate are those about its loops on the literal `true`, one for each. A loop
reaches from its word on, and its warning to the last token of the condition. The loops begin one
behind the other, and so do the warnings, and sorting leaves the warnings in this order. -/
theorem parse_lint {source : Source} {crate : Crate} (h : source.parse = .ok crate) :
    lint crate = (crate.loops.filter (·.2.IsTrue)).map loopWarning ∧
      (∀ l ∈ crate.loops, ∃ (word : Span) (cond : ExprPhrase),
        l.1.start = word.start ∧ l.2 = cond.tree ∧ Spans cond.tokens l.2.span ∧
        (⟨.keyword .whileWord, word⟩ :: cond.tokens).map .ok <:+: source.readings) ∧
      crate.loops.Pairwise (·.1.start < ·.1.start) ∧
      (lint crate).Pairwise (·.span.start < ·.span.start) ∧
      ∀ (e : Engine) (ds : List Diagnostic), ds.Sublist ((lint crate).map e.policy.seen) →
        ds.Sublist e.diagnostics → ds.Sublist e.sort.diagnostics := by
  obtain ⟨parts, eof, hreadings, -, hchildren, -, hseq, -, -⟩ := exists_parts_of_parse h
  have hlaid := laid_flatMap parts
  have hloops := Part.loops_crate hchildren
  have hopens : ∀ l ∈ crate.loops, Opens (parts.flatMap Part.tokens) l := by
    rw [hloops]
    exact Part.opens_of_laid hlaid fun p _ => p.opens
  have hpairs : crate.loops.Pairwise (·.1.start < ·.1.start) := by
    rw [hloops]
    refine Part.pairwise_of_laid hseq hlaid fun p hp => p.pairwise_loops ?_
    exact hseq.sublist (hlaid.sublist (List.mem_map_of_mem hp))
  have hvalid : ∀ l ∈ crate.loops, l.1.start.isValid = true := by
    intro l hl
    obtain ⟨t, ht, hstart⟩ := (hopens l hl).exists_token
    rw [← hstart]
    exact ((Span.isValid_iff _).1 (hseq.1 t ht).1).1
  have htrue := hpairs.filter (·.2.IsTrue)
  have hlint := lint_eq crate
  refine ⟨hlint, ?_, hpairs, ?_, ?_⟩
  · intro l hl
    obtain ⟨word, cond, hstart, hcond, htokens⟩ := hopens l hl
    refine ⟨word, cond, hstart, hcond, hcond ▸ cond.spans, ?_⟩
    rw [hreadings]
    exact (htokens.map Except.ok).trans (List.prefix_append ..).isInfix
  · rw [hlint]
    exact List.pairwise_map.2 htrue
  · intro e ds hds
    refine Engine.sublist_sort (List.Pairwise.sublist hds ?_)
    rw [hlint, List.map_map]
    refine List.pairwise_map.2 (htrue.imp_of_mem fun {l m} hl hm hlm => ?_)
    exact key_seen_le e.policy (hvalid l (List.mem_of_mem_filter hl))
      (hvalid m (List.mem_of_mem_filter hm)) (le_of_lt hlm)

def loopSource : Source :=
  let head := "fn f() \x7b\n  while \x7b while true \x7b\x7d false \x7d "
  ⟨"loops.rs", (head ++ "\x7b while ((true)) \x7b\x7d \x7d\n\x7d").toUTF8.toList, none⟩

theorem parse_lint_loopSource :
    ∃ crate, loopSource.parse = .ok crate ∧
      (lint crate).map (·.span) = [⟨⟨2, 11⟩, ⟨2, 21⟩⟩, ⟨⟨2, 35⟩, ⟨2, 49⟩⟩] ∧
      lint crate = (crate.loops.filter (·.2.IsTrue)).map loopWarning ∧
      (∀ l ∈ crate.loops, ∃ (word : Span) (cond : ExprPhrase),
        l.1.start = word.start ∧ l.2 = cond.tree ∧ Spans cond.tokens l.2.span ∧
        (⟨.keyword .whileWord, word⟩ :: cond.tokens).map .ok <:+: loopSource.readings) ∧
      crate.loops.Pairwise (·.1.start < ·.1.start) ∧
      (lint crate).Pairwise (·.span.start < ·.span.start) ∧
      ∀ (e : Engine) (ds : List Diagnostic), ds.Sublist ((lint crate).map e.policy.seen) →
        ds.Sublist e.diagnostics → ds.Sublist e.sort.diagnostics := by
  have hspans : (loopSource.parse.toOption.map fun crate => (lint crate).map (·.span)) =
      some [⟨⟨2, 11⟩, ⟨2, 21⟩⟩, ⟨⟨2, 35⟩, ⟨2, 49⟩⟩] := by
    decide +kernel
  cases h : loopSource.parse with
  | error e =>
    rw [h] at hspans
    cases hspans
  | ok crate =>
    rw [h] at hspans
    exact ⟨crate, rfl, Option.some.inj hspans, parse_lint h⟩

end Diagnostic

end MicroRust
