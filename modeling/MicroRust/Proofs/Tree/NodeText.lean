import MicroRust.Proofs.Parsing.Spans
import MicroRust.Proofs.Source.Controls
import MicroRust.Proofs.Token.Identifier

/-! The texts of nodes.

The text of a node begins with a capital letter. What it quotes, its numbers and its places are
printable, and its names are those of tokens, so no control character stands in the text of a node
that was parsed. -/

namespace MicroRust

open Text

theorem plain_of_free {s : String} (h : ∀ b : UInt8, b.toNat < 0x20 → Free b (glyphs s)) :
    Plain s.toList := by
  intro c hc
  refine Nat.le_of_not_lt fun hlt => ?_
  have hnat : (UInt8.ofNat c.toNat).toNat = c.toNat := by
    rw [UInt8.toNat_ofNat']
    omega
  have hfree := h (UInt8.ofNat c.toNat) (by omega)
  rw [free_glyphs_iff (by omega)] at hfree
  exact hfree c hc hnat.symm

theorem plain_toString (s : String) : Plain (toString s).toList ↔ Plain s.toList := .rfl

theorem Position.plain_text (p : Position) : Plain p.text.toList :=
  plain_of_free fun _ hb => p.free_text hb

theorem Span.plain_text (s : Span) : Plain s.text.toList := by
  unfold text
  simp only [String.toList_append, plain_append, plain_toString, Position.plain_text, and_true]
  decide

theorem TypeKind.plain_name (k : TypeKind) : Plain k.name.toList := by
  cases k <;> decide

theorem BinaryOp.plain_text (op : BinaryOp) : Plain op.text.toList := by
  rcases op with op | op | op <;> cases op <;> decide

theorem NegOp.plain_text (op : NegOp) : Plain op.text.toList := by
  cases op <;> decide

theorem Binary64.plain_decimalOf (n : Nat) (s : Int) : Plain (decimalOf n s).digits := by
  intro c hc
  have hdigit : c ∈ Nat.toDigits 10 n :=
    List.mem_reverse.1 ((List.dropWhile_sublist _).subset (List.mem_reverse.1 hc))
  exact plain_toDigits (by decide) n c hdigit

theorem Binary64.plain_shortest (v : Binary64) : Plain v.shortest.digits := by
  unfold shortest
  dsimp only
  generalize hfound : List.findSome? _ (List.range 17) = found
  cases found with
  | none => decide
  | some d =>
    obtain ⟨k, -, hk⟩ := List.exists_of_findSome?_eq_some hfound
    obtain ⟨n, -, rfl⟩ := Option.map_eq_some_iff.1 hk
    exact plain_decimalOf n _

section

variable {d : Decimal} (h : Plain d.digits)
include h

theorem Decimal.plain_scientific : Plain d.scientific := by
  have hsign : Plain ['e', if d.order < 0 then '-' else '+'] := by
    split <;> decide
  have hzeros := plain_replicate (c := '0') (by decide)
  have hexponent := plain_toDigits (b := 10) (by decide)
  unfold scientific
  simp only [plain_append]
  refine ⟨⟨⟨?_, hsign⟩, hzeros _⟩, hexponent _⟩
  split
  · rename_i first rest hcons
    rw [hcons, plain_cons] at h
    exact (plain_cons ..).2 ⟨h.1, (plain_cons ..).2 ⟨by decide, h.2⟩⟩
  · exact h

theorem Decimal.plain_positional : Plain d.positional := by
  have hzeros := plain_replicate (c := '0') (by decide)
  unfold positional
  split
  · simp only [plain_append]
    exact ⟨⟨by decide, hzeros _⟩, h⟩
  · dsimp only
    split
    · exact (plain_append ..).2 ⟨h, hzeros _⟩
    · refine (plain_append ..).2 ⟨fun c hc => h c (List.mem_of_mem_take hc), ?_⟩
      exact (plain_cons ..).2 ⟨by decide, fun c hc => h c (List.mem_of_mem_drop hc)⟩

end

theorem Binary64.plain_text (v : Binary64) : Plain v.text.toList := by
  unfold text
  split
  · decide
  · dsimp only
    rw [String.toList_ofList]
    split
    · exact Decimal.plain_scientific v.plain_shortest
    · exact Decimal.plain_positional v.plain_shortest

theorem Literal.plain_text (value : Literal) : Plain value.text.toList := by
  cases value with
  | int value => exact plain_of_free fun _ hb => free_toString hb _
  | float value => exact value.plain_text
  | bool value => cases value <;> decide
  | unit => decide

namespace Node

def name? : Node → Option String
  | .prototype proto => some proto.name
  | .expr (.path _ name) => some name
  | .expr (.call _ _ callee _) => some callee
  | _ => none

theorem plain_mutability (mutable : Bool) : Plain (mutability mutable).toList := by
  cases mutable <;> decide

theorem plain_operationName (op : BinaryOp) : Plain (operationName op).toList := by
  cases op
  all_goals
    rw [operationName]
    decide

theorem plain_exprText {e : Expr} (h : ∀ name ∈ (Node.expr e).name?, Plain name.toList) :
    Plain (exprText e).toList := by
  -- The definition is opened whole: one equation for each kind of expression takes long to make.
  unfold exprText
  cases e with
  | path span name | call span _ name =>
    have hname : Plain name.toList := h name rfl
    simp only [String.toList_append, plain_append, plain_toString, Span.plain_text, hname,
      and_true]
    decide
  | _ =>
    simp only [String.toList_append, plain_append, plain_toString, Span.plain_text,
      TypeKind.plain_name, Literal.plain_text, BinaryOp.plain_text, NegOp.plain_text,
      plain_operationName, true_and, and_true]
    decide

theorem plain_text {n : Node} (h : ∀ name ∈ n.name?, Plain name.toList) : Plain n.text.toList := by
  unfold text
  cases n with
  | crate c =>
    dsimp only
    decide
  | expr e => exact plain_exprText h
  | prototype proto =>
    have hname : Plain proto.name.toList := h proto.name rfl
    simp only [String.toList_append, plain_append, plain_toString, TypeKind.plain_name, hname,
      and_true]
    decide
  | stmt s =>
    cases s
    all_goals
      simp only [String.toList_append, plain_append, plain_toString, Span.plain_text,
        TypeKind.plain_name, plain_mutability, and_true]
      decide
  | _ =>
    simp only [String.toList_append, plain_append, plain_toString, Span.plain_text,
      TypeKind.plain_name, plain_mutability, plain_quoted, and_true]
    decide

end Node

def Capital (s : String) : Prop := s.toList.head?.any Char.isUpper = true

namespace Node

theorem capital_exprText (e : Expr) : Capital (exprText e) := by
  unfold Capital exprText
  cases e with
  | binary span op lhs rhs =>
    cases op
    all_goals
      simp only [operationName, String.toList_append, List.head?_append]
      rfl
  | _ =>
    simp only [String.toList_append, List.head?_append]
    rfl

theorem capital_text (n : Node) : Capital n.text := by
  unfold Capital text
  cases n with
  | crate c =>
    dsimp only
    decide
  | expr e => exact capital_exprText e
  | stmt s =>
    cases s
    all_goals
      simp only [String.toList_append, List.head?_append]
      rfl
  | _ =>
    simp only [String.toList_append, List.head?_append]
    rfl

end Node

theorem ExprPhrase.exists_identifier (p : ExprPhrase) {name : String}
    (h : name ∈ (Node.expr p.tree).name?) : ∃ span, ⟨.identifier name, span⟩ ∈ p.tokens := by
  cases p with
  | path span callee | call span callee | callLast span callee =>
    cases h
    exact ⟨span, List.mem_cons_self⟩
  | operation lhs op sign rhs => cases op <;> cases h
  | _ => cases h

theorem Part.exists_identifier (p : Part) {name : String} (h : name ∈ p.outline.label.name?) :
    ∃ span, ⟨.identifier name, span⟩ ∈ p.tokens := by
  cases p with
  | prototype proto =>
    cases h
    refine ⟨proto.head.nameSpan, ?_⟩
    simp [tokens, ProtoPhrase.tokens, ProtoPhrase.frontTokens, HeadPhrase.tokens, ProtoPhrase.tree]
  | pattern pattern =>
    cases pattern with
    | named span name =>
      cases h
      exact ⟨span, List.mem_singleton.2 rfl⟩
    | wildcard span => cases h
  | expr e =>
    rw [outline, Expr.label_outline] at h
    exact e.exists_identifier h
  | stmt s =>
    rw [outline, Stmt.label_outline] at h
    cases h
  | _ => cases h

theorem Part.plain_text (p : Part)
    (h : ∀ name span, ⟨.identifier name, span⟩ ∈ p.tokens → Plain name.toList) :
    p.outline.Every (Plain ·.text.toList) := by
  induction p using Part.induction with
  | h p ih =>
    rw [p.outline.eq_node, Outline.every_node, p.children_outline, List.forall_mem_map]
    refine ⟨Node.plain_text fun name hname => ?_, fun c hc => ih c hc fun name span ht => ?_⟩
    · obtain ⟨span, hspan⟩ := p.exists_identifier hname
      exact h name span hspan
    · exact h name span ((p.laid.sublist (List.mem_map_of_mem hc)).subset ht)

theorem plain_text_of_parse {source : Source} {crate : Crate} (h : source.parse = .ok crate) :
    crate.outline.Every (Plain ·.text.toList) := by
  obtain ⟨parts, eof, hreadings, -, houtline, -⟩ := exists_parts_of_parse h
  rw [crate.outline.eq_node, Outline.every_node, houtline, List.forall_mem_map]
  refine ⟨Node.plain_text fun name hname => ?_, fun p hp => p.plain_text fun name span ht => ?_⟩
  · cases hname
  · have hmem : .ok ⟨.identifier name, span⟩ ∈ source.readings := by
      rw [hreadings]
      exact List.mem_append_left _ (List.mem_map_of_mem (List.mem_flatMap_of_mem hp ht))
    exact Source.plain_identifier hmem

end MicroRust
