import MicroRust.Declaration.Module
import MicroRust.Proofs.Tree.Within

/-! The calls of a tree, read off the tokens that it is written with.

A name directly before a parenthesis is a call wherever the two stand in an expression, and there
are no other calls. What could go wrong is at a seam: the parts of a construct follow one another,
and a name at the end of one would meet a parenthesis at the beginning of the next. -/

namespace MicroRust

/-- The function that a token calls, given the token behind it. -/
def Token.callee? (t next : Token) : Option String :=
  match t.lexeme, next.lexeme with
  | .identifier name, .symbol .lparen => some name
  | _, _ => none

def callNames : List Token → List String
  | t :: next :: rest => (t.callee? next).toList ++ callNames (next :: rest)
  | _ => []

def Sealed (ts : List Token) : Prop := ∀ t ∈ ts.getLast?, ∀ name, t.lexeme ≠ .identifier name

theorem Token.callee?_eq_some_iff (t next : Token) (name : String) :
    t.callee? next = some name ↔ t.lexeme = .identifier name ∧ next.lexeme = .symbol .lparen := by
  fun_cases callee? t next <;> simp_all

theorem mem_callNames (name : String) (ts : List Token) :
    name ∈ callNames ts ↔ ∃ front t next behind, ts = front ++ t :: next :: behind ∧
      t.lexeme = .identifier name ∧ next.lexeme = .symbol .lparen := by
  fun_induction callNames ts with
  | case1 t next rest ih =>
    rw [List.mem_append, Option.mem_toList, Token.callee?_eq_some_iff, ih]
    constructor
    · rintro (⟨ht, hnext⟩ | ⟨front, u, v, behind, hts, hu, hv⟩)
      · exact ⟨[], t, next, rest, rfl, ht, hnext⟩
      · exact ⟨t :: front, u, v, behind, by rw [hts, List.cons_append], hu, hv⟩
    · rintro ⟨front, u, v, behind, hts, hu, hv⟩
      cases front with
      | nil =>
        cases hts
        exact .inl ⟨hu, hv⟩
      | cons w front => exact .inr ⟨front, u, v, behind, (List.cons.inj hts).2, hu, hv⟩
  | case2 ts hshort =>
    simp only [List.not_mem_nil, false_iff]
    rintro ⟨front, t, next, behind, rfl, -⟩
    cases front with
    | nil => exact hshort _ _ _ rfl
    | cons u front =>
      cases front with
      | nil => exact hshort _ _ _ rfl
      | cons v front => exact hshort _ _ _ rfl

/-- The seam of two sequences calls nothing unless a name meets a parenthesis. -/
theorem callNames_append {ts us : List Token}
    (h : ∀ t ∈ ts.getLast?, ∀ u ∈ us.head?, t.callee? u = none) :
    callNames (ts ++ us) = callNames ts ++ callNames us := by
  fun_induction callNames ts with
  | case1 t next rest ih =>
    rw [List.cons_append, List.cons_append, callNames, ← List.cons_append, ih (by simpa using h),
      List.append_assoc]
  | case2 ts hshort =>
    match ts, us with
    | [], us => rfl
    | [t], [] => rfl
    | [t], u :: us =>
      have hseam : t.callee? u = none := by simpa using h
      rw [List.singleton_append, callNames, hseam]
      rfl
    | t :: u :: ts, us => exact absurd rfl (hshort t u ts)

theorem callNames_append_of_sealed {ts : List Token} (h : Sealed ts) (us : List Token) :
    callNames (ts ++ us) = callNames ts ++ callNames us := by
  refine callNames_append fun t ht u _ => Option.eq_none_iff_forall_ne_some.2 fun name hname => ?_
  exact h t ht name ((t.callee?_eq_some_iff u name).1 hname).1

theorem callNames_append_cons {t : Token} (h : t.lexeme ≠ .symbol .lparen) (ts us : List Token) :
    callNames (ts ++ t :: us) = callNames ts ++ callNames (t :: us) := by
  refine callNames_append fun u _ v hv => Option.eq_none_iff_forall_ne_some.2 fun name hname => ?_
  obtain rfl : t = v := by simpa using hv
  exact h ((u.callee?_eq_some_iff t name).1 hname).2

section

variable {s : Symbol} {k : Keyword} {span : Span} {ts us : List Token}

@[simp] theorem callNames_nil : callNames [] = [] := rfl

@[simp] theorem callNames_symbol_cons : callNames (⟨.symbol s, span⟩ :: us) = callNames us := by
  have hsealed : Sealed [⟨.symbol s, span⟩] := by simp [Sealed]
  exact callNames_append_of_sealed hsealed us

@[simp] theorem callNames_keyword_cons : callNames (⟨.keyword k, span⟩ :: us) = callNames us := by
  have hsealed : Sealed [⟨.keyword k, span⟩] := by simp [Sealed]
  exact callNames_append_of_sealed hsealed us

@[simp] theorem callNames_append_keyword :
    callNames (ts ++ ⟨.keyword k, span⟩ :: us) = callNames ts ++ callNames us := by
  rw [callNames_append_cons (by simp), callNames_keyword_cons]

theorem callNames_append_symbol (hs : s ≠ .lparen) :
    callNames (ts ++ ⟨.symbol s, span⟩ :: us) = callNames ts ++ callNames us := by
  rw [callNames_append_cons (by simpa using hs), callNames_symbol_cons]

@[simp] theorem callNames_call (callee : String) (opening : Span) :
    callNames (⟨.identifier callee, span⟩ :: ⟨.symbol .lparen, opening⟩ :: us) =
      callee :: callNames us := by
  rw [callNames, callNames_symbol_cons]
  rfl

end

namespace Outline

/-- The functions that are called in a tree, in source order. -/
def callees (tree : Outline) : List String := tree.nodes.filterMap Node.callee?

@[simp] theorem callees_node (label : Node) (children : List Outline) :
    (node label children).callees = label.callee?.toList ++ children.flatMap callees := by
  rw [callees, nodes_node, List.filterMap_cons, List.filterMap_flatMap]
  cases label.callee? <;> rfl

end Outline

theorem BlockPhrase.exists_tokens_eq (b : BlockPhrase) :
    ∃ opening inside closing,
      b.tokens = ⟨.symbol .lbrace, opening⟩ :: inside ++ [⟨.symbol .rbrace, closing⟩] ∧
      b.tree.span = ⟨opening.start, closing.stop⟩ := by
  cases b <;> exact ⟨_, _, _, rfl, rfl⟩

theorem exists_getLast?_append_block (ts : List Token) (b : BlockPhrase) :
    ∃ closing, (ts ++ b.tokens).getLast? = some ⟨.symbol .rbrace, closing⟩ := by
  obtain ⟨opening, inside, closing, hb, -⟩ := b.exists_tokens_eq
  exact ⟨closing, by rw [hb, ← List.append_assoc, List.getLast?_concat]⟩

theorem ExprPhrase.exists_getLast?_tokens (p : ExprPhrase) (hlike : p.tree.isBlockLike = true)
    (h : p.tree.Branched) : ∃ closing, p.tokens.getLast? = some ⟨.symbol .rbrace, closing⟩ := by
  cases p with
  | block b => exact exists_getLast?_append_block [] b
  | loop _ b | unsafeBlock _ b => exact exists_getLast?_append_block [_] b
  | whileLoop _ cond b | conditional _ cond b =>
    exact exists_getLast?_append_block (_ :: cond.tokens) b
  | conditionalElse _ _ _ _ alternative =>
    have hpart := h.parts alternative.tree (by simp [tree, Expr.parts])
    have hkind : alternative.tree.IsAlternative := h.own _ rfl
    have hlike : alternative.tree.isBlockLike = true := by
      cases htree : alternative.tree <;> simp_all [Expr.IsAlternative, Expr.isBlockLike]
    obtain ⟨closing, hlast⟩ := alternative.exists_getLast?_tokens hlike hpart
    exact ⟨closing, by simp [tokens, List.getLast?_cons, hlast]⟩
  | operation _ op => cases op <;> cases hlike
  | _ => cases hlike

theorem sealed_of_getLast? {ts : List Token} {s : Symbol} {span : Span}
    (h : ts.getLast? = some ⟨.symbol s, span⟩) : Sealed ts := by
  simp [Sealed, h]

theorem sealed_concat (ts : List Token) (s : Symbol) (span : Span) :
    Sealed (ts ++ [⟨.symbol s, span⟩]) :=
  sealed_of_getLast? List.getLast?_concat

theorem Sealed.append {ts us : List Token} (hts : Sealed ts) (hus : Sealed us) :
    Sealed (ts ++ us) := by
  intro t ht
  rw [List.getLast?_append, Option.mem_def, Option.or_eq_some_iff] at ht
  rcases ht with ht | ⟨-, ht⟩
  · exact hus t ht
  · exact hts t ht

theorem ArgsPhrase.sealed (p : ArgsPhrase) : Sealed p.tokens := by
  cases p with
  | none => simp [Sealed, tokens]
  | snoc init arg comma => exact sealed_concat _ _ _

theorem StmtPhrase.sealed {ending : Ending} (p : StmtPhrase ending) (hfaults : p.faults = [])
    (h : p.tree.Branched) : Sealed p.tokens := by
  have hsemi (ts : List Token) {semi : Option Span} {stop : Position}
      (hend : endFault semi stop = []) :
      Sealed (ts ++ optionalToken (.symbol .semicolon) semi) := by
    cases semi with
    | none => cases hend
    | some span => exact sealed_concat _ _ _
  cases p with
  | binding word binder semi => exact hsemi _ hfaults
  | bound word binder sign init semi => exact hsemi _ (List.append_eq_nil_iff.1 hfaults).2
  | expr e semi =>
    obtain ⟨-, hend⟩ := List.append_eq_nil_iff.1 hfaults
    split at hend
    · rename_i hlike
      obtain ⟨closing, hlast⟩ := e.exists_getLast?_tokens hlike (h _ (List.mem_singleton_self _))
      cases semi with
      | none => exact (sealed_of_getLast? hlast).append (by simp [Sealed, optionalToken])
      | some span => exact sealed_concat _ _ _
    · exact hsemi _ hend

theorem StmtsPhrase.sealed {k : Ending} (p : StmtsPhrase k) (hfaults : p.faults = [])
    (h : ∀ s ∈ p.trees, s.Branched) : Sealed p.tokens := by
  cases p with
  | none => simp [Sealed, tokens]
  | idle init semi => exact sealed_concat _ _ _
  | snoc init stmt =>
    obtain ⟨hinit, hstmt⟩ := List.append_eq_nil_iff.1 hfaults
    obtain ⟨htrees, htree⟩ := List.forall_mem_append.1 h
    exact (init.sealed hinit htrees).append (stmt.sealed hstmt (List.forall_mem_singleton.1 htree))

theorem TypePhrase.callNames_tokens (t : TypePhrase) : callNames t.tokens = [] := by
  cases t <;> rfl

theorem BinderPhrase.callNames_tokens (b : BinderPhrase) : callNames b.tokens = [] := by
  have htype : callNames (b.pattern.token :: ⟨.symbol .colon, b.colon⟩ :: b.type.tokens) = [] := by
    rw [← List.singleton_append, callNames_append_symbol (by decide), b.type.callNames_tokens]
    rfl
  rw [tokens]
  cases b.mutWord with
  | none => exact htype
  | some span => exact callNames_keyword_cons.trans htype

theorem callNames_append_block (ts : List Token) (b : BlockPhrase) :
    callNames (ts ++ b.tokens) = callNames ts ++ callNames b.tokens := by
  obtain ⟨opening, inside, closing, hb, -⟩ := b.exists_tokens_eq
  rw [hb, List.cons_append, callNames_append_cons (by simp)]

theorem callNames_append_semicolon (ts : List Token) (semi : Option Span) :
    callNames (ts ++ optionalToken (.symbol .semicolon) semi) = callNames ts := by
  cases semi <;> simp [optionalToken, callNames_append_symbol]

attribute [local simp] callNames_append_symbol ExprPhrase.tokens ExprPhrase.tree Expr.outline
  Node.callee?

theorem Stmt.callees_binding (span : Span) (mutable : Bool) (pattern : Pattern) (type : TypeRef)
    (init : Option Expr) : (Stmt.binding span mutable pattern type init).outline.callees =
      (init.toList.map Expr.outline).flatMap Outline.callees := by
  cases pattern <;> simp [outline, Pattern.toExpr]

mutual

theorem ExprPhrase.callNames_tokens (p : ExprPhrase) (hfaults : p.faults = [])
    (h : p.tree.Branched) : callNames p.tokens = p.tree.outline.callees := by
  have hparts := h.parts
  cases p with
  | integer | float | boolean | unit | path | underscore | bareReturn => rfl
  | grouped opening inner closing =>
    obtain ⟨hinner, -⟩ := List.append_eq_nil_iff.1 hfaults
    simp [inner.callNames_tokens hinner (List.forall_mem_singleton.1 hparts)]
  | call calleeSpan callee opening args closing =>
    simp [args.callNames_tokens hfaults hparts]
  | callLast calleeSpan callee opening args last closing =>
    obtain ⟨hfaults, -⟩ := List.append_eq_nil_iff.1 hfaults
    obtain ⟨hargs, hlast⟩ := List.append_eq_nil_iff.1 hfaults
    obtain ⟨htrees, htree⟩ := List.forall_mem_append.1 hparts
    simp [callNames_append_of_sealed args.sealed, args.callNames_tokens hargs htrees,
      last.callNames_tokens hlast (List.forall_mem_singleton.1 htree)]
  | operation lhs op sign rhs =>
    obtain ⟨hfaults, -⟩ := List.append_eq_nil_iff.1 hfaults
    obtain ⟨hl, hr⟩ := List.append_eq_nil_iff.1 hfaults
    have hboth : lhs.tree.Branched ∧ rhs.tree.Branched := by
      cases op <;> simpa [InfixOp.tree, Expr.parts] using hparts
    have htree : (op.tree lhs.tree rhs.tree).outline.callees =
        lhs.tree.outline.callees ++ rhs.tree.outline.callees := by
      cases op <;> simp [InfixOp.tree]
    simp [op.symbol_ne_lparen, lhs.callNames_tokens hl hboth.1, rhs.callNames_tokens hr hboth.2,
      htree]
  | negation op sign operand =>
    obtain ⟨hoperand, -⟩ := List.append_eq_nil_iff.1 hfaults
    simp [operand.callNames_tokens hoperand (List.forall_mem_singleton.1 hparts)]
  | cast operand word type =>
    obtain ⟨hoperand, -⟩ := List.append_eq_nil_iff.1 hfaults
    simp [operand.callNames_tokens hoperand (List.forall_mem_singleton.1 hparts),
      type.callNames_tokens]
  | block body => exact body.callNames_tokens hfaults h
  | loop word body | unsafeBlock word body =>
    simp [body.callNames_tokens hfaults (List.forall_mem_singleton.1 hparts)]
  | whileLoop word cond body =>
    obtain ⟨hfaults, -⟩ := List.append_eq_nil_iff.1 hfaults
    obtain ⟨hcond, hbody⟩ := List.append_eq_nil_iff.1 hfaults
    obtain ⟨hc, hb⟩ := List.forall_mem_cons.1 hparts
    rw [ExprPhrase.tokens, callNames_append_block, callNames_keyword_cons,
      cond.callNames_tokens hcond hc, body.callNames_tokens hbody (List.forall_mem_singleton.1 hb)]
    simp
  | conditional word cond thenBlock =>
    obtain ⟨hfaults, -⟩ := List.append_eq_nil_iff.1 hfaults
    obtain ⟨hcond, hthen⟩ := List.append_eq_nil_iff.1 hfaults
    obtain ⟨hc, ht⟩ := List.forall_mem_cons.1 hparts
    rw [ExprPhrase.tokens, callNames_append_block, callNames_keyword_cons,
      cond.callNames_tokens hcond hc,
      thenBlock.callNames_tokens hthen (List.forall_mem_singleton.1 ht)]
    simp
  | conditionalElse word cond thenBlock elseWord alternative =>
    obtain ⟨hfaults, helse⟩ := List.append_eq_nil_iff.1 hfaults
    obtain ⟨hfaults, -⟩ := List.append_eq_nil_iff.1 hfaults
    obtain ⟨hcond, hthen⟩ := List.append_eq_nil_iff.1 hfaults
    obtain ⟨hc, hparts⟩ := List.forall_mem_cons.1 hparts
    obtain ⟨ht, ha⟩ := List.forall_mem_cons.1 hparts
    rw [ExprPhrase.tokens, callNames_append_keyword, callNames_append_block, callNames_keyword_cons,
      cond.callNames_tokens hcond hc, thenBlock.callNames_tokens hthen ht,
      alternative.callNames_tokens helse (List.forall_mem_singleton.1 ha)]
    simp
  | valueReturn word value =>
    obtain ⟨hvalue, -⟩ := List.append_eq_nil_iff.1 hfaults
    simp [value.callNames_tokens hvalue (List.forall_mem_singleton.1 hparts)]

theorem ArgsPhrase.callNames_tokens (p : ArgsPhrase) (hfaults : p.faults = [])
    (h : ∀ e ∈ p.trees, e.Branched) :
    callNames p.tokens = (p.trees.map Expr.outline).flatMap Outline.callees := by
  cases p with
  | none => rfl
  | snoc init arg comma =>
    obtain ⟨hfaults, -⟩ := List.append_eq_nil_iff.1 hfaults
    obtain ⟨hinit, harg⟩ := List.append_eq_nil_iff.1 hfaults
    obtain ⟨htrees, htree⟩ := List.forall_mem_append.1 h
    simp [ArgsPhrase.tokens, ArgsPhrase.trees, callNames_append_of_sealed init.sealed,
      init.callNames_tokens hinit htrees,
      arg.callNames_tokens harg (List.forall_mem_singleton.1 htree)]

theorem StmtPhrase.callNames_tokens : ∀ {ending : Ending} (p : StmtPhrase ending),
    p.faults = [] → p.tree.Branched → callNames p.tokens = p.tree.outline.callees
  | _, .binding word binder semi, _, _ => by
    rw [StmtPhrase.tokens, callNames_append_semicolon, callNames_keyword_cons,
      binder.callNames_tokens, StmtPhrase.tree, Stmt.callees_binding]
    rfl
  | _, .bound word binder sign init semi, hfaults, h => by
    obtain ⟨hfaults, -⟩ := List.append_eq_nil_iff.1 hfaults
    obtain ⟨hinit, -⟩ := List.append_eq_nil_iff.1 hfaults
    rw [StmtPhrase.tokens, callNames_append_semicolon, callNames_append_symbol (by decide),
      callNames_keyword_cons, binder.callNames_tokens,
      init.callNames_tokens hinit (List.forall_mem_singleton.1 h), StmtPhrase.tree,
      Stmt.callees_binding]
    simp
  | _, .expr e semi, hfaults, h => by
    obtain ⟨he, -⟩ := List.append_eq_nil_iff.1 hfaults
    rw [StmtPhrase.tokens, callNames_append_semicolon,
      e.callNames_tokens he (List.forall_mem_singleton.1 h)]
    simp [StmtPhrase.tree, Stmt.outline]

theorem StmtsPhrase.callNames_tokens : ∀ {k : Ending} (p : StmtsPhrase k), p.faults = [] →
    (∀ s ∈ p.trees, s.Branched) →
    callNames p.tokens = (p.trees.map Stmt.outline).flatMap Outline.callees
  | _, .none, _, _ => rfl
  | _, .idle init semi, hfaults, h => by
    simp [StmtsPhrase.tokens, StmtsPhrase.trees, init.callNames_tokens hfaults h]
  | _, .snoc init stmt, hfaults, h => by
    -- Without a fault, a statement that ends with a name has its `;` before the next one.
    obtain ⟨hinit, hstmt⟩ := List.append_eq_nil_iff.1 hfaults
    obtain ⟨htrees, htree⟩ := List.forall_mem_append.1 h
    simp [StmtsPhrase.tokens, StmtsPhrase.trees,
      callNames_append_of_sealed (init.sealed hinit htrees), init.callNames_tokens hinit htrees,
      stmt.callNames_tokens hstmt (List.forall_mem_singleton.1 htree)]

theorem BlockPhrase.callNames_tokens (p : BlockPhrase) (hfaults : p.faults = [])
    (h : (Expr.block p.tree).Branched) : callNames p.tokens = p.tree.outline.callees := by
  obtain ⟨hstmts, htail⟩ := List.forall_mem_append.1 h.parts
  have hstmts : ∀ s ∈ p.tree.stmts, s.Branched := fun s hs e he =>
    hstmts e (List.mem_flatMap.2 ⟨s, hs, he⟩)
  cases p with
  | plain hk opening stmts closing =>
    simp [BlockPhrase.tokens, BlockPhrase.tree, Block.outline,
      stmts.callNames_tokens hfaults hstmts]
  | tailed opening stmts tail closing =>
    obtain ⟨hfaults, -⟩ := List.append_eq_nil_iff.1 hfaults
    obtain ⟨hs, ht⟩ := List.append_eq_nil_iff.1 hfaults
    simp [BlockPhrase.tokens, BlockPhrase.tree, Block.outline,
      callNames_append_of_sealed (stmts.sealed hs hstmts), stmts.callNames_tokens hs hstmts,
      tail.callNames_tokens ht (List.forall_mem_singleton.1 htail)]

end

end MicroRust
