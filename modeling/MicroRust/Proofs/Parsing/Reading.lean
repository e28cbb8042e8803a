import MicroRust.Proofs.Parsing.Closing
import MicroRust.Proofs.Parsing.Steps

/-! Every step reads its token: the phrases of a configuration grow by the token that is taken, and
the faults of the phrases that it completes are noted. -/

namespace MicroRust.Parsing

variable {items : List Item} {fs : List Frame} {ts : List Token} {es : List Recovered}
  {c d : Config} {t : Token} {k : Ending}

theorem operandStep_reads (h : Stack c.items k c.frames ts c.recovered.reverse)
    (hs : operandStep c t = .ok d) : d.Reads (ts ++ [t]) := by
  obtain ⟨lexeme, span⟩ := t
  simp only [operandStep] at hs
  split at hs <;> cases hs
  case h_1 digits value =>
    exact (Waits.primary h (.integer span digits value) rfl (by simp [ExprPhrase.tree])).congr rfl
      (List.append_nil _)
  case h_2 digits value =>
    exact (Waits.primary h (.float span digits value) rfl (by simp [ExprPhrase.tree])).congr rfl
      (List.append_nil _)
  case h_3 value =>
    exact (Waits.primary h (.boolean span value) rfl (by simp [ExprPhrase.tree])).congr rfl
      (List.append_nil _)
  case h_4 =>
    exact (Waits.primary h (.underscore span) rfl (by simp [ExprPhrase.tree])).congr rfl
      (List.append_nil _)
  case h_5 name => exact Waits.pathNext h span name
  case h_6 => exact Waits.groupOpen h span
  case h_7 =>
    exact (Waits.statement (.block h .plain trivial span .none (by simp [StmtsPhrase.trees]))).congr
      rfl (List.append_nil _)
  case h_8 => exact Waits.operand (.negation h .minus span)
  case h_9 => exact Waits.operand (.negation h .not span)
  case h_10 =>
    exact (Waits.operand (.ifCondition h [] (by simp [Chain.Stratified]) span)).congr rfl
      (List.append_nil _)
  case h_11 => exact Waits.operand (.whileCondition h span)
  case h_12 => exact (Waits.blockOpen h (.loopBody span) trivial).congr rfl (List.append_nil _)
  case h_13 => exact (Waits.blockOpen h (.unsafeBody span) trivial).congr rfl (List.append_nil _)
  case h_14 => exact Waits.returnValue h span

theorem statementStep_reads {start : Position} {role : BlockRole} {stmts : List Stmt}
    (h : Stack c.items k c.frames ts c.recovered.reverse)
    (hfs : c.frames = .block start role stmts :: fs)
    (hsemi : t.lexeme = .symbol .semicolon → k = .semicolon)
    (hbrace : t.lexeme = .symbol .rbrace → k ≠ .expr) (hs : statementStep c t = .ok d) :
    d.Reads (ts ++ [t]) := by
  obtain ⟨lexeme, span⟩ := t
  simp only [statementStep] at hs
  split at hs
  · rename_i hframes
    cases hs
    rw [hframes] at h
    simpa [tailTokens] using
      closeBlock_reads h none (fun _ => hbrace rfl) (by simp) (List.append_nil _) span
  · cases hs
    rw [hfs, hsemi rfl] at h
    simp only [Config.Reads, Config.expect, hfs]
    exact .statement (h.addIdle span)
  · cases hs
    rw [hfs] at h
    simp only [Config.Reads, Config.expect, hfs]
    exact .bindingMut h span
  · exact operandStep_reads h hs

section

variable {p : ExprPhrase} {us : List Token} (hp : p.tree.Stratified)
  (hes : es ++ p.faults = c.recovered.reverse) (hs : delimiterStep c p.tree t = .ok d)
include hp hes hs

theorem delimiterStep_group_reads {start : Position} (hfs : c.frames = .group start :: fs)
    (hstack : Stack c.items k (.group start :: fs) us es) : d.Reads (us ++ p.tokens ++ [t]) := by
  obtain ⟨lexeme, span⟩ := t
  simp only [delimiterStep, hfs] at hs
  cases hstack with
  | group below opening =>
    split at hs <;> cases hs
    simp only [Config.Reads, Config.replace, items_requireValue, recovered_requireValue]
    refine (Waits.primary below (.grouped opening p span) rfl ?_).congr ?_ ?_
    · exact (Expr.stratified_grouped ..).2 hp
    · simp [ExprPhrase.tokens]
    · simp [ExprPhrase.faults, ← hes]

theorem delimiterStep_call_reads {calleeSpan : Span} {callee : String} {args : List Expr}
    (hfs : c.frames = .call calleeSpan callee args :: fs)
    (hstack : Stack c.items k (.call calleeSpan callee args :: fs) us es) :
    d.Reads (us ++ p.tokens ++ [t]) := by
  obtain ⟨lexeme, span⟩ := t
  simp only [delimiterStep, hfs] at hs
  cases hstack with
  | call below _ _ opening args hargs =>
    have hnew : ∀ e ∈ args.trees ++ [p.tree], e.Stratified :=
      List.forall_mem_append.2 ⟨hargs, List.forall_mem_singleton.2 hp⟩
    split at hs <;> cases hs
    · simp only [Config.Reads, Config.replace, items_requireValue, recovered_requireValue]
      have hw := Waits.argument (.call below calleeSpan callee opening (.snoc args p span) hnew)
      rw [ArgsPhrase.trees, List.reverse_append] at hw
      exact hw.congr (by simp [ArgsPhrase.tokens]) (by simp [ArgsPhrase.faults, ← hes])
    · simp only [Config.Reads, Config.replace, items_requireValue, recovered_requireValue,
        List.reverse_cons, List.reverse_reverse]
      refine (Waits.primary below (.callLast calleeSpan callee opening args p span) rfl
        ?_).congr ?_ ?_
      · exact (Expr.stratified_call ..).2 hnew
      · simp [ExprPhrase.tokens]
      · simp [ExprPhrase.faults, ← hes]

theorem delimiterStep_ifCondition_reads {start : Position}
    (hfs : c.frames = .ifCondition start :: fs)
    (hstack : Stack c.items k (.ifCondition start :: fs) us es) :
    d.Reads (us ++ p.tokens ++ [t]) := by
  obtain ⟨lexeme, span⟩ := t
  simp only [delimiterStep, hfs] at hs
  cases hstack with
  | ifCondition below chain hchain word =>
    split at hs <;> cases hs
    refine (Waits.statement (.thenBlock below chain hchain word p hp span .none
      (by simp [StmtsPhrase.trees]))).congr ?_ ?_
    · simp [StmtsPhrase.tokens]
    · simp [StmtsPhrase.faults, ← hes, Config.replace]

theorem delimiterStep_whileCondition_reads {start : Position}
    (hfs : c.frames = .whileCondition start :: fs)
    (hstack : Stack c.items k (.whileCondition start :: fs) us es) :
    d.Reads (us ++ p.tokens ++ [t]) := by
  obtain ⟨lexeme, span⟩ := t
  simp only [delimiterStep, hfs] at hs
  cases hstack with
  | whileCondition below word =>
    split at hs <;> cases hs
    refine (Waits.statement (.block below (.whileBody word p) hp span .none
      (by simp [StmtsPhrase.trees]))).congr ?_ ?_
    · simp [StmtsPhrase.tokens, RolePhrase.tokens]
    · simp [StmtsPhrase.faults, RolePhrase.faults, ← hes, Config.replace]

theorem delimiterStep_block_reads {start : Position} {role : BlockRole} {stmts : List Stmt}
    (hfs : c.frames = .block start role stmts :: fs)
    (hstack : Stack c.items k (.block start role stmts :: fs) us es) :
    d.Reads (us ++ p.tokens ++ [t]) := by
  obtain ⟨lexeme, span⟩ := t
  simp only [delimiterStep, hfs] at hs
  split at hs
  · cases hs
    refine (Waits.statement (hstack.addStmt (.expr p (some span)) ?_)).congr ?_ ?_
    · exact (Stmt.stratified_expr ..).2 hp
    · simp [StmtPhrase.tokens, optionalToken]
    · simp [StmtPhrase.faults, endFault, ← hes, addStatement, Config.replace]
  · cases hs
    refine closeBlock_reads (c := c.requireValue _ p.tree) (by simpa using hstack) (some p)
      (absurd · (Option.some_ne_none p)) (by simpa using hp) ?_ span
    rw [recovered_requireValue, ← hes, tailFaults, List.append_assoc]
  · -- The expression is a statement without `;`, and the token begins the next one.
    rename_i hsemi hbrace
    have hstmt := hstack.addStmt (.expr p none) ((Stmt.stratified_expr ..).2 hp)
    simp only [StmtPhrase.tokens, optionalToken, List.append_nil, StmtPhrase.faults,
      ← List.append_assoc, hes] at hstmt
    split at hs
    · rename_i hlike
      simp only [hlike, if_true, List.append_nil] at hstmt
      exact statementStep_reads hstmt rfl (absurd · hsemi) (absurd · hbrace) hs
    · rename_i hlike
      simp only [hlike, Bool.false_eq_true, if_false, endFault] at hstmt
      rw [← List.reverse_cons] at hstmt
      exact statementStep_reads hstmt rfl (absurd · hsemi) (absurd · hbrace) hs

theorem delimiterStep_binding_reads {head : BindingHead} (hfs : c.frames = .binding head :: fs)
    (hstack : Stack c.items k (.binding head :: fs) us es) : d.Reads (us ++ p.tokens ++ [t]) := by
  obtain ⟨lexeme, span⟩ := t
  cases hstack with
  | binding below word binder sign =>
    have hinit : ∀ semi, (StmtPhrase.bound word binder sign p semi).tree.Stratified := by
      intro semi
      simpa [StmtPhrase.tree] using hp
    simp only [delimiterStep, hfs] at hs
    split at hs
    · cases hs
      simp only [Config.Reads, addStatement, Config.replace, items_requireValue,
        recovered_requireValue]
      refine (Waits.statement (below.addStmt (.bound word binder sign p (some span))
        (hinit _))).congr ?_ ?_
      · simp [StmtPhrase.tokens, optionalToken]
      · simp [StmtPhrase.faults, endFault, ← hes]
    · -- The `;` of the `let` is missing; the token begins the next statement.
      rename_i hsemi
      have hstmt := below.addStmt (.bound word binder sign p none) (hinit _)
      rw [← items_requireValue c "let initializer" p.tree] at hstmt
      refine statementStep_reads (k := .binding) (hstmt.congr ?_ ?_) rfl (absurd · hsemi)
        (fun _ => by decide) hs
      · simp [StmtPhrase.tokens, optionalToken]
      · show _ = (_ :: (c.requireValue "let initializer" p.tree).recovered).reverse
        rw [List.reverse_cons, recovered_requireValue, ← hes]
        simp [StmtPhrase.faults, endFault]

theorem delimiterStep_static_reads {head : StaticHead} (hfs : c.frames = .static head :: fs)
    (hstack : Stack c.items k (.static head :: fs) us es) : d.Reads (us ++ p.tokens ++ [t]) := by
  obtain ⟨lexeme, span⟩ := t
  simp only [delimiterStep, hfs] at hs
  cases hstack with
  | static outer head sign =>
    split at hs <;> cases hs
    have hr := closeStatic_reads (c := c.requireValue "static initializer" p.tree) head
      (some (sign, p)) (by simpa using hp) span (by simpa using outer)
      (by simp [StaticPhrase.initFaults, recovered_requireValue, ← hes])
    simpa [StaticPhrase.tokens] using hr

end

theorem delimiterStep_reads {e : Expr} (h : c.Holds c.frames e ts)
    (hs : delimiterStep c e t = .ok d) : d.Reads (ts ++ [t]) := by
  obtain ⟨p, k, us, es, rfl, hp, -, hstack, rfl, hes⟩ := h
  generalize hfs : c.frames = fs at hstack
  cases fs with
  | nil =>
    simp only [delimiterStep, hfs] at hs
    cases hs
  | cons f fs =>
    cases f with
    | group => exact delimiterStep_group_reads hp hes hs hfs hstack
    | call => exact delimiterStep_call_reads hp hes hs hfs hstack
    | ifCondition => exact delimiterStep_ifCondition_reads hp hes hs hfs hstack
    | whileCondition => exact delimiterStep_whileCondition_reads hp hes hs hfs hstack
    | block => exact delimiterStep_block_reads hp hes hs hfs hstack
    | binding => exact delimiterStep_binding_reads hp hes hs hfs hstack
    | static => exact delimiterStep_static_reads hp hes hs hfs hstack
    | operation | negation | ret | elseIf | foreign =>
      simp only [delimiterStep, hfs] at hs
      cases hs

theorem operatorStep_reads {e : Expr} (h : c.Holds c.frames e ts) (hlevel : castLevel ≤ e.level)
    (hs : operatorStep c e t = .ok d) : d.Reads (ts ++ [t]) := by
  obtain ⟨lexeme, span⟩ := t
  -- What has just been read is no comparison; those that are closed on the way may be.
  have hne : e.level ≠ 3 := fun h3 => absurd (h3 ▸ hlevel) (by decide)
  unfold operatorStep at hs
  split at hs
  · rename_i op hop
    split at hs <;> cases hs
    rename_i c' e' hclose
    have hle : op.level ≤ castLevel := Nat.le_succ_of_le op.level_le
    obtain ⟨⟨p, k, us, es, rfl, hp, -, hstack, rfl, hes⟩, hopen, hle', hchain⟩ :=
      closeTighter_holds hle h (Nat.le_trans hle hlevel) (fun _ => hne) hclose
    cases (InfixOp.ofLexeme?_eq_some_iff _ _).1 hop
    exact (Waits.operand (.operation hstack p op span hopen hp hle' hchain)).congr (by simp) hes
  · split at hs
    · rename_i has
      cases has
      split at hs <;> cases hs
      rename_i c' e' hclose
      obtain ⟨⟨p, k, us, es, rfl, hp, -, hstack, rfl, hes⟩, hopen, hle', -⟩ :=
        closeTighter_holds (Nat.le_refl _) h hlevel (fun _ => hne) hclose
      exact (Waits.type (.cast hstack p hopen hle' hp span)).congr (by simp) hes
    · exact delimiterStep_reads (closeOperand_holds h) hs

theorem bodyStep_reads (outer : Outer c.items c.frames ts c.recovered.reverse)
    (proto : ProtoPhrase) (hs : bodyStep c proto.tree t = .ok d) :
    d.Reads (ts ++ proto.tokens ++ [t]) := by
  obtain ⟨lexeme, span⟩ := t
  simp only [bodyStep] at hs
  split at hs
  · cases hs
    refine (Waits.statement (.body outer proto span .none (by simp [StmtsPhrase.trees]))).congr ?_
      (List.append_nil _)
    simp [StmtsPhrase.tokens]
  · rename_i start abi decls fs hframes
    cases hs
    rw [hframes] at outer
    exact (Waits.foreignItem (outer.addDecl (.prototype proto span)
      (ForeignItem.stratified_prototype _))).congr (by simp [DeclPhrase.tokens])
        (List.append_nil _)
  · cases hs
  · cases hs

theorem patternStep_ok {next : Pattern → Control} (hs : patternStep c t next = .ok d) :
    ∃ pattern : Pattern, t = pattern.token ∧ d = c.expect (next pattern) := by
  obtain ⟨lexeme, span⟩ := t
  simp only [patternStep] at hs
  split at hs <;> cases hs
  · exact ⟨.named span _, rfl, rfl⟩
  · exact ⟨.wildcard span, rfl, rfl⟩

theorem symbolStep_ok {s : Symbol} {expected : String} {next : Control}
    (hs : symbolStep c t s expected next = .ok d) :
    t = ⟨.symbol s, t.span⟩ ∧ d = c.expect next := by
  obtain ⟨lexeme, span⟩ := t
  simp only [symbolStep] at hs
  split at hs <;> cases hs
  rename_i hlex
  exact ⟨by rw [hlex], rfl⟩

theorem nameStep_ok {next : String → Control} (hs : nameStep c t next = .ok d) :
    ∃ name, t = ⟨.identifier name, t.span⟩ ∧ d = c.expect (next name) := by
  obtain ⟨lexeme, span⟩ := t
  simp only [nameStep] at hs
  split at hs <;> cases hs
  exact ⟨_, rfl, rfl⟩

theorem typeKind_ofName?_eq {name : String} {kind : TypeKind}
    (h : TypeKind.ofName? name = some kind) : kind.name = name := by
  simpa using List.find?_some h

section

variable (outer : Outer c.items c.frames ts c.recovered.reverse) (hs : step c t = .ok d)
include outer hs

theorem step_item_reads (hfs : c.frames = []) (hk : c.control = .item) (ht : t.lexeme ≠ .eof) :
    d.Reads (ts ++ [t]) := by
  obtain ⟨lexeme, span⟩ := t
  simp only [step, hk] at hs
  split at hs <;> cases hs
  · exact Waits.functionName outer span
  · exact Waits.staticMut outer span
  · rw [hfs] at outer
    simp only [Config.Reads, Config.expect, hfs]
    exact .abi outer span
  · exact absurd rfl ht

theorem step_foreignItem_reads (hk : c.control = .foreignItem) : d.Reads (ts ++ [t]) := by
  obtain ⟨lexeme, span⟩ := t
  simp only [step, hk] at hs
  split at hs <;> cases hs
  · exact Waits.functionName outer span
  · exact Waits.staticMut outer span
  · rename_i start abi decls fs hframes
    rw [hframes] at outer
    obtain ⟨rfl, hitem⟩ := outer.closeForeign span
    exact Waits.item hitem

theorem step_functionName_reads (word : Span) (hk : c.control = .functionName word.start) :
    d.Reads (ts ++ [⟨.keyword .fnWord, word⟩] ++ [t]) := by
  simp only [step, hk] at hs
  obtain ⟨name, ht, rfl⟩ := nameStep_ok hs
  rw [ht]
  exact (Waits.paramsOpen outer word t.span name).congr (by simp) rfl

theorem step_paramsOpen_reads (word nameSpan : Span) (name : String)
    (hk : c.control = .paramsOpen word.start name) :
    d.Reads (ts ++ [⟨.keyword .fnWord, word⟩, ⟨.identifier name, nameSpan⟩] ++ [t]) := by
  simp only [step, hk] at hs
  obtain ⟨ht, rfl⟩ := symbolStep_ok hs
  rw [ht]
  exact (Waits.param outer ⟨word, nameSpan, name, t.span, []⟩).congr
    (by simp [HeadPhrase.tokens, paramTokens]) rfl

theorem step_param_reads (head : HeadPhrase) (hk : c.control = .param head.functionHead) :
    d.Reads (ts ++ head.tokens ++ [t]) := by
  obtain ⟨lexeme, span⟩ := t
  simp only [step, hk] at hs
  split at hs <;> cases hs
  · exact (Waits.paramPattern outer head span).congr (by simp) rfl
  · exact (Waits.paramColon outer head none (.named span _)).congr
      (by simp [optionalToken, Pattern.token]) rfl
  · exact (Waits.paramColon outer head none (.wildcard span)).congr
      (by simp [optionalToken, Pattern.token]) rfl
  · have hw := Waits.result outer ⟨head, none, span, none⟩ rfl
    have hhead : (ProtoPhrase.mk head none span none).functionHead = head.functionHead := by
      simp [ProtoPhrase.functionHead, ProtoPhrase.params, HeadPhrase.functionHead]
    rw [hhead] at hw
    exact hw.congr (by simp [ProtoPhrase.tokens, ProtoPhrase.frontTokens]) rfl

theorem step_paramPattern_reads (head : HeadPhrase) (mutWord : Span)
    (hk : c.control = .paramPattern head.functionHead mutWord.start) :
    d.Reads (ts ++ (head.tokens ++ [⟨.keyword .mutWord, mutWord⟩]) ++ [t]) := by
  simp only [step, hk] at hs
  obtain ⟨pattern, rfl, rfl⟩ := patternStep_ok hs
  exact (Waits.paramColon outer head (some mutWord) pattern).congr (by simp [optionalToken]) rfl

theorem step_paramColon_reads (head : HeadPhrase) (mutWord : Option Span) (pattern : Pattern)
    (hk : c.control = .paramColon head.functionHead (mutWord.getD pattern.span).start
      mutWord.isSome pattern) :
    d.Reads (ts ++ (head.tokens ++ optionalToken (.keyword .mutWord) mutWord ++ [pattern.token]) ++
      [t]) := by
  simp only [step, hk] at hs
  obtain ⟨ht, rfl⟩ := symbolStep_ok hs
  rw [ht]
  exact (Waits.type (.param outer head mutWord pattern t.span)).congr (by simp) rfl

theorem step_paramNext_reads (head : HeadPhrase) (binder : BinderPhrase)
    (hk : c.control = .paramNext ⟨head.word.start, head.name,
      binder.param :: head.functionHead.params⟩) :
    d.Reads (ts ++ (head.tokens ++ binder.tokens) ++ [t]) := by
  obtain ⟨lexeme, span⟩ := t
  simp only [step, hk] at hs
  split at hs <;> cases hs
  · have hw := Waits.param outer { head with params := head.params ++ [(binder, span)] }
    simp only [HeadPhrase.functionHead, List.map_append, List.map_cons, List.map_nil,
      List.reverse_append] at hw
    exact hw.congr (by simp [HeadPhrase.tokens, paramTokens]) rfl
  · have hw := Waits.result outer ⟨head, some binder, span, none⟩ rfl
    simp only [ProtoPhrase.functionHead, ProtoPhrase.params, Option.toList_some, List.map_cons,
      List.map_nil, List.reverse_append] at hw
    exact hw.congr (by simp [ProtoPhrase.tokens, ProtoPhrase.frontTokens]) rfl

theorem step_result_reads (proto : ProtoPhrase) (hproto : proto.result = none)
    (hk : c.control = .result proto.functionHead proto.closing.stop) :
    d.Reads (ts ++ proto.tokens ++ [t]) := by
  have htree : proto.tree = ⟨⟨proto.functionHead.start, proto.closing.stop⟩,
      proto.functionHead.name, proto.functionHead.params.reverse,
      ⟨.unit, Span.point proto.closing.stop⟩⟩ := by
    simp [ProtoPhrase.tree, ProtoPhrase.resultType, hproto, ProtoPhrase.functionHead, Span.point]
  simp only [step, hk, ← htree] at hs
  split at hs
  · rename_i hlex
    cases hs
    obtain ⟨lexeme, span⟩ := t
    cases hlex
    exact (Waits.type (.result outer proto hproto span)).congr (by simp) rfl
  · exact bodyStep_reads outer proto hs
  · exact bodyStep_reads outer proto hs
  · cases hs

theorem step_staticMut_reads (word : Span) (hk : c.control = .staticMut word.start) :
    d.Reads (ts ++ [⟨.keyword .staticWord, word⟩] ++ [t]) := by
  simp only [step, hk] at hs
  split at hs
  · rename_i hlex
    cases hs
    obtain ⟨lexeme, span⟩ := t
    cases hlex
    exact (Waits.staticName outer word span).congr (by simp) rfl
  · obtain ⟨name, ht, rfl⟩ := nameStep_ok hs
    rw [ht]
    exact (Waits.staticColon outer word none t.span name).congr (by simp [optionalToken]) rfl

theorem step_staticName_reads (word mutWord : Span) (hk : c.control = .staticName word.start true) :
    d.Reads (ts ++ [⟨.keyword .staticWord, word⟩, ⟨.keyword .mutWord, mutWord⟩] ++ [t]) := by
  simp only [step, hk] at hs
  obtain ⟨name, ht, rfl⟩ := nameStep_ok hs
  rw [ht]
  exact (Waits.staticColon outer word (some mutWord) t.span name).congr
    (by simp [optionalToken]) rfl

theorem step_staticColon_reads (word : Span) (mutWord : Option Span) (nameSpan : Span)
    (name : String) (hk : c.control = .staticColon word.start mutWord.isSome name) :
    d.Reads (ts ++ (⟨.keyword .staticWord, word⟩ :: optionalToken (.keyword .mutWord) mutWord ++
      [⟨.identifier name, nameSpan⟩]) ++ [t]) := by
  simp only [step, hk] at hs
  obtain ⟨ht, rfl⟩ := symbolStep_ok hs
  rw [ht]
  exact (Waits.type (.static outer word mutWord nameSpan name t.span)).congr (by simp) rfl

theorem step_staticInit_reads (head : StaticHeadPhrase)
    (hk : c.control = .staticInit head.staticHead) : d.Reads (ts ++ head.tokens ++ [t]) := by
  obtain ⟨lexeme, span⟩ := t
  simp only [step, hk] at hs
  split at hs <;> cases hs
  · exact (Waits.operand (.static outer head span)).congr (by simp) rfl
  · simpa [StaticPhrase.tokens] using
      closeStatic_reads head none (by simp) span outer (List.append_nil _)

end

theorem step_abi_reads (outer : Outer c.items [] ts c.recovered.reverse) (hfs : c.frames = [])
    (word : Span) (hk : c.control = .abi word.start) (hs : step c t = .ok d) :
    d.Reads (ts ++ [⟨.keyword .externWord, word⟩] ++ [t]) := by
  obtain ⟨lexeme, span⟩ := t
  simp only [step, hk] at hs
  split at hs <;> cases hs
  rename_i body
  have hw := Waits.foreignOpen outer word span body
  simp only [Config.Reads, Config.expect]
  split
  · rename_i hbody
    rw [hfs]
    exact hw.congr (by simp) (by simp [abiFault, hbody])
  · rename_i hbody
    simp only [Config.note, hfs, List.reverse_cons]
    exact hw.congr (by simp) (by simp [abiFault, hbody])

theorem step_foreignOpen_reads (outer : Outer c.items [] ts es) (hfs : c.frames = [])
    (word abiSpan : Span) (abi : String) (hes : c.recovered.reverse = es ++ abiFault abiSpan abi)
    (hk : c.control = .foreignOpen word.start abi) (hs : step c t = .ok d) :
    d.Reads (ts ++ [⟨.keyword .externWord, word⟩, ⟨.abi abi, abiSpan⟩] ++ [t]) := by
  obtain ⟨lexeme, span⟩ := t
  simp only [step, hk] at hs
  split at hs <;> cases hs
  rename_i hlex
  cases hlex
  generalize hitems : c.items = items at outer
  cases outer with
  | top done hdone =>
    have hw := Waits.foreignItem (.foreign done hdone ⟨word, abiSpan, abi, span, []⟩
      (by simp [ForeignPhrase.Stratified]))
    simp only [Config.Reads, Config.push, hitems, hfs, hes]
    exact hw.congr (by simp [ForeignPhrase.tokens]) (by simp [ForeignPhrase.faults])

section

variable {start : Position} {role : BlockRole} {stmts : List Stmt}
  (below : Stack c.items k (.block start role stmts :: fs) ts c.recovered.reverse)
  (hfs : c.frames = .block start role stmts :: fs) (hs : step c t = .ok d)
include below hfs hs

theorem step_bindingMut_reads (word : Span) (hk : c.control = .bindingMut word.start) :
    d.Reads (ts ++ [⟨.keyword .letWord, word⟩] ++ [t]) := by
  simp only [step, hk] at hs
  split at hs
  · rename_i hlex
    cases hs
    obtain ⟨lexeme, span⟩ := t
    cases hlex
    simp only [Config.Reads, Config.expect, hfs]
    exact (Waits.bindingPattern below word span).congr (by simp) rfl
  · obtain ⟨pattern, rfl, rfl⟩ := patternStep_ok hs
    simp only [Config.Reads, Config.expect, hfs]
    exact (Waits.bindingColon below word none pattern).congr (by simp [optionalToken]) rfl

theorem step_bindingPattern_reads (word mutWord : Span)
    (hk : c.control = .bindingPattern word.start true) :
    d.Reads (ts ++ [⟨.keyword .letWord, word⟩, ⟨.keyword .mutWord, mutWord⟩] ++ [t]) := by
  simp only [step, hk] at hs
  obtain ⟨pattern, rfl, rfl⟩ := patternStep_ok hs
  simp only [Config.Reads, Config.expect, hfs]
  exact (Waits.bindingColon below word (some mutWord) pattern).congr (by simp [optionalToken]) rfl

theorem step_bindingColon_reads (word : Span) (mutWord : Option Span) (pattern : Pattern)
    (hk : c.control = .bindingColon word.start mutWord.isSome pattern) :
    d.Reads (ts ++ (⟨.keyword .letWord, word⟩ :: optionalToken (.keyword .mutWord) mutWord ++
      [pattern.token]) ++ [t]) := by
  simp only [step, hk] at hs
  obtain ⟨ht, rfl⟩ := symbolStep_ok hs
  rw [ht]
  simp only [Config.Reads, Config.expect, hfs]
  exact (Waits.type (.binding below word mutWord pattern t.span)).congr (by simp) rfl

theorem step_bindingInit_reads (word : Span) (binder : BinderPhrase)
    (hk : c.control = .bindingInit (bindingHead word binder)) :
    d.Reads (ts ++ ⟨.keyword .letWord, word⟩ :: binder.tokens ++ [t]) := by
  have hstrat : ∀ semi, (StmtPhrase.binding word binder semi).tree.Stratified := by
    intro semi
    simp [StmtPhrase.tree]
  obtain ⟨lexeme, span⟩ := t
  simp only [step, hk] at hs
  split at hs
  · cases hs
    simp only [Config.Reads, Config.push, hfs]
    exact (Waits.operand (.binding below word binder span)).congr (by simp) rfl
  · rename_i hframes
    cases hs
    cases hfs.symm.trans hframes
    exact (Waits.statement (below.addStmt (.binding word binder (some span)) (hstrat _))).congr
      (by simp [StmtPhrase.tokens, optionalToken]) (by simp [StmtPhrase.faults, endFault,
        addStatement, Config.replace])
  · rename_i hsemi hframes
    cases hfs.symm.trans hframes
    have hstmt := below.addStmt (.binding word binder none) (hstrat _)
    refine statementStep_reads (k := .binding) (hstmt.congr ?_ ?_) rfl (absurd · hsemi)
      (fun _ => by decide) hs
    · simp [StmtPhrase.tokens, optionalToken]
    · exact (List.reverse_cons ..).symm
  · cases hs

end

theorem step_type_reads {slot : TypeSlot}
    (hslot : TypeWaits c.items c.frames slot ts c.recovered.reverse) (hk : c.control = .type slot)
    (hs : step c t = .ok d) : d.Reads (ts ++ [t]) := by
  obtain ⟨lexeme, span⟩ := t
  simp only [step, hk] at hs
  split at hs
  · split at hs
    · cases hs
    · rename_i kind hunit hkind
      cases hs
      have hr := closeType_reads hslot rfl rfl (.named span kind hunit)
      rwa [TypePhrase.tokens, typeKind_ofName?_eq hkind] at hr
    · cases hs
  · cases hs
    exact Waits.typeClose hslot span
  · cases hs

theorem step_typeClose_reads {slot : TypeSlot}
    (hslot : TypeWaits c.items c.frames slot ts c.recovered.reverse) (opening : Span)
    (hk : c.control = .typeClose opening.start slot) (hs : step c t = .ok d) :
    d.Reads (ts ++ [⟨.symbol .lparen, opening⟩] ++ [t]) := by
  obtain ⟨lexeme, span⟩ := t
  simp only [step, hk] at hs
  split at hs <;> cases hs
  simpa [TypePhrase.tokens, TypePhrase.tree] using
    closeType_reads hslot rfl rfl (.unit opening span)

theorem Stack.holds (below : Stack c.items k fs ts es) (e : ExprPhrase)
    (hlevel : e.tree.level = 11) (he : e.tree.Stratified)
    (hes : es ++ e.faults = c.recovered.reverse) : c.Holds fs e.tree (ts ++ e.tokens) :=
  ⟨e, k, ts, es, rfl, he, openFor_of_castLevel_lt (by rw [hlevel]; decide) fs, below, rfl, hes⟩

section

variable (below : Stack c.items k c.frames ts c.recovered.reverse) (hs : step c t = .ok d)
include below hs

theorem step_groupOpen_reads (opening : Span) (hk : c.control = .groupOpen opening.start) :
    d.Reads (ts ++ [⟨.symbol .lparen, opening⟩] ++ [t]) := by
  simp only [step, hk] at hs
  split at hs
  · rename_i hlex
    cases hs
    obtain ⟨lexeme, span⟩ := t
    cases hlex
    exact (Waits.primary below (.unit opening span) rfl (by simp [ExprPhrase.tree])).congr
      (by simp [ExprPhrase.tokens]) (List.append_nil _)
  · exact operandStep_reads (.group below opening) hs

theorem step_pathNext_reads (span : Span) (name : String) (hk : c.control = .pathNext span name) :
    d.Reads (ts ++ [⟨.identifier name, span⟩] ++ [t]) := by
  simp only [step, hk] at hs
  split at hs
  · rename_i hlex
    cases hs
    obtain ⟨lexeme, opening⟩ := t
    cases hlex
    exact (Waits.argument (.call below span name opening .none
      (by simp [ArgsPhrase.trees]))).congr (by simp [ArgsPhrase.tokens]) (List.append_nil _)
  · exact operatorStep_reads (below.holds (.path span name) rfl (by simp [ExprPhrase.tree])
      (List.append_nil _)) (show 9 ≤ 11 by decide) hs

theorem step_returnValue_reads (word : Span) (hk : c.control = .returnValue word) :
    d.Reads (ts ++ [⟨.keyword .returnWord, word⟩] ++ [t]) := by
  simp only [step, hk] at hs
  split at hs
  · exact operandStep_reads (.ret below word) hs
  · exact operatorStep_reads (below.holds (.bareReturn word) rfl (by simp [ExprPhrase.tree])
      (List.append_nil _)) (show 9 ≤ 11 by decide) hs

end

theorem step_argument_reads {calleeSpan : Span} {callee : String} {args : List Expr}
    (below : Stack c.items k (.call calleeSpan callee args :: fs) ts c.recovered.reverse)
    (hfs : c.frames = .call calleeSpan callee args :: fs) (hk : c.control = .argument)
    (hs : step c t = .ok d) : d.Reads (ts ++ [t]) := by
  obtain ⟨lexeme, span⟩ := t
  simp only [step, hk] at hs
  split at hs
  · rename_i hframes
    cases hs
    cases hfs.symm.trans hframes
    generalize hes : c.recovered.reverse = es at below
    cases below with
    | call below _ _ opening args hargs =>
      simp only [Config.Reads, Config.replace, List.reverse_reverse, hes]
      exact (Waits.primary below (.call calleeSpan callee opening args span) rfl
        ((Expr.stratified_call ..).2 hargs)).congr (by simp [ExprPhrase.tokens]) rfl
  · exact operandStep_reads (hfs ▸ below) hs

theorem step_blockOpen_reads (below : Stack c.items k c.frames ts es) (role : RolePhrase)
    (hrole : role.Stratified) (hes : c.recovered.reverse = es ++ role.faults)
    (hk : c.control = .blockOpen role.role) (hs : step c t = .ok d) :
    d.Reads (ts ++ role.tokens ++ [t]) := by
  obtain ⟨lexeme, span⟩ := t
  simp only [step, hk] at hs
  split at hs <;> cases hs
  rename_i hlex
  cases hlex
  simp only [Config.Reads, Config.push, hes]
  exact (Waits.statement (.block below role hrole span .none (by simp [StmtsPhrase.trees]))).congr
    (by simp [StmtsPhrase.tokens]) (by simp [StmtsPhrase.faults])

section

variable (below : Stack c.items k fs ts es) (chain : Chain) (hchain : chain.Stratified)
  (hfs : c.frames = chain.frames ++ fs) (hs : step c t = .ok d)
include below hchain hfs hs

theorem step_afterThen_reads (word : Span) (cond : ExprPhrase) (hcond : cond.tree.Stratified)
    (thenBlock : BlockPhrase) (hthen : thenBlock.tree.Stratified)
    (hes : c.recovered.reverse =
      es ++ (chain.faults ++ (ExprPhrase.conditional word cond thenBlock).faults))
    (hk : c.control = .afterThen word.start cond.tree thenBlock.tree) :
    d.Reads (ts ++ (chain.tokens ++ (ExprPhrase.conditional word cond thenBlock).tokens) ++
      [t]) := by
  simp only [step, hk] at hs
  split at hs
  · rename_i hlex
    cases hs
    obtain ⟨lexeme, span⟩ := t
    cases hlex
    simp only [Config.Reads, Config.expect, hfs, hes]
    exact (Waits.afterElse below chain hchain ⟨word, cond, thenBlock, span⟩
      ⟨hcond, hthen⟩).congr (by simp [Link.tokens, ExprPhrase.tokens])
        (by simp [Link.faults, ExprPhrase.faults])
  · rw [hfs] at hs
    have hclose := chain.closeElseIf_eq below (.conditional word cond thenBlock)
    rw [ExprPhrase.tree] at hclose
    simp only [hclose] at hs
    have hstrat : (chain.close (.conditional word cond thenBlock)).tree.Stratified :=
      Chain.stratified_close hchain (by simpa [ExprPhrase.tree] using ⟨hcond, hthen⟩)
    have hlevel := chain.level_close (e := .conditional word cond thenBlock) rfl
    have hholds (next : Control) := Stack.holds (c := ⟨c.items, c.recovered, fs, next⟩) below
      (chain.close (.conditional word cond thenBlock)) hlevel hstrat
      (by rw [chain.faults_close, hes])
    simp only [chain.tokens_close] at hholds
    exact operatorStep_reads (hholds _) (by rw [hlevel]; decide) hs

theorem step_afterElse_reads (link : Link) (hlink : link.Stratified)
    (hes : c.recovered.reverse = es ++ (chain.faults ++ link.faults))
    (hk : c.control = .afterElse link.word.start link.cond.tree link.thenBlock.tree) :
    d.Reads (ts ++ (chain.tokens ++ link.tokens) ++ [t]) := by
  obtain ⟨lexeme, span⟩ := t
  simp only [step, hk] at hs
  split at hs <;> cases hs
  · have hw := Waits.operand (.ifCondition below (link :: chain)
      (List.forall_mem_cons.2 ⟨hlink, hchain⟩) span)
    simp only [Config.Reads, Config.replace, hfs, hes]
    exact hw.congr (by simp [Chain.tokens]) (by simp [Chain.faults])
  · simp only [Config.Reads, Config.push, hfs, hes]
    exact (Waits.statement (.elseBlock below chain hchain link hlink span .none
      (by simp [StmtsPhrase.trees]))).congr (by simp [StmtsPhrase.tokens])
        (by simp [StmtsPhrase.faults])

end

theorem step_reads_of_waits {next : Control} (h : Waits c.items fs next ts es) (hfs : c.frames = fs)
    (hes : c.recovered.reverse = es) (hk : c.control = next) (ht : t.lexeme ≠ .eof)
    (hs : step c t = .ok d) : d.Reads (ts ++ [t]) := by
  cases h with
  | item outer => exact step_item_reads (by rwa [hfs, hes]) hs hfs hk ht
  | foreignItem outer => exact step_foreignItem_reads (by rwa [hfs, hes]) hs hk
  | abi outer word => exact step_abi_reads (by rwa [hes]) hfs word hk hs
  | foreignOpen outer word abiSpan abi =>
    exact step_foreignOpen_reads outer hfs word abiSpan abi hes hk hs
  | functionName outer word => exact step_functionName_reads (by rwa [hfs, hes]) hs word hk
  | paramsOpen outer word nameSpan name =>
    exact step_paramsOpen_reads (by rwa [hfs, hes]) hs word nameSpan name hk
  | param outer head => exact step_param_reads (by rwa [hfs, hes]) hs head hk
  | paramPattern outer head mutWord =>
    exact step_paramPattern_reads (by rwa [hfs, hes]) hs head mutWord hk
  | paramColon outer head mutWord pattern =>
    exact step_paramColon_reads (by rwa [hfs, hes]) hs head mutWord pattern hk
  | paramNext outer head binder =>
    exact step_paramNext_reads (by rwa [hfs, hes]) hs head binder hk
  | result outer proto hproto => exact step_result_reads (by rwa [hfs, hes]) hs proto hproto hk
  | body outer proto =>
    simp only [step, hk] at hs
    exact bodyStep_reads (by rwa [hfs, hes]) proto hs
  | staticMut outer word => exact step_staticMut_reads (by rwa [hfs, hes]) hs word hk
  | staticName outer word mutWord =>
    exact step_staticName_reads (by rwa [hfs, hes]) hs word mutWord hk
  | staticColon outer word mutWord nameSpan name =>
    exact step_staticColon_reads (by rwa [hfs, hes]) hs word mutWord nameSpan name hk
  | staticInit outer head => exact step_staticInit_reads (by rwa [hfs, hes]) hs head hk
  | bindingMut below word => exact step_bindingMut_reads (by rwa [hes]) hfs hs word hk
  | bindingPattern below word mutWord =>
    exact step_bindingPattern_reads (by rwa [hes]) hfs hs word mutWord hk
  | bindingColon below word mutWord pattern =>
    exact step_bindingColon_reads (by rwa [hes]) hfs hs word mutWord pattern hk
  | bindingInit below word binder =>
    exact step_bindingInit_reads (by rwa [hes]) hfs hs word binder hk
  | type hslot => exact step_type_reads (by rwa [hfs, hes]) hk hs
  | typeClose hslot opening => exact step_typeClose_reads (by rwa [hfs, hes]) opening hk hs
  | statement below =>
    simp only [step, hk] at hs
    exact statementStep_reads (by rwa [hfs, hes]) hfs (fun _ => rfl) (fun _ => by decide) hs
  | operand below =>
    simp only [step, hk] at hs
    exact operandStep_reads (by rwa [hfs, hes]) hs
  | groupOpen below opening => exact step_groupOpen_reads (by rwa [hfs, hes]) hs opening hk
  | pathNext below span name => exact step_pathNext_reads (by rwa [hfs, hes]) hs span name hk
  | argument below => exact step_argument_reads (by rwa [hes]) hfs hk hs
  | returnValue below word => exact step_returnValue_reads (by rwa [hfs, hes]) hs word hk
  | blockOpen below role hrole => exact step_blockOpen_reads (by rwa [hfs]) role hrole hes hk hs
  | afterThen below chain hchain word cond hcond thenBlock hthen =>
    exact step_afterThen_reads below chain hchain hfs hs word cond hcond thenBlock hthen hes hk
  | afterElse below chain hchain link hlink =>
    exact step_afterElse_reads below chain hchain hfs hs link hlink hes hk
  | operator below e hopen hlevel he =>
    simp only [step, hk] at hs
    exact operatorStep_reads ⟨e, _, _, _, rfl, he, hfs ▸ hopen, hfs ▸ below, rfl, hes.symm⟩
      hlevel hs

/-- A step reads its token. -/
theorem step_reads (h : c.Reads ts) (ht : t.lexeme ≠ .eof) (hs : step c t = .ok d) :
    d.Reads (ts ++ [t]) :=
  step_reads_of_waits h rfl rfl rfl ht hs

end MicroRust.Parsing
