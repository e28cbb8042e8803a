import MicroRust.Proofs.Parsing.Stack

/-! What closing a construct does to the phrases of a configuration: the tokens stay, the parts
become one phrase, and the faults of that phrase are noted. -/

namespace MicroRust.Parsing

variable {items : List Item} {fs : List Frame} {ts us : List Token} {es fa : List Recovered}
  {c d : Config} {t : Token} {k : Ending}

theorem Outer.congr (h : Outer items fs ts es) (hts : ts = us) (hes : es = fa) :
    Outer items fs us fa := hts ▸ hes ▸ h

theorem Stack.congr (h : Stack items k fs ts es) (hts : ts = us) (hes : es = fa) :
    Stack items k fs us fa := hts ▸ hes ▸ h

theorem Waits.congr {next : Control} (h : Waits items fs next ts es) (hts : ts = us)
    (hes : es = fa) : Waits items fs next us fa := hts ▸ hes ▸ h

theorem openFor_of_castLevel_lt {n : Nat} (hn : castLevel < n) (fs : List Frame) :
    OpenFor n fs := by
  unfold OpenFor
  split
  · rename_i op _ _
    have hop := op.level_le
    have h9 : castLevel = 9 := rfl
    omega
  · exact hn
  · trivial

theorem Waits.primary (below : Stack items k fs ts es) (e : ExprPhrase) (hlevel : e.tree.level = 11)
    (he : e.tree.Stratified) :
    Waits items fs (.operator e.tree) (ts ++ e.tokens) (es ++ e.faults) :=
  .operator below e (openFor_of_castLevel_lt (by rw [hlevel]; decide) fs)
    (by rw [hlevel]; decide) he

theorem InfixOp.level_tree (op : InfixOp) (lhs rhs : Expr) :
    (op.tree lhs rhs).level = op.level := by
  cases op <;> rfl

theorem InfixOp.stratified_tree {op : InfixOp} {lhs rhs : Expr} (hl : lhs.Stratified)
    (hr : rhs.Stratified) (hlevel : op.level ≤ lhs.level) (hchain : op.level = 3 → lhs.level ≠ 3)
    (hrhs : op.level < rhs.level) : (op.tree lhs rhs).Stratified := by
  cases op with
  | assign => exact (Expr.stratified_assign ..).2 ⟨hrhs, hl, hr⟩
  | binary b =>
    exact (Expr.stratified_binary ..).2
      ⟨(Expr.layered_binary_iff ..).2 ⟨hlevel, hchain, hrhs⟩, hl, hr⟩

theorem recovered_require (c : Config) (role : Capability) (slot : String) (e : Expr) :
    (c.require role slot e).recovered.reverse = c.recovered.reverse ++ roleFault role slot e := by
  unfold Config.require roleFault
  split <;> simp [Config.note]

theorem recovered_requireValue (c : Config) (slot : String) (e : Expr) :
    (c.requireValue slot e).recovered.reverse = c.recovered.reverse ++ valueFault slot e :=
  recovered_require c .value slot e

@[simp] theorem items_require (c : Config) (role : Capability) (slot : String) (e : Expr) :
    (c.require role slot e).items = c.items := by
  unfold Config.require
  split <;> rfl

@[simp] theorem items_requireValue (c : Config) (slot : String) (e : Expr) :
    (c.requireValue slot e).items = c.items := items_require c .value slot e

@[simp] theorem frames_require (c : Config) (role : Capability) (slot : String) (e : Expr) :
    (c.require role slot e).frames = c.frames := by
  unfold Config.require
  split <;> rfl

@[simp] theorem frames_requireValue (c : Config) (slot : String) (e : Expr) :
    (c.requireValue slot e).frames = c.frames := frames_require c .value slot e

/-- An expression that has just been read lies on open constructs. -/
def Config.Holds (c : Config) (fs : List Frame) (e : Expr) (ts : List Token) : Prop :=
  ∃ (p : ExprPhrase) (k : Ending) (us : List Token) (es : List Recovered), p.tree = e ∧
    e.Stratified ∧ OpenFor e.level fs ∧ Stack c.items k fs us es ∧ us ++ p.tokens = ts ∧
    es ++ p.faults = c.recovered.reverse

theorem completeOperation_holds {op : InfixOp} {lhs e : Expr}
    (h : c.Holds (.operation op lhs :: fs) e ts) :
    (completeOperation c op lhs e).1.Holds fs (completeOperation c op lhs e).2 ts ∧
      (completeOperation c op lhs e).2.level = op.level := by
  obtain ⟨p, k, us, es, rfl, hp, hopen, hstack, rfl, hes⟩ := h
  cases hstack with
  | operation below l _ sign hbelow hl hlevel hchain =>
    have htree : (completeOperation c op l.tree p.tree).2 = op.tree l.tree p.tree := by
      cases op <;> rfl
    have hitems : (completeOperation c op l.tree p.tree).1.items = c.items := by
      cases op <;> simp [completeOperation]
    have hrec : (completeOperation c op l.tree p.tree).1.recovered.reverse =
        c.recovered.reverse ++ op.faults l.tree p.tree := by
      cases op <;>
        simp only [completeOperation, recovered_requireValue, recovered_require, InfixOp.faults,
          List.append_assoc]
    rw [htree, InfixOp.level_tree]
    refine ⟨⟨.operation l op sign p, _, _, _, rfl, ?_, ?_, hitems ▸ below, ?_, ?_⟩, rfl⟩
    · exact InfixOp.stratified_tree hl hp hlevel hchain hopen
    · rwa [InfixOp.level_tree]
    · simp [ExprPhrase.tokens]
    · rw [hrec, ← hes]
      simp [ExprPhrase.faults]

theorem completeNegation_holds {start : Position} {op : NegOp} {e : Expr}
    (h : c.Holds (.negation start op :: fs) e ts) :
    (completeNegation c start op e).1.Holds fs (completeNegation c start op e).2 ts := by
  obtain ⟨p, k, us, es, rfl, hp, hopen, hstack, rfl, hes⟩ := h
  cases hstack with
  | negation below _ sign =>
    have hitems : (completeNegation c sign.start op p.tree).1.items = c.items :=
      items_requireValue ..
    refine ⟨.negation op sign p, _, _, _, rfl, ?_, ?_, hitems ▸ below, ?_, ?_⟩
    · exact (Expr.stratified_negation ..).2 ⟨hopen, hp⟩
    · exact openFor_of_castLevel_lt (show 9 < 10 by decide) fs
    · simp [ExprPhrase.tokens]
    · rw [completeNegation, recovered_requireValue, ← hes, List.append_assoc, ExprPhrase.faults]

theorem completeReturn_holds {start : Position} {e : Expr}
    (h : c.Holds (.ret start :: fs) e ts) :
    (completeReturn c start e).1.Holds fs (completeReturn c start e).2 ts := by
  obtain ⟨p, k, us, es, rfl, hp, hopen, hstack, rfl, hes⟩ := h
  cases hstack with
  | ret below word =>
    have hitems : (completeReturn c word.start p.tree).1.items = c.items := items_requireValue ..
    refine ⟨.valueReturn word p, _, _, _, rfl, ?_, ?_, hitems ▸ below, ?_, ?_⟩
    · simpa [completeReturn] using hp
    · exact openFor_of_castLevel_lt (show 9 < 11 by decide) fs
    · simp [ExprPhrase.tokens]
    · rw [completeReturn, recovered_requireValue, ← hes, List.append_assoc, ExprPhrase.faults]

theorem Config.Holds.of_eq {e : Expr} (h : c.Holds fs e ts) (hitems : d.items = c.items)
    (hrec : d.recovered = c.recovered) : d.Holds fs e ts := by
  simpa only [Config.Holds, hitems, hrec] using h

/-- What `closeTighter` leaves may become the left operand of an operator of the given level. -/
theorem closeTighter_holds {level : Nat} (hlevel : level ≤ castLevel) {e e' : Expr}
    (h : c.Holds fs e ts) (he : level ≤ e.level) (hchain : level = 3 → e.level ≠ 3)
    (hs : closeTighter level c fs e = some (d, e')) :
    d.Holds d.frames e' ts ∧ OpenFor level d.frames ∧ level ≤ e'.level ∧
      (level = 3 → e'.level ≠ 3) := by
  induction fs generalizing c e with
  | nil =>
    cases hs
    exact ⟨h.of_eq rfl rfl, trivial, he, hchain⟩
  | cons f fs ih =>
    cases f with
    | operation op lhs =>
      rw [closeTighter] at hs
      split at hs
      · rename_i hop
        cases hs
        exact ⟨h.of_eq rfl rfl, hop, he, hchain⟩
      · rename_i hop
        split at hs
        · cases hs
        · -- The operation becomes the operand that the next one is compared with.
          rename_i hne
          obtain ⟨hc, hl⟩ := completeOperation_holds h
          refine ih hc ?_ ?_ hs
          · omega
          · rintro rfl h3
            exact hne (by simp [← hl, h3])
    | negation start op =>
      rw [closeTighter] at hs
      have h9 : castLevel = 9 := rfl
      refine ih (completeNegation_holds h) ?_ ?_ hs
      · show level ≤ 10
        omega
      · intro _
        show 10 ≠ 3
        decide
    | ret | group | call | ifCondition | whileCondition | elseIf | block | binding | static
    | foreign =>
      cases hs
      exact ⟨h.of_eq rfl rfl, trivial, he, hchain⟩

theorem closeOperand_holds {e : Expr} (h : c.Holds fs e ts) :
    (closeOperand c fs e).1.Holds (closeOperand c fs e).1.frames (closeOperand c fs e).2 ts := by
  induction fs generalizing c e with
  | nil => exact h.of_eq rfl rfl
  | cons f fs ih =>
    cases f with
    | operation op lhs => exact ih (completeOperation_holds h).1
    | negation start op => exact ih (completeNegation_holds h)
    | ret start => exact ih (completeReturn_holds h)
    | group | call | ifCondition | whileCondition | elseIf | block | binding | static | foreign =>
      exact h.of_eq rfl rfl

theorem Stack.closeElseIf_eq (h : Stack items k fs ts es) (e : Expr) :
    closeElseIf fs e = (fs, e) := by
  cases h <;> rfl

namespace Chain

theorem closeElseIf_eq (h : Stack items k fs ts es) (chain : Chain) (e : ExprPhrase) :
    closeElseIf (chain.frames ++ fs) e.tree = (fs, (chain.close e).tree) := by
  induction chain generalizing e with
  | nil => exact h.closeElseIf_eq _
  | cons l chain ih => exact ih (l.close e)

theorem tokens_close (chain : Chain) (e : ExprPhrase) :
    (chain.close e).tokens = chain.tokens ++ e.tokens := by
  induction chain generalizing e with
  | nil => rfl
  | cons l chain ih =>
    show (close chain (l.close e)).tokens = _
    rw [ih]
    simp [tokens, Link.close, Link.tokens, ExprPhrase.tokens]

theorem faults_close (chain : Chain) (e : ExprPhrase) :
    (chain.close e).faults = chain.faults ++ e.faults := by
  induction chain generalizing e with
  | nil => rfl
  | cons l chain ih =>
    show (close chain (l.close e)).faults = _
    rw [ih]
    simp [faults, Link.close, Link.faults, ExprPhrase.faults]

theorem stratified_close {chain : Chain} (hchain : chain.Stratified) {e : ExprPhrase}
    (he : e.tree.Stratified) : (chain.close e).tree.Stratified := by
  induction chain generalizing e with
  | nil => exact he
  | cons l chain ih =>
    obtain ⟨hl, hrest⟩ := List.forall_mem_cons.1 hchain
    apply ih hrest
    simpa [Link.close, ExprPhrase.tree] using ⟨hl.1, hl.2, he⟩

theorem level_close (chain : Chain) {e : ExprPhrase} (he : e.tree.level = 11) :
    (chain.close e).tree.level = 11 := by
  induction chain generalizing e with
  | nil => exact he
  | cons l chain ih => exact ih rfl

end Chain

theorem Outer.frames_eq (h : Outer items fs ts es) :
    fs = [] ∨ ∃ start abi decls, fs = [.foreign start abi decls] := by
  cases h with
  | top => exact .inl rfl
  | foreign => exact .inr ⟨_, _, _, rfl⟩

theorem Outer.addItem (h : Outer items [] ts es) (p : ItemPhrase) (hp : p.Stratified) :
    Outer (p.tree :: items) [] (ts ++ p.tokens) (es ++ p.faults) := by
  cases h with
  | top done hdone =>
    have hnew : ∀ q ∈ done ++ [p], q.Stratified :=
      List.forall_mem_append.2 ⟨hdone, List.forall_mem_singleton.2 hp⟩
    simpa using Outer.top (done ++ [p]) hnew

theorem Outer.addDecl {start : Position} {abi : String} {decls : List ForeignItem}
    (h : Outer items (.foreign start abi decls :: fs) ts es) (d : DeclPhrase)
    (hd : d.Stratified) :
    Outer items (.foreign start abi (d.tree :: decls) :: fs) (ts ++ d.tokens) (es ++ d.faults) := by
  cases h with
  | foreign done hdone f hf =>
    have hnew : ForeignPhrase.Stratified { f with decls := f.decls ++ [d] } :=
      List.forall_mem_append.2 ⟨hf, List.forall_mem_singleton.2 hd⟩
    simpa [ForeignPhrase.tokens, ForeignPhrase.faults] using
      Outer.foreign done hdone { f with decls := f.decls ++ [d] } hnew

theorem Outer.closeForeign {start : Position} {abi : String} {decls : List ForeignItem}
    (h : Outer items (.foreign start abi decls :: fs) ts es) (closing : Span) :
    fs = [] ∧ Outer (.foreign ⟨⟨start, closing.stop⟩, abi, decls.reverse⟩ :: items) []
      (ts ++ [⟨.symbol .rbrace, closing⟩]) es := by
  cases h with
  | foreign done hdone f hf =>
    have hitem := Outer.addItem (.top done hdone) (.foreign f closing) hf
    simp only [ItemPhrase.tree, ItemPhrase.tokens, ItemPhrase.faults] at hitem
    refine ⟨rfl, ?_⟩
    rw [List.reverse_reverse]
    exact hitem.congr (by simp) rfl

theorem Stack.addIdle {start : Position} {role : BlockRole} {stmts : List Stmt}
    (h : Stack items .semicolon (.block start role stmts :: fs) ts es) (semi : Span) :
    Stack items .semicolon (.block start role stmts :: fs) (ts ++ [⟨.symbol .semicolon, semi⟩])
      es := by
  cases h with
  | body outer proto brace s hs =>
    exact (Stack.body outer proto brace (.idle s semi) hs).congr (by simp [StmtsPhrase.tokens]) rfl
  | block below role hrole brace s hs =>
    exact (Stack.block below role hrole brace (.idle s semi) hs).congr
      (by simp [StmtsPhrase.tokens]) rfl
  | thenBlock below chain hchain word cond hcond brace s hs =>
    exact (Stack.thenBlock below chain hchain word cond hcond brace (.idle s semi) hs).congr
      (by simp [StmtsPhrase.tokens]) rfl
  | elseBlock below chain hchain link hlink brace s hs =>
    exact (Stack.elseBlock below chain hchain link hlink brace (.idle s semi) hs).congr
      (by simp [StmtsPhrase.tokens]) rfl

theorem Stack.addStmt {start : Position} {role : BlockRole} {stmts : List Stmt}
    (h : Stack items k (.block start role stmts :: fs) ts es) {ending : Ending}
    (s : StmtPhrase ending) (hs : s.tree.Stratified) :
    Stack items ending (.block start role (s.tree :: stmts) :: fs) (ts ++ s.tokens)
      (es ++ s.faults) := by
  have hsnoc : ∀ {k} (stmts : StmtsPhrase k), (∀ x ∈ stmts.trees, x.Stratified) →
      ∀ x ∈ (stmts.snoc s).trees, x.Stratified := by
    intro k stmts hstmts
    rw [StmtsPhrase.trees]
    exact List.forall_mem_append.2 ⟨hstmts, List.forall_mem_singleton.2 hs⟩
  have htrees : ∀ {k} (stmts : StmtsPhrase k),
      (stmts.snoc s).trees.reverse = s.tree :: stmts.trees.reverse := by
    intro k stmts
    rw [StmtsPhrase.trees, List.reverse_append]
    rfl
  cases h with
  | body outer proto brace stmts hstmts =>
    rw [← htrees]
    exact (Stack.body outer proto brace (.snoc stmts s) (hsnoc _ hstmts)).congr
      (by simp [StmtsPhrase.tokens]) (by simp [StmtsPhrase.faults])
  | block below role hrole brace stmts hstmts =>
    rw [← htrees]
    exact (Stack.block below role hrole brace (.snoc stmts s) (hsnoc _ hstmts)).congr
      (by simp [StmtsPhrase.tokens]) (by simp [StmtsPhrase.faults])
  | thenBlock below chain hchain word cond hcond brace stmts hstmts =>
    rw [← htrees]
    exact (Stack.thenBlock below chain hchain word cond hcond brace (.snoc stmts s)
      (hsnoc _ hstmts)).congr (by simp [StmtsPhrase.tokens]) (by simp [StmtsPhrase.faults])
  | elseBlock below chain hchain link hlink brace stmts hstmts =>
    rw [← htrees]
    exact (Stack.elseBlock below chain hchain link hlink brace (.snoc stmts s)
      (hsnoc _ hstmts)).congr (by simp [StmtsPhrase.tokens]) (by simp [StmtsPhrase.faults])

def closedBlock (brace : Span) (stmts : StmtsPhrase k) (closing : Span) :
    (tail : Option ExprPhrase) → (tail = none → k ≠ .expr) → BlockPhrase
  | none, hk => .plain (hk rfl) brace stmts closing
  | some tail, _ => .tailed brace stmts tail closing

def tailTokens : Option ExprPhrase → List Token
  | none => []
  | some tail => tail.tokens

def tailFaults : Option ExprPhrase → List Recovered
  | none => []
  | some tail => tail.faults ++ valueFault "block tail expression" tail.tree

section

variable (brace closing : Span) (stmts : StmtsPhrase k) (tail : Option ExprPhrase)
  (hk : tail = none → k ≠ .expr)

theorem tokens_closedBlock : (closedBlock brace stmts closing tail hk).tokens =
    ⟨.symbol .lbrace, brace⟩ :: stmts.tokens ++ tailTokens tail ++
      [⟨.symbol .rbrace, closing⟩] := by
  cases tail <;> simp [closedBlock, BlockPhrase.tokens, tailTokens]

theorem faults_closedBlock :
    (closedBlock brace stmts closing tail hk).faults = stmts.faults ++ tailFaults tail := by
  cases tail <;> simp [closedBlock, BlockPhrase.faults, tailFaults]

theorem tree_closedBlock : (closedBlock brace stmts closing tail hk).tree =
    .mk ⟨brace.start, closing.stop⟩ stmts.trees (tail.map ExprPhrase.tree) := by
  cases tail <;> rfl

theorem stratified_closedBlock (hstmts : ∀ s ∈ stmts.trees, s.Stratified)
    (htail : ∀ e ∈ tail, e.tree.Stratified) :
    (closedBlock brace stmts closing tail hk).tree.Stratified := by
  rw [tree_closedBlock, Block.stratified_mk]
  refine ⟨hstmts, ?_⟩
  intro e he
  obtain ⟨p, hp, rfl⟩ := Option.map_eq_some_iff.1 he
  exact htail p hp

end

theorem RolePhrase.closeBlock_eq (role : RolePhrase) (c : Config) (brace closing : Span)
    (stmts : StmtsPhrase k) (tail : Option ExprPhrase) (hk : tail = none → k ≠ .expr)
    (fs : List Frame) :
    ∃ d : Config, closeBlock c brace.start role.role stmts.trees.reverse
        (tail.map ExprPhrase.tree) fs closing =
        d.replace fs (.operator (role.close (closedBlock brace stmts closing tail hk)).tree) ∧
      d.items = c.items ∧ d.recovered.reverse = c.recovered.reverse ++ role.lateFaults := by
  have hb := tree_closedBlock brace closing stmts tail hk
  cases role with
  | whileBody word cond =>
    refine ⟨c.requireValue "while condition" cond.tree, ?_, items_requireValue .., ?_⟩
    · simp [closeBlock, role, close, ExprPhrase.tree, hb]
    · exact recovered_requireValue ..
  | plain | loopBody word | unsafeBody word =>
    refine ⟨c, ?_, rfl, (List.append_nil _).symm⟩
    simp [closeBlock, role, close, ExprPhrase.tree, hb]

section

variable {ending : Ending} {stmts : StmtsPhrase ending} {tail : Option ExprPhrase}
  (hstmts : ∀ s ∈ stmts.trees, s.Stratified) (hk : tail = none → ending ≠ .expr)
  (htail : ∀ e ∈ tail, e.tree.Stratified) (brace closing : Span)
include hstmts hk htail

theorem closeBlock_body_reads (outer : Outer c.items fs ts es) (proto : ProtoPhrase)
    (hes : es ++ stmts.faults ++ tailFaults tail = c.recovered.reverse) :
    (closeBlock c brace.start (.functionBody proto.tree) stmts.trees.reverse
      (tail.map ExprPhrase.tree) fs closing).Reads
        (ts ++ (proto.tokens ++ ⟨.symbol .lbrace, brace⟩ :: stmts.tokens) ++ tailTokens tail ++
          [⟨.symbol .rbrace, closing⟩]) := by
  have hb := stratified_closedBlock brace closing stmts tail hk hstmts htail
  have htree := tree_closedBlock brace closing stmts tail hk
  have htokens := tokens_closedBlock brace closing stmts tail hk
  have hfaults := faults_closedBlock brace closing stmts tail hk
  generalize closedBlock brace stmts closing tail hk = b at hb htree htokens hfaults
  have hspan : b.tree.span = ⟨brace.start, closing.stop⟩ := by rw [htree, Block.span_mk]
  -- In an extern block the body is dropped from the tree, and noted.
  rcases outer.frames_eq with rfl | ⟨start, abi, decls, rfl⟩
  · have hitem := outer.addItem (.function proto b) ((Item.stratified_function _).2 hb)
    rw [ItemPhrase.tree, hspan, htree] at hitem
    simp only [closeBlock, List.reverse_reverse, Config.Reads]
    refine (Waits.item hitem).congr ?_ ?_
    · simp [ItemPhrase.tokens, htokens]
    · simp [ItemPhrase.faults, hfaults, ← hes]
  · have hdecl := outer.addDecl (.function proto b) hb
    simp only [closeBlock, List.reverse_reverse, Config.Reads]
    refine (Waits.foreignItem hdecl).congr ?_ ?_
    · simp [DeclPhrase.tokens, htokens]
    · simp [DeclPhrase.faults, hfaults, hspan, Config.replace, Config.note, ← hes]

/-- The brace ends the conditional and all those that it is an alternative of. -/
theorem closeBlock_elseBranch_reads (below : Stack c.items k fs ts es) (chain : Chain)
    (hchain : chain.Stratified) (link : Link) (hlink : link.Stratified)
    (hes : es ++ (chain.faults ++ link.faults ++ stmts.faults) ++ tailFaults tail =
      c.recovered.reverse) :
    (closeBlock c brace.start
      (.elseBranch link.word.start link.cond.tree link.thenBlock.tree) stmts.trees.reverse
      (tail.map ExprPhrase.tree) (chain.frames ++ fs) closing).Reads
        (ts ++ (chain.tokens ++ link.tokens ++ ⟨.symbol .lbrace, brace⟩ :: stmts.tokens) ++
          tailTokens tail ++ [⟨.symbol .rbrace, closing⟩]) := by
  have hb := stratified_closedBlock brace closing stmts tail hk hstmts htail
  let branch := link.close (.block (closedBlock brace stmts closing tail hk))
  have hbranch : completeIf link.word.start link.cond.tree link.thenBlock.tree
      (.block (.mk ⟨brace.start, closing.stop⟩ stmts.trees (tail.map ExprPhrase.tree))) =
      branch.tree := by
    rw [← tree_closedBlock]
    rfl
  have hstrat : branch.tree.Stratified := by
    simpa [branch, Link.close, ExprPhrase.tree] using ⟨hlink.1, hlink.2, hb⟩
  have hwaits := Waits.primary below (chain.close branch) (Chain.level_close chain rfl)
    (Chain.stratified_close hchain hstrat)
  simp only [closeBlock, List.reverse_reverse, hbranch, chain.closeElseIf_eq below, Config.Reads,
    Config.replace]
  refine hwaits.congr ?_ ?_
  · simp [chain.tokens_close, branch, Link.close, Link.tokens, ExprPhrase.tokens,
      tokens_closedBlock]
  · simp [chain.faults_close, branch, Link.close, Link.faults, ExprPhrase.faults,
      faults_closedBlock, ← hes]

end

theorem closeBlock_reads {start : Position} {role : BlockRole} {stmts : List Stmt}
    (h : Stack c.items k (.block start role stmts :: fs) ts es) (tail : Option ExprPhrase)
    (hk : tail = none → k ≠ .expr) (htail : ∀ e ∈ tail, e.tree.Stratified)
    (hes : es ++ tailFaults tail = c.recovered.reverse) (closing : Span) :
    (closeBlock c start role stmts (tail.map ExprPhrase.tree) fs closing).Reads
      (ts ++ tailTokens tail ++ [⟨.symbol .rbrace, closing⟩]) := by
  cases h with
  | body outer proto brace stmts hstmts =>
    exact closeBlock_body_reads hstmts hk htail brace closing outer proto hes
  | block below role hrole brace stmts hstmts =>
    obtain ⟨d, hd, hitems, hrec⟩ := role.closeBlock_eq c brace closing stmts tail hk fs
    rw [hd]
    have hb := stratified_closedBlock brace closing stmts tail hk hstmts htail
    refine (Waits.primary (hitems ▸ below) (role.close (closedBlock brace stmts closing tail hk))
      (role.level_close _) (RolePhrase.stratified_close hrole hb)).congr ?_ ?_
    · simp [RolePhrase.tokens_close, tokens_closedBlock]
    · show _ = d.recovered.reverse
      rw [hrec, ← hes]
      simp [RolePhrase.faults_close, faults_closedBlock]
  | thenBlock below chain hchain word cond hcond brace stmts hstmts =>
    have hb := stratified_closedBlock brace closing stmts tail hk hstmts htail
    have hwaits := Waits.afterThen below chain hchain word cond hcond _ hb
    rw [tree_closedBlock] at hwaits
    simp only [closeBlock, List.reverse_reverse, Config.Reads, Config.replace, items_requireValue,
      recovered_requireValue]
    refine hwaits.congr ?_ ?_
    · simp [ExprPhrase.tokens, tokens_closedBlock]
    · simp [ExprPhrase.faults, faults_closedBlock, ← hes]
  | elseBlock below chain hchain link hlink brace stmts hstmts =>
    exact closeBlock_elseBranch_reads hstmts hk htail brace closing below chain hchain link hlink
      hes

theorem closeStatic_reads (head : StaticHeadPhrase) (init : Option (Span × ExprPhrase))
    (hinit : ∀ p ∈ init, p.2.tree.Stratified) (closing : Span) (outer : Outer c.items fs ts es)
    (hes : es ++ (StaticPhrase.mk head init closing).initFaults = c.recovered.reverse) :
    (closeStatic c head.staticHead (init.map (·.2.tree)) fs closing).Reads
      (ts ++ (StaticPhrase.mk head init closing).tokens) := by
  have hstrat : ∀ e ∈ init.map (·.2.tree), e.Stratified := by
    intro e he
    obtain ⟨p, hp, rfl⟩ := Option.map_eq_some_iff.1 he
    exact hinit p hp
  rcases outer.frames_eq with rfl | ⟨start, abi, decls, rfl⟩
  · have hitem := outer.addItem (.static ⟨head, init, closing⟩)
      ((Item.stratified_static _).2 hstrat)
    rw [ItemPhrase.faults, StaticPhrase.faults, ← List.append_assoc, hes] at hitem
    cases init with
    | none => exact (Waits.item hitem).congr rfl (List.reverse_cons ..).symm
    | some p => exact (Waits.item hitem).congr rfl (List.append_nil _)
  · have hdecl := outer.addDecl (.static ⟨head, init, closing⟩)
      ((ForeignItem.stratified_static _).2 hstrat)
    rw [DeclPhrase.faults, StaticPhrase.foreignFaults, ← List.append_assoc, hes] at hdecl
    cases init with
    | none => exact (Waits.foreignItem hdecl).congr rfl (List.append_nil _)
    | some p => exact (Waits.foreignItem hdecl).congr rfl (List.reverse_cons ..).symm

theorem closeType_reads {slot : TypeSlot} (h : TypeWaits c.items fs slot ts es)
    (hfs : c.frames = fs) (hes : c.recovered.reverse = es) (type : TypePhrase) :
    (closeType c slot type.tree).Reads (ts ++ type.tokens) := by
  cases h with
  | param outer head mutWord pattern colon =>
    have hw := Waits.paramNext outer head ⟨mutWord, pattern, colon, type⟩
    rw [← hfs, ← hes] at hw
    exact hw.congr (by simp [BinderPhrase.tokens]) rfl
  | result outer proto hproto arrow =>
    have hw := Waits.body outer { proto with result := some (arrow, type) }
    rw [← hfs, ← hes] at hw
    have htree : (ProtoPhrase.tree { proto with result := some (arrow, type) }) =
        ⟨⟨proto.functionHead.start, type.tree.span.stop⟩, proto.functionHead.name,
          proto.functionHead.params.reverse, type.tree⟩ := by
      simp [ProtoPhrase.tree, ProtoPhrase.resultType, ProtoPhrase.functionHead, ProtoPhrase.params]
    rw [htree] at hw
    exact hw.congr (by simp [ProtoPhrase.tokens, ProtoPhrase.frontTokens, hproto]) rfl
  | static outer word mutWord nameSpan name colon =>
    have hw := Waits.staticInit outer ⟨word, mutWord, nameSpan, name, colon, type⟩
    rw [← hfs, ← hes] at hw
    exact hw.congr (by simp [StaticHeadPhrase.tokens]) rfl
  | binding below word mutWord pattern colon =>
    have hw := Waits.bindingInit below word ⟨mutWord, pattern, colon, type⟩
    rw [← hfs, ← hes] at hw
    exact hw.congr (by simp [BinderPhrase.tokens]) rfl
  | cast below operand hopen hlevel hoperand word =>
    have hw := Waits.operator below (.cast operand word type) hopen (Nat.le_refl _)
      ((Expr.stratified_cast ..).2 ⟨hlevel, hoperand⟩)
    simp only [closeType, Config.Reads, Config.expect, items_requireValue, frames_requireValue,
      recovered_requireValue, hfs, hes]
    exact hw.congr (by simp [ExprPhrase.tokens]) (by simp [ExprPhrase.faults])

end MicroRust.Parsing
