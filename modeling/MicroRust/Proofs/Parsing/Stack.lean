import MicroRust.Parsing.Step
import MicroRust.Proofs.Tree.Phrase

/-! What a configuration of the parser has read.

The open constructs and what the parser waits for stand for the tokens taken so far, and the noted
errors are the faults of the phrases that those tokens make up. An expression is held only where its
level allows it. -/

namespace MicroRust

open Parsing

def DeclPhrase.Stratified : DeclPhrase → Prop
  | .function _ body => body.tree.Stratified
  | d => d.tree.Stratified

def ForeignPhrase.Stratified (f : ForeignPhrase) : Prop := ∀ d ∈ f.decls, d.Stratified

def ItemPhrase.Stratified : ItemPhrase → Prop
  | .foreign block _ => block.Stratified
  | p => p.tree.Stratified

theorem DeclPhrase.Stratified.tree {d : DeclPhrase} (h : d.Stratified) : d.tree.Stratified := by
  cases d with
  | prototype proto semi => exact h
  | function proto body => exact ForeignItem.stratified_prototype _
  | static decl => exact h

theorem ItemPhrase.Stratified.tree {p : ItemPhrase} (h : p.Stratified) : p.tree.Stratified := by
  cases p with
  | function proto body => exact h
  | static decl => exact h
  | foreign block closing =>
    exact (Item.stratified_foreign _).2 (List.forall_mem_map.2 fun d hd => (h d hd).tree)

def HeadPhrase.functionHead (h : HeadPhrase) : FunctionHead :=
  ⟨h.word.start, h.name, (h.params.map (·.1.param)).reverse⟩

def ProtoPhrase.functionHead (p : ProtoPhrase) : FunctionHead :=
  ⟨p.head.word.start, p.head.name, p.params.reverse⟩

def StaticHeadPhrase.staticHead (h : StaticHeadPhrase) : StaticHead :=
  ⟨h.word.start, h.mutWord.isSome, h.name, h.type.tree⟩

end MicroRust

namespace MicroRust.Parsing

/-- The tokens before a block that is no branch and no body of a function. -/
inductive RolePhrase where
  | plain
  | loopBody (word : Span)
  | whileBody (word : Span) (cond : ExprPhrase)
  | unsafeBody (word : Span)

namespace RolePhrase

def role : RolePhrase → BlockRole
  | .plain => .plain
  | .loopBody word => .loopBody word.start
  | .whileBody word cond => .whileBody word.start cond.tree
  | .unsafeBody word => .unsafeBody word.start

def tokens : RolePhrase → List Token
  | .plain => []
  | .loopBody word => [⟨.keyword .loopWord, word⟩]
  | .whileBody word cond => ⟨.keyword .whileWord, word⟩ :: cond.tokens
  | .unsafeBody word => [⟨.keyword .unsafeWord, word⟩]

def faults : RolePhrase → List Recovered
  | .whileBody _ cond => cond.faults
  | _ => []

def lateFaults : RolePhrase → List Recovered
  | .whileBody _ cond => valueFault "while condition" cond.tree
  | _ => []

def Stratified : RolePhrase → Prop
  | .whileBody _ cond => cond.tree.Stratified
  | _ => True

def close (body : BlockPhrase) : RolePhrase → ExprPhrase
  | .plain => .block body
  | .loopBody word => .loop word body
  | .whileBody word cond => .whileLoop word cond body
  | .unsafeBody word => .unsafeBlock word body

theorem tokens_close (r : RolePhrase) (body : BlockPhrase) :
    (r.close body).tokens = r.tokens ++ body.tokens := by
  cases r <;> rfl

theorem faults_close (r : RolePhrase) (body : BlockPhrase) :
    (r.close body).faults = r.faults ++ body.faults ++ r.lateFaults := by
  cases r <;> simp [close, faults, lateFaults, ExprPhrase.faults]

theorem stratified_close {r : RolePhrase} {body : BlockPhrase} (hr : r.Stratified)
    (hb : body.tree.Stratified) : (r.close body).tree.Stratified := by
  cases r <;> simp_all [close, ExprPhrase.tree, Stratified]

theorem level_close (r : RolePhrase) (body : BlockPhrase) : (r.close body).tree.level = 11 := by
  cases r <;> rfl

end RolePhrase

structure Link where
  word : Span
  cond : ExprPhrase
  thenBlock : BlockPhrase
  elseWord : Span

namespace Link

def frame (l : Link) : Frame := .elseIf l.word.start l.cond.tree l.thenBlock.tree

def tokens (l : Link) : List Token :=
  ⟨.keyword .ifWord, l.word⟩ :: l.cond.tokens ++ l.thenBlock.tokens ++
    [⟨.keyword .elseWord, l.elseWord⟩]

def faults (l : Link) : List Recovered :=
  l.cond.faults ++ l.thenBlock.faults ++ valueFault "if condition" l.cond.tree

def Stratified (l : Link) : Prop := l.cond.tree.Stratified ∧ l.thenBlock.tree.Stratified

def close (l : Link) (alternative : ExprPhrase) : ExprPhrase :=
  .conditionalElse l.word l.cond l.thenBlock l.elseWord alternative

end Link

abbrev Chain := List Link

namespace Chain

def frames (chain : Chain) : List Frame := chain.map Link.frame

def tokens (chain : Chain) : List Token := chain.reverse.flatMap Link.tokens

def faults (chain : Chain) : List Recovered := chain.reverse.flatMap Link.faults

def Stratified (chain : Chain) : Prop := ∀ l ∈ chain, l.Stratified

def close (chain : Chain) (alternative : ExprPhrase) : ExprPhrase :=
  chain.foldl (fun e l => l.close e) alternative

end Chain

/-- Whole items have been read, and perhaps a part of an extern block. -/
inductive Outer : List Item → List Frame → List Token → List Recovered → Prop where
  | top (done : List ItemPhrase) (hdone : ∀ p ∈ done, p.Stratified) :
    Outer (done.map ItemPhrase.tree).reverse [] (done.flatMap ItemPhrase.tokens)
      (done.flatMap ItemPhrase.faults)
  | foreign (done : List ItemPhrase) (hdone : ∀ p ∈ done, p.Stratified) (f : ForeignPhrase)
      (hf : f.Stratified) :
    Outer (done.map ItemPhrase.tree).reverse
      [.foreign f.word.start f.abi (f.decls.map DeclPhrase.tree).reverse]
      (done.flatMap ItemPhrase.tokens ++ f.tokens) (done.flatMap ItemPhrase.faults ++ f.faults)

def OpenFor (level : Nat) : List Frame → Prop
  | .operation op _ :: _ => op.level < level
  | .negation _ _ :: _ => castLevel < level
  | _ => True

def bindingHead (word : Span) (b : BinderPhrase) : BindingHead :=
  ⟨word.start, b.mutWord.isSome, b.pattern, b.type.tree⟩

/-- The open constructs, of which the innermost waits for an expression or a statement. For a block,
the index tells how its last statement ends. -/
inductive Stack (items : List Item) :
    Ending → List Frame → List Token → List Recovered → Prop where
  | body {fs ts es} (outer : Outer items fs ts es) (proto : ProtoPhrase) (brace : Span)
      {ending : Ending} (stmts : StmtsPhrase ending) (hstmts : ∀ s ∈ stmts.trees, s.Stratified) :
    Stack items ending (.block brace.start (.functionBody proto.tree) stmts.trees.reverse :: fs)
      (ts ++ (proto.tokens ++ ⟨.symbol .lbrace, brace⟩ :: stmts.tokens)) (es ++ stmts.faults)
  | static {fs ts es} (outer : Outer items fs ts es) (head : StaticHeadPhrase) (sign : Span) :
    Stack items .semicolon (.static head.staticHead :: fs)
      (ts ++ (head.tokens ++ [⟨.symbol .assign, sign⟩])) es
  | operation {k fs ts es} (below : Stack items k fs ts es) (lhs : ExprPhrase) (op : InfixOp)
      (sign : Span) (hopen : OpenFor op.level fs) (hlhs : lhs.tree.Stratified)
      (hlevel : op.level ≤ lhs.tree.level) (hchain : op.level = 3 → lhs.tree.level ≠ 3) :
    Stack items .semicolon (.operation op lhs.tree :: fs)
      (ts ++ (lhs.tokens ++ [⟨.symbol op.symbol, sign⟩])) (es ++ lhs.faults)
  | negation {k fs ts es} (below : Stack items k fs ts es) (op : NegOp) (sign : Span) :
    Stack items .semicolon (.negation sign.start op :: fs) (ts ++ [⟨.symbol op.symbol, sign⟩]) es
  | ret {k fs ts es} (below : Stack items k fs ts es) (word : Span) :
    Stack items .semicolon (.ret word.start :: fs) (ts ++ [⟨.keyword .returnWord, word⟩]) es
  | group {k fs ts es} (below : Stack items k fs ts es) (opening : Span) :
    Stack items .semicolon (.group opening.start :: fs) (ts ++ [⟨.symbol .lparen, opening⟩]) es
  | call {k fs ts es} (below : Stack items k fs ts es) (calleeSpan : Span) (callee : String)
      (opening : Span) (args : ArgsPhrase) (hargs : ∀ e ∈ args.trees, e.Stratified) :
    Stack items .semicolon (.call calleeSpan callee args.trees.reverse :: fs)
      (ts ++ (⟨.identifier callee, calleeSpan⟩ :: ⟨.symbol .lparen, opening⟩ :: args.tokens))
      (es ++ args.faults)
  | whileCondition {k fs ts es} (below : Stack items k fs ts es) (word : Span) :
    Stack items .semicolon (.whileCondition word.start :: fs)
      (ts ++ [⟨.keyword .whileWord, word⟩]) es
  | ifCondition {k fs ts es} (below : Stack items k fs ts es) (chain : Chain)
      (hchain : chain.Stratified) (word : Span) :
    Stack items .semicolon (.ifCondition word.start :: (chain.frames ++ fs))
      (ts ++ (chain.tokens ++ [⟨.keyword .ifWord, word⟩])) (es ++ chain.faults)
  | block {k fs ts es} (below : Stack items k fs ts es) (role : RolePhrase)
      (hrole : role.Stratified) (brace : Span) {ending : Ending} (stmts : StmtsPhrase ending)
      (hstmts : ∀ s ∈ stmts.trees, s.Stratified) :
    Stack items ending (.block brace.start role.role stmts.trees.reverse :: fs)
      (ts ++ (role.tokens ++ ⟨.symbol .lbrace, brace⟩ :: stmts.tokens))
      (es ++ (role.faults ++ stmts.faults))
  | thenBlock {k fs ts es} (below : Stack items k fs ts es) (chain : Chain)
      (hchain : chain.Stratified) (word : Span) (cond : ExprPhrase)
      (hcond : cond.tree.Stratified) (brace : Span) {ending : Ending} (stmts : StmtsPhrase ending)
      (hstmts : ∀ s ∈ stmts.trees, s.Stratified) :
    Stack items ending
      (.block brace.start (.thenBranch word.start cond.tree) stmts.trees.reverse ::
        (chain.frames ++ fs))
      (ts ++ (chain.tokens ++ ⟨.keyword .ifWord, word⟩ :: cond.tokens ++
        ⟨.symbol .lbrace, brace⟩ :: stmts.tokens))
      (es ++ (chain.faults ++ cond.faults ++ stmts.faults))
  | elseBlock {k fs ts es} (below : Stack items k fs ts es) (chain : Chain)
      (hchain : chain.Stratified) (link : Link) (hlink : link.Stratified) (brace : Span)
      {ending : Ending} (stmts : StmtsPhrase ending) (hstmts : ∀ s ∈ stmts.trees, s.Stratified) :
    Stack items ending
      (.block brace.start (.elseBranch link.word.start link.cond.tree link.thenBlock.tree)
        stmts.trees.reverse :: (chain.frames ++ fs))
      (ts ++ (chain.tokens ++ link.tokens ++ ⟨.symbol .lbrace, brace⟩ :: stmts.tokens))
      (es ++ (chain.faults ++ link.faults ++ stmts.faults))
  | binding {k start role stmts fs ts es}
      (below : Stack items k (.block start role stmts :: fs) ts es) (word : Span)
      (binder : BinderPhrase) (sign : Span) :
    Stack items .semicolon (.binding (bindingHead word binder) :: .block start role stmts :: fs)
      (ts ++ (⟨.keyword .letWord, word⟩ :: binder.tokens ++ [⟨.symbol .assign, sign⟩])) es

/-- The parser waits for a type. -/
inductive TypeWaits (items : List Item) :
    List Frame → TypeSlot → List Token → List Recovered → Prop where
  | param {fs ts es} (outer : Outer items fs ts es) (head : HeadPhrase) (mutWord : Option Span)
      (pattern : Pattern) (colon : Span) :
    TypeWaits items fs
      (.param head.functionHead (mutWord.getD pattern.span).start mutWord.isSome pattern)
      (ts ++ (head.tokens ++ optionalToken (.keyword .mutWord) mutWord ++
        [pattern.token, ⟨.symbol .colon, colon⟩])) es
  | result {fs ts es} (outer : Outer items fs ts es) (proto : ProtoPhrase)
      (hproto : proto.result = none) (arrow : Span) :
    TypeWaits items fs (.result proto.functionHead)
      (ts ++ (proto.tokens ++ [⟨.symbol .arrow, arrow⟩])) es
  | static {fs ts es} (outer : Outer items fs ts es) (word : Span) (mutWord : Option Span)
      (nameSpan : Span) (name : String) (colon : Span) :
    TypeWaits items fs (.static word.start mutWord.isSome name)
      (ts ++ (⟨.keyword .staticWord, word⟩ :: optionalToken (.keyword .mutWord) mutWord ++
        [⟨.identifier name, nameSpan⟩, ⟨.symbol .colon, colon⟩])) es
  | binding {k start role stmts fs ts es}
      (below : Stack items k (.block start role stmts :: fs) ts es) (word : Span)
      (mutWord : Option Span) (pattern : Pattern) (colon : Span) :
    TypeWaits items (.block start role stmts :: fs) (.binding word.start mutWord.isSome pattern)
      (ts ++ (⟨.keyword .letWord, word⟩ :: optionalToken (.keyword .mutWord) mutWord ++
        [pattern.token, ⟨.symbol .colon, colon⟩])) es
  | cast {k fs ts es} (below : Stack items k fs ts es) (operand : ExprPhrase)
      (hopen : OpenFor castLevel fs) (hlevel : castLevel ≤ operand.tree.level)
      (hoperand : operand.tree.Stratified) (word : Span) :
    TypeWaits items fs (.cast operand.tree)
      (ts ++ (operand.tokens ++ [⟨.keyword .asWord, word⟩])) (es ++ operand.faults)

/-- The parser, in a state with the given open constructs, waits for something. -/
inductive Waits (items : List Item) :
    List Frame → Control → List Token → List Recovered → Prop where
  | item {ts es} (outer : Outer items [] ts es) : Waits items [] .item ts es
  | foreignItem {f fs ts es} (outer : Outer items (f :: fs) ts es) :
    Waits items (f :: fs) .foreignItem ts es
  | abi {ts es} (outer : Outer items [] ts es) (word : Span) :
    Waits items [] (.abi word.start) (ts ++ [⟨.keyword .externWord, word⟩]) es
  | foreignOpen {ts es} (outer : Outer items [] ts es) (word abiSpan : Span) (abi : String) :
    Waits items [] (.foreignOpen word.start abi)
      (ts ++ [⟨.keyword .externWord, word⟩, ⟨.abi abi, abiSpan⟩]) (es ++ abiFault abiSpan abi)
  | functionName {fs ts es} (outer : Outer items fs ts es) (word : Span) :
    Waits items fs (.functionName word.start) (ts ++ [⟨.keyword .fnWord, word⟩]) es
  | paramsOpen {fs ts es} (outer : Outer items fs ts es) (word nameSpan : Span) (name : String) :
    Waits items fs (.paramsOpen word.start name)
      (ts ++ [⟨.keyword .fnWord, word⟩, ⟨.identifier name, nameSpan⟩]) es
  | param {fs ts es} (outer : Outer items fs ts es) (head : HeadPhrase) :
    Waits items fs (.param head.functionHead) (ts ++ head.tokens) es
  | paramPattern {fs ts es} (outer : Outer items fs ts es) (head : HeadPhrase) (mutWord : Span) :
    Waits items fs (.paramPattern head.functionHead mutWord.start)
      (ts ++ (head.tokens ++ [⟨.keyword .mutWord, mutWord⟩])) es
  | paramColon {fs ts es} (outer : Outer items fs ts es) (head : HeadPhrase)
      (mutWord : Option Span) (pattern : Pattern) :
    Waits items fs
      (.paramColon head.functionHead (mutWord.getD pattern.span).start mutWord.isSome pattern)
      (ts ++ (head.tokens ++ optionalToken (.keyword .mutWord) mutWord ++ [pattern.token])) es
  | paramNext {fs ts es} (outer : Outer items fs ts es) (head : HeadPhrase)
      (binder : BinderPhrase) :
    Waits items fs
      (.paramNext ⟨head.word.start, head.name, binder.param :: head.functionHead.params⟩)
      (ts ++ (head.tokens ++ binder.tokens)) es
  | result {fs ts es} (outer : Outer items fs ts es) (proto : ProtoPhrase)
      (hproto : proto.result = none) :
    Waits items fs (.result proto.functionHead proto.closing.stop)
      (ts ++ proto.tokens) es
  | body {fs ts es} (outer : Outer items fs ts es) (proto : ProtoPhrase) :
    Waits items fs (.body proto.tree) (ts ++ proto.tokens) es
  | staticMut {fs ts es} (outer : Outer items fs ts es) (word : Span) :
    Waits items fs (.staticMut word.start) (ts ++ [⟨.keyword .staticWord, word⟩]) es
  | staticName {fs ts es} (outer : Outer items fs ts es) (word mutWord : Span) :
    Waits items fs (.staticName word.start true)
      (ts ++ [⟨.keyword .staticWord, word⟩, ⟨.keyword .mutWord, mutWord⟩]) es
  | staticColon {fs ts es} (outer : Outer items fs ts es) (word : Span) (mutWord : Option Span)
      (nameSpan : Span) (name : String) :
    Waits items fs (.staticColon word.start mutWord.isSome name)
      (ts ++ (⟨.keyword .staticWord, word⟩ :: optionalToken (.keyword .mutWord) mutWord ++
        [⟨.identifier name, nameSpan⟩])) es
  | staticInit {fs ts es} (outer : Outer items fs ts es) (head : StaticHeadPhrase) :
    Waits items fs (.staticInit head.staticHead) (ts ++ head.tokens) es
  | bindingMut {k start role stmts fs ts es}
      (below : Stack items k (.block start role stmts :: fs) ts es) (word : Span) :
    Waits items (.block start role stmts :: fs) (.bindingMut word.start)
      (ts ++ [⟨.keyword .letWord, word⟩]) es
  | bindingPattern {k start role stmts fs ts es}
      (below : Stack items k (.block start role stmts :: fs) ts es) (word mutWord : Span) :
    Waits items (.block start role stmts :: fs) (.bindingPattern word.start true)
      (ts ++ [⟨.keyword .letWord, word⟩, ⟨.keyword .mutWord, mutWord⟩]) es
  | bindingColon {k start role stmts fs ts es}
      (below : Stack items k (.block start role stmts :: fs) ts es) (word : Span)
      (mutWord : Option Span) (pattern : Pattern) :
    Waits items (.block start role stmts :: fs) (.bindingColon word.start mutWord.isSome pattern)
      (ts ++ (⟨.keyword .letWord, word⟩ :: optionalToken (.keyword .mutWord) mutWord ++
        [pattern.token])) es
  | bindingInit {k start role stmts fs ts es}
      (below : Stack items k (.block start role stmts :: fs) ts es) (word : Span)
      (binder : BinderPhrase) :
    Waits items (.block start role stmts :: fs) (.bindingInit (bindingHead word binder))
      (ts ++ ⟨.keyword .letWord, word⟩ :: binder.tokens) es
  | type {fs slot ts es} (hslot : TypeWaits items fs slot ts es) :
    Waits items fs (.type slot) ts es
  | typeClose {fs slot ts es} (hslot : TypeWaits items fs slot ts es) (opening : Span) :
    Waits items fs (.typeClose opening.start slot) (ts ++ [⟨.symbol .lparen, opening⟩]) es
  | statement {start role stmts fs ts es}
      (below : Stack items .semicolon (.block start role stmts :: fs) ts es) :
    Waits items (.block start role stmts :: fs) .statement ts es
  | operand {k fs ts es} (below : Stack items k fs ts es) : Waits items fs .operand ts es
  | groupOpen {k fs ts es} (below : Stack items k fs ts es) (opening : Span) :
    Waits items fs (.groupOpen opening.start) (ts ++ [⟨.symbol .lparen, opening⟩]) es
  | pathNext {k fs ts es} (below : Stack items k fs ts es) (span : Span) (name : String) :
    Waits items fs (.pathNext span name) (ts ++ [⟨.identifier name, span⟩]) es
  | argument {k calleeSpan callee args fs ts es}
      (below : Stack items k (.call calleeSpan callee args :: fs) ts es) :
    Waits items (.call calleeSpan callee args :: fs) .argument ts es
  | returnValue {k fs ts es} (below : Stack items k fs ts es) (word : Span) :
    Waits items fs (.returnValue word) (ts ++ [⟨.keyword .returnWord, word⟩]) es
  | blockOpen {k fs ts es} (below : Stack items k fs ts es) (role : RolePhrase)
      (hrole : role.Stratified) :
    Waits items fs (.blockOpen role.role) (ts ++ role.tokens) (es ++ role.faults)
  | afterThen {k fs ts es} (below : Stack items k fs ts es) (chain : Chain)
      (hchain : chain.Stratified) (word : Span) (cond : ExprPhrase)
      (hcond : cond.tree.Stratified) (thenBlock : BlockPhrase) (hthen : thenBlock.tree.Stratified) :
    Waits items (chain.frames ++ fs) (.afterThen word.start cond.tree thenBlock.tree)
      (ts ++ (chain.tokens ++ (ExprPhrase.conditional word cond thenBlock).tokens))
      (es ++ (chain.faults ++ (ExprPhrase.conditional word cond thenBlock).faults))
  | afterElse {k fs ts es} (below : Stack items k fs ts es) (chain : Chain)
      (hchain : chain.Stratified) (link : Link) (hlink : link.Stratified) :
    Waits items (chain.frames ++ fs)
      (.afterElse link.word.start link.cond.tree link.thenBlock.tree)
      (ts ++ (chain.tokens ++ link.tokens)) (es ++ (chain.faults ++ link.faults))
  | operator {k fs ts es} (below : Stack items k fs ts es) (e : ExprPhrase)
      (hopen : OpenFor e.tree.level fs) (hlevel : castLevel ≤ e.tree.level)
      (he : e.tree.Stratified) :
    Waits items fs (.operator e.tree) (ts ++ e.tokens) (es ++ e.faults)

/-- The configuration has read the given tokens. -/
def Config.Reads (c : Config) (ts : List Token) : Prop :=
  Waits c.items c.frames c.control ts c.recovered.reverse

theorem reads_initial : Config.initial.Reads [] :=
  .item (.top [] (by simp))

end MicroRust.Parsing
