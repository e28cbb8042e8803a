import MicroRust.Proofs.Parsing.Steps
import MicroRust.Proofs.Tree.Relocation

/-! The parser does not look at places: tokens with their places moved give the same parse, with its
places moved. -/

namespace MicroRust.Parsing

variable (f : Position → Position)

def BlockRole.relocate : BlockRole → BlockRole
  | .plain => .plain
  | .loopBody start => .loopBody (f start)
  | .whileBody start cond => .whileBody (f start) (cond.relocate f)
  | .thenBranch start cond => .thenBranch (f start) (cond.relocate f)
  | .elseBranch start cond thenBlock =>
    .elseBranch (f start) (cond.relocate f) (thenBlock.relocate f)
  | .unsafeBody start => .unsafeBody (f start)
  | .functionBody proto => .functionBody (proto.relocate f)

def BindingHead.relocate (h : BindingHead) : BindingHead :=
  ⟨f h.start, h.mutable, h.pattern.relocate f, h.type.relocate f⟩

def StaticHead.relocate (h : StaticHead) : StaticHead :=
  ⟨f h.start, h.mutable, h.name, h.type.relocate f⟩

def FunctionHead.relocate (h : FunctionHead) : FunctionHead :=
  ⟨f h.start, h.name, h.params.map (Param.relocate f)⟩

def Frame.relocate : Frame → Frame
  | .operation op lhs => .operation op (lhs.relocate f)
  | .negation start op => .negation (f start) op
  | .ret start => .ret (f start)
  | .group start => .group (f start)
  | .call calleeSpan callee args =>
    .call (calleeSpan.relocate f) callee (args.map (Expr.relocate f))
  | .ifCondition start => .ifCondition (f start)
  | .whileCondition start => .whileCondition (f start)
  | .elseIf start cond thenBlock => .elseIf (f start) (cond.relocate f) (thenBlock.relocate f)
  | .block start role stmts => .block (f start) (role.relocate f) (stmts.map (Stmt.relocate f))
  | .binding head => .binding (head.relocate f)
  | .static head => .static (head.relocate f)
  | .foreign start abi items => .foreign (f start) abi (items.map (ForeignItem.relocate f))

def TypeSlot.relocate : TypeSlot → TypeSlot
  | .param head start mutable pattern =>
    .param (head.relocate f) (f start) mutable (pattern.relocate f)
  | .result head => .result (head.relocate f)
  | .binding start mutable pattern => .binding (f start) mutable (pattern.relocate f)
  | .static start mutable name => .static (f start) mutable name
  | .cast operand => .cast (operand.relocate f)

def Control.relocate : Control → Control
  | .item => .item
  | .foreignItem => .foreignItem
  | .abi start => .abi (f start)
  | .foreignOpen start name => .foreignOpen (f start) name
  | .functionName start => .functionName (f start)
  | .paramsOpen start name => .paramsOpen (f start) name
  | .param head => .param (head.relocate f)
  | .paramPattern head start => .paramPattern (head.relocate f) (f start)
  | .paramColon head start mutable pattern =>
    .paramColon (head.relocate f) (f start) mutable (pattern.relocate f)
  | .paramNext head => .paramNext (head.relocate f)
  | .result head stop => .result (head.relocate f) (f stop)
  | .body proto => .body (proto.relocate f)
  | .staticMut start => .staticMut (f start)
  | .staticName start mutable => .staticName (f start) mutable
  | .staticColon start mutable name => .staticColon (f start) mutable name
  | .staticInit head => .staticInit (head.relocate f)
  | .bindingMut start => .bindingMut (f start)
  | .bindingPattern start mutable => .bindingPattern (f start) mutable
  | .bindingColon start mutable pattern => .bindingColon (f start) mutable (pattern.relocate f)
  | .bindingInit head => .bindingInit (head.relocate f)
  | .type slot => .type (slot.relocate f)
  | .typeClose start slot => .typeClose (f start) (slot.relocate f)
  | .statement => .statement
  | .operand => .operand
  | .groupOpen start => .groupOpen (f start)
  | .pathNext span name => .pathNext (span.relocate f) name
  | .argument => .argument
  | .returnValue span => .returnValue (span.relocate f)
  | .blockOpen role => .blockOpen (role.relocate f)
  | .afterThen start cond thenBlock =>
    .afterThen (f start) (cond.relocate f) (thenBlock.relocate f)
  | .afterElse start cond thenBlock =>
    .afterElse (f start) (cond.relocate f) (thenBlock.relocate f)
  | .operator e => .operator (e.relocate f)

def Config.relocate (c : Config) : Config :=
  ⟨c.items.map (Item.relocate f), c.recovered.map (Recovered.relocate f),
    c.frames.map (Frame.relocate f), c.control.relocate f⟩

theorem Token.lexeme_relocate (t : Token) : (t.relocate f).lexeme = t.lexeme := rfl

theorem Config.control_relocate (c : Config) :
    (c.relocate f).control = c.control.relocate f := rfl

theorem Config.frames_relocate (c : Config) :
    (c.relocate f).frames = c.frames.map (Frame.relocate f) := rfl

def Stepped.relocate : Stepped → Stepped
  | .ok c => .ok (c.relocate f)
  | .error e => .error (e.relocate f)

variable (c : Config) (t : Token)

theorem require_relocate (role : Capability) (slot : String) (e : Expr) :
    (c.relocate f).require role slot (e.relocate f) = (c.require role slot e).relocate f := by
  simp only [Config.require, Expr.capability_relocate, Expr.span_relocate]
  split <;> rfl

theorem requireValue_relocate (slot : String) (e : Expr) :
    (c.relocate f).requireValue slot (e.relocate f) = (c.requireValue slot e).relocate f :=
  require_relocate ..

theorem completeOperation_relocate (op : InfixOp) (lhs rhs : Expr) :
    completeOperation (c.relocate f) op (lhs.relocate f) (rhs.relocate f) =
      ((completeOperation c op lhs rhs).1.relocate f,
        (completeOperation c op lhs rhs).2.relocate f) := by
  cases op <;>
    simp only [completeOperation, requireValue_relocate, require_relocate, Expr.relocate,
      Expr.span_relocate, Span.relocate]

theorem completeNegation_relocate (start : Position) (op : NegOp) (e : Expr) :
    completeNegation (c.relocate f) (f start) op (e.relocate f) =
      ((completeNegation c start op e).1.relocate f,
        (completeNegation c start op e).2.relocate f) := by
  simp only [completeNegation, requireValue_relocate, Expr.relocate, Expr.span_relocate,
    Span.relocate]

theorem completeReturn_relocate (start : Position) (e : Expr) :
    completeReturn (c.relocate f) (f start) (e.relocate f) =
      ((completeReturn c start e).1.relocate f, (completeReturn c start e).2.relocate f) := by
  simp only [completeReturn, requireValue_relocate, Expr.relocate, Expr.span_relocate,
    Span.relocate, relocateOption]

theorem closeTighter_relocate (level : Nat) (fs : List Frame) (e : Expr) :
    closeTighter level (c.relocate f) (fs.map (Frame.relocate f)) (e.relocate f) =
      (closeTighter level c fs e).map fun r => (r.1.relocate f, r.2.relocate f) := by
  induction fs generalizing c e with
  | nil => rfl
  | cons frame fs ih =>
    cases frame with
    | operation op lhs =>
      simp only [List.map_cons, Frame.relocate, closeTighter, completeOperation_relocate, ih]
      split
      · rfl
      · split <;> rfl
    | negation start op =>
      simp only [List.map_cons, Frame.relocate, closeTighter, completeNegation_relocate, ih]
    | _ => rfl

theorem closeOperand_relocate (fs : List Frame) (e : Expr) :
    closeOperand (c.relocate f) (fs.map (Frame.relocate f)) (e.relocate f) =
      ((closeOperand c fs e).1.relocate f, (closeOperand c fs e).2.relocate f) := by
  induction fs generalizing c e with
  | nil => rfl
  | cons frame fs ih =>
    cases frame with
    | operation op lhs =>
      simp only [List.map_cons, Frame.relocate, closeOperand, completeOperation_relocate, ih]
    | negation start op =>
      simp only [List.map_cons, Frame.relocate, closeOperand, completeNegation_relocate, ih]
    | ret start =>
      simp only [List.map_cons, Frame.relocate, closeOperand, completeReturn_relocate, ih]
    | _ => rfl

theorem closeElseIf_relocate (fs : List Frame) (e : Expr) :
    closeElseIf (fs.map (Frame.relocate f)) (e.relocate f) =
      ((closeElseIf fs e).1.map (Frame.relocate f), (closeElseIf fs e).2.relocate f) := by
  induction fs generalizing e with
  | nil => rfl
  | cons frame fs ih =>
    cases frame with
    | elseIf start cond thenBlock =>
      rw [closeElseIf, ← ih]
      simp only [List.map_cons, Frame.relocate, closeElseIf, completeIf, Expr.relocate,
        Expr.span_relocate, Span.relocate, relocateOption]
    | _ => rfl

theorem closeBlock_relocate (start : Position) (role : BlockRole) (stmts : List Stmt)
    (tail : Option Expr) (fs : List Frame) (closing : Span) :
    closeBlock (c.relocate f) (f start) (role.relocate f) (stmts.map (Stmt.relocate f))
        (tail.map (Expr.relocate f)) (fs.map (Frame.relocate f)) (closing.relocate f) =
      (closeBlock c start role stmts tail fs closing).relocate f := by
  have hblock : Block.mk ⟨f start, (closing.relocate f).stop⟩ (stmts.map (Stmt.relocate f)).reverse
      (tail.map (Expr.relocate f)) =
        (Block.mk ⟨start, closing.stop⟩ stmts.reverse tail).relocate f := by
    simp [Block.relocate, Span.relocate]
  cases role with
  | elseBranch start' cond thenBlock =>
    simp only [closeBlock, BlockRole.relocate, hblock]
    generalize Block.mk ⟨start, closing.stop⟩ stmts.reverse tail = b
    have hif : completeIf (f start') (cond.relocate f) (thenBlock.relocate f)
        (.block (b.relocate f)) = (completeIf start' cond thenBlock (.block b)).relocate f := by
      simp [completeIf, Expr.relocate, Expr.span, Span.relocate]
    simp only [hif, closeElseIf_relocate]
    rfl
  | functionBody proto =>
    simp only [closeBlock, BlockRole.relocate, hblock]
    cases fs with
    | nil => rfl
    | cons frame fs => cases frame <;> simp [Frame.relocate] <;> rfl
  | whileBody start' cond | thenBranch start' cond =>
    simp only [closeBlock, BlockRole.relocate, hblock, requireValue_relocate]
    rfl
  | plain | loopBody | unsafeBody =>
    simp only [closeBlock, BlockRole.relocate, hblock]
    rfl

theorem closeStatic_relocate (head : StaticHead) (init : Option Expr) (fs : List Frame)
    (closing : Span) :
    closeStatic (c.relocate f) (head.relocate f) (init.map (Expr.relocate f))
        (fs.map (Frame.relocate f)) (closing.relocate f) =
      (closeStatic c head init fs closing).relocate f := by
  cases init <;> cases fs with
  | nil => rfl
  | cons frame fs => cases frame <;> simp [Frame.relocate, closeStatic] <;> rfl

theorem closeType_relocate (slot : TypeSlot) (type : TypeRef) :
    closeType (c.relocate f) (slot.relocate f) (type.relocate f) =
      (closeType c slot type).relocate f := by
  cases slot with
  | result head =>
    simp only [closeType, TypeSlot.relocate, FunctionHead.relocate, ← List.map_reverse]
    rfl
  | cast operand =>
    simp only [closeType, TypeSlot.relocate, requireValue_relocate, Expr.span_relocate]
    rfl
  | param | binding | static => rfl

@[simp] theorem relocate_ok : Stepped.relocate f (.ok c) = .ok (c.relocate f) := rfl

theorem operandStep_relocate :
    operandStep (c.relocate f) (t.relocate f) = (operandStep c t).relocate f := by
  obtain ⟨lexeme, span⟩ := t
  cases lexeme with
  | symbol s => cases s <;> rfl
  | keyword k => cases k <;> rfl
  | _ => rfl

theorem statementStep_relocate :
    statementStep (c.relocate f) (t.relocate f) = (statementStep c t).relocate f := by
  obtain ⟨items, recovered, frames, control⟩ := c
  obtain ⟨lexeme, span⟩ := t
  cases lexeme with
  | symbol s =>
    cases s with
    | rbrace =>
      cases frames with
      | nil => rfl
      | cons frame fs =>
        cases frame with
        | block start role stmts =>
          exact congrArg Except.ok
            (closeBlock_relocate f ⟨_, _, _, _⟩ start role stmts none fs span)
        | _ => rfl
    | _ => rfl
  | keyword k => cases k <;> rfl
  | _ => rfl

section

variable (e : Expr) (fs : List Frame)

theorem delimiterStep_call_relocate (calleeSpan : Span) (callee : String) (args : List Expr)
    (hfs : c.frames = .call calleeSpan callee args :: fs) :
    delimiterStep (c.relocate f) (e.relocate f) (t.relocate f) =
      (delimiterStep c e t).relocate f := by
  simp only [delimiterStep, Config.frames_relocate, hfs, List.map_cons, Frame.relocate,
    Token.lexeme_relocate, requireValue_relocate]
  split
  · rfl
  · rw [← List.map_cons, ← List.map_reverse, ← relocateArgs_eq_map]
    rfl
  · rfl

theorem delimiterStep_block_relocate (start : Position) (role : BlockRole) (stmts : List Stmt)
    (hfs : c.frames = .block start role stmts :: fs) :
    delimiterStep (c.relocate f) (e.relocate f) (t.relocate f) =
      (delimiterStep c e t).relocate f := by
  simp only [delimiterStep, Config.frames_relocate, hfs, List.map_cons, Frame.relocate,
    Token.lexeme_relocate, requireValue_relocate]
  split
  · simp only [Expr.span_relocate]
    rfl
  · exact congrArg Except.ok (closeBlock_relocate f _ start role stmts (some e) fs t.span)
  · simp only [Expr.isBlockLike_relocate, Expr.span_relocate]
    rw [← statementStep_relocate]
    split <;> rfl

theorem delimiterStep_binding_relocate (head : BindingHead)
    (hfs : c.frames = .binding head :: fs) :
    delimiterStep (c.relocate f) (e.relocate f) (t.relocate f) =
      (delimiterStep c e t).relocate f := by
  cases fs with
  | nil =>
    simp only [delimiterStep, Config.frames_relocate, hfs]
    rfl
  | cons frame fs =>
    cases frame with
    | block start role stmts =>
      simp only [delimiterStep, Config.frames_relocate, hfs, List.map_cons, Frame.relocate,
        Token.lexeme_relocate, requireValue_relocate]
      split
      · rfl
      · simp only [Expr.span_relocate]
        rw [← statementStep_relocate]
        rfl
    | _ =>
      simp only [delimiterStep, Config.frames_relocate, hfs]
      rfl

theorem delimiterStep_static_relocate (head : StaticHead) (hfs : c.frames = .static head :: fs) :
    delimiterStep (c.relocate f) (e.relocate f) (t.relocate f) =
      (delimiterStep c e t).relocate f := by
  simp only [delimiterStep, Config.frames_relocate, hfs, List.map_cons, Frame.relocate,
    Token.lexeme_relocate, requireValue_relocate]
  split
  · exact congrArg Except.ok (closeStatic_relocate f _ head (some e) fs t.span)
  · rfl

theorem delimiterStep_relocate :
    delimiterStep (c.relocate f) (e.relocate f) (t.relocate f) =
      (delimiterStep c e t).relocate f := by
  cases hfs : c.frames with
  | nil =>
    simp only [delimiterStep, Config.frames_relocate, hfs]
    rfl
  | cons frame fs =>
    cases frame with
    | group | ifCondition | whileCondition =>
      simp only [delimiterStep, Config.frames_relocate, hfs, List.map_cons, Frame.relocate,
        Token.lexeme_relocate, requireValue_relocate]
      split <;> rfl
    | call => exact delimiterStep_call_relocate f c t e fs _ _ _ hfs
    | block => exact delimiterStep_block_relocate f c t e fs _ _ _ hfs
    | binding => exact delimiterStep_binding_relocate f c t e fs _ hfs
    | static => exact delimiterStep_static_relocate f c t e fs _ hfs
    | _ =>
      simp only [delimiterStep, Config.frames_relocate, hfs]
      rfl

end

theorem operatorStep_relocate (e : Expr) :
    operatorStep (c.relocate f) (e.relocate f) (t.relocate f) =
      (operatorStep c e t).relocate f := by
  simp only [operatorStep, Config.frames_relocate, Token.lexeme_relocate, closeTighter_relocate, closeOperand_relocate,
    delimiterStep_relocate]
  cases InfixOp.ofLexeme? t.lexeme with
  | some op =>
    dsimp only
    cases closeTighter op.level c c.frames e <;> rfl
  | none =>
    dsimp only
    split
    · cases closeTighter castLevel c c.frames e <;> rfl
    · rfl

theorem bodyStep_relocate (proto : Prototype) :
    bodyStep (c.relocate f) (proto.relocate f) (t.relocate f) =
      (bodyStep c proto t).relocate f := by
  obtain ⟨items, recovered, frames, control⟩ := c
  obtain ⟨lexeme, span⟩ := t
  cases frames with
  | nil => cases lexeme with
    | symbol s => cases s <;> rfl
    | _ => rfl
  | cons frame fs => cases lexeme with
    | symbol s => cases s <;> cases frame <;> rfl
    | _ => cases frame <;> rfl

theorem patternStep_relocate (next next' : Pattern → Control)
    (h : ∀ p : Pattern, next' (p.relocate f) = (next p).relocate f) :
    patternStep (c.relocate f) (t.relocate f) next' = (patternStep c t next).relocate f := by
  obtain ⟨lexeme, span⟩ := t
  cases lexeme with
  | identifier name => exact congrArg (Except.ok <| (c.relocate f).expect ·) (h (.named span name))
  | underscore => exact congrArg (Except.ok <| (c.relocate f).expect ·) (h (.wildcard span))
  | _ => rfl

theorem symbolStep_relocate (s : Symbol) (expected : String) (next next' : Control)
    (h : next' = next.relocate f) :
    symbolStep (c.relocate f) (t.relocate f) s expected next' =
      (symbolStep c t s expected next).relocate f := by
  subst h
  by_cases hs : t.lexeme = .symbol s <;> simp only [symbolStep, Token.relocate, hs] <;> rfl

theorem nameStep_relocate (next next' : String → Control)
    (h : ∀ name, next' name = (next name).relocate f) :
    nameStep (c.relocate f) (t.relocate f) next' = (nameStep c t next).relocate f := by
  obtain ⟨lexeme, span⟩ := t
  cases lexeme with
  | identifier name => exact congrArg (Except.ok <| (c.relocate f).expect ·) (h name)
  | _ => rfl

theorem step_foreignItem_relocate (hk : c.control = .foreignItem) :
    step (c.relocate f) (t.relocate f) = (step c t).relocate f := by
  obtain ⟨items, recovered, frames, control⟩ := c
  obtain ⟨lexeme, span⟩ := t
  cases hk
  cases lexeme with
  | keyword k => cases k <;> rfl
  | symbol s =>
    cases s with
    | rbrace =>
      cases frames with
      | nil => rfl
      | cons frame fs =>
        cases frame with
        | foreign start abi decls =>
          simp only [step, Config.relocate, Control.relocate, Token.relocate, List.map_cons,
            Frame.relocate, ← List.map_reverse]
          rfl
        | _ => rfl
    | _ => rfl
  | _ => rfl

theorem step_argument_relocate (hk : c.control = .argument) :
    step (c.relocate f) (t.relocate f) = (step c t).relocate f := by
  obtain ⟨items, recovered, frames, control⟩ := c
  obtain ⟨lexeme, span⟩ := t
  cases hk
  cases lexeme with
  | symbol s =>
    cases s with
    | rparen =>
      cases frames with
      | nil => rfl
      | cons frame fs =>
        cases frame with
        | call calleeSpan callee args =>
          simp only [step, Config.relocate, Control.relocate, Token.relocate, List.map_cons,
            Frame.relocate, ← List.map_reverse]
          rw [← relocateArgs_eq_map f args.reverse]
          rfl
        | _ => rfl
    | _ => rfl
  | keyword k => cases k <;> rfl
  | _ => rfl

theorem step_bindingInit_relocate (head : BindingHead) (hk : c.control = .bindingInit head) :
    step (c.relocate f) (t.relocate f) = (step c t).relocate f := by
  obtain ⟨items, recovered, frames, control⟩ := c
  obtain ⟨lexeme, span⟩ := t
  cases hk
  cases frames with
  | nil => cases lexeme with
    | symbol s => cases s <;> rfl
    | _ => rfl
  | cons frame fs =>
    cases frame with
    | block start role stmts =>
      -- Without a `;`, the statement is complete and the token begins the next one.
      have hnext := statementStep_relocate f
        (addStatement ⟨items, .missingToken (.symbol .semicolon) head.type.span.stop :: recovered,
          .block start role stmts :: fs, .bindingInit head⟩ start role stmts fs
          (.binding ⟨head.start, head.type.span.stop⟩ head.mutable head.pattern head.type none))
        ⟨lexeme, span⟩
      cases lexeme with
      | symbol s =>
        cases s with
        | assign | semicolon => rfl
        | _ => exact hnext
      | _ => exact hnext
    | _ => cases lexeme with
      | symbol s => cases s <;> rfl
      | _ => rfl

section

variable {start : Position}

theorem step_abi_relocate (hk : c.control = .abi start) :
    step (c.relocate f) (t.relocate f) = (step c t).relocate f := by
  simp only [step, Config.control_relocate, hk, Control.relocate, Token.lexeme_relocate]
  split
  · split <;> rfl
  · rfl

theorem step_result_relocate (head : FunctionHead) (stop : Position)
    (hk : c.control = .result head stop) :
    step (c.relocate f) (t.relocate f) = (step c t).relocate f := by
  have hproto : (⟨⟨f head.start, f stop⟩, head.name, (head.params.map (Param.relocate f)).reverse,
      ⟨.unit, Span.point (f stop)⟩⟩ : Prototype) = Prototype.relocate f
        ⟨⟨head.start, stop⟩, head.name, head.params.reverse, ⟨.unit, Span.point stop⟩⟩ := by
    rw [← List.map_reverse]
    rfl
  simp only [step, Config.control_relocate, hk, Control.relocate, FunctionHead.relocate,
    Token.lexeme_relocate, hproto]
  split
  · rfl
  · exact bodyStep_relocate ..
  · exact bodyStep_relocate ..
  · rfl

theorem step_staticMut_relocate (hk : c.control = .staticMut start) :
    step (c.relocate f) (t.relocate f) = (step c t).relocate f := by
  simp only [step, Config.control_relocate, hk, Control.relocate, Token.lexeme_relocate]
  split
  · rfl
  · exact nameStep_relocate f c t _ _ fun _ => rfl

theorem step_staticInit_relocate (head : StaticHead) (hk : c.control = .staticInit head) :
    step (c.relocate f) (t.relocate f) = (step c t).relocate f := by
  simp only [step, Config.control_relocate, hk, Control.relocate, Token.lexeme_relocate]
  split
  · rfl
  · exact congrArg Except.ok (closeStatic_relocate f c head none c.frames t.span)
  · rfl

theorem step_bindingMut_relocate (hk : c.control = .bindingMut start) :
    step (c.relocate f) (t.relocate f) = (step c t).relocate f := by
  simp only [step, Config.control_relocate, hk, Control.relocate, Token.lexeme_relocate]
  split
  · rfl
  · exact patternStep_relocate f c t _ _ fun _ => rfl

theorem step_type_relocate (slot : TypeSlot) (hk : c.control = .type slot) :
    step (c.relocate f) (t.relocate f) = (step c t).relocate f := by
  simp only [step, Config.control_relocate, hk, Control.relocate, Token.lexeme_relocate]
  split
  · split
    · rfl
    · exact congrArg Except.ok (closeType_relocate f c slot ⟨_, t.span⟩)
    · rfl
  · rfl
  · rfl

theorem step_typeClose_relocate (slot : TypeSlot) (hk : c.control = .typeClose start slot) :
    step (c.relocate f) (t.relocate f) = (step c t).relocate f := by
  simp only [step, Config.control_relocate, hk, Control.relocate, Token.lexeme_relocate]
  split
  · exact congrArg Except.ok (closeType_relocate f c slot ⟨.unit, ⟨start, t.span.stop⟩⟩)
  · rfl

theorem step_groupOpen_relocate (hk : c.control = .groupOpen start) :
    step (c.relocate f) (t.relocate f) = (step c t).relocate f := by
  simp only [step, Config.control_relocate, hk, Control.relocate, Token.lexeme_relocate]
  split
  · rfl
  · exact operandStep_relocate f { c with frames := .group start :: c.frames } t

theorem step_pathNext_relocate (span : Span) (name : String)
    (hk : c.control = .pathNext span name) :
    step (c.relocate f) (t.relocate f) = (step c t).relocate f := by
  simp only [step, Config.control_relocate, hk, Control.relocate, Token.lexeme_relocate]
  split
  · rfl
  · exact operatorStep_relocate f c t (.path span name)

theorem step_returnValue_relocate (span : Span) (hk : c.control = .returnValue span) :
    step (c.relocate f) (t.relocate f) = (step c t).relocate f := by
  have hbegins : beginsOperand (t.relocate f) = beginsOperand t := rfl
  simp only [step, Config.control_relocate, hk, Control.relocate, hbegins]
  split
  · exact operandStep_relocate f { c with frames := .ret span.start :: c.frames } t
  · exact operatorStep_relocate f c t (.ret span none)

theorem step_afterThen_relocate (cond : Expr) (thenBlock : Block)
    (hk : c.control = .afterThen start cond thenBlock) :
    step (c.relocate f) (t.relocate f) = (step c t).relocate f := by
  have hclose := closeElseIf_relocate f c.frames
    (.conditional ⟨start, thenBlock.span.stop⟩ cond thenBlock none)
  simp only [Expr.relocate, Span.relocate, relocateOption] at hclose
  simp only [step, Config.control_relocate, hk, Control.relocate, Token.lexeme_relocate,
    Config.frames_relocate, Block.span_relocate, Span.relocate, hclose]
  split
  · rfl
  · exact operatorStep_relocate f ⟨c.items, c.recovered, _, .afterThen start cond thenBlock⟩ t _

end

theorem step_relocate : step (c.relocate f) (t.relocate f) = (step c t).relocate f := by
  -- Lists that grow at their front are turned round at their end; the other cases compute.
  cases hk : c.control with
  | item | param | paramNext | afterElse =>
    simp only [step, Config.control_relocate, hk, Control.relocate, Token.lexeme_relocate]
    split <;> rfl
  | foreignOpen | blockOpen =>
    by_cases hlex : t.lexeme = .symbol .lbrace <;>
      simp only [step, Config.control_relocate, hk, Control.relocate, Token.relocate, hlex] <;> rfl
  | functionName | staticName =>
    simp only [step, Config.control_relocate, hk, Control.relocate]
    exact nameStep_relocate f c t _ _ fun _ => rfl
  | paramsOpen | paramColon | staticColon | bindingColon =>
    simp only [step, Config.control_relocate, hk, Control.relocate]
    exact symbolStep_relocate f c t _ _ _ _ rfl
  | paramPattern | bindingPattern =>
    simp only [step, Config.control_relocate, hk, Control.relocate]
    exact patternStep_relocate f c t _ _ fun _ => rfl
  | body =>
    simp only [step, Config.control_relocate, hk, Control.relocate]
    exact bodyStep_relocate ..
  | statement =>
    simp only [step, Config.control_relocate, hk, Control.relocate]
    exact statementStep_relocate ..
  | operand =>
    simp only [step, Config.control_relocate, hk, Control.relocate]
    exact operandStep_relocate ..
  | operator =>
    simp only [step, Config.control_relocate, hk, Control.relocate]
    exact operatorStep_relocate ..
  | foreignItem => exact step_foreignItem_relocate f c t hk
  | abi => exact step_abi_relocate f c t hk
  | result head stop => exact step_result_relocate f c t head stop hk
  | staticMut => exact step_staticMut_relocate f c t hk
  | staticInit head => exact step_staticInit_relocate f c t head hk
  | bindingMut => exact step_bindingMut_relocate f c t hk
  | bindingInit head => exact step_bindingInit_relocate f c t head hk
  | type slot => exact step_type_relocate f c t slot hk
  | typeClose start slot => exact step_typeClose_relocate f c t slot hk
  | groupOpen => exact step_groupOpen_relocate f c t hk
  | pathNext span name => exact step_pathNext_relocate f c t span name hk
  | argument => exact step_argument_relocate f c t hk
  | returnValue span => exact step_returnValue_relocate f c t span hk
  | afterThen start cond thenBlock => exact step_afterThen_relocate f c t cond thenBlock hk

end MicroRust.Parsing

namespace MicroRust

open Parsing

variable (f : Position → Position)

def Outcome.relocate (o : Outcome) : Outcome :=
  ⟨o.items.map (Item.relocate f), o.recovered.map (Recovered.relocate f), f o.stop⟩

theorem Parsing.run_relocate (c : Config) (stream : List Reading) :
    run (c.relocate f) (stream.map (Reading.relocate f)) =
      match run c stream with
      | .ok outcome => .ok (outcome.relocate f)
      | .error e => .error (e.relocate f) := by
  induction stream generalizing c with
  | nil => rfl
  | cons reading rest ih =>
    cases reading with
    | error failure => cases failure <;> rfl
    | ok t =>
      have hlexeme := Token.lexeme_relocate f t
      simp only [List.map_cons, Reading.relocate, run, step_relocate, hlexeme]
      cases step c t with
      | error e => rfl
      | ok next =>
        simp only [relocate_ok]
        split
        · simp only [Config.relocate, Outcome.relocate, List.map_reverse]
          rfl
        · exact ih next

end MicroRust
