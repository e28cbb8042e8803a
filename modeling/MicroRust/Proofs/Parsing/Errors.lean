import MicroRust.Proofs.Parsing.Steps

/-! The errors that the parser notes.

The parser does not look at the items it has read and the errors it has noted, so a step does the
same whatever came before. Only where a statement ends without its `;` does it note a missing
token. -/

namespace MicroRust

/-- The place where an error says that a `;` is missing. -/
def Recovered.missingPlace? : Recovered → Option Position
  | .missingToken (.symbol .semicolon) place => some place
  | _ => none

def Recovered.isOther (e : Recovered) : Bool := e.missingPlace?.isNone

end MicroRust

namespace MicroRust.Parsing

def Config.after (c : Config) (items : List Item) (errors : List Recovered) : Config :=
  { c with items := c.items ++ items, recovered := c.recovered ++ errors }

def Config.extend (c : Config) (errors : List Recovered) : Config :=
  { c with recovered := c.recovered ++ errors }

section

variable (c : Config) (items : List Item) (errors : List Recovered) (t : Token)

theorem require_after (role : Capability) (slot : String) (e : Expr) :
    (c.after items errors).require role slot e = (c.require role slot e).after items errors := by
  unfold Config.require
  split <;> rfl

theorem requireValue_after (slot : String) (e : Expr) :
    (c.after items errors).requireValue slot e = (c.requireValue slot e).after items errors :=
  require_after ..

theorem completeOperation_after (op : InfixOp) (lhs rhs : Expr) :
    completeOperation (c.after items errors) op lhs rhs =
      ((completeOperation c op lhs rhs).1.after items errors,
        (completeOperation c op lhs rhs).2) := by
  cases op <;> simp only [completeOperation, requireValue_after, require_after]

theorem completeNegation_after (start : Position) (op : NegOp) (e : Expr) :
    completeNegation (c.after items errors) start op e =
      ((completeNegation c start op e).1.after items errors,
        (completeNegation c start op e).2) := by
  simp only [completeNegation, requireValue_after]

theorem completeReturn_after (start : Position) (e : Expr) :
    completeReturn (c.after items errors) start e =
      ((completeReturn c start e).1.after items errors, (completeReturn c start e).2) := by
  simp only [completeReturn, requireValue_after]

theorem closeTighter_after (level : Nat) (fs : List Frame) (e : Expr) :
    closeTighter level (c.after items errors) fs e =
      (closeTighter level c fs e).map fun r => (r.1.after items errors, r.2) := by
  induction fs generalizing c e with
  | nil => rfl
  | cons frame fs ih =>
    cases frame with
    | operation op lhs =>
      simp only [closeTighter, completeOperation_after, ih]
      split
      · rfl
      · split <;> rfl
    | negation start op => simp only [closeTighter, completeNegation_after, ih]
    | _ => rfl

theorem closeOperand_after (fs : List Frame) (e : Expr) :
    closeOperand (c.after items errors) fs e =
      ((closeOperand c fs e).1.after items errors, (closeOperand c fs e).2) := by
  induction fs generalizing c e with
  | nil => rfl
  | cons frame fs ih =>
    cases frame with
    | operation op lhs => simp only [closeOperand, completeOperation_after, ih]
    | negation start op => simp only [closeOperand, completeNegation_after, ih]
    | ret start => simp only [closeOperand, completeReturn_after, ih]
    | _ => rfl

theorem closeBlock_after (start : Position) (role : BlockRole) (stmts : List Stmt)
    (tail : Option Expr) (fs : List Frame) (closing : Span) :
    closeBlock (c.after items errors) start role stmts tail fs closing =
      (closeBlock c start role stmts tail fs closing).after items errors := by
  cases role with
  | whileBody start' cond | thenBranch start' cond =>
    simp only [closeBlock, requireValue_after]
    rfl
  | functionBody proto =>
    cases fs with
    | nil => rfl
    | cons frame fs => cases frame <;> rfl
  | plain | loopBody | elseBranch | unsafeBody => rfl

theorem closeStatic_after (head : StaticHead) (init : Option Expr) (fs : List Frame)
    (closing : Span) :
    closeStatic (c.after items errors) head init fs closing =
      (closeStatic c head init fs closing).after items errors := by
  cases init <;> cases fs with
  | nil => rfl
  | cons frame fs => cases frame <;> rfl

theorem closeType_after (slot : TypeSlot) (type : TypeRef) :
    closeType (c.after items errors) slot type = (closeType c slot type).after items errors := by
  cases slot with
  | cast operand =>
    simp only [closeType, requireValue_after]
    rfl
  | param | result | binding | static => rfl

def Stepped.after (s : Stepped) : Stepped := s.map (Config.after · items errors)

theorem operandStep_after :
    operandStep (c.after items errors) t = (operandStep c t).after items errors := by
  unfold operandStep
  split <;> rfl

theorem statementStep_after :
    statementStep (c.after items errors) t = (statementStep c t).after items errors := by
  have hframes : (c.after items errors).frames = c.frames := rfl
  unfold statementStep
  rw [hframes]
  split
  · rw [closeBlock_after]
    rfl
  · rfl
  · rfl
  · exact operandStep_after ..

theorem delimiterStep_after (e : Expr) :
    delimiterStep (c.after items errors) e t = (delimiterStep c e t).after items errors := by
  have hframes : (c.after items errors).frames = c.frames := rfl
  unfold delimiterStep
  rw [hframes]
  simp only [requireValue_after]
  split
  · split <;> rfl
  · split <;> rfl
  · split <;> rfl
  · split <;> rfl
  · split
    · rfl
    · rw [closeBlock_after]
      rfl
    · rw [← statementStep_after]
      split <;> rfl
  · split
    · rfl
    · rw [← statementStep_after]
      rfl
  · split
    · rw [closeStatic_after]
      rfl
    · rfl
  · rfl

theorem operatorStep_after (e : Expr) :
    operatorStep (c.after items errors) e t = (operatorStep c e t).after items errors := by
  have hframes : (c.after items errors).frames = c.frames := rfl
  unfold operatorStep
  simp only [hframes, closeTighter_after, closeOperand_after, delimiterStep_after]
  split
  · rename_i op _
    cases closeTighter op.level c c.frames e <;> rfl
  · split
    · cases closeTighter castLevel c c.frames e <;> rfl
    · rfl

theorem bodyStep_after (proto : Prototype) :
    bodyStep (c.after items errors) proto t = (bodyStep c proto t).after items errors := by
  have hframes : (c.after items errors).frames = c.frames := rfl
  unfold bodyStep
  rw [hframes]
  split <;> rfl

theorem patternStep_after (next : Pattern → Control) :
    patternStep (c.after items errors) t next = (patternStep c t next).after items errors := by
  unfold patternStep
  split <;> rfl

theorem symbolStep_after (s : Symbol) (expected : String) (next : Control) :
    symbolStep (c.after items errors) t s expected next =
      (symbolStep c t s expected next).after items errors := by
  unfold symbolStep
  split <;> rfl

theorem nameStep_after (next : String → Control) :
    nameStep (c.after items errors) t next = (nameStep c t next).after items errors := by
  unfold nameStep
  split <;> rfl

theorem Config.control_after : (c.after items errors).control = c.control := rfl

theorem Config.frames_after : (c.after items errors).frames = c.frames := rfl

section

variable {c} {start : Position}

theorem step_abi_after (hk : c.control = .abi start) :
    step (c.after items errors) t = (step c t).after items errors := by
  simp only [step, Config.control_after, hk]
  split
  · split <;> rfl
  · rfl

theorem step_bindingInit_after {head : BindingHead} (hk : c.control = .bindingInit head) :
    step (c.after items errors) t = (step c t).after items errors := by
  simp only [step, Config.control_after, Config.frames_after, hk]
  split
  · rfl
  · rfl
  · rw [← statementStep_after]
    rfl
  · rfl

theorem step_type_after {slot : TypeSlot} (hk : c.control = .type slot) :
    step (c.after items errors) t = (step c t).after items errors := by
  simp only [step, Config.control_after, hk, closeType_after]
  split
  · split <;> rfl
  · rfl
  · rfl

theorem step_groupOpen_after (hk : c.control = .groupOpen start) :
    step (c.after items errors) t = (step c t).after items errors := by
  simp only [step, Config.control_after, hk]
  split
  · rfl
  · -- The frame was pushed before the step, so the errors are put under a longer stack.
    exact operandStep_after { c with frames := .group start :: c.frames } items errors t

theorem step_returnValue_after {span : Span} (hk : c.control = .returnValue span) :
    step (c.after items errors) t = (step c t).after items errors := by
  simp only [step, Config.control_after, hk, operatorStep_after]
  split
  · exact operandStep_after { c with frames := .ret span.start :: c.frames } items errors t
  · rfl

theorem step_afterThen_after {cond : Expr} {thenBlock : Block}
    (hk : c.control = .afterThen start cond thenBlock) :
    step (c.after items errors) t = (step c t).after items errors := by
  simp only [step, Config.control_after, Config.frames_after, hk]
  split
  · rfl
  · exact operatorStep_after ⟨c.items, c.recovered, _, .afterThen start cond thenBlock⟩ items
      errors t _

end

theorem step_after : step (c.after items errors) t = (step c t).after items errors := by
  cases hk : c.control with
  | item | foreignItem | foreignOpen | param | paramNext | blockOpen | afterElse | argument =>
    simp only [step, Config.control_after, Config.frames_after, hk, operandStep_after]
    split <;> rfl
  | functionName | staticName => simp only [step, Config.control_after, hk, nameStep_after]
  | paramsOpen | paramColon | staticColon | bindingColon =>
    simp only [step, Config.control_after, hk, symbolStep_after]
  | paramPattern | bindingPattern =>
    simp only [step, Config.control_after, hk, patternStep_after]
  | result head stop =>
    simp only [step, Config.control_after, hk, bodyStep_after]
    split <;> rfl
  | staticMut start =>
    simp only [step, Config.control_after, hk, nameStep_after]
    split <;> rfl
  | staticInit head =>
    simp only [step, Config.control_after, Config.frames_after, hk, closeStatic_after]
    split <;> rfl
  | bindingMut start =>
    simp only [step, Config.control_after, hk, patternStep_after]
    split <;> rfl
  | typeClose start slot =>
    simp only [step, Config.control_after, hk, closeType_after]
    split <;> rfl
  | pathNext span name =>
    simp only [step, Config.control_after, hk, operatorStep_after]
    split <;> rfl
  | body proto => simp only [step, Config.control_after, hk, bodyStep_after]
  | statement => simp only [step, Config.control_after, hk, statementStep_after]
  | operand => simp only [step, Config.control_after, hk, operandStep_after]
  | operator e => simp only [step, Config.control_after, hk, operatorStep_after]
  | abi => exact step_abi_after items errors t hk
  | bindingInit => exact step_bindingInit_after items errors t hk
  | type => exact step_type_after items errors t hk
  | groupOpen => exact step_groupOpen_after items errors t hk
  | returnValue => exact step_returnValue_after items errors t hk
  | afterThen => exact step_afterThen_after items errors t hk

def Stepped.extend (s : Stepped) : Stepped := s.map (Config.extend · errors)

theorem extend_eq_after : c.extend errors = c.after [] errors := by
  rw [Config.extend, Config.after, List.append_nil]

theorem step_extend : step (c.extend errors) t = (step c t).extend errors := by
  rw [extend_eq_after, step_after]
  cases step c t with
  | error e => rfl
  | ok d => exact congrArg Except.ok (extend_eq_after d errors).symm

end

namespace Config

def missing (c : Config) : List Position := c.recovered.filterMap Recovered.missingPlace?

variable (c : Config)

@[simp] theorem missing_expect (next : Control) : (c.expect next).missing = c.missing := rfl

@[simp] theorem missing_replace (fs : List Frame) (next : Control) :
    (c.replace fs next).missing = c.missing := rfl

@[simp] theorem missing_frames (fs : List Frame) : { c with frames := fs }.missing = c.missing :=
  rfl

theorem missing_note {e : Recovered} (h : e.missingPlace? = none) :
    (c.note e).missing = c.missing :=
  List.filterMap_cons_none h

@[simp] theorem missing_require (role : Capability) (slot : String) (e : Expr) :
    (c.require role slot e).missing = c.missing := by
  unfold require
  split
  · rfl
  · exact missing_note c rfl

@[simp] theorem missing_requireValue (slot : String) (e : Expr) :
    (c.requireValue slot e).missing = c.missing :=
  missing_require ..

end Config

section

variable (c : Config) (t : Token)

@[simp] theorem missing_completeOperation (op : InfixOp) (lhs rhs : Expr) :
    (completeOperation c op lhs rhs).1.missing = c.missing := by
  cases op <;> simp [completeOperation]

@[simp] theorem missing_completeNegation (start : Position) (op : NegOp) (e : Expr) :
    (completeNegation c start op e).1.missing = c.missing := by
  simp [completeNegation]

@[simp] theorem missing_completeReturn (start : Position) (e : Expr) :
    (completeReturn c start e).1.missing = c.missing := by
  simp [completeReturn]

theorem missing_closeTighter {level : Nat} {fs : List Frame} {e e' : Expr} {d : Config}
    (h : closeTighter level c fs e = some (d, e')) : d.missing = c.missing := by
  induction fs generalizing c e with
  | nil =>
    cases h
    rfl
  | cons frame fs ih =>
    cases frame with
    | operation op lhs =>
      rw [closeTighter] at h
      split at h
      · cases h
        rfl
      · split at h
        · cases h
        · exact (ih _ h).trans (missing_completeOperation c op lhs e)
    | negation start op =>
      rw [closeTighter] at h
      exact (ih _ h).trans (missing_completeNegation c start op e)
    | _ =>
      cases h
      rfl

@[simp] theorem missing_closeOperand (fs : List Frame) (e : Expr) :
    (closeOperand c fs e).1.missing = c.missing := by
  induction fs generalizing c e with
  | nil => rfl
  | cons frame fs ih => cases frame <;> simp [closeOperand, ih]

@[simp] theorem missing_closeBlock (start : Position) (role : BlockRole) (stmts : List Stmt)
    (tail : Option Expr) (fs : List Frame) (closing : Span) :
    (closeBlock c start role stmts tail fs closing).missing = c.missing := by
  cases role with
  | functionBody proto =>
    cases fs with
    | nil => rfl
    | cons frame fs => cases frame <;> rfl
  | _ => simp [closeBlock]

@[simp] theorem missing_closeStatic (head : StaticHead) (init : Option Expr) (fs : List Frame)
    (closing : Span) : (closeStatic c head init fs closing).missing = c.missing := by
  cases init <;> cases fs with
  | nil => rfl
  | cons frame fs => cases frame <;> rfl

@[simp] theorem missing_closeType (slot : TypeSlot) (type : TypeRef) :
    (closeType c slot type).missing = c.missing := by
  cases slot <;> simp [closeType]

/-- The answer notes no missing `;` beyond the given places. -/
def Stepped.Keeps (places : List Position) : Stepped → Prop
  | .ok d => d.missing = places
  | .error _ => True

theorem operandStep_keeps : (operandStep c t).Keeps c.missing := by
  unfold operandStep
  split <;> first | rfl | trivial

theorem statementStep_keeps : (statementStep c t).Keeps c.missing := by
  unfold statementStep
  split
  · exact missing_closeBlock ..
  · rfl
  · rfl
  · exact operandStep_keeps ..

theorem bodyStep_keeps (proto : Prototype) : (bodyStep c proto t).Keeps c.missing := by
  unfold bodyStep
  split <;> first | rfl | trivial

theorem patternStep_keeps (next : Pattern → Control) :
    (patternStep c t next).Keeps c.missing := by
  unfold patternStep
  split <;> first | rfl | trivial

theorem symbolStep_keeps (s : Symbol) (expected : String) (next : Control) :
    (symbolStep c t s expected next).Keeps c.missing := by
  unfold symbolStep
  split <;> first | rfl | trivial

theorem nameStep_keeps (next : String → Control) : (nameStep c t next).Keeps c.missing := by
  unfold nameStep
  split <;> first | rfl | trivial

def Control.stop? : Control → Option Position
  | .operator e => some e.span.stop
  | .pathNext span _ => some span.stop
  | .returnValue span => some span.stop
  | .afterThen _ _ thenBlock => some thenBlock.span.stop
  | .bindingInit head => some head.type.span.stop
  | _ => none

/-- Where no statement can end, no `;` can be missing. -/
theorem step_keeps (h : c.control.stop? = none) : (step c t).Keeps c.missing := by
  cases hk : c.control with
  | operator | pathNext | returnValue | afterThen | bindingInit =>
    rw [hk] at h
    cases h
  | functionName | staticName =>
    simp only [step, hk]
    exact nameStep_keeps ..
  | paramsOpen | paramColon | staticColon | bindingColon =>
    simp only [step, hk]
    exact symbolStep_keeps ..
  | paramPattern | bindingPattern =>
    simp only [step, hk]
    exact patternStep_keeps ..
  | result head stop =>
    simp only [step, hk]
    split <;> first | rfl | trivial | exact bodyStep_keeps ..
  | body proto =>
    simp only [step, hk]
    exact bodyStep_keeps ..
  | staticMut start =>
    simp only [step, hk]
    split <;> first | rfl | exact nameStep_keeps ..
  | bindingMut start =>
    simp only [step, hk]
    split <;> first | rfl | exact patternStep_keeps ..
  | staticInit head =>
    simp only [step, hk]
    split <;> first | rfl | trivial | exact missing_closeStatic ..
  | abi start =>
    simp only [step, hk]
    split
    · split <;> rfl
    · trivial
  | type slot =>
    simp only [step, hk]
    split
    · split <;> first | trivial | exact missing_closeType ..
    · rfl
    · trivial
  | typeClose start slot =>
    simp only [step, hk]
    split <;> first | trivial | exact missing_closeType ..
  | statement =>
    simp only [step, hk]
    exact statementStep_keeps ..
  | operand =>
    simp only [step, hk]
    exact operandStep_keeps ..
  | groupOpen start =>
    simp only [step, hk]
    split <;> first | rfl | exact operandStep_keeps ..
  | item | foreignItem | foreignOpen | param | paramNext | blockOpen | afterElse | argument =>
    simp only [step, hk]
    split <;> first | rfl | trivial | exact operandStep_keeps ..

end

end MicroRust.Parsing
