import MicroRust.Proofs.Parsing.Closing
import MicroRust.Proofs.Parsing.Steps
import MicroRust.Proofs.Tree.Printing

/-! What a token behind an operand does to the operations around it.

The operations that the token closes may be closed beforehand, and what the parser waited for when
it took the operand does not matter. -/

namespace MicroRust

def InfixOp.Fits (lhs rhs : Expr) : InfixOp → Prop
  | .assign => lhs.IsAssignee ∧ rhs.IsValue
  | .binary _ => lhs.IsValue ∧ rhs.IsValue

end MicroRust

namespace MicroRust.Parsing

variable (c : Config) (k : Control) {d : Config} (fs : List Frame) (e : Expr) (t : Token)

/-- Agreement on everything but the open constructs and what the parser waits for. -/
def Config.Like (c d : Config) : Prop := c.items = d.items ∧ c.recovered = d.recovered

theorem Config.like_mk (items : List Item) (recovered : List Recovered) (fs gs : List Frame)
    (k l : Control) : Config.Like ⟨items, recovered, fs, k⟩ ⟨items, recovered, gs, l⟩ := ⟨rfl, rfl⟩

theorem Config.expect_like (c : Config) (k : Control) : (c.expect k).Like c := ⟨rfl, rfl⟩

variable {c}

theorem Config.Like.require (h : c.Like d) (role : Capability) (slot : String) :
    (c.require role slot e).Like (d.require role slot e) := by
  obtain ⟨hi, hr⟩ := h
  unfold Config.require
  split
  · exact ⟨hi, hr⟩
  · exact ⟨hi, congrArg (_ :: ·) hr⟩

theorem control_require (role : Capability) (slot : String) :
    (c.require role slot e).control = c.control := by
  unfold Config.require
  split <;> rfl

theorem Config.Like.completeOperation (h : c.Like d) (op : InfixOp) (lhs : Expr) :
    (completeOperation c op lhs e).1.Like (completeOperation d op lhs e).1 := by
  cases op <;> exact (h.require _ _ _).require _ _ _

theorem control_completeOperation (op : InfixOp) (lhs : Expr) :
    (completeOperation c op lhs e).1.control = c.control := by
  cases op <;> exact (control_require _ _ _).trans (control_require _ _ _)

theorem completeOperation_snd (op : InfixOp) (lhs : Expr) :
    (completeOperation c op lhs e).2 = op.tree lhs e := by
  cases op <;> rfl

theorem Config.Like.eq_expect (h : c.Like d) :
    ({ c with frames := fs } : Config) = ({ d with frames := fs } : Config).expect c.control := by
  obtain ⟨hi, hr⟩ := h
  simp only [Config.expect, hi, hr]

theorem closeTighter_like (h : c.Like d) (level : Nat) :
    closeTighter level c fs e =
      (closeTighter level d fs e).map fun r => (r.1.expect c.control, r.2) := by
  -- Each closed operation may note a fault; both sides note the same ones.
  induction fs generalizing c d e with
  | nil => exact congrArg (some <| Prod.mk · e) (h.eq_expect [])
  | cons frame fs ih =>
    cases frame with
    | operation op lhs =>
      simp only [closeTighter, completeOperation_snd]
      split
      · exact congrArg (some <| Prod.mk · e) (h.eq_expect _)
      · split
        · rfl
        · rw [ih _ (h.completeOperation e op lhs), control_completeOperation]
    | negation start op =>
      simp only [closeTighter, completeNegation, Config.requireValue]
      rw [ih _ (h.require e .value "operand"), control_require]
    | _ => exact congrArg (some <| Prod.mk · e) (h.eq_expect _)

theorem closeOperand_like (h : c.Like d) :
    closeOperand c fs e =
      ((closeOperand d fs e).1.expect c.control, (closeOperand d fs e).2) := by
  induction fs generalizing c d e with
  | nil => exact congrArg (Prod.mk · e) (h.eq_expect [])
  | cons frame fs ih =>
    cases frame with
    | operation op lhs =>
      simp only [closeOperand, completeOperation_snd]
      rw [ih _ (h.completeOperation e op lhs), control_completeOperation]
    | negation start op =>
      simp only [closeOperand, completeNegation, Config.requireValue]
      rw [ih _ (h.require e .value "operand"), control_require]
    | ret start =>
      simp only [closeOperand, completeReturn, Config.requireValue]
      rw [ih _ (h.require e .value "return value"), control_require]
    | _ => exact congrArg (Prod.mk · e) (h.eq_expect _)

theorem require_expect (role : Capability) (slot : String) :
    (c.expect k).require role slot e = (c.require role slot e).expect k := by
  unfold Config.require
  split <;> rfl

theorem Config.Like.replace_eq (h : c.Like d) (fs : List Frame) :
    c.replace fs k = d.replace fs k := by
  obtain ⟨hi, hr⟩ := h
  simp only [Config.replace, hi, hr]

theorem closeBlock_like (h : c.Like d) (start : Position) (role : BlockRole) (stmts : List Stmt)
    (tail : Option Expr) (closing : Span) :
    closeBlock c start role stmts tail fs closing =
      closeBlock d start role stmts tail fs closing := by
  obtain ⟨hi, hr⟩ := id h
  cases role with
  | whileBody start cond | thenBranch start cond =>
    exact (h.require cond .value _).replace_eq _ _
  | functionBody proto =>
    cases fs with
    | nil => simp only [closeBlock, hi, hr]
    | cons frame fs =>
      cases frame <;> simp only [closeBlock, Config.note, Config.replace, hi, hr]
  | plain | loopBody | elseBranch | unsafeBody => exact h.replace_eq _ _

theorem closeStatic_like (h : c.Like d) (head : StaticHead) (init : Option Expr)
    (closing : Span) : closeStatic c head init fs closing = closeStatic d head init fs closing := by
  obtain ⟨hi, hr⟩ := h
  cases init <;> cases fs with
  | nil => simp only [closeStatic, Config.note, hi, hr]
  | cons frame fs =>
    cases frame <;> simp only [closeStatic, Config.note, Config.replace, hi, hr]

theorem delimiterStep_expect : delimiterStep (c.expect k) e t = delimiterStep c e t := by
  have hframes : (c.expect k).frames = c.frames := rfl
  have hnote : ∀ fault, (if e.isBlockLike then c.expect k else (c.expect k).note fault) =
      (if e.isBlockLike then c else c.note fault).expect k := by
    intro fault
    split <;> rfl
  have hblock : ∀ (d : Config) (start : Position) (role : BlockRole) (stmts : List Stmt)
      (tail : Option Expr) (fs : List Frame) (closing : Span),
      closeBlock (d.expect k) start role stmts tail fs closing =
        closeBlock d start role stmts tail fs closing :=
    fun d start role stmts tail fs closing =>
      closeBlock_like fs (d.expect_like k) start role stmts tail closing
  have hstatic : ∀ (d : Config) (head : StaticHead) (init : Option Expr) (fs : List Frame)
      (closing : Span), closeStatic (d.expect k) head init fs closing =
        closeStatic d head init fs closing :=
    fun d head init fs closing => closeStatic_like fs (d.expect_like k) head init closing
  simp only [delimiterStep, hframes, Config.requireValue, require_expect, hblock, hstatic, hnote]
  rfl

theorem operatorStep_like (h : c.Like d) (hframes : c.frames = d.frames) :
    operatorStep c e t = operatorStep d e t := by
  simp only [operatorStep, hframes, closeTighter_like _ _ h, closeOperand_like _ _ h,
    delimiterStep_expect]
  cases InfixOp.ofLexeme? t.lexeme with
  | some op =>
    dsimp only
    cases closeTighter op.level d d.frames e <;> rfl
  | none => cases closeTighter castLevel d d.frames e <;> rfl

variable {e}

theorem requireValue_of_isValue (h : e.IsValue) (slot : String) : c.requireValue slot e = c :=
  if_pos h

theorem has_assignee_of_isAssignee (h : e.IsAssignee) : e.capability.has .assignee = true := by
  cases e with
  | path =>
    show ((Capability.place.union .value).union .assignee).has .assignee = true
    decide
  | underscore =>
    show Capability.assignee.has .assignee = true
    decide
  | _ => cases h

theorem require_assignee_of_isAssignee (h : e.IsAssignee) (slot : String) :
    c.require .assignee slot e = c :=
  if_pos (has_assignee_of_isAssignee h)

theorem completeOperation_of_fits {op : InfixOp} {lhs : Expr} (h : op.Fits lhs e) :
    completeOperation c op lhs e = (c, op.tree lhs e) := by
  cases op with
  | assign =>
    simp only [completeOperation, require_assignee_of_isAssignee h.1, requireValue_of_isValue h.2]
    rfl
  | binary op =>
    simp only [completeOperation, requireValue_of_isValue h.1, requireValue_of_isValue h.2]
    rfl

variable {t} {items : List Item} {recovered : List Recovered} {k}

theorem frames_completeOperation (op : InfixOp) (lhs : Expr) :
    (completeOperation c op lhs e).1.frames = c.frames := by
  cases op <;> simp only [completeOperation, Config.requireValue, frames_require]

theorem operatorStep_completes {op : InfixOp} {lhs : Expr}
    (hop : ∀ next, InfixOp.ofLexeme? t.lexeme = some next →
      next.level ≤ op.level ∧ (next.level = 3 → op.level ≠ 3))
    (has : t.lexeme ≠ .keyword .asWord) :
    operatorStep ⟨items, recovered, .operation op lhs :: fs, k⟩ e t =
      operatorStep (completeOperation ⟨items, recovered, fs, k⟩ op lhs e).1 (op.tree lhs e) t := by
  have hlike := (Config.like_mk items recovered (.operation op lhs :: fs) fs k k).completeOperation
    e op lhs
  cases hnext : InfixOp.ofLexeme? t.lexeme with
  | some next =>
    -- Two comparisons do not chain, and nothing tighter than the operation is in its way.
    obtain ⟨hle, hchain⟩ := hop next hnext
    have h3 : ¬(op.level = 3 && next.level = 3) = true := by
      simp only [Bool.and_eq_true, decide_eq_true_eq]
      exact fun h => hchain h.2 h.1
    simp only [operatorStep, hnext, closeTighter, if_neg (Nat.not_lt.2 hle), if_neg h3,
      completeOperation_snd, closeTighter_like _ _ hlike, frames_completeOperation]
    cases closeTighter next.level _ fs (op.tree lhs e) <;> rfl
  | none =>
    simp only [operatorStep, hnext, if_neg has, closeOperand, completeOperation_snd,
      closeOperand_like _ _ hlike, delimiterStep_expect, frames_completeOperation]

theorem operatorStep_operation {op : InfixOp} {lhs : Expr} (hfits : op.Fits lhs e)
    (hop : ∀ next, InfixOp.ofLexeme? t.lexeme = some next →
      next.level ≤ op.level ∧ (next.level = 3 → op.level ≠ 3))
    (has : t.lexeme ≠ .keyword .asWord) :
    operatorStep ⟨items, recovered, .operation op lhs :: fs, k⟩ e t =
      operatorStep ⟨items, recovered, fs, k⟩ (op.tree lhs e) t := by
  rw [operatorStep_completes fs hop has, completeOperation_of_fits hfits]

theorem operatorStep_completesNegation {start : Position} {op : NegOp} :
    operatorStep ⟨items, recovered, .negation start op :: fs, k⟩ e t =
      operatorStep ((⟨items, recovered, fs, k⟩ : Config).requireValue "operand" e)
        (.negation ⟨start, e.span.stop⟩ op e) t := by
  have hlike := (Config.like_mk items recovered (.negation start op :: fs) fs k k).require
    e .value "operand"
  simp only [operatorStep, closeTighter, closeOperand, completeNegation, Config.requireValue,
    closeTighter_like _ _ hlike, closeOperand_like _ _ hlike, delimiterStep_expect, frames_require]
  cases InfixOp.ofLexeme? t.lexeme with
  | some next =>
    dsimp only
    cases closeTighter next.level _ fs (.negation ⟨start, e.span.stop⟩ op e) <;> rfl
  | none =>
    cases closeTighter castLevel _ fs (.negation ⟨start, e.span.stop⟩ op e) <;> rfl

theorem operatorStep_negation {start : Position} {op : NegOp} (hvalue : e.IsValue) :
    operatorStep ⟨items, recovered, .negation start op :: fs, k⟩ e t =
      operatorStep ⟨items, recovered, fs, k⟩ (.negation ⟨start, e.span.stop⟩ op e) t := by
  rw [operatorStep_completesNegation, requireValue_of_isValue hvalue]

theorem operatorStep_completesReturn {start : Position}
    (hop : InfixOp.ofLexeme? t.lexeme = none) (has : t.lexeme ≠ .keyword .asWord) :
    operatorStep ⟨items, recovered, .ret start :: fs, k⟩ e t =
      operatorStep ((⟨items, recovered, fs, k⟩ : Config).requireValue "return value" e)
        (.ret ⟨start, e.span.stop⟩ (some e)) t := by
  have hlike := (Config.like_mk items recovered (.ret start :: fs) fs k k).require
    e .value "return value"
  simp only [operatorStep, hop, if_neg has, closeOperand, completeReturn, Config.requireValue,
    closeOperand_like _ _ hlike, delimiterStep_expect, frames_require]

theorem operatorStep_return {start : Position} (hvalue : e.IsValue)
    (hop : InfixOp.ofLexeme? t.lexeme = none) (has : t.lexeme ≠ .keyword .asWord) :
    operatorStep ⟨items, recovered, .ret start :: fs, k⟩ e t =
      operatorStep ⟨items, recovered, fs, k⟩ (.ret ⟨start, e.span.stop⟩ (some e)) t := by
  rw [operatorStep_completesReturn fs hop has, requireValue_of_isValue hvalue]

theorem openFor_mono {m n : Nat} (h : OpenFor m fs) (hle : m ≤ n) : OpenFor n fs := by
  unfold OpenFor at h ⊢
  split
  · exact Nat.lt_of_lt_of_le h hle
  · exact Nat.lt_of_lt_of_le h hle
  · trivial

theorem closeTighter_of_openFor {level : Nat} (hlevel : level ≤ castLevel)
    (h : OpenFor level fs) :
    closeTighter level c fs e = some ({ c with frames := fs }, e) := by
  cases fs with
  | nil => rfl
  | cons frame fs =>
    cases frame with
    | operation op lhs => simp only [closeTighter, if_pos (show op.level < level from h)]
    | negation start op => exact absurd hlevel (Nat.not_le.2 h)
    | _ => rfl

theorem operatorStep_opens {op : InfixOp} (hop : InfixOp.ofLexeme? t.lexeme = some op)
    (h : OpenFor op.level fs) :
    operatorStep ⟨items, recovered, fs, k⟩ e t =
      .ok ⟨items, recovered, .operation op e :: fs, .operand⟩ := by
  have hle : op.level ≤ castLevel := Nat.le_succ_of_le op.level_le
  simp only [operatorStep, hop, closeTighter_of_openFor _ hle h]
  rfl

theorem operatorStep_as (ht : t.lexeme = .keyword .asWord) (h : OpenFor castLevel fs) :
    operatorStep ⟨items, recovered, fs, k⟩ e t =
      .ok ⟨items, recovered, fs, .type (.cast e)⟩ := by
  simp only [operatorStep, ht, InfixOp.ofLexeme?, if_true,
    closeTighter_of_openFor _ (Nat.le_refl _) h]
  rfl

end MicroRust.Parsing
