import MicroRust.Proofs.Parsing.Operators
import MicroRust.Proofs.Parsing.Relocation

/-! Trees that are written out are read back.

Reading the lexemes of an expression and one token more is the same as taking that token behind the
expression. For each construct this is reduced to its parts; ranges are left out of account until
the end, since the parser does not look at them. -/

namespace MicroRust.Parsing

variable {items : List Item} {recovered : List Recovered} {fs : List Frame} {t : Token} {e : Expr}

theorem exists_first (e : Expr) :
    ∃ l rest, e.lexemes = l :: rest ∧ beginsOperand (unplaced l) = true := by
  cases e with
  | literal span value => cases value <;> exact ⟨_, _, rfl, rfl⟩
  | assign span target value =>
    obtain ⟨l, rest, h, hl⟩ := exists_first target
    exact ⟨l, _, by rw [Expr.lexemes, h, List.cons_append], hl⟩
  | binary span op lhs rhs =>
    obtain ⟨l, rest, h, hl⟩ := exists_first lhs
    exact ⟨l, _, by rw [Expr.lexemes, h, List.cons_append], hl⟩
  | cast span operand type =>
    obtain ⟨l, rest, h, hl⟩ := exists_first operand
    exact ⟨l, _, by rw [Expr.lexemes, h, List.cons_append], hl⟩
  | negation span op operand => cases op <;> exact ⟨_, _, rfl, rfl⟩
  | block body =>
    cases body
    exact ⟨_, _, rfl, rfl⟩
  | path | underscore | grouped | call | loop | whileLoop | conditional | unsafeBlock | ret =>
    exact ⟨_, _, rfl, rfl⟩

theorem steps_operand {c : Config} (hc : ∀ t : Token, beginsOperand t = true →
      step c t = operandStep ⟨items, recovered, fs, .operand⟩ t) (e : Expr) (ts : List Token) :
    steps c (e.lexemes.map unplaced ++ ts) =
      steps ⟨items, recovered, fs, .operand⟩ (e.lexemes.map unplaced ++ ts) := by
  obtain ⟨l, rest, h, hl⟩ := exists_first e
  rw [h, List.map_cons, List.cons_append, steps_cons, steps_cons, hc _ hl]
  rfl

theorem step_statement_of_begins (h : beginsOperand t = true) :
    step ⟨items, recovered, fs, .statement⟩ t = operandStep ⟨items, recovered, fs, .operand⟩ t := by
  obtain ⟨lexeme, span⟩ := t
  cases lexeme with
  | symbol s =>
    cases s with
    | rbrace | semicolon => cases h
    | _ => rfl
  | keyword k =>
    cases k with
    | letWord => cases h
    | _ => rfl
  | _ => rfl

theorem step_argument_of_begins (h : beginsOperand t = true) :
    step ⟨items, recovered, fs, .argument⟩ t = operandStep ⟨items, recovered, fs, .operand⟩ t := by
  obtain ⟨lexeme, span⟩ := t
  cases lexeme with
  | symbol s =>
    cases s with
    | rparen => cases h
    | _ => rfl
  | keyword k => cases k <;> rfl
  | _ => rfl

theorem step_groupOpen_of_begins {start : Position} (h : beginsOperand t = true) :
    step ⟨items, recovered, fs, .groupOpen start⟩ t =
      operandStep ⟨items, recovered, .group start :: fs, .operand⟩ t := by
  obtain ⟨lexeme, span⟩ := t
  cases lexeme with
  | symbol s =>
    cases s with
    | rparen => cases h
    | _ => rfl
  | keyword k => cases k <;> rfl
  | _ => rfl

theorem step_returnValue_of_begins {span : Span} (h : beginsOperand t = true) :
    step ⟨items, recovered, fs, .returnValue span⟩ t =
      operandStep ⟨items, recovered, .ret span.start :: fs, .operand⟩ t := by
  have hstep : step ⟨items, recovered, fs, .returnValue span⟩ t =
      operandStep ⟨items, recovered, .ret span.start :: fs, .returnValue span⟩ t := if_pos h
  rw [hstep]
  obtain ⟨lexeme, span⟩ := t
  cases lexeme with
  | symbol s => cases s <;> rfl
  | keyword k => cases k <;> rfl
  | _ => rfl

/-- The token may stand behind the expression: it does not belong to it, and operators leave it
whole. -/
structure Follows (e : Expr) (t : Token) : Prop where
  operator : ∀ op, InfixOp.ofLexeme? t.lexeme = some op →
    op.level ≤ e.level ∧ (op.level = 3 → e.level ≠ 3) ∧ ¬e.EndsValued
  cast : t.lexeme = .keyword .asWord → castLevel ≤ e.level ∧ ¬e.EndsValued
  call : t.lexeme ≠ .symbol .lparen
  alternative : t.lexeme ≠ .keyword .elseWord
  operand : e.EndsBare → beginsOperand t = false

/-- No alternative is being read. -/
def Settled (fs : List Frame) : Prop := ∀ e, closeElseIf fs e = (fs, e)

def IsConditional : Expr → Prop
  | .conditional _ _ _ _ => True
  | _ => False

/-- The lexemes of the expression and one token more are taken as that token behind the expression.
A conditional may stand behind an `else`; then it is the alternative of another one. -/
def Readable (e : Expr) : Prop :=
  ∀ (items : List Item) (recovered : List Recovered) (fs : List Frame) (t : Token),
    OpenFor e.level fs → Settled fs ∨ IsConditional e → Follows e t →
    steps ⟨items, recovered, fs, .operand⟩ (e.lexemes.map unplaced ++ [t]) =
      operatorStep ⟨items, recovered, (closeElseIf fs e.bare).1, .operand⟩
        (closeElseIf fs e.bare).2 t

theorem Readable.of_settled (hc : ¬IsConditional e)
    (h : ∀ items recovered fs t, OpenFor e.level fs → Settled fs → Follows e t →
      steps ⟨items, recovered, fs, .operand⟩ (e.lexemes.map unplaced ++ [t]) =
        operatorStep ⟨items, recovered, fs, .operand⟩ e.bare t) : Readable e := by
  intro items recovered fs t hopen hfs ht
  have hs := hfs.resolve_right hc
  rw [hs]
  exact h items recovered fs t hopen hs ht

theorem Readable.steps_settled (h : Readable e) (hopen : OpenFor e.level fs) (hs : Settled fs)
    (ht : Follows e t) :
    steps ⟨items, recovered, fs, .operand⟩ (e.lexemes.map unplaced ++ [t]) =
      operatorStep ⟨items, recovered, fs, .operand⟩ e.bare t := by
  rw [h items recovered fs t hopen (.inl hs) ht, hs]

theorem Readable.steps_cons (h : Readable e) {d : Config}
    (hd : operatorStep ⟨items, recovered, fs, .operand⟩ e.bare t = .ok d)
    (hopen : OpenFor e.level fs) (hs : Settled fs) (ht : Follows e t) (ts : List Token) :
    steps ⟨items, recovered, fs, .operand⟩ (e.lexemes.map unplaced ++ t :: ts) = steps d ts := by
  rw [List.append_cons]
  exact steps_append_of_ok ((h.steps_settled hopen hs ht).trans hd) ts

theorem steps_singleton (c : Config) (t : Token) : steps c [t] = step c t := by
  rw [steps_cons]
  cases step c t <;> rfl

theorem steps_operator (e : Expr) :
    steps ⟨items, recovered, fs, .operator e⟩ [t] =
      operatorStep ⟨items, recovered, fs, .operand⟩ e t := by
  rw [steps_singleton]
  exact operatorStep_like e t ⟨rfl, rfl⟩ rfl

@[simp] theorem span_bare (e : Expr) : e.bare.span = noSpan := by
  rw [Expr.span_relocate]
  rfl

theorem isValue_bare (h : e.IsValue) : e.bare.IsValue := by
  rwa [Expr.IsValue, Expr.capability_relocate]

theorem isAssignee_bare (h : e.IsAssignee) : e.bare.IsAssignee := by
  cases e with
  | path | underscore => trivial
  | _ => cases h

theorem follows_of_delimiter {s : Symbol} (hs : s ∈ [Symbol.rparen, .comma, .semicolon, .rbrace]) :
    Follows e (unplaced (.symbol s)) := by
  simp only [List.mem_cons, List.not_mem_nil, or_false] at hs
  rcases hs with rfl | rfl | rfl | rfl <;>
    exact ⟨nofun, nofun, nofun, nofun, fun _ => rfl⟩

theorem follows_lbrace (h : ¬e.EndsBare) : Follows e (unplaced (.symbol .lbrace)) :=
  ⟨nofun, nofun, nofun, nofun, (absurd · h)⟩

section

variable {k : Control} (hvalue : e.IsValue)
include hvalue

theorem operatorStep_group {start : Position} :
    operatorStep ⟨items, recovered, .group start :: fs, k⟩ e (unplaced (.symbol .rparen)) =
      .ok ⟨items, recovered, fs, .operator (.grouped ⟨start, Position.origin⟩ e)⟩ := by
  show Except.ok ((Config.requireValue _ _ e).replace _ _) = _
  rw [requireValue_of_isValue hvalue]
  rfl

theorem operatorStep_comma {span : Span} {callee : String} {args : List Expr} :
    operatorStep ⟨items, recovered, .call span callee args :: fs, k⟩ e (unplaced (.symbol .comma)) =
      .ok ⟨items, recovered, .call span callee (e :: args) :: fs, .argument⟩ := by
  show Except.ok ((Config.requireValue _ _ e).replace _ _) = _
  rw [requireValue_of_isValue hvalue]
  rfl

theorem operatorStep_call {span : Span} {callee : String} {args : List Expr} :
    operatorStep ⟨items, recovered, .call span callee args :: fs, k⟩ e
        (unplaced (.symbol .rparen)) =
      .ok ⟨items, recovered, fs,
        .operator (.call ⟨span.start, Position.origin⟩ span callee (args.reverse ++ [e]))⟩ := by
  show Except.ok ((Config.requireValue _ _ e).replace _ _) = _
  rw [requireValue_of_isValue hvalue, List.reverse_cons]
  rfl

theorem operatorStep_tail {start : Position} {role : BlockRole} {stmts : List Stmt} :
    operatorStep ⟨items, recovered, .block start role stmts :: fs, k⟩ e
        (unplaced (.symbol .rbrace)) =
      .ok (closeBlock ⟨items, recovered, fs, .statement⟩ start role stmts (some e) fs noSpan) := by
  have hlike := Config.like_mk items recovered (.block start role stmts :: fs) fs k .statement
  show Except.ok (closeBlock (Config.requireValue _ _ e) _ _ _ _ _ _) = _
  rw [requireValue_of_isValue hvalue]
  exact congrArg Except.ok (closeBlock_like fs hlike start role stmts (some e) noSpan)

theorem operatorStep_bound {head : BindingHead} {start : Position} {role : BlockRole}
    {stmts : List Stmt} :
    operatorStep ⟨items, recovered, .binding head :: .block start role stmts :: fs, k⟩ e
        (unplaced (.symbol .semicolon)) =
      .ok ⟨items, recovered, .block start role (.binding ⟨head.start, Position.origin⟩ head.mutable
        head.pattern head.type (some e) :: stmts) :: fs, .statement⟩ := by
  show Except.ok (addStatement (Config.requireValue _ _ e) _ _ _ _ _) = _
  rw [requireValue_of_isValue hvalue]
  rfl

end

theorem readable_literal (span : Span) (value : Literal) : Readable (.literal span value) := by
  refine .of_settled nofun fun items recovered fs t _ _ _ => ?_
  cases value <;> exact steps_operator _

theorem readable_underscore (span : Span) : Readable (.underscore span) :=
  .of_settled nofun fun _ _ _ _ _ _ _ => steps_operator _

theorem readable_path (span : Span) (name : String) : Readable (.path span name) := by
  refine .of_settled nofun fun items recovered fs t _ _ ht => ?_
  show steps ⟨items, recovered, fs, .pathNext noSpan name⟩ [t] = _
  rw [steps_singleton]
  simp only [step]
  split
  · rename_i h
    exact absurd h ht.call
  · exact operatorStep_like _ _ ⟨rfl, rfl⟩ rfl

theorem readable_grouped (span : Span) (h : Readable e) (hvalue : e.IsValue) :
    Readable (.grouped span e) := by
  refine .of_settled nofun fun items recovered fs t _ _ _ => ?_
  have hlexemes : (Expr.grouped span e).lexemes.map unplaced ++ [t] =
      unplaced (.symbol .lparen) :: (e.lexemes.map unplaced ++
        [unplaced (.symbol .rparen), t]) := by
    simp [Expr.lexemes]
  rw [hlexemes]
  show steps ⟨items, recovered, fs, .groupOpen Position.origin⟩ _ = _
  rw [steps_operand (fun _ => step_groupOpen_of_begins)]
  rw [h.steps_cons (operatorStep_group (isValue_bare hvalue)) trivial (fun _ => rfl)
    (follows_of_delimiter (by decide))]
  exact steps_operator _

theorem readable_negation (span : Span) (op : NegOp) (h : Readable e) (hvalue : e.IsValue)
    (hlevel : 10 ≤ e.level) : Readable (.negation span op e) := by
  refine .of_settled nofun fun items recovered fs t _ _ ht => ?_
  have hfollows : Follows e t := by
    refine ⟨fun next hnext => ?_, fun has => ?_, ht.call, ht.alternative, ht.operand⟩
    · have hle := next.level_le
      exact ⟨by omega, by omega, (ht.operator next hnext).2.2⟩
    · exact ⟨Nat.le_of_succ_le hlevel, (ht.cast has).2⟩
  have hsteps : steps ⟨items, recovered, .negation Position.origin op :: fs, .operand⟩
      (e.lexemes.map unplaced ++ [t]) = _ := h.steps_settled hlevel (fun _ => rfl) hfollows
  have hclose := hsteps.trans (operatorStep_negation fs (isValue_bare hvalue))
  rw [span_bare] at hclose
  cases op <;> exact hclose

theorem readable_return (span : Span) : Readable (.ret span none) := by
  refine .of_settled nofun fun items recovered fs t _ _ ht => ?_
  show steps ⟨items, recovered, fs, .returnValue noSpan⟩ [t] = _
  have hbegins : ¬beginsOperand t = true := Bool.eq_false_iff.1 (ht.operand trivial)
  rw [steps_singleton]
  simp only [step, if_neg hbegins]
  exact operatorStep_like _ _ ⟨rfl, rfl⟩ rfl

theorem readable_returnValue (span : Span) (h : Readable e) (hvalue : e.IsValue) :
    Readable (.ret span (some e)) := by
  refine .of_settled nofun fun items recovered fs t _ _ ht => ?_
  -- The value of a `return` takes in every operator, so none may follow.
  have hop : InfixOp.ofLexeme? t.lexeme = none := by
    cases hnext : InfixOp.ofLexeme? t.lexeme with
    | none => rfl
    | some next => exact absurd rfl (ht.operator next hnext).2.2
  have has : t.lexeme ≠ .keyword .asWord := fun has => (ht.cast has).2 rfl
  have hfollows : Follows e t :=
    ⟨fun next hnext => by simp [hop] at hnext, fun h => absurd h has, ht.call, ht.alternative,
      ht.operand⟩
  show steps ⟨items, recovered, fs, .returnValue noSpan⟩ (e.lexemes.map unplaced ++ [t]) = _
  have hsteps : steps ⟨items, recovered, .ret Position.origin :: fs, .operand⟩
      (e.lexemes.map unplaced ++ [t]) = _ := h.steps_settled trivial (fun _ => rfl) hfollows
  have hclose := hsteps.trans (operatorStep_return fs (isValue_bare hvalue) hop has)
  rw [span_bare] at hclose
  rw [steps_operand (fun _ => step_returnValue_of_begins)]
  exact hclose

theorem fits_bare {op : InfixOp} {lhs rhs : Expr} (h : op.Fits lhs rhs) :
    op.Fits lhs.bare rhs.bare := by
  cases op with
  | assign => exact ⟨isAssignee_bare h.1, isValue_bare h.2⟩
  | binary op => exact ⟨isValue_bare h.1, isValue_bare h.2⟩

theorem beginsOperand_symbol (op : InfixOp) (h : op ≠ .binary (.arith .sub)) :
    beginsOperand (unplaced (.symbol op.symbol)) = false := by
  rcases op with _ | (a | c | l)
  · rfl
  · cases a with
    | sub => exact absurd rfl h
    | _ => rfl
  · cases c <;> rfl
  · cases l <;> rfl

theorem steps_operation (op : InfixOp) {lhs rhs : Expr} (hl : Readable lhs) (hr : Readable rhs)
    (hfits : op.Fits lhs rhs) (hlevel : op.level ≤ lhs.level)
    (hchain : op.level = 3 → lhs.level ≠ 3) (hrhs : op.level < rhs.level)
    (hvalued : ¬lhs.EndsValued) (hbare : op = .binary (.arith .sub) → ¬lhs.EndsBare)
    (hopen : OpenFor op.level fs) (hs : Settled fs) (ht : Follows e t) (he : e.level = op.level)
    (hev : e.EndsValued = rhs.EndsValued) (heb : e.EndsBare = rhs.EndsBare) :
    steps ⟨items, recovered, fs, .operand⟩
        (lhs.lexemes.map unplaced ++ unplaced (.symbol op.symbol) ::
          (rhs.lexemes.map unplaced ++ [t])) =
      operatorStep ⟨items, recovered, fs, .operand⟩ (op.tree lhs.bare rhs.bare) t := by
  have hsymbol : InfixOp.ofLexeme? (unplaced (.symbol op.symbol)).lexeme = some op :=
    (InfixOp.ofLexeme?_eq_some_iff _ _).2 rfl
  -- Of the operators only `-` begins an operand too, and so may be taken into a bare `return`.
  have hfl : Follows lhs (unplaced (.symbol op.symbol)) := by
    refine ⟨fun next hnext => ?_, nofun, ?_, nofun, fun hb => ?_⟩
    · cases hsymbol.symm.trans hnext
      exact ⟨hlevel, hchain, hvalued⟩
    · intro h
      exact op.symbol_ne_lparen (Lexeme.symbol.inj h)
    · exact beginsOperand_symbol op fun hsub => hbare hsub hb
  -- A cast binds tighter than every operator and would take the right operand only.
  have has : t.lexeme ≠ .keyword .asWord := by
    intro h
    have h9 := (ht.cast h).1
    have hle := op.level_le
    have hcast : castLevel = 9 := rfl
    omega
  have hfr : Follows rhs t := by
    refine ⟨fun next hnext => ?_, (absurd · has), ht.call, ht.alternative, heb ▸ ht.operand⟩
    obtain ⟨h1, h2, h3⟩ := ht.operator next hnext
    refine ⟨by omega, fun heq => ?_, hev ▸ h3⟩
    have := h2 heq
    omega
  have hopenr : OpenFor rhs.level (.operation op lhs.bare :: fs) := hrhs
  rw [hl.steps_cons (operatorStep_opens fs hsymbol hopen) (openFor_mono fs hopen hlevel) hs hfl,
    hr.steps_settled hopenr (fun _ => rfl) hfr]
  refine operatorStep_operation fs (fits_bare hfits) (fun next hnext => ?_) has
  obtain ⟨h1, h2, -⟩ := ht.operator next hnext
  exact ⟨he ▸ h1, he ▸ h2⟩

theorem readable_assign (span : Span) {target value : Expr} (htarget : Readable target)
    (hvalue : Readable value) (hfits : target.IsAssignee ∧ value.IsValue)
    (hlevel : 1 ≤ value.level) : Readable (.assign span target value) := by
  refine .of_settled nofun fun items recovered fs t hopen hs ht => ?_
  have hends : ¬target.EndsValued ∧ ¬target.EndsBare := by
    cases target with
    | path | underscore => exact ⟨id, id⟩
    | _ => cases hfits.1
  have hsteps : steps ⟨items, recovered, fs, .operand⟩ _ = _ :=
    steps_operation .assign htarget hvalue hfits (Nat.zero_le _) nofun hlevel hends.1
      (fun _ => hends.2) hopen hs ht rfl rfl rfl
  rw [InfixOp.tree, span_bare, span_bare] at hsteps
  exact Eq.trans (by simp [Expr.lexemes, InfixOp.symbol]) hsteps

theorem readable_binary (span : Span) (op : BinaryOp) {lhs rhs : Expr} (hl : Readable lhs)
    (hr : Readable rhs) (hlayered : (Expr.binary span op lhs rhs).Layered)
    (hplaced : (Expr.binary span op lhs rhs).Placed) : Readable (.binary span op lhs rhs) := by
  refine .of_settled nofun fun items recovered fs t hopen hs ht => ?_
  obtain ⟨hlv, hrv, hvalued, hbare⟩ := hplaced
  obtain ⟨hle, hchain, hlt⟩ := (Expr.layered_binary_iff ..).1 hlayered
  have hsteps : steps ⟨items, recovered, fs, .operand⟩ _ = _ :=
    steps_operation (.binary op) hl hr ⟨hlv, hrv⟩ hle hchain hlt hvalued
      (fun h => hbare (InfixOp.binary.inj h)) hopen hs ht rfl rfl rfl
  rw [InfixOp.tree, span_bare, span_bare] at hsteps
  exact Eq.trans (by simp [Expr.lexemes, InfixOp.symbol]) hsteps

theorem closeType_like {c d : Config} (h : c.Like d) (hframes : c.frames = d.frames)
    (slot : TypeSlot) (type : TypeRef) : closeType c slot type = closeType d slot type := by
  have hexpect : ∀ {c d : Config} (k : Control), c.Like d → c.frames = d.frames →
      c.expect k = d.expect k := by
    rintro c d k ⟨hi, hr⟩ hf
    simp only [Config.expect, hi, hr, hf]
  cases slot with
  | cast operand =>
    exact hexpect _ (h.require operand .value _) (by simpa using hframes)
  | param | result | binding | static => exact hexpect _ h hframes

theorem steps_type (kind : TypeKind) (slot : TypeSlot) (ts : List Token) :
    steps ⟨items, recovered, fs, .type slot⟩ (kind.lexemes.map unplaced ++ ts) =
      steps (closeType ⟨items, recovered, fs, .operand⟩ slot ⟨kind, noSpan⟩) ts := by
  have hlike (k : Control) : closeType ⟨items, recovered, fs, k⟩ slot ⟨kind, noSpan⟩ =
      closeType ⟨items, recovered, fs, .operand⟩ slot ⟨kind, noSpan⟩ :=
    closeType_like (Config.like_mk items recovered fs fs k .operand) rfl slot _
  cases kind with
  | unit => exact congrArg (steps · ts) (hlike (.typeClose Position.origin slot))
  | i32 | f64 | bool => exact congrArg (steps · ts) (hlike (.type slot))

theorem readable_cast (span : Span) (type : TypeRef) (h : Readable e) (hvalue : e.IsValue)
    (hlevel : castLevel ≤ e.level) (hvalued : ¬e.EndsValued) : Readable (.cast span e type) := by
  refine .of_settled nofun fun items recovered fs t hopen hs _ => ?_
  have hlexemes : (Expr.cast span e type).lexemes.map unplaced ++ [t] =
      e.lexemes.map unplaced ++ unplaced (.keyword .asWord) ::
        (type.kind.lexemes.map unplaced ++ [t]) := by
    simp [Expr.lexemes]
  have hfollows : Follows e (unplaced (.keyword .asWord)) :=
    ⟨nofun, fun _ => ⟨hlevel, hvalued⟩, nofun, nofun, fun _ => rfl⟩
  have hclose : closeType ⟨items, recovered, fs, .operand⟩ (.cast e.bare) ⟨type.kind, noSpan⟩ =
      ⟨items, recovered, fs, .operator (Expr.cast span e type).bare⟩ := by
    simp only [closeType, requireValue_of_isValue (isValue_bare hvalue), span_bare]
    rfl
  rw [hlexemes, h.steps_cons (operatorStep_as fs rfl hopen) (openFor_mono fs hopen hlevel) hs
    hfollows, steps_type, hclose]
  exact steps_operator _

theorem steps_args (args : List Expr) (h : ∀ e ∈ args, Readable e) (hvalue : ∀ e ∈ args, e.IsValue)
    (callee : String) (before : List Expr) (ts : List Token) :
    steps ⟨items, recovered, .call noSpan callee before :: fs, .argument⟩
        ((argsLexemes args).map unplaced ++ unplaced (.symbol .rparen) :: ts) =
      steps ⟨items, recovered, fs, .operator (.call noSpan noSpan callee
        (before.reverse ++ args.map Expr.bare))⟩ ts := by
  induction args generalizing before with
  | nil =>
    rw [List.map_nil, List.append_nil]
    rfl
  | cons e rest ih =>
    obtain ⟨he, hrest⟩ := List.forall_mem_cons.1 h
    obtain ⟨hev, hrestv⟩ := List.forall_mem_cons.1 hvalue
    cases rest with
    | nil =>
      rw [argsLexemes, steps_operand (fun _ => step_argument_of_begins),
        he.steps_cons (operatorStep_call (isValue_bare hev)) trivial (fun _ => rfl)
          (follows_of_delimiter (by decide))]
      rfl
    | cons e' rest =>
      have hlexemes : (argsLexemes (e :: e' :: rest)).map unplaced ++
          unplaced (.symbol .rparen) :: ts =
            e.lexemes.map unplaced ++ unplaced (.symbol .comma) ::
              ((argsLexemes (e' :: rest)).map unplaced ++ unplaced (.symbol .rparen) :: ts) := by
        rw [argsLexemes] <;> simp
      rw [hlexemes, steps_operand (fun _ => step_argument_of_begins),
        he.steps_cons (operatorStep_comma (isValue_bare hev)) trivial (fun _ => rfl)
          (follows_of_delimiter (by decide)), ih hrest hrestv]
      simp

theorem readable_call (span calleeSpan : Span) (callee : String) (args : List Expr)
    (h : ∀ e ∈ args, Readable e) (hvalue : ∀ e ∈ args, e.IsValue) :
    Readable (.call span calleeSpan callee args) := by
  refine .of_settled nofun fun items recovered fs t _ _ _ => ?_
  have hlexemes : (Expr.call span calleeSpan callee args).lexemes.map unplaced ++ [t] =
      unplaced (.identifier callee) :: unplaced (.symbol .lparen) ::
        ((argsLexemes args).map unplaced ++ [unplaced (.symbol .rparen), t]) := by
    simp [Expr.lexemes]
  have hbare : (Expr.call span calleeSpan callee args).bare =
      .call noSpan noSpan callee (args.map Expr.bare) := by
    rw [Expr.bare, Expr.relocate, relocateArgs_eq_map]
    rfl
  rw [hlexemes, hbare]
  show steps ⟨items, recovered, .call noSpan callee [] :: fs, .argument⟩ _ = _
  rw [steps_args args h hvalue]
  exact steps_operator _

def ReadableStmt (s : Stmt) : Prop :=
  ∀ (items : List Item) (recovered : List Recovered) (start : Position) (role : BlockRole)
    (before : List Stmt) (fs : List Frame) (ts : List Token),
    steps ⟨items, recovered, .block start role before :: fs, .statement⟩
        (s.lexemes.map unplaced ++ ts) =
      steps ⟨items, recovered, .block start role (s.bare :: before) :: fs, .statement⟩ ts

theorem readableStmt_expr (span : Span) (h : Readable e) : ReadableStmt (.expr span e) := by
  intro items recovered start role before fs ts
  have hstep : operatorStep ⟨items, recovered, .block start role before :: fs, .operand⟩ e.bare
      (unplaced (.symbol .semicolon)) = .ok ⟨items, recovered,
        .block start role ((Stmt.expr span e).bare :: before) :: fs, .statement⟩ := by
    show Except.ok (addStatement _ _ _ _ _ (.expr ⟨e.bare.span.start, _⟩ _)) = _
    rw [span_bare]
    rfl
  rw [Stmt.lexemes, List.map_append, List.append_assoc,
    steps_operand (fun _ => step_statement_of_begins)]
  exact h.steps_cons hstep trivial (fun _ => rfl) (follows_of_delimiter (by decide)) ts

theorem steps_binder (mutable : Bool) (pattern : Pattern) (type : TypeRef) (ts : List Token) :
    steps ⟨items, recovered, fs, .bindingMut Position.origin⟩
        ((binderLexemes mutable pattern type).map unplaced ++ ts) =
      steps ⟨items, recovered, fs, .bindingInit
        ⟨Position.origin, mutable, pattern.relocate nowhere, ⟨type.kind, noSpan⟩⟩⟩ ts := by
  have htype : steps ⟨items, recovered, fs, _⟩ _ = _ := steps_type type.kind
    (.binding Position.origin mutable (pattern.relocate nowhere)) ts
  cases mutable <;> cases pattern <;> exact htype

theorem readableStmt_binding (span : Span) (mutable : Bool) (pattern : Pattern) (type : TypeRef)
    (init : Option Expr) (h : ∀ e ∈ init, Readable e) (hvalue : ∀ e ∈ init, e.IsValue) :
    ReadableStmt (.binding span mutable pattern type init) := by
  intro items recovered start role before fs ts
  have hlexemes : (Stmt.binding span mutable pattern type init).lexemes.map unplaced ++ ts =
      unplaced (.keyword .letWord) :: ((binderLexemes mutable pattern type).map unplaced ++
        ((optionLexemes [.symbol .assign] init).map unplaced ++
          unplaced (.symbol .semicolon) :: ts)) := by
    simp [Stmt.lexemes]
  rw [hlexemes]
  show steps ⟨items, recovered, _, .bindingMut Position.origin⟩ _ = _
  rw [steps_binder]
  cases init with
  | none => rfl
  | some e =>
    show steps ⟨items, recovered, .binding _ :: .block start role before :: fs, .operand⟩
      (e.lexemes.map unplaced ++ _) = _
    exact (h e rfl).steps_cons (operatorStep_bound (isValue_bare (hvalue e rfl))) trivial
      (fun _ => rfl) (follows_of_delimiter (by decide)) ts

theorem steps_stmts (stmts : List Stmt) (h : ∀ s ∈ stmts, ReadableStmt s) (start : Position)
    (role : BlockRole) (before : List Stmt) (ts : List Token) :
    steps ⟨items, recovered, .block start role before :: fs, .statement⟩
        ((stmtsLexemes stmts).map unplaced ++ ts) =
      steps ⟨items, recovered, .block start role ((stmts.map Stmt.bare).reverse ++ before) :: fs,
        .statement⟩ ts := by
  induction stmts generalizing before with
  | nil => rfl
  | cons s rest ih =>
    obtain ⟨hs, hrest⟩ := List.forall_mem_cons.1 h
    rw [stmtsLexemes, List.map_append, List.append_assoc, hs, ih hrest]
    simp

def innerLexemes : Block → List Lexeme
  | .mk _ stmts tail => stmtsLexemes stmts ++ optionLexemes [] tail ++ [.symbol .rbrace]

theorem lexemes_block (b : Block) : b.lexemes = .symbol .lbrace :: innerLexemes b := by
  cases b
  simp [Block.lexemes, innerLexemes]

def ReadableBlock (b : Block) : Prop :=
  ∀ (items : List Item) (recovered : List Recovered) (role : BlockRole) (fs : List Frame)
    (ts : List Token),
    steps ⟨items, recovered, .block Position.origin role [] :: fs, .statement⟩
        ((innerLexemes b).map unplaced ++ ts) =
      steps (closeBlock ⟨items, recovered, fs, .statement⟩ Position.origin role
        b.bare.stmts.reverse b.bare.tail fs noSpan) ts

theorem readableBlock_mk (span : Span) (stmts : List Stmt) (tail : Option Expr)
    (hstmts : ∀ s ∈ stmts, ReadableStmt s) (htail : ∀ e ∈ tail, Readable e)
    (hvalue : ∀ e ∈ tail, e.IsValue) : ReadableBlock (.mk span stmts tail) := by
  intro items recovered role fs ts
  have hbare : (Block.mk span stmts tail).bare.stmts = stmts.map Stmt.bare := by
    simp [Block.relocate, Block.stmts]
  rw [innerLexemes, List.append_assoc, List.map_append, List.append_assoc,
    steps_stmts stmts hstmts, List.append_nil, hbare]
  cases tail with
  | none =>
    -- Here the brace is taken where a statement may begin, with a tail behind an expression.
    have hlike := Config.like_mk items recovered
      (.block Position.origin role (stmts.map Stmt.bare).reverse :: fs) fs .statement .statement
    exact congrArg (steps · ts) (closeBlock_like fs hlike ..)
  | some e =>
    rw [optionLexemes, List.nil_append, List.map_append, List.append_assoc,
      steps_operand (fun _ => step_statement_of_begins)]
    exact (htail e rfl).steps_cons (operatorStep_tail (isValue_bare (hvalue e rfl))) trivial
      (fun _ => rfl) (follows_of_delimiter (by decide)) ts

theorem mk_bare (b : Block) :
    Block.mk ⟨Position.origin, Position.origin⟩ b.bare.stmts.reverse.reverse b.bare.tail =
      b.bare := by
  cases b
  rw [List.reverse_reverse]
  rfl

variable {b : Block}

theorem readable_of_body (role : BlockRole) {whole : Block → Expr} (h : ReadableBlock b)
    (hc : ¬IsConditional e) (hbare : e.bare = whole b.bare)
    (hopen : ∀ items recovered fs ts,
      steps ⟨items, recovered, fs, .operand⟩ (e.lexemes.map unplaced ++ ts) =
        steps ⟨items, recovered, .block Position.origin role [] :: fs, .statement⟩
          ((innerLexemes b).map unplaced ++ ts))
    (hclose : ∀ (c : Config) (stmts : List Stmt) (tail : Option Expr) (fs : List Frame),
      closeBlock c Position.origin role stmts tail fs noSpan =
        c.replace fs (.operator (whole (.mk noSpan stmts.reverse tail)))) : Readable e := by
  refine .of_settled hc fun items recovered fs t _ _ _ => ?_
  rw [hopen, h, hclose, hbare]
  refine Eq.trans ?_ (steps_operator _)
  exact congrArg (fun b => steps (Config.mk items recovered fs (.operator (whole b))) [t])
    (mk_bare b)

theorem readable_block (h : ReadableBlock b) : Readable (.block b) := by
  refine readable_of_body .plain h nofun rfl (fun items recovered fs ts => ?_)
    fun _ _ _ _ => rfl
  rw [Expr.lexemes, lexemes_block]
  rfl

theorem readable_loop (span : Span) (h : ReadableBlock b) : Readable (.loop span b) := by
  refine readable_of_body (.loopBody Position.origin) h nofun rfl
    (fun items recovered fs ts => ?_) fun _ _ _ _ => rfl
  rw [Expr.lexemes, lexemes_block]
  rfl

theorem readable_unsafeBlock (span : Span) (h : ReadableBlock b) :
    Readable (.unsafeBlock span b) := by
  refine readable_of_body (.unsafeBody Position.origin) h nofun rfl
    (fun items recovered fs ts => ?_) fun _ _ _ _ => rfl
  rw [Expr.lexemes, lexemes_block]
  rfl

theorem readable_whileLoop (span : Span) {cond : Expr} (hcond : Readable cond)
    (hvalue : cond.IsValue) (hbare : ¬cond.EndsBare) (h : ReadableBlock b) :
    Readable (.whileLoop span cond b) := by
  refine readable_of_body (.whileBody Position.origin cond.bare) h nofun rfl
    (fun items recovered fs ts => ?_) fun c stmts tail fs => ?_
  · have hopen : operatorStep ⟨items, recovered, .whileCondition Position.origin :: fs, .operand⟩
        cond.bare (unplaced (.symbol .lbrace)) = .ok ⟨items, recovered,
          .block Position.origin (.whileBody Position.origin cond.bare) [] :: fs, .statement⟩ := rfl
    have hlexemes : (Expr.whileLoop span cond b).lexemes.map unplaced ++ ts =
        unplaced (.keyword .whileWord) :: (cond.lexemes.map unplaced ++
          unplaced (.symbol .lbrace) :: ((innerLexemes b).map unplaced ++ ts)) := by
      simp [Expr.lexemes, lexemes_block]
    rw [hlexemes]
    exact hcond.steps_cons hopen trivial (fun _ => rfl) (follows_lbrace hbare) _
  · simp only [closeBlock, requireValue_of_isValue (isValue_bare hvalue)]
    rfl

theorem steps_if {cond : Expr} (hcond : Readable cond) (hvalue : cond.IsValue)
    (hbare : ¬cond.EndsBare) (h : ReadableBlock b) (ts : List Token) :
    steps ⟨items, recovered, fs, .operand⟩ (unplaced (.keyword .ifWord) ::
        (cond.lexemes.map unplaced ++ unplaced (.symbol .lbrace) ::
          ((innerLexemes b).map unplaced ++ ts))) =
      steps ⟨items, recovered, fs, .afterThen Position.origin cond.bare b.bare⟩ ts := by
  have hopen : operatorStep ⟨items, recovered, .ifCondition Position.origin :: fs, .operand⟩
      cond.bare (unplaced (.symbol .lbrace)) = .ok ⟨items, recovered,
        .block Position.origin (.thenBranch Position.origin cond.bare) [] :: fs, .statement⟩ := rfl
  show steps ⟨items, recovered, .ifCondition Position.origin :: fs, .operand⟩ _ = _
  rw [hcond.steps_cons hopen trivial (fun _ => rfl) (follows_lbrace hbare), h]
  simp only [closeBlock, requireValue_of_isValue (isValue_bare hvalue)]
  exact congrArg (fun b => steps (Config.mk items recovered fs
    (.afterThen Position.origin cond.bare b)) ts) (mk_bare b)

theorem readable_if (span : Span) {cond : Expr} (hcond : Readable cond) (hvalue : cond.IsValue)
    (hbare : ¬cond.EndsBare) (h : ReadableBlock b) : Readable (.conditional span cond b none) := by
  intro items recovered fs t _ _ ht
  have hlexemes : (Expr.conditional span cond b none).lexemes.map unplaced ++ [t] =
      unplaced (.keyword .ifWord) :: (cond.lexemes.map unplaced ++ unplaced (.symbol .lbrace) ::
        ((innerLexemes b).map unplaced ++ [t])) := by
    simp [Expr.lexemes, lexemes_block, optionLexemes]
  rw [hlexemes, steps_if hcond hvalue hbare h, steps_singleton]
  simp only [step, if_neg ht.alternative, Block.span_relocate]
  exact operatorStep_like _ _ ⟨rfl, rfl⟩ rfl

theorem lexemes_else (span : Span) (cond alternative : Expr) (t : Token) :
    (Expr.conditional span cond b (some alternative)).lexemes.map unplaced ++ [t] =
      unplaced (.keyword .ifWord) :: (cond.lexemes.map unplaced ++ unplaced (.symbol .lbrace) ::
        ((innerLexemes b).map unplaced ++ unplaced (.keyword .elseWord) ::
          (alternative.lexemes.map unplaced ++ [t]))) := by
  simp [Expr.lexemes, lexemes_block, optionLexemes]

theorem completeIf_bare (span : Span) (cond alternative : Expr) :
    completeIf Position.origin cond.bare b.bare alternative.bare =
      (Expr.conditional span cond b (some alternative)).bare := by
  rw [completeIf, span_bare]
  rfl

theorem readable_else (span : Span) {cond : Expr} {b' : Block} (hcond : Readable cond)
    (hvalue : cond.IsValue) (hbare : ¬cond.EndsBare) (h : ReadableBlock b)
    (h' : ReadableBlock b') : Readable (.conditional span cond b (some (.block b'))) := by
  intro items recovered fs t _ _ _
  rw [lexemes_else, steps_if hcond hvalue hbare h, Expr.lexemes, lexemes_block]
  show steps ⟨items, recovered, .block Position.origin
    (.elseBranch Position.origin cond.bare b.bare) [] :: fs, .statement⟩
    ((innerLexemes b').map unplaced ++ [t]) = _
  rw [h', ← completeIf_bare, ← steps_operator]
  exact congrArg (fun b' => steps (Config.mk items recovered
    (closeElseIf fs (completeIf Position.origin cond.bare b.bare (.block b'))).1
    (.operator (closeElseIf fs (completeIf Position.origin cond.bare b.bare (.block b'))).2)) [t])
    (mk_bare b')

theorem readable_elseIf (span : Span) {cond alternative : Expr} (hcond : Readable cond)
    (hvalue : cond.IsValue) (hbare : ¬cond.EndsBare) (h : ReadableBlock b)
    (halternative : Readable alternative) (hc : IsConditional alternative) :
    Readable (.conditional span cond b (some alternative)) := by
  intro items recovered fs t _ _ ht
  rw [lexemes_else, steps_if hcond hvalue hbare h, ← completeIf_bare]
  cases alternative with
  | conditional s cond' b'' alternative' =>
    -- The inner conditional is read on top of the outer one, and its end closes both.
    have hfollows : Follows (.conditional s cond' b'' alternative') t :=
      ⟨ht.operator, ht.cast, ht.call, ht.alternative, nofun⟩
    exact halternative items recovered
      (.elseIf Position.origin cond.bare b.bare :: fs) t trivial (.inr trivial) hfollows
  | _ => cases hc

mutual

theorem readable : ∀ e : Expr, e.outline.Every Node.WellFormed → Readable e
  | .literal span value, _ => readable_literal span value
  | .path span name, _ => readable_path span name
  | .underscore span, _ => readable_underscore span
  | .grouped span inner, h => by
    simp only [Expr.outline, Outline.every_node, List.forall_mem_singleton] at h
    exact readable_grouped span (readable inner h.2) h.1.2
  | .call span calleeSpan callee args, h => by
    simp only [Expr.outline, Outline.every_node, outlineArgs_eq_map, List.forall_mem_map] at h
    exact readable_call span calleeSpan callee args (readableArgs args h.2) h.1.2
  | .assign span target value, h => by
    simp only [Expr.outline, Outline.every_node, List.forall_mem_cons] at h
    exact readable_assign span (readable target h.2.1) (readable value h.2.2.1) h.1.2 h.1.1
  | .binary span op lhs rhs, h => by
    simp only [Expr.outline, Outline.every_node, List.forall_mem_cons] at h
    exact readable_binary span op (readable lhs h.2.1) (readable rhs h.2.2.1) h.1.1 h.1.2
  | .negation span op operand, h => by
    simp only [Expr.outline, Outline.every_node, List.forall_mem_singleton] at h
    exact readable_negation span op (readable operand h.2) h.1.2 h.1.1
  | .cast span operand type, h => by
    simp only [Expr.outline, Outline.every_node, List.forall_mem_singleton] at h
    exact readable_cast span type (readable operand h.2) h.1.2.1 h.1.1 h.1.2.2
  | .block body, h => readable_block (readableBlock body h)
  | .loop span body, h => by
    simp only [Expr.outline, Outline.every_node, List.forall_mem_singleton] at h
    exact readable_loop span (readableBlock body h.2)
  | .whileLoop span cond body, h => by
    simp only [Expr.outline, Outline.every_node, List.forall_mem_cons] at h
    exact readable_whileLoop span (readable cond h.2.1) h.1.2.1 h.1.2.2 (readableBlock body h.2.2.1)
  | .conditional span cond thenBlock none, h => by
    simp only [Expr.outline, Outline.every_node, List.forall_mem_cons] at h
    exact readable_if span (readable cond h.2.1) h.1.2.1 h.1.2.2.1
      (readableBlock thenBlock h.2.2.1)
  | .conditional span cond thenBlock (some alternative), h => by
    simp only [Expr.outline, outlineOption, Outline.every_node, List.forall_mem_cons] at h
    have hcond := readable cond h.2.1
    have hthen := readableBlock thenBlock h.2.2.1
    have hkind : alternative.IsAlternative := h.1.2.2.2 alternative rfl
    have halternative := readable alternative h.2.2.2.1
    cases alternative with
    | block body =>
      exact readable_else span hcond h.1.2.1 h.1.2.2.1 hthen (readableBlock body h.2.2.2.1)
    | conditional =>
      exact readable_elseIf span hcond h.1.2.1 h.1.2.2.1 hthen halternative trivial
    | _ => cases hkind
  | .unsafeBlock span body, h => by
    simp only [Expr.outline, Outline.every_node, List.forall_mem_singleton] at h
    exact readable_unsafeBlock span (readableBlock body h.2)
  | .ret span none, _ => readable_return span
  | .ret span (some value), h => by
    simp only [Expr.outline, outlineOption, Outline.every_node, List.forall_mem_singleton] at h
    exact readable_returnValue span (readable value h.2) (h.1.2 value rfl)

theorem readableArgs : ∀ args : List Expr, (∀ e ∈ args, e.outline.Every Node.WellFormed) →
    ∀ e ∈ args, Readable e
  | [], _ => nofun
  | e :: rest, h => by
    obtain ⟨he, hrest⟩ := List.forall_mem_cons.1 h
    exact List.forall_mem_cons.2 ⟨readable e he, readableArgs rest hrest⟩

theorem readableOption : ∀ e : Option Expr, (∀ x ∈ e, x.outline.Every Node.WellFormed) →
    ∀ x ∈ e, Readable x
  | none, _ => nofun
  | some e, h => by
    rintro _ ⟨⟩
    exact readable e (h e rfl)

theorem readableStmt : ∀ s : Stmt, s.outline.Every Node.WellFormed → ReadableStmt s
  | .binding span mutable pattern type init, h => by
    simp only [Stmt.outline, outlineOption_eq_map, Outline.every_node, List.forall_mem_cons,
      List.forall_mem_map, Option.mem_toList] at h
    exact readableStmt_binding span mutable pattern type init (readableOption init h.2.2) h.1
  | .expr span e, h => by
    simp only [Stmt.outline, Outline.every_node, List.forall_mem_singleton] at h
    exact readableStmt_expr span (readable e h.2)

theorem readableStmts : ∀ stmts : List Stmt, (∀ s ∈ stmts, s.outline.Every Node.WellFormed) →
    ∀ s ∈ stmts, ReadableStmt s
  | [], _ => nofun
  | s :: rest, h => by
    obtain ⟨hs, hrest⟩ := List.forall_mem_cons.1 h
    exact List.forall_mem_cons.2 ⟨readableStmt s hs, readableStmts rest hrest⟩

theorem readableBlock : ∀ b : Block, b.outline.Every Node.WellFormed → ReadableBlock b
  | .mk span stmts tail, h => by
    simp only [Block.outline, outlineStmts_eq_map, outlineOption_eq_map, Outline.every_node,
      List.forall_mem_append, List.forall_mem_map, Option.mem_toList] at h
    exact readableBlock_mk span stmts tail (readableStmts stmts h.2.1)
      (readableOption tail h.2.2) h.1.2

end

end MicroRust.Parsing
