import MicroRust.Proofs.Descent.Expressions

/-! Blocks and statements, as procedures and as configurations read them.

A procedure looks at the token behind a statement and leaves it to the next round, where the
configuration does with it at once what the next statement wants. -/

namespace MicroRust.Descent

open Parsing

variable {target : Except ParseError Outcome} {s : Feed}
variable {callee : (p : Production) → Feed → Answer p.Result}

theorem closeBlock_eq_closed (items : List Item) (gs fs : List Frame) (control : Control)
    (es : List Recovered) (start : Position) (role : BlockRole) (stmts : List Stmt)
    (tail : Option Expr) (closing : Span) :
    closeBlock (waiting items gs control es) start role stmts tail fs closing =
      closed items fs role (.mk ⟨start, closing.stop⟩ stmts.reverse tail) es := by
  refine (closeBlock_like fs (Config.like_mk items es gs fs control .statement) ..).trans ?_
  simp only [closed, Block.span, Block.stmts, Block.tail, List.reverse_reverse]
  cases role <;> rfl

theorem step_statement (items : List Item) (es : List Recovered) (frames : List Frame) {t : Token}
    (hrbrace : t.lexeme ≠ .symbol .rbrace) (hsemicolon : t.lexeme ≠ .symbol .semicolon)
    (hlet : t.lexeme ≠ .keyword .letWord) :
    step (waiting items frames .statement es) t = step (waiting items frames .operand es) t := by
  obtain ⟨lexeme, span⟩ := t
  cases lexeme with
  | symbol s =>
    cases s with
    | rbrace => exact absurd rfl hrbrace
    | semicolon => exact absurd rfl hsemicolon
    | _ => rfl
  | keyword k =>
    cases k with
    | letWord => exact absurd rfl hlet
    | _ => rfl
  | _ => rfl

theorem fresh_block (start : Position) (role : BlockRole) (stmts : List Stmt)
    (frames : List Frame) : Fresh (.block start role stmts :: frames) :=
  ⟨trivial, fun _ => rfl, fun _ _ => rfl⟩

section

variable {items : List Item} {frames : List Frame} {start : Position} {role : BlockRole}
variable {stmts : List Stmt}

theorem leads_boundValue {head : BindingHead} {e : Expr} {t : Token} (hahead : s.ahead = some t)
    (hstep : ∀ es, step (waiting items (.binding head :: .block start role stmts :: frames)
        (.operator e) es) t = delimiterStep (waiting items
          (.binding head :: .block start role stmts :: frames) (.operator e) es) e t)
    (h : s.Reaches target (waiting items (.binding head :: .block start role stmts :: frames)
      (.operator e))) :
    Leads target (fun stop s => s.Reaches target (waiting items (.block start role
        (.binding ⟨head.start, stop⟩ head.mutable head.pattern head.type (some e) :: stmts) ::
          frames) .statement))
      ((statementEnd e.span.stop).eval callee (s.require .value "let initializer" e)) := by
  refine leads_accept_ahead ((Feed.ahead_require ..).trans hahead) ?_ ?_
  · intro ht
    obtain ⟨lexeme, tspan⟩ := t
    cases ht
    have hbound : s.drop.Reaches target fun es => addStatement ((waiting items
        (.binding head :: .block start role stmts :: frames) (.operator e) es).requireValue
          "let initializer" e) start role stmts frames
        (.binding ⟨head.start, tspan.stop⟩ head.mutable head.pattern head.type (some e)) :=
      h.take hahead (by simp) (hstep _)
    rw [Feed.drop_require]
    exact leads_done (hbound.require (F := fun c => addStatement c start role stmts frames _))
  · intro ht
    refine leads_note (leads_done ?_)
    refine Feed.Reaches.require (F := (·.note _)) (h.congr hahead ((hstep _).trans ?_))
    simp only [delimiterStep, waiting, Config.requireValue, Config.require]
    split <;> rfl

theorem leads_unbound {head : BindingHead} {t : Token} (hahead : s.ahead = some t)
    (ht : t.lexeme ≠ .symbol .assign)
    (h : s.Reaches target (waiting items (.block start role stmts :: frames) (.bindingInit head))) :
    Leads target (fun stop s => s.Reaches target (waiting items (.block start role
        (.binding ⟨head.start, stop⟩ head.mutable head.pattern head.type none :: stmts) ::
          frames) .statement))
      ((statementEnd head.type.span.stop).eval callee s) := by
  refine leads_accept_ahead hahead ?_ ?_
  · intro hsemicolon
    obtain ⟨lexeme, tspan⟩ := t
    cases hsemicolon
    exact leads_done (h.take hahead (by simp) rfl)
  · intro hsemicolon
    refine leads_note (leads_done (Feed.Reaches.note (F := id) (h.congr hahead ?_)))
    simp only [step, waiting]
    rfl

end

section

variable (hcallee : ∀ (p : Production) (s : Feed), p.Leads target s (callee p s))
include hcallee

theorem leads_block : Production.block.Leads target s (block.eval callee s) := by
  intro items frames role h
  refine leads_expect (d := fun t => waiting items (.block t.span.start role [] :: frames)
    .statement) h (by simp) (fun _ _ => rfl) ?_ ?_
  · intro t es ht
    simp only [step, waiting, if_neg ht]
  intro brace s h
  rw [eval_tail]
  exact hcallee (.statements brace.span.start [] none) s items frames role h

theorem leads_statementsNext {items : List Item} {frames : List Frame} {role : BlockRole}
    {start : Position} {stmts : List Stmt} {e : Expr} {t : Token} (hahead : s.ahead = some t)
    (hstep : ∀ es, step (waiting items (.block start role stmts :: frames) (.operator e) es) t =
      delimiterStep (waiting items (.block start role stmts :: frames) (.operator e) es) e t)
    (h : s.Reaches target (waiting items (.block start role stmts :: frames) (.operator e))) :
    Leads target (fun b s => s.Reaches target (closed items frames role b))
      ((statementsNext start stmts none e).eval callee s) := by
  obtain ⟨lexeme, span⟩ := t
  apply leads_look_ahead hahead
  split <;> rename_i hnext <;> dsimp only at hnext
  · subst hnext
    apply leads_take
    rw [eval_tail]
    exact hcallee (.statements ..) s.drop items frames role (h.take hahead (by simp) (hstep _))
  · subst hnext
    -- The configuration closes the block at the brace, the procedure one round later.
    have hclosed : s.drop.Reaches target fun es => closeBlock
        ((waiting items (.block start role stmts :: frames) (.operator e) es).requireValue
          "block tail expression" e) start role stmts (some e) frames span :=
      h.take hahead (by simp) (hstep _)
    have hclosed := hclosed.require
      (F := fun c => closeBlock c start role stmts (some e) frames span)
    simp only [closeBlock_eq_closed] at hclosed
    apply leads_require
    rw [eval_tail]
    refine hcallee (.statements start stmts (some e)) _ items frames role
      ⟨span, (Feed.ahead_require ..).trans hahead, ?_⟩
    rw [Feed.drop_require]
    exact hclosed
  · refine leads_noteIf ?_ ?_ <;> intro hblock <;> rw [eval_tail]
    · refine hcallee (.statements ..) _ items frames role
        (Feed.Reaches.note (F := id) (h.congr hahead ((hstep _).trans ?_)))
      simp only [delimiterStep, waiting, hblock]
      rfl
    · refine hcallee (.statements ..) _ items frames role
        (h.congr hahead ((hstep _).trans ?_))
      simp only [delimiterStep, waiting, eq_true_of_ne_false hblock]
      rfl

theorem leads_statements (start : Position) (stmts : List Stmt) (tail : Option Expr) :
    (Production.statements start stmts tail).Leads target s
      ((statements start stmts tail).eval callee s) := by
  intro items frames role h
  cases tail with
  | some e =>
    obtain ⟨span, hahead, h⟩ := h
    exact leads_look_ahead hahead (leads_take (leads_done h))
  | none =>
    refine leads_look h ?_
    intro t s hahead h
    obtain ⟨lexeme, span⟩ := t
    split <;> rename_i ht <;> dsimp only at ht
    · subst ht
      refine leads_take (leads_done (h.take hahead (by simp) ?_))
      exact congrArg Except.ok (closeBlock_eq_closed ..)
    · subst ht
      apply leads_take
      rw [eval_tail]
      exact hcallee (.statements start stmts none) s.drop items frames role
        (h.take hahead (by simp) rfl)
    · subst ht
      refine leads_call (hcallee .binding s items frames start role stmts ⟨span, hahead⟩ h) ?_
      intro stmt s h
      rw [eval_tail]
      exact hcallee (.statements start (stmt :: stmts) none) s items frames role h
    · rename_i hrbrace hsemicolon
      have hoperand : s.Reaches target
          (waiting items (.block start role stmts :: frames) .operand) :=
        h.congr hahead (step_statement items _ _ hrbrace hsemicolon ht)
      exact leads_value hcallee (fresh_block start role stmts frames) hoperand
        fun e t s hahead hstep h => leads_statementsNext hcallee hahead hstep h

theorem leads_bindingEnd {items : List Item} {frames : List Frame} {start : Position}
    {role : BlockRole} {stmts : List Stmt} {head : BindingHead}
    (h : s.Reaches target (waiting items (.block start role stmts :: frames) (.bindingInit head))) :
    Leads target (fun stmt s => s.Reaches target
        (waiting items (.block start role (stmt :: stmts) :: frames) .statement))
      ((bindingEnd head).eval callee s) := by
  apply leads_bind
  refine leads_accept h ?_ ?_
  · intro t s hahead ht h
    obtain ⟨lexeme, tspan⟩ := t
    cases ht
    have hvalue : s.drop.Reaches target (waiting items
        (.binding head :: .block start role stmts :: frames) .operand) :=
      h.take hahead (by simp) rfl
    have hfresh : Fresh (.binding head :: .block start role stmts :: frames) :=
      ⟨trivial, fun _ => rfl, fun _ _ => rfl⟩
    refine leads_value hcallee hfresh hvalue ?_
    intro e t s hahead hstep h
    refine leads_require (leads_done (leads_bind ?_))
    exact (leads_boundValue hahead hstep h).mono fun stop s h => leads_done h
  · intro t s hahead ht h
    refine leads_done (leads_bind ?_)
    exact (leads_unbound hahead ht h).mono fun stop s h => leads_done h

theorem leads_binding : Production.binding.Leads target s (binding.eval callee s) := by
  rintro items frames start role stmts ⟨span, hahead⟩ h
  refine leads_expect_ahead hahead (fun _ => ?_) fun hne => absurd rfl hne
  have hlet : s.drop.Reaches target
      (waiting items (.block start role stmts :: frames) (.bindingMut span.start)) :=
    h.take hahead (by simp) rfl
  refine leads_mutability (fun mutable => .bindingPattern span.start mutable) hlet
    (fun _ _ => rfl) ?_ ?_
  · intro t es ht
    simp only [step, waiting]
    rfl
  intro mutable s h
  refine leads_pattern h (fun _ _ => rfl) ?_
  intro binder s h
  refine leads_expect (d := fun _ => waiting items (.block start role stmts :: frames)
    (.type (.binding span.start mutable binder))) h (by simp) (fun _ _ => rfl) ?_ ?_
  · intro t es ht
    simp only [step, waiting, symbolStep, if_neg ht]
  intro colon s h
  refine leads_type h ?_
  intro type s h
  apply leads_require_pattern
  exact leads_bindingEnd hcallee h

end

end MicroRust.Descent
