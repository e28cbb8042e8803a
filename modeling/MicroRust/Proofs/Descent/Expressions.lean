import MicroRust.Proofs.Descent.Correspondence

/-! Expressions, as procedures and as configurations read them.

A loop over the operators of a level closes each operation when the next operator comes, where the
configuration keeps it open until it sees what comes. An open operation that the next token closes
may be closed at once, and the two agree. -/

namespace MicroRust.Descent

open Parsing

variable {target : Except ParseError Outcome} {s : Feed}
variable {callee : (p : Production) → Feed → Answer p.Result}

theorem operatorAt?_eq_some {n : Nat} {t : Token} {op : InfixOp} (h : operatorAt? n t = some op) :
    InfixOp.ofLexeme? t.lexeme = some op ∧ op.level = n := by
  rw [operatorAt?, Option.filter_eq_some_iff] at h
  exact ⟨h.1, of_decide_eq_true h.2⟩

theorem Feed.Ends.of_none {n : Nat} {t : Token} (h : s.Ends (n + 1)) (hahead : s.ahead = some t)
    (hnone : operatorAt? n t = none) : s.Ends n := by
  obtain ⟨t', ht', has, hlevel⟩ := h
  cases hahead.symm.trans ht'
  refine ⟨t, hahead, has, ?_⟩
  intro op hop
  have hlt := hlevel op hop
  have hne : op.level ≠ n := by
    intro heq
    rw [operatorAt?, hop, Option.filter_some, if_pos (decide_eq_true heq)] at hnone
    cases hnone
  omega

theorem Feed.Ends.congr {s' : Feed} {n : Nat} (h : s.Ends n) (hahead : s'.ahead = s.ahead) :
    s'.Ends n := by
  rwa [Feed.Ends, hahead]

theorem settled_operation (op : InfixOp) (lhs : Expr) (frames : List Frame) :
    Settled (.operation op lhs :: frames) := fun _ => rfl

theorem step_operator {c : Config} {e : Expr} (hcontrol : c.control = .operator e) (t : Token) :
    step c t = operatorStep c e t := by
  rw [step, hcontrol]

section

variable {α : Type} {post : α → Feed → Prop} {items : List Item} {frames : List Frame}

theorem leads_combine {op : InfixOp} {lhs rhs : Expr} {f : Expr → Prog α} {t : Token}
    (h : s.Reaches target (waiting items (.operation op lhs :: frames) (.operator rhs)))
    (hahead : s.ahead = some t) (has : t.lexeme ≠ .keyword .asWord)
    (hop : ∀ next, InfixOp.ofLexeme? t.lexeme = some next →
      next.level ≤ op.level ∧ (next.level = 3 → op.level ≠ 3))
    (hf : ∀ s' : Feed, s'.ahead = s.ahead →
      s'.Reaches target (waiting items frames (.operator (op.tree lhs rhs))) →
      Leads target post ((f (op.tree lhs rhs)).eval callee s')) :
    Leads target post ((combine op lhs rhs >>= f).eval callee s) := by
  have hcomplete : s.Reaches target fun es =>
      (completeOperation (waiting items frames (.operator (op.tree lhs rhs)) es) op lhs rhs).1 := by
    refine h.congr hahead ?_
    rw [step_operator rfl, step_operator (control_completeOperation _ op lhs)]
    exact (operatorStep_completes frames hop has).trans (operatorStep_like _ _
      ((Config.like_mk ..).completeOperation _ op lhs)
      (by rw [frames_completeOperation, frames_completeOperation]; rfl))
  apply leads_bind
  cases op with
  | assign =>
    apply leads_require
    apply leads_require
    have h := hcomplete.require (F := (·.requireValue "assigned value" rhs))
    exact leads_done (hf _ (by simp) (h.require (F := id)))
  | binary op =>
    apply leads_require
    apply leads_require
    have h := hcomplete.require (F := (·.requireValue "operand" rhs))
    exact leads_done (hf _ (by simp) (h.require (F := id)))

theorem leads_combine_any {op : InfixOp} {lhs rhs : Expr} {f : Expr → Prog α}
    (hf : ∀ s' : Feed, s'.ahead = s.ahead →
      Leads target post ((f (op.tree lhs rhs)).eval callee s')) :
    Leads target post ((combine op lhs rhs >>= f).eval callee s) := by
  apply leads_bind
  cases op with
  | assign | binary => exact leads_require (leads_require (leads_done (hf _ (by simp))))

end

theorem step_operator_require (items : List Item) (es : List Recovered) (frames : List Frame)
    (control : Control) (role : Capability) (slot : String) (e e' : Expr) (t : Token) :
    step ((waiting items frames (.operator e') es).require role slot e) t =
      operatorStep ((waiting items frames control es).require role slot e) e' t := by
  rw [waiting_require, waiting_require, step_operator rfl]
  exact operatorStep_like _ _ (Config.like_mk ..) rfl

/-- The innermost construct has a whole expression as its next part, whatever its operators. -/
structure Fresh (frames : List Frame) : Prop where
  openFor : OpenFor 0 frames
  settled : Settled frames
  closed : ∀ c e, closeOperand c frames e = ({ c with frames }, e)

theorem Fresh.step_eq {frames : List Frame} (hfresh : Fresh frames) {t : Token}
    (has : t.lexeme ≠ .keyword .asWord)
    (hlevel : ∀ op, InfixOp.ofLexeme? t.lexeme = some op → op.level < 0) (items : List Item)
    (es : List Recovered) (e : Expr) :
    step (waiting items frames (.operator e) es) t =
      delimiterStep (waiting items frames (.operator e) es) e t := by
  have hnone : InfixOp.ofLexeme? t.lexeme = none :=
    Option.eq_none_iff_forall_ne_some.2 fun op hop => absurd (hlevel op hop) (Nat.not_lt_zero _)
  rw [step_operator rfl, operatorStep, hnone, if_neg has]
  exact congrArg (fun r => delimiterStep r.1 r.2 t) (hfresh.closed (waiting ..) e)

theorem step_argument (items : List Item) (es : List Recovered) (frames : List Frame) {t : Token}
    (ht : t.lexeme ≠ .symbol .rparen) :
    step (waiting items frames .argument es) t = step (waiting items frames .operand es) t := by
  obtain ⟨lexeme, span⟩ := t
  cases lexeme with
  | symbol s =>
    cases s with
    | rparen => exact absurd rfl ht
    | _ => rfl
  | keyword k => cases k <;> rfl
  | _ => rfl

theorem step_groupOpen (items : List Item) (es : List Recovered) (frames : List Frame)
    (start : Position) {t : Token} (ht : t.lexeme ≠ .symbol .rparen) :
    step (waiting items frames (.groupOpen start) es) t =
      step (waiting items (.group start :: frames) .operand es) t := by
  obtain ⟨lexeme, span⟩ := t
  cases lexeme with
  | symbol s =>
    cases s with
    | rparen => exact absurd rfl ht
    | _ => rfl
  | keyword k => cases k <;> rfl
  | _ => rfl

theorem operandStep_of_not_begins {c : Config} {t : Token} (h : beginsOperand t = false) :
    operandStep c t = unexpected t "<expr>" := by
  obtain ⟨lexeme, span⟩ := t
  cases lexeme with
  | symbol s =>
    cases s with
    | lparen | lbrace | minus | bang => cases h
    | _ => rfl
  | keyword k =>
    cases k with
    | ifWord | whileWord | loopWord | unsafeWord | returnWord => cases h
    | _ => rfl
  | integer | float | boolean | underscore | identifier => cases h
  | _ => rfl

theorem step_afterThen (items : List Item) (es : List Recovered) (frames : List Frame)
    (start : Position) (cond : Expr) (b : Block) {t : Token} (ht : t.lexeme ≠ .keyword .elseWord) :
    step (waiting items frames (.afterThen start cond b) es) t =
      step (waiting items
        (closeElseIf frames (.conditional ⟨start, b.span.stop⟩ cond b none)).1
        (.operator (closeElseIf frames (.conditional ⟨start, b.span.stop⟩ cond b none)).2)
        es) t := by
  simp only [step, waiting, if_neg ht]
  exact operatorStep_like _ _ (Config.like_mk ..) rfl

section

variable (hcallee : ∀ (p : Production) (s : Feed), p.Leads target s (callee p s))
include hcallee

/-- A whole expression is read, and the token behind it goes to the innermost construct. -/
theorem leads_value {items : List Item} {frames : List Frame} {α : Type} {post : α → Feed → Prop}
    {f : Expr → Prog α} (hfresh : Fresh frames)
    (h : s.Reaches target (waiting items frames .operand))
    (hf : ∀ e t (s : Feed), s.ahead = some t →
      (∀ es, step (waiting items frames (.operator e) es) t =
        delimiterStep (waiting items frames (.operator e) es) e t) →
      s.Reaches target (waiting items frames (.operator e)) →
      Leads target post ((f e).eval callee s)) :
    Leads target post ((call (.level 0) >>= f).eval callee s) := by
  refine leads_call (hcallee (.level 0) s items frames (by decide) hfresh.openFor hfresh.settled
    h) ?_
  rintro e s ⟨⟨t, hahead, has, hlevel⟩, h⟩
  exact hf e t s hahead (fun es => hfresh.step_eq has hlevel items es e) h

theorem leads_right {items : List Item} {frames : List Frame} {n : Nat} {op : InfixOp} {lhs : Expr}
    {t : Token} {α : Type} {post : α → Feed → Prop} {f : Expr → Prog α} (hn : n < castLevel)
    (hopen : OpenFor n frames) (hahead : s.ahead = some t) (hop : operatorAt? n t = some op)
    (h : s.Reaches target (waiting items frames (.operator lhs)))
    (hf : ∀ rhs (s : Feed), s.Ends (n + 1) →
      s.Reaches target (waiting items (.operation op lhs :: frames) (.operator rhs)) →
      Leads target post ((f rhs).eval callee s)) :
    Leads target post ((take >>= fun _ => call (.level (n + 1)) >>= f).eval callee s) := by
  have heof := not_eof_of_operatorAt? hop
  obtain ⟨htoken, rfl⟩ := operatorAt?_eq_some hop
  have hright : s.drop.Reaches target (waiting items (.operation op lhs :: frames) .operand) :=
    h.take hahead heof ((step_operator rfl t).trans (operatorStep_opens frames htoken hopen))
  refine leads_take (leads_call (hcallee (.level (op.level + 1)) s.drop items _ hn
    (Nat.lt_succ_self _) (settled_operation op lhs frames) hright) ?_)
  exact fun rhs s ⟨hends, h⟩ => hf rhs s hends h

theorem leads_rest (n : Nat) (lhs : Expr) :
    (Production.rest n lhs).Leads target s ((Descent.rest n lhs).eval callee s) := by
  intro items frames hn hcomparison hopen hends h
  obtain ⟨t, hahead, -, -⟩ := id hends
  apply leads_look_ahead hahead
  split
  · rename_i hnone
    exact leads_done ⟨hends.of_none hahead hnone, h⟩
  · rename_i op hop
    refine leads_right hcallee hn hopen hahead hop h ?_
    intro rhs s hends h
    obtain ⟨t, hahead, has, hlevel⟩ := id hends
    obtain ⟨-, rfl⟩ := operatorAt?_eq_some hop
    -- The next operator binds no tighter, so the configuration closes this operation when it comes.
    refine leads_combine h hahead has ?_ ?_
    · exact fun next hnext => ⟨Nat.le_of_lt_succ (hlevel next hnext), fun _ => hcomparison⟩
    · intro s' hahead' h
      rw [eval_tail]
      exact hcallee (.rest _ _) s' items frames hn hcomparison hopen (hends.congr hahead') h

theorem leads_comparison {items : List Item} {frames : List Frame} (lhs : Expr)
    (hopen : OpenFor comparisonLevel frames) (hends : s.Ends (comparisonLevel + 1))
    (h : s.Reaches target (waiting items frames (.operator lhs))) :
    Leads target (fun e s => s.Ends comparisonLevel ∧
      s.Reaches target (waiting items frames (.operator e))) ((comparison lhs).eval callee s) := by
  obtain ⟨t, hahead, -, -⟩ := id hends
  apply leads_look_ahead hahead
  split
  · rename_i hnone
    exact leads_done ⟨hends.of_none hahead hnone, h⟩
  · rename_i op hop
    refine leads_right hcallee (by decide) hopen hahead hop h ?_
    intro rhs s hends h
    obtain ⟨t, hahead, has, hnext⟩ := id hends
    obtain ⟨-, hlevel⟩ := operatorAt?_eq_some hop
    cases hchain : operatorAt? comparisonLevel t with
    | none =>
      have hends' := hends.of_none hahead hchain
      obtain ⟨t', hahead', -, hlower⟩ := id hends'
      cases hahead.symm.trans hahead'
      refine leads_combine h hahead has ?_ ?_
      · intro next hnext
        have hlt := hlower next hnext
        exact ⟨by omega, fun h3 => absurd h3 (Nat.ne_of_lt hlt)⟩
      · intro s' hs' h
        apply leads_look_ahead (hs'.trans hahead)
        rw [hchain]
        exact leads_done ⟨hends'.congr hs', h⟩
    | some next =>
      -- The configuration fails before it closes the first comparison, the procedure after it.
      obtain ⟨hnext, hnextLevel⟩ := operatorAt?_eq_some hchain
      have htarget : target =
          .error (.unexpected t "comparison operators cannot be chained") := by
        refine h.error hahead ?_
        rw [step_operator rfl, operatorStep, hnext]
        simp [waiting, closeTighter, hlevel, hnextLevel, comparisonLevel, unexpected]
      refine leads_combine_any ?_
      intro s' hs'
      apply leads_look_ahead (hs'.trans hahead)
      rw [hchain]
      exact leads_reject_of_eq (hs'.trans hahead) htarget

theorem leads_casts (operand : Expr) :
    (Production.casts operand).Leads target s ((casts operand).eval callee s) := by
  intro items frames hopen h
  refine leads_accept h ?_ ?_
  · intro t s hahead ht h
    have hcast : s.drop.Reaches target (waiting items frames (.type (.cast operand))) :=
      h.take hahead (by simp [ht]) ((step_operator rfl t).trans (operatorStep_as frames ht hopen))
    refine leads_type hcast ?_
    intro type s h
    apply leads_require
    rw [eval_tail]
    exact hcallee (.casts _) _ items frames hopen (h.require (F := fun c => c.expect _))
  · intro t s hahead ht h
    exact leads_done ⟨⟨t, hahead, ht, fun op _ => Nat.lt_succ_of_le op.level_le⟩, h⟩

theorem leads_level (n : Nat) :
    (Production.level n).Leads target s ((level n).eval callee s) := by
  intro items frames hn hopen hsettled h
  unfold level
  split
  · rename_i hlt
    refine leads_call (hcallee (.level (n + 1)) s items frames hlt
      (openFor_mono frames hopen (Nat.le_succ n)) hsettled h) ?_
    rintro lhs s ⟨hends, h⟩
    split
    · rename_i hcomparison
      subst hcomparison
      exact leads_comparison hcallee lhs hopen hends h
    · rename_i hcomparison
      rw [eval_tail]
      exact hcallee (.rest n lhs) s items frames hlt hcomparison hopen hends h
  · rename_i hge
    obtain rfl : n = castLevel := Nat.le_antisymm hn (Nat.le_of_not_lt hge)
    refine leads_call (hcallee .unary s items frames hsettled h) ?_
    intro operand s h
    rw [eval_tail]
    exact hcallee (.casts operand) s items frames hopen h

theorem leads_negation {items : List Item} {frames : List Frame} {start : Position} {op : NegOp}
    (h : s.drop.Reaches target (waiting items (.negation start op :: frames) .operand)) :
    Leads target (fun e s => s.Reaches target (waiting items frames (.operator e)))
      ((negation start op).eval callee s) := by
  refine leads_take (leads_call (hcallee .unary s.drop items _ (fun _ => rfl) h) ?_)
  intro operand s h
  apply leads_require
  refine leads_done (Feed.Reaches.require (F := id) (h.congr_all ?_))
  intro t
  exact (operatorStep_completesNegation frames).trans (step_operator_require ..).symm

theorem leads_unary : Production.unary.Leads target s (unary.eval callee s) := by
  intro items frames hsettled h
  refine leads_look h ?_
  intro t s hahead h
  obtain ⟨lexeme, span⟩ := t
  split <;> rename_i ht
  · cases ht
    exact leads_negation hcallee (h.take hahead (by simp) rfl)
  · cases ht
    exact leads_negation hcallee (h.take hahead (by simp) rfl)
  · rename_i hminus
    rw [eval_tail]
    exact hcallee .primary s ⟨_, hahead, hminus, ht⟩ items frames hsettled h

theorem leads_primary : Production.primary.Leads target s (primary.eval callee s) := by
  rintro ⟨t, hahead, hminus, hbang⟩ items frames hsettled h
  obtain ⟨lexeme, span⟩ := t
  apply leads_look_ahead hahead
  split <;> rename_i ht <;> dsimp only at ht
  · subst ht
    exact leads_take (leads_done (h.take hahead (by simp) rfl))
  · subst ht
    exact leads_take (leads_done (h.take hahead (by simp) rfl))
  · subst ht
    exact leads_take (leads_done (h.take hahead (by simp) rfl))
  · subst ht
    exact leads_take (leads_done (h.take hahead (by simp) rfl))
  · subst ht
    rw [eval_tail]
    exact hcallee .pathOrCall s ⟨_, _, hahead⟩ items frames hsettled h
  · subst ht
    rw [eval_tail]
    exact hcallee .grouped s ⟨_, hahead⟩ items frames hsettled h
  · subst ht
    have hopen : s.Reaches target (waiting items frames (.blockOpen .plain)) := h.congr hahead rfl
    refine leads_call (hcallee .block s items frames .plain hopen) ?_
    intro b s h
    rw [closed_plain] at h
    exact leads_done h
  · subst ht
    rw [eval_tail]
    refine (hcallee .conditional s items frames ⟨_, hahead⟩ h).mono ?_
    intro e s h
    rwa [hsettled e] at h
  · subst ht
    rw [eval_tail]
    exact hcallee .loop s ⟨_, hahead⟩ items frames hsettled h
  · subst ht
    rw [eval_tail]
    exact hcallee .whileLoop s ⟨_, hahead⟩ items frames hsettled h
  · subst ht
    rw [eval_tail]
    exact hcallee .unsafeBlock s ⟨_, hahead⟩ items frames hsettled h
  · subst ht
    rw [eval_tail]
    exact hcallee .ret s ⟨_, hahead⟩ items frames hsettled h
  · refine leads_reject h hahead ?_
    simp only [step, waiting, operandStep]

theorem leads_pathOrCall : Production.pathOrCall.Leads target s (pathOrCall.eval callee s) := by
  rintro ⟨path, span, hahead⟩ items frames hsettled h
  have hpath : s.drop.Reaches target (waiting items frames (.pathNext span path)) :=
    h.take hahead (by simp) rfl
  apply leads_bind
  apply leads_look_ahead hahead
  refine leads_take (leads_done (leads_accept hpath ?_ ?_))
  · intro t s hahead ht h
    obtain ⟨lexeme, tspan⟩ := t
    cases ht
    have hargs : s.drop.Reaches target (waiting items (.call span path [] :: frames) .argument) :=
      h.take hahead (by simp) rfl
    refine leads_call (hcallee (.arguments []) s.drop items frames span path hargs) ?_
    rintro args s ⟨⟨close, hahead⟩, h⟩
    refine leads_expect_ahead hahead (fun _ => leads_done ?_) fun hne => absurd rfl hne
    refine h.take hahead (by simp) ?_
    simp only [step, waiting, List.reverse_reverse]
    rfl
  · intro t s hahead ht h
    refine leads_done (h.congr hahead ?_)
    simp only [step, waiting]
    exact operatorStep_like _ _ (Config.like_mk ..) rfl

theorem leads_argumentsNext {items : List Item} {frames : List Frame} {span : Span} {path : String}
    {done : List Expr} {e : Expr} {t : Token} (hahead : s.ahead = some t)
    (hstep : ∀ es, step (waiting items (.call span path done :: frames) (.operator e) es) t =
      delimiterStep (waiting items (.call span path done :: frames) (.operator e) es) e t)
    (h : s.Reaches target (waiting items (.call span path done :: frames) (.operator e))) :
    Leads target (fun args s => s.Begins (.symbol .rparen) ∧
        s.Reaches target (waiting items (.call span path args.reverse :: frames) .argument))
      ((argumentsNext done e).eval callee s) := by
  obtain ⟨lexeme, tspan⟩ := t
  apply leads_require
  apply leads_look_ahead ((Feed.ahead_require ..).trans hahead)
  split <;> rename_i hnext <;> dsimp only at hnext
  · subst hnext
    have hcomma : s.drop.Reaches target fun es =>
        ((waiting items (.call span path done :: frames) (.operator e) es).requireValue
          "function argument" e).replace (.call span path (e :: done) :: frames) .argument :=
      h.take hahead (by simp) (hstep _)
    apply leads_take
    rw [Feed.drop_require, eval_tail]
    exact hcallee (.arguments (e :: done)) _ items frames span path
      (hcomma.require (F := fun c => c.replace _ .argument))
  · subst hnext
    -- At the parenthesis nothing is taken: the next round leaves it to the caller.
    have hclose : s.Reaches target fun es =>
        (waiting items (.call span path (e :: done) :: frames) .argument es).requireValue
          "function argument" e := by
      refine h.congr hahead ((hstep _).trans ?_)
      rw [Config.requireValue, waiting_require]
      change Except.ok (Config.replace (Config.require (waiting ..) ..) ..) = _
      rw [waiting_require]
      rfl
    rw [eval_tail]
    exact hcallee (.arguments (e :: done)) _ items frames span path (hclose.require (F := id))
  · refine leads_reject_of_eq ((Feed.ahead_require ..).trans hahead) (h.error hahead ?_)
    rw [hstep]
    simp only [delimiterStep, waiting, unexpected]

theorem leads_arguments (done : List Expr) :
    (Production.arguments done).Leads target s ((arguments done).eval callee s) := by
  intro items frames span path h
  refine leads_look h ?_
  intro t s hahead h
  split
  · rename_i ht
    obtain ⟨lexeme, tspan⟩ := t
    cases ht
    exact leads_done ⟨⟨tspan, hahead⟩, by rwa [List.reverse_reverse]⟩
  · rename_i ht
    split
    · have hargument : s.Reaches target (waiting items (.call span path done :: frames) .operand) :=
        h.congr hahead (step_argument items _ _ ht)
      have hfresh : Fresh (.call span path done :: frames) :=
        ⟨trivial, fun _ => rfl, fun _ _ => rfl⟩
      exact leads_value hcallee hfresh hargument
        fun e t s hahead hstep h => leads_argumentsNext hcallee hahead hstep h
    · rename_i hbegins
      refine leads_reject h hahead ((step_argument items _ _ ht).trans ?_)
      exact operandStep_of_not_begins (Bool.eq_false_iff.2 hbegins)

theorem leads_grouped : Production.grouped.Leads target s (grouped.eval callee s) := by
  rintro ⟨span, hahead⟩ items frames hsettled h
  refine leads_expect_ahead hahead (fun _ => ?_) fun hne => absurd rfl hne
  have hopen : s.drop.Reaches target (waiting items frames (.groupOpen span.start)) :=
    h.take hahead (by simp) rfl
  refine leads_accept hopen ?_ ?_
  · intro close s hahead hclose h
    obtain ⟨lexeme, cspan⟩ := close
    cases hclose
    exact leads_done (h.take hahead (by simp) rfl)
  · intro t s hahead ht h
    have hinner : s.Reaches target (waiting items (.group span.start :: frames) .operand) :=
      h.congr hahead (step_groupOpen items _ frames span.start ht)
    have hfresh : Fresh (.group span.start :: frames) := ⟨trivial, fun _ => rfl, fun _ _ => rfl⟩
    refine leads_value hcallee hfresh hinner ?_
    intro inner t s hahead hstep h
    obtain ⟨lexeme, tspan⟩ := t
    refine leads_expect_ahead hahead ?_ ?_
    · intro ht
      cases ht
      have hclose : s.drop.Reaches target fun es =>
          ((waiting items (.group span.start :: frames) (.operator inner) es).requireValue
            "grouped expression" inner).replace frames
              (.operator (.grouped ⟨span.start, tspan.stop⟩ inner)) :=
        h.take hahead (by simp) (hstep _)
      apply leads_require
      exact leads_done (hclose.require (F := fun c => c.replace frames _))
    · intro ht
      refine h.error hahead ((hstep _).trans ?_)
      simp only [delimiterStep, waiting, unexpected]

theorem leads_wordBlock {wanted : Lexeme} {expected : String} (role : Span → BlockRole)
    {tree : Span → Block → Expr}
    (hword : ∀ items frames span es, step (waiting items frames .operand es) ⟨wanted, span⟩ =
      .ok (waiting items frames (.blockOpen (role span)) es))
    (hwanted : wanted ≠ .eof)
    (hclosed : ∀ items frames span b, closed items frames (role span) b =
      waiting items frames (.operator (tree span b)))
    (hbegins : s.Begins wanted) :
    Operand target s ((do
      let word ← expect wanted expected
      let body ← call .block
      return tree word.span body : Prog Expr).eval callee s) := by
  intro items frames hsettled h
  obtain ⟨span, hahead⟩ := hbegins
  refine leads_expect_ahead hahead (fun _ => ?_) fun hne => absurd rfl hne
  have hopen := h.take hahead hwanted (hword items frames span _)
  refine leads_call (hcallee .block s.drop items frames (role span) hopen) ?_
  intro body s h
  rw [hclosed] at h
  exact leads_done h

theorem leads_loop : Production.loop.Leads target s (Descent.loop.eval callee s) :=
  leads_wordBlock hcallee (fun span => .loopBody span.start) (fun _ _ _ _ => rfl)
    (by simp) fun _ _ _ _ => closed_loopBody

theorem leads_unsafeBlock : Production.unsafeBlock.Leads target s (unsafeBlock.eval callee s) :=
  leads_wordBlock hcallee (fun span => .unsafeBody span.start) (fun _ _ _ _ => rfl)
    (by simp) fun _ _ _ _ => closed_unsafeBody

theorem leads_condition {items : List Item} {frames : List Frame} {frame : Frame} {α : Type}
    {post : α → Feed → Prop} {f : Expr → Prog α} (role : Expr → BlockRole)
    (hfresh : Fresh (frame :: frames))
    (hstep : ∀ e t es, delimiterStep (waiting items (frame :: frames) (.operator e) es) e t =
      step (waiting items frames (.blockOpen (role e)) es) t)
    (h : s.Reaches target (waiting items (frame :: frames) .operand))
    (hf : ∀ cond (s : Feed), s.Reaches target (waiting items frames (.blockOpen (role cond))) →
      Leads target post ((f cond).eval callee s)) :
    Leads target post ((call (.level 0) >>= f).eval callee s) := by
  refine leads_value hcallee hfresh h ?_
  intro cond t s hahead hdelimiter h
  exact hf cond s (h.congr hahead ((hdelimiter _).trans (hstep cond t _)))

theorem leads_whileLoop : Production.whileLoop.Leads target s (whileLoop.eval callee s) := by
  rintro ⟨span, hahead⟩ items frames hsettled h
  refine leads_expect_ahead hahead (fun _ => ?_) fun hne => absurd rfl hne
  have hcond : s.drop.Reaches target
      (waiting items (.whileCondition span.start :: frames) .operand) := h.take hahead (by simp) rfl
  have hfresh : Fresh (.whileCondition span.start :: frames) :=
    ⟨trivial, fun _ => rfl, fun _ _ => rfl⟩
  refine leads_condition hcallee (fun cond => .whileBody span.start cond) hfresh ?_ hcond ?_
  · intro e t es
    simp only [delimiterStep, step, waiting]
    split <;> rename_i hbrace
    · rw [if_pos hbrace]
      rfl
    · rw [if_neg hbrace]
  · intro cond s h
    refine leads_call (hcallee .block s items frames _ h) ?_
    intro body s h
    rw [closed_whileBody] at h
    apply leads_require
    exact leads_done (h.require (F := fun c => c.replace frames _))

theorem leads_alternative {items : List Item} {frames : List Frame} {start : Position}
    {cond : Expr} {thenBlock : Block}
    (h : s.Reaches target (waiting items frames (.afterElse start cond thenBlock))) :
    Leads target (fun other s => s.Reaches target (waiting items
        (closeElseIf frames (completeIf start cond thenBlock other)).1
        (.operator (closeElseIf frames (completeIf start cond thenBlock other)).2)))
      (alternative.eval callee s) := by
  refine leads_look h ?_
  intro t s hahead h
  obtain ⟨lexeme, span⟩ := t
  split <;> rename_i ht <;> dsimp only at ht
  · subst ht
    have hif : s.Reaches target (waiting items (.elseIf start cond thenBlock :: frames) .operand) :=
      h.congr hahead rfl
    rw [eval_tail]
    exact hcallee .conditional s items _ ⟨span, hahead⟩ hif
  · subst ht
    have hopen : s.Reaches target
        (waiting items frames (.blockOpen (.elseBranch start cond thenBlock))) :=
      h.congr hahead rfl
    refine leads_call (hcallee .block s items frames _ hopen) ?_
    intro b s h
    rw [closed_elseBranch] at h
    exact leads_done h
  · refine leads_reject h hahead ?_
    simp only [step, waiting]

theorem leads_conditional : Production.conditional.Leads target s (conditional.eval callee s) := by
  rintro items frames ⟨span, hahead⟩ h
  refine leads_expect_ahead hahead (fun _ => ?_) fun hne => absurd rfl hne
  have hcond : s.drop.Reaches target (waiting items (.ifCondition span.start :: frames) .operand) :=
    h.take hahead (by simp) rfl
  have hfresh : Fresh (.ifCondition span.start :: frames) :=
    ⟨trivial, fun _ => rfl, fun _ _ => rfl⟩
  refine leads_condition hcallee (fun cond => .thenBranch span.start cond) hfresh ?_ hcond ?_
  · intro e t es
    simp only [delimiterStep, step, waiting]
    split <;> rename_i hbrace
    · rw [if_pos hbrace]
      rfl
    · rw [if_neg hbrace]
  · intro cond s h
    refine leads_call (hcallee .block s items frames _ h) ?_
    intro thenBlock s h
    rw [closed_thenBranch] at h
    apply leads_require
    have hthen : (s.require .value "if condition" cond).Reaches target
        (waiting items frames (.afterThen span.start cond thenBlock)) :=
      h.require (F := fun c => c.replace frames _)
    refine leads_accept hthen ?_ ?_
    · intro t s hahead ht h
      have helse : s.drop.Reaches target
          (waiting items frames (.afterElse span.start cond thenBlock)) :=
        h.take hahead (by simp [ht]) (if_pos ht)
      apply leads_bind
      exact (leads_alternative hcallee helse).mono fun _ _ h => leads_done h
    · intro t s hahead ht h
      exact leads_done (h.congr hahead (step_afterThen items _ frames _ _ _ ht))

theorem leads_ret : Production.ret.Leads target s (ret.eval callee s) := by
  rintro ⟨span, hahead⟩ items frames hsettled h
  refine leads_expect_ahead hahead (fun _ => ?_) fun hne => absurd rfl hne
  have hret : s.drop.Reaches target (waiting items frames (.returnValue span)) :=
    h.take hahead (by simp) rfl
  refine leads_look hret ?_
  intro t s hahead h
  split <;> rename_i hbegins
  · have hvalue : s.Reaches target (waiting items (.ret span.start :: frames) .operand) :=
      h.congr hahead (step_returnValue_of_begins hbegins)
    refine leads_call (hcallee (.level 0) s items (.ret span.start :: frames) (by decide) trivial
      (fun _ => rfl) hvalue) ?_
    rintro e s ⟨⟨t, hahead, has, hlevel⟩, h⟩
    have hnone : InfixOp.ofLexeme? t.lexeme = none :=
      Option.eq_none_iff_forall_ne_some.2 fun op hop => absurd (hlevel op hop) (Nat.not_lt_zero _)
    apply leads_require
    refine leads_done (Feed.Reaches.require (F := id) (h.congr hahead ?_))
    exact (operatorStep_completesReturn frames hnone has).trans (step_operator_require ..).symm
  · refine leads_done (h.congr hahead ?_)
    simp only [step, waiting, if_neg hbegins]
    exact operatorStep_like _ _ (Config.like_mk ..) rfl

end

end MicroRust.Descent
