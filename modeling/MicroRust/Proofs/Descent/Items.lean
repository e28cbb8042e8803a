import MicroRust.Proofs.Descent.Statements

/-! Items, as procedures and as configurations read them. -/

namespace MicroRust.Descent

open Parsing

variable {target : Except ParseError Outcome} {s : Feed}
variable {callee : (p : Production) → Feed → Answer p.Result}

theorem closeStatic_waiting (items : List Item) (gs fs : List Frame) (control : Control)
    (es : List Recovered) (head : StaticHead) (init : Option Expr) (closing : Span) :
    closeStatic (waiting items gs control es) head init fs closing =
      closeStatic (waiting items fs .item es) head init fs closing :=
  closeStatic_like fs (Config.like_mk items es gs fs control .item) head init closing

theorem leads_checkStatic {items : List Item} {head : StaticHead} {init : Option Expr}
    {close : Span}
    (h : s.Reaches target fun es => closeStatic (waiting items [] .item es) head init [] close) :
    Leads target (fun decl s => s.Reaches target (waiting (.static decl :: items) [] .item))
      ((do
        let decl : MicroRust.Static :=
          ⟨⟨head.start, close.stop⟩, head.name, head.mutable, head.type, init⟩
        checkStatic false decl
        return decl : Prog MicroRust.Static).eval callee s) := by
  cases init <;> exact h

theorem leads_checkStatic_foreign {items : List Item} {start : Position} {abi : String}
    {decls : List ForeignItem} {head : StaticHead} {init : Option Expr} {close : Span}
    (h : s.Reaches target fun es => closeStatic (waiting items [.foreign start abi decls] .item es)
      head init [.foreign start abi decls] close) :
    Leads target (fun decl s => s.Reaches target
        (waiting items [.foreign start abi (.static decl :: decls)] .foreignItem))
      ((do
        let decl : MicroRust.Static :=
          ⟨⟨head.start, close.stop⟩, head.name, head.mutable, head.type, init⟩
        checkStatic true decl
        return decl : Prog MicroRust.Static).eval callee s) := by
  cases init <;> exact h

theorem step_body (items : List Item) (es : List Recovered) (proto : Prototype) (t : Token) :
    step (waiting items [] (.body proto) es) t =
      step (waiting items [] (.blockOpen (.functionBody proto)) es) t := by
  obtain ⟨lexeme, span⟩ := t
  cases lexeme with
  | symbol s => cases s <;> rfl
  | _ => rfl

theorem leads_staticHead {inForeign : Bool} {items : List Item} {frames : List Frame}
    {control : Control} {post : MicroRust.Static → Feed → Prop}
    (hbegins : s.Begins (.keyword .staticWord))
    (hcontrol : control = .item ∨ control = .foreignItem)
    (h : s.Reaches target (waiting items frames control))
    (hend : ∀ (head : StaticHead) (s : Feed),
      s.Reaches target (waiting items frames (.staticInit head)) →
      Leads target post ((staticEnd inForeign head).eval callee s)) :
    Leads target post ((Descent.static inForeign).eval callee s) := by
  obtain ⟨span, hahead⟩ := hbegins
  refine leads_expect_ahead hahead (fun _ => ?_) fun hne => absurd rfl hne
  have hword : s.drop.Reaches target (waiting items frames (.staticMut span.start)) := by
    rcases hcontrol with rfl | rfl <;> exact h.take hahead (by simp) rfl
  refine leads_mutability (fun mutable => .staticName span.start mutable) hword
    (fun _ _ => rfl) ?_ ?_
  · intro t es ht
    simp only [step, waiting]
    rfl
  intro mutable s h
  refine leads_name h (fun _ _ => rfl) ?_
  intro itemName s h
  refine leads_expect (d := fun _ => waiting items frames
    (.type (.static span.start mutable itemName.2))) h (by simp) (fun _ _ => rfl) ?_ ?_
  · intro t es ht
    simp only [step, waiting, symbolStep, if_neg ht]
  intro colon s h
  refine leads_type h ?_
  exact fun type s h => hend ⟨span.start, mutable, itemName.2, type⟩ s h

theorem leads_param : Production.param.Leads target s (Descent.param.eval callee s) := by
  intro items frames head hbegins h
  have htype (start : Position) (mutable : Bool) (binder : Pattern) (s : Feed)
      (h : s.Reaches target (waiting items frames (.paramColon head start mutable binder))) :
      Leads target (fun p s => s.Reaches target
          (waiting items frames (.paramNext { head with params := p :: head.params })))
        ((paramType start mutable binder).eval callee s) := by
    refine leads_expect (d := fun _ => waiting items frames
      (.type (.param head start mutable binder))) h (by simp) (fun _ _ => rfl) ?_ ?_
    · intro t es ht
      simp only [step, waiting, symbolStep, if_neg ht]
    intro colon s h
    refine leads_type h ?_
    exact fun type s h => leads_require_pattern (leads_done h)
  rcases hbegins with ⟨span, hahead⟩ | ⟨span, hahead⟩ | ⟨binder, span, hahead⟩
  · have hmut : s.drop.Reaches target (waiting items frames (.paramPattern head span.start)) :=
      h.take hahead (by simp) rfl
    refine leads_look_ahead hahead (leads_bind (leads_accept_ahead hahead (fun _ => ?_)
      fun hne => absurd rfl hne))
    refine leads_done (leads_pattern hmut (fun _ _ => rfl) ?_)
    exact fun binder s h => htype span.start true binder s h
  · refine leads_look_ahead hahead (leads_bind (leads_accept_ahead hahead (by simp)
      fun _ => leads_done (leads_bind ?_)))
    exact leads_look_ahead hahead (leads_take (leads_done (htype _ _ _ _
      (h.take hahead (by simp) rfl))))
  · refine leads_look_ahead hahead (leads_bind (leads_accept_ahead hahead (by simp)
      fun _ => leads_done (leads_bind ?_)))
    exact leads_look_ahead hahead (leads_take (leads_done (htype _ _ _ _
      (h.take hahead (by simp) rfl))))

theorem leads_prototypeEnd {items : List Item} {frames : List Frame} {start stop : Position}
    {fnName : String} {params : List Param}
    (h : s.Reaches target (waiting items frames (.result ⟨start, fnName, params.reverse⟩ stop))) :
    Leads target (fun proto s => s.Reaches target (waiting items frames (.body proto)))
      ((prototypeEnd start stop fnName params).eval callee s) := by
  refine leads_look h ?_
  intro t s hahead h
  obtain ⟨lexeme, span⟩ := t
  split <;> rename_i ht <;> dsimp only at ht
  · subst ht
    have htype : s.drop.Reaches target
        (waiting items frames (.type (.result ⟨start, fnName, params.reverse⟩))) :=
      h.take hahead (by simp) rfl
    refine leads_take (leads_type htype ?_)
    intro type s h
    simp only [closeType, List.reverse_reverse] at h
    exact leads_done h
  · subst ht
    refine leads_done (h.congr hahead ?_)
    simp only [step, waiting, List.reverse_reverse]
    rfl
  · subst ht
    refine leads_done (h.congr hahead ?_)
    simp only [step, waiting, List.reverse_reverse]
    rfl
  · refine leads_reject h hahead ?_
    simp only [step, waiting]

section

variable (hcallee : ∀ (p : Production) (s : Feed), p.Leads target s (callee p s))
include hcallee

theorem leads_staticEnd {inForeign : Bool} {items : List Item} {frames : List Frame}
    {head : StaticHead} {post : MicroRust.Static → Feed → Prop}
    (h : s.Reaches target (waiting items frames (.staticInit head)))
    (hclose : ∀ (init : Option Expr) (close : Span) (s : Feed),
      (s.Reaches target fun es =>
        closeStatic (waiting items frames .item es) head init frames close) →
      Leads target post ((do
        let decl : MicroRust.Static :=
          ⟨⟨head.start, close.stop⟩, head.name, head.mutable, head.type, init⟩
        checkStatic inForeign decl
        return decl : Prog MicroRust.Static).eval callee s)) :
    Leads target post ((staticEnd inForeign head).eval callee s) := by
  apply leads_bind
  refine leads_look h ?_
  intro t s hahead h
  obtain ⟨lexeme, span⟩ := t
  split <;> rename_i ht <;> dsimp only at ht
  · subst ht
    have hvalue : s.drop.Reaches target (waiting items (.static head :: frames) .operand) :=
      h.take hahead (by simp) rfl
    have hfresh : Fresh (.static head :: frames) := ⟨trivial, fun _ => rfl, fun _ _ => rfl⟩
    refine leads_take (leads_value hcallee hfresh hvalue ?_)
    intro e t s hahead hstep h
    obtain ⟨lexeme, tspan⟩ := t
    refine leads_require (leads_done (leads_expect_ahead
      ((Feed.ahead_require ..).trans hahead) ?_ ?_))
    · intro ht
      cases ht
      have hclosed : s.drop.Reaches target fun es => closeStatic
          ((waiting items (.static head :: frames) (.operator e) es).requireValue
            "static initializer" e) head (some e) frames tspan := h.take hahead (by simp) (hstep _)
      have hclosed := hclosed.require (F := fun c => closeStatic c head (some e) frames tspan)
      simp only [closeStatic_waiting items (.static head :: frames)] at hclosed
      rw [Feed.drop_require]
      exact hclose (some e) tspan _ hclosed
    · intro ht
      refine h.error hahead ((hstep _).trans ?_)
      simp only [delimiterStep, waiting, unexpected]
  · subst ht
    refine leads_done (leads_expect_ahead hahead (fun _ => ?_) fun hne => absurd rfl hne)
    refine hclose none span _ (h.take hahead (by simp) ?_)
    exact congrArg Except.ok (closeStatic_waiting ..)
  · refine leads_reject h hahead ?_
    simp only [step, waiting]

theorem leads_static (inForeign : Bool) :
    (Production.static inForeign).Leads target s ((Descent.static inForeign).eval callee s) := by
  cases inForeign with
  | false =>
    intro items hbegins h
    refine leads_staticHead hbegins (.inl rfl) h fun head s h => ?_
    exact leads_staticEnd hcallee h fun _ _ _ => leads_checkStatic
  | true =>
    intro items start abi decls hbegins h
    refine leads_staticHead hbegins (.inr rfl) h fun head s h => ?_
    exact leads_staticEnd hcallee h fun _ _ _ => leads_checkStatic_foreign

theorem leads_paramsNext {items : List Item} {frames : List Frame} {start : Position}
    {name : String} {done : List Param}
    (h : s.Reaches target (waiting items frames (.paramNext ⟨start, name, done⟩))) :
    Leads target (fun params s => s.Begins (.symbol .rparen) ∧
        s.Reaches target (waiting items frames (.param ⟨start, name, params.reverse⟩)))
      ((paramsNext done).eval callee s) := by
  refine leads_look h ?_
  intro t s hahead h
  obtain ⟨lexeme, span⟩ := t
  split <;> rename_i ht <;> dsimp only at ht
  · subst ht
    apply leads_take
    rw [eval_tail]
    exact hcallee (.params done) _ items frames start name (h.take hahead (by simp) rfl)
  · subst ht
    refine leads_done ⟨⟨span, hahead⟩, ?_⟩
    rw [List.reverse_reverse]
    exact h.congr hahead rfl
  · refine leads_reject h hahead ?_
    simp only [step, waiting]

theorem leads_params (done : List Param) :
    (Production.params done).Leads target s ((params done).eval callee s) := by
  intro items frames start name h
  have hround {s : Feed} (hbegins : s.Begins (.keyword .mutWord) ∨ s.Begins .underscore ∨
        ∃ name, s.Begins (.identifier name))
      (h : s.Reaches target (waiting items frames (.param ⟨start, name, done⟩))) :
      Leads target (fun params s => s.Begins (.symbol .rparen) ∧
          s.Reaches target (waiting items frames (.param ⟨start, name, params.reverse⟩)))
        ((do
          let param ← call .param
          paramsNext (param :: done)).eval callee s) :=
    leads_call (hcallee .param s items frames _ hbegins h) fun param s h =>
      leads_paramsNext hcallee h
  refine leads_look h ?_
  intro t s hahead h
  obtain ⟨lexeme, span⟩ := t
  split <;> rename_i ht <;> dsimp only at ht
  · subst ht
    exact hround (.inl ⟨span, hahead⟩) h
  · subst ht
    exact hround (.inr (.inl ⟨span, hahead⟩)) h
  · subst ht
    exact hround (.inr (.inr ⟨_, span, hahead⟩)) h
  · subst ht
    exact leads_done ⟨⟨span, hahead⟩, by rwa [List.reverse_reverse]⟩
  · refine leads_reject h hahead ?_
    simp only [step, waiting]

theorem leads_prototype : Production.prototype.Leads target s (prototype.eval callee s) := by
  rintro items frames control hcontrol ⟨span, hahead⟩ h
  refine leads_expect_ahead hahead (fun _ => ?_) fun hne => absurd rfl hne
  have hword : s.drop.Reaches target (waiting items frames (.functionName span.start)) := by
    rcases hcontrol with rfl | rfl <;> exact h.take hahead (by simp) rfl
  refine leads_name hword (fun _ _ => rfl) ?_
  intro fnName s h
  refine leads_expect (d := fun _ => waiting items frames (.param ⟨span.start, fnName.2, []⟩)) h
    (by simp) (fun _ _ => rfl) ?_ ?_
  · intro t es ht
    simp only [step, waiting, symbolStep, if_neg ht]
  intro opening s h
  refine leads_call (hcallee (.params []) s items frames _ _ h) ?_
  rintro params s ⟨⟨close, hahead⟩, h⟩
  refine leads_expect_ahead hahead (fun _ => ?_) fun hne => absurd rfl hne
  exact leads_prototypeEnd (h.take hahead (by simp) rfl)

theorem leads_function : Production.function.Leads target s (function.eval callee s) := by
  intro items hbegins h
  refine leads_call (hcallee .prototype s items [] .item (.inl rfl) hbegins h) ?_
  intro proto s h
  have hopen := h.congr_all fun t => step_body items _ proto t
  refine leads_call (hcallee .block s items [] _ hopen) ?_
  intro body s h
  rw [closed_functionBody] at h
  exact leads_done h

theorem leads_foreignFunction :
    Production.foreignFunction.Leads target s (foreignFunction.eval callee s) := by
  intro items start abi decls hbegins h
  refine leads_call (hcallee .prototype s items _ .foreignItem (.inr rfl) hbegins h) ?_
  intro proto s h
  refine leads_look h ?_
  intro t s hahead h
  obtain ⟨lexeme, span⟩ := t
  split <;> rename_i ht <;> dsimp only at ht
  · subst ht
    exact leads_take (leads_done (h.take hahead (by simp) rfl))
  · subst ht
    have hopen : s.Reaches target (waiting items [.foreign start abi decls]
        (.blockOpen (.functionBody proto))) := h.congr hahead rfl
    refine leads_call (hcallee .block s items _ _ hopen) ?_
    intro body s h
    rw [closed_foreignBody] at h
    exact leads_note (leads_done (h.note (F := fun c => c.replace _ .foreignItem)))
  · refine leads_reject h hahead ?_
    simp only [step, waiting, bodyStep]

theorem leads_foreignItems (done : List ForeignItem) :
    (Production.foreignItems done).Leads target s ((foreignItems done).eval callee s) := by
  intro items start abi h
  refine leads_look h ?_
  intro t s hahead h
  obtain ⟨lexeme, span⟩ := t
  split <;> rename_i ht <;> dsimp only at ht
  · subst ht
    refine leads_call (hcallee .foreignFunction s items start abi done ⟨span, hahead⟩ h) ?_
    intro proto s h
    rw [eval_tail]
    exact hcallee (.foreignItems (.prototype proto :: done)) s items start abi h
  · subst ht
    refine leads_call (hcallee (.static true) s items start abi done ⟨span, hahead⟩ h) ?_
    intro decl s h
    rw [eval_tail]
    exact hcallee (.foreignItems (.static decl :: done)) s items start abi h
  · subst ht
    exact leads_done ⟨⟨span, hahead⟩, by rwa [List.reverse_reverse]⟩
  · refine leads_reject h hahead ?_
    simp only [step, waiting]
    split <;> simp_all

theorem leads_foreignBody {items : List Item} {start : Position} {abi : String}
    (h : s.Reaches target (waiting items [] (.foreignOpen start abi))) :
    Leads target (fun block s => s.Reaches target (waiting (.foreign block :: items) [] .item))
      ((foreignBody start abi).eval callee s) := by
  refine leads_expect (d := fun _ => waiting items [.foreign start abi []] .foreignItem) h (by simp)
    (fun _ _ => rfl) ?_ ?_
  · intro t es ht
    simp only [step, waiting, if_neg ht]
  intro brace s h
  refine leads_call (hcallee (.foreignItems []) s items start abi h) ?_
  rintro decls s ⟨⟨close, hahead⟩, h⟩
  refine leads_expect_ahead hahead (fun _ => ?_) fun hne => absurd rfl hne
  refine leads_done (h.take hahead (by simp) ?_)
  simp only [step, waiting, List.reverse_reverse]

theorem leads_foreign : Production.foreign.Leads target s (foreign.eval callee s) := by
  rintro items ⟨span, hahead⟩ h
  refine leads_expect_ahead hahead (fun _ => ?_) fun hne => absurd rfl hne
  have hword : s.drop.Reaches target (waiting items [] (.abi span.start)) :=
    h.take hahead (by simp) rfl
  refine leads_look hword ?_
  intro t s hahead h
  obtain ⟨lexeme, tspan⟩ := t
  split <;> rename_i ht <;> dsimp only at ht
  · rename_i abi
    subst ht
    refine leads_take (leads_noteIf ?_ ?_) <;> intro habi
    · refine leads_foreignBody hcallee (Feed.Reaches.note (F := id) (h.take hahead (by simp) ?_))
      simp only [step, waiting, if_neg habi]
      rfl
    · refine leads_foreignBody hcallee (h.take hahead (by simp) ?_)
      simp only [step, waiting, if_pos (Decidable.not_not.1 habi)]
      rfl
  · refine leads_reject h hahead ?_
    simp only [step, waiting]

theorem leads_items (done : List Item) :
    (Production.items done).Leads target s ((Descent.items done).eval callee s) := by
  intro h
  refine leads_look h ?_
  intro t s hahead h
  obtain ⟨lexeme, span⟩ := t
  split <;> rename_i ht <;> dsimp only at ht
  · subst ht
    refine leads_call (hcallee .function s done ⟨span, hahead⟩ h) ?_
    intro fn s h
    rw [eval_tail]
    exact hcallee (.items (.function fn :: done)) s h
  · subst ht
    refine leads_call (hcallee (.static false) s done ⟨span, hahead⟩ h) ?_
    intro decl s h
    rw [eval_tail]
    exact hcallee (.items (.static decl :: done)) s h
  · subst ht
    refine leads_call (hcallee .foreign s done ⟨span, hahead⟩ h) ?_
    intro block s h
    rw [eval_tail]
    exact hcallee (.items (.foreign block :: done)) s h
  · subst ht
    exact leads_done ⟨⟨span, hahead⟩, by rwa [List.reverse_reverse]⟩
  · refine leads_reject h hahead ?_
    simp only [step, waiting]

end

end MicroRust.Descent
