import MicroRust.Proofs.Descent.Termination
import MicroRust.Proofs.Parsing.Completeness

/-! Procedures beside configurations.

A configuration and the readings that are left determine what the parse comes to. While a procedure
runs there is a configuration beside it that comes to the same, and what the procedure gives back is
what the configuration has read meanwhile. -/

namespace MicroRust.Descent

open Parsing

/-- A configuration but for the errors noted. -/
abbrev Stance := List Recovered → Config

def waiting (items : List Item) (frames : List Frame) (control : Control) : Stance :=
  fun recovered => ⟨items, recovered, frames, control⟩

def Feed.Reaches (s : Feed) (target : Except ParseError Outcome) (c : Stance) : Prop :=
  run (c s.recovered) s.stream = target

/-- Whatever a run comes to leads to the target: an error is the target itself. -/
def Leads {α : Type} (target : Except ParseError Outcome) (post : α → Feed → Prop) :
    Answer α → Prop
  | some (.ok a, s) => post a s
  | some (.error e, _) => target = .error e
  | none => True

def noted (role : Capability) (slot : String) (e : Expr) (recovered : List Recovered) :
    List Recovered :=
  if e.capability.has role then recovered
  else .wrongRole e.span role e.capability slot :: recovered

theorem waiting_require (items : List Item) (frames : List Frame) (control : Control)
    (es : List Recovered) (role : Capability) (slot : String) (e : Expr) :
    (waiting items frames control es).require role slot e =
      waiting items frames control (noted role slot e es) := by
  unfold Config.require noted
  split <;> rfl

variable {target : Except ParseError Outcome} {s : Feed} {c d : Stance} {t : Token}

namespace Feed.Reaches

theorem congr (h : s.Reaches target c) (hahead : s.ahead = some t)
    (hstep : step (c s.recovered) t = step (d s.recovered) t) : s.Reaches target d := by
  unfold Reaches at h ⊢
  rw [stream_of_ahead hahead] at h ⊢
  simpa only [run, hstep] using h

theorem congr_all (h : s.Reaches target c)
    (hstep : ∀ t, step (c s.recovered) t = step (d s.recovered) t) : s.Reaches target d := by
  unfold Reaches at h ⊢
  -- Without a token both fail in the same way.
  rcases hstream : s.stream with _ | ⟨_ | t, rest⟩ <;> rw [hstream] at h
  · exact h
  · exact h
  · simpa only [run, hstep t] using h

theorem take (h : s.Reaches target c) (hahead : s.ahead = some t) (ht : t.lexeme ≠ .eof)
    (hstep : step (c s.recovered) t = .ok (d s.recovered)) : s.drop.Reaches target d := by
  unfold Reaches at h ⊢
  rw [stream_of_ahead hahead] at h
  simp only [run, hstep, if_neg ht] at h
  exact h

theorem error {e : ParseError} (h : s.Reaches target c) (hahead : s.ahead = some t)
    (hstep : step (c s.recovered) t = .error e) : target = .error e := by
  unfold Reaches at h
  rw [stream_of_ahead hahead] at h
  simpa only [run, hstep] using h.symm

end Feed.Reaches

namespace Feed

def require (s : Feed) (role : Capability) (slot : String) (e : Expr) : Feed :=
  if e.capability.has role then s else s.note (.wrongRole e.span role e.capability slot)

@[simp] theorem ahead_require (role : Capability) (slot : String) (e : Expr) :
    (s.require role slot e).ahead = s.ahead := by
  unfold require
  split <;> rfl

theorem drop_require (role : Capability) (slot : String) (e : Expr) :
    (s.require role slot e).drop = s.drop.require role slot e := by
  unfold require
  split <;> rfl

variable {items : List Item} {frames : List Frame} {control : Control}

theorem Reaches.note {e : Recovered} {F : Config → Config}
    (h : s.Reaches target fun es => F ((waiting items frames control es).note e)) :
    (s.note e).Reaches target fun es => F (waiting items frames control es) := h

theorem recovered_require (role : Capability) (slot : String) (e : Expr) :
    (s.require role slot e).recovered = noted role slot e s.recovered := by
  unfold require noted
  split <;> rfl

theorem stream_require (role : Capability) (slot : String) (e : Expr) :
    (s.require role slot e).stream = s.stream := by
  unfold require
  split <;> rfl

theorem Reaches.require {role : Capability} {slot : String} {e : Expr} {F : Config → Config}
    (h : s.Reaches target fun es => F ((waiting items frames control es).require role slot e)) :
    (s.require role slot e).Reaches target fun es => F (waiting items frames control es) := by
  rw [Reaches, recovered_require, stream_require, ← waiting_require]
  exact h

end Feed

section

variable {α β : Type} {post : α → Feed → Prop}

theorem Leads.mono {post' : α → Feed → Prop} {x : Answer α} (h : Leads target post x)
    (hpost : ∀ a s, post a s → post' a s) : Leads target post' x := by
  rcases x with _ | ⟨_ | a, s⟩
  · trivial
  · exact h
  · exact hpost a s h

variable {callee : (p : Production) → Feed → Answer p.Result}

theorem leads_bind {x : Prog β} {f : β → Prog α}
    (h : Leads target (fun b s => Leads target post ((f b).eval callee s)) (x.eval callee s)) :
    Leads target post ((x >>= f).eval callee s) := by
  rw [Prog.eval_bind]
  rcases hx : x.eval callee s with _ | ⟨_ | b, s'⟩
  · trivial
  · rwa [hx] at h
  · rwa [hx] at h

theorem leads_done {a : α} (h : post a s) :
    Leads target post ((pure a : Prog α).eval callee s) := h

theorem leads_call {p : Production} {mid : p.Result → Feed → Prop} {f : p.Result → Prog α}
    (hp : Leads target mid (callee p s))
    (h : ∀ a s, mid a s → Leads target post ((f a).eval callee s)) :
    Leads target post ((call p >>= f).eval callee s) := by
  change Leads target post ((Prog.call p fun a => f a).eval callee s)
  rcases hx : callee p s with _ | ⟨e | a, s'⟩ <;> rw [hx] at hp
  · rw [Prog.eval, hx]
    trivial
  · rw [Prog.eval_call_error hx]
    exact hp
  · rw [Prog.eval_call hx]
    exact h a s' hp

theorem eval_tail (p : Production) (s : Feed) : (call p).eval callee s = callee p s := by
  change (Prog.call p fun a => .done a).eval callee s = callee p s
  rcases hx : callee p s with _ | ⟨e | a, s'⟩
  · rw [Prog.eval, hx]
  · exact Prog.eval_call_error hx
  · exact Prog.eval_call hx

theorem leads_look {f : Token → Prog α} (h : s.Reaches target c)
    (hf : ∀ t (s : Feed), s.ahead = some t → s.Reaches target c →
      Leads target post ((f t).eval callee s)) :
    Leads target post ((look >>= f).eval callee s) := by
  change Leads target post ((Prog.peek fun t => f t).eval callee s)
  rcases s.peek_cases with ⟨t, s', hpeek, hahead, hstream, hrecovered, -⟩ | ⟨e, s', hpeek, -, he⟩
  · rw [Prog.eval_peek hpeek]
    refine hf t s' hahead ?_
    rwa [Feed.Reaches, hrecovered, hstream]
  · rw [Prog.eval_peek_error hpeek]
    exact h.symm.trans (he _)

theorem leads_look_ahead {f : Token → Prog α} (hahead : s.ahead = some t)
    (h : Leads target post ((f t).eval callee s)) :
    Leads target post ((look >>= f).eval callee s) := by
  change Leads target post ((Prog.peek fun t => f t).eval callee s)
  rwa [Prog.eval_peek (Feed.peek_of_ahead hahead)]

theorem leads_take {f : Unit → Prog α} (h : Leads target post ((f ()).eval callee s.drop)) :
    Leads target post ((take >>= f).eval callee s) := h

theorem leads_reject_of_eq {expected : String} (hahead : s.ahead = some t)
    (htarget : target = .error (.unexpected t expected)) :
    Leads target post ((reject expected : Prog α).eval callee s) := by
  change Leads target post
    ((Prog.peek fun t => .drop (.fail (.unexpected t expected))).eval callee s)
  rw [Prog.eval_peek (Feed.peek_of_ahead hahead)]
  exact htarget

theorem leads_reject {expected : String} (h : s.Reaches target c) (hahead : s.ahead = some t)
    (hstep : step (c s.recovered) t = unexpected t expected) :
    Leads target post ((reject expected : Prog α).eval callee s) :=
  leads_reject_of_eq hahead (h.error hahead hstep)

theorem leads_expect_ahead {wanted : Lexeme} {expected : String} {f : Token → Prog α}
    (hahead : s.ahead = some t)
    (hf : t.lexeme = wanted → Leads target post ((f t).eval callee s.drop))
    (hreject : t.lexeme ≠ wanted → target = .error (.unexpected t expected)) :
    Leads target post ((expect wanted expected >>= f).eval callee s) := by
  apply leads_bind
  apply leads_look_ahead hahead
  split
  · rename_i ht
    exact leads_take (leads_done (hf ht))
  · rename_i ht
    exact leads_reject_of_eq hahead (hreject ht)

theorem leads_expect {wanted : Lexeme} {expected : String} {f : Token → Prog α} {d : Token → Stance}
    (h : s.Reaches target c) (hwanted : wanted ≠ .eof)
    (hstep : ∀ span es, step (c es) ⟨wanted, span⟩ = .ok (d ⟨wanted, span⟩ es))
    (hreject : ∀ t es, t.lexeme ≠ wanted → step (c es) t = unexpected t expected)
    (hf : ∀ t s, s.Reaches target (d t) → Leads target post ((f t).eval callee s)) :
    Leads target post ((expect wanted expected >>= f).eval callee s) := by
  apply leads_bind
  refine leads_look h ?_
  intro t s hahead h
  split
  · rename_i ht
    obtain ⟨lexeme, span⟩ := t
    subst ht
    exact leads_take (leads_done (hf _ _ (h.take hahead hwanted (hstep span _))))
  · rename_i ht
    exact leads_reject h hahead (hreject t _ ht)

theorem leads_accept_ahead {wanted : Lexeme} {f : Option Token → Prog α} (hahead : s.ahead = some t)
    (hsome : t.lexeme = wanted → Leads target post ((f (some t)).eval callee s.drop))
    (hnone : t.lexeme ≠ wanted → Leads target post ((f none).eval callee s)) :
    Leads target post ((accept wanted >>= f).eval callee s) := by
  apply leads_bind
  apply leads_look_ahead hahead
  split
  · rename_i ht
    exact leads_take (leads_done (hsome ht))
  · rename_i ht
    exact leads_done (hnone ht)

theorem leads_accept {wanted : Lexeme} {f : Option Token → Prog α} (h : s.Reaches target c)
    (hsome : ∀ t (s : Feed), s.ahead = some t → t.lexeme = wanted → s.Reaches target c →
      Leads target post ((f (some t)).eval callee s.drop))
    (hnone : ∀ t (s : Feed), s.ahead = some t → t.lexeme ≠ wanted → s.Reaches target c →
      Leads target post ((f none).eval callee s)) :
    Leads target post ((accept wanted >>= f).eval callee s) := by
  apply leads_bind
  refine leads_look h ?_
  intro t s hahead h
  split
  · rename_i ht
    exact hsome t s hahead ht h
  · rename_i ht
    exact hnone t s hahead ht h

variable {items : List Item} {frames : List Frame} {control : Control}
variable {role : Capability} {slot : String} {e : Expr}

theorem leads_note {e : Recovered} {f : Unit → Prog α}
    (h : Leads target post ((f ()).eval callee (s.note e))) :
    Leads target post ((note e >>= f).eval callee s) := h

theorem leads_noteIf {p : Prop} [Decidable p] {e : Recovered} {f : Unit → Prog α}
    (hnote : p → Leads target post ((f ()).eval callee (s.note e)))
    (hnone : ¬p → Leads target post ((f ()).eval callee s)) :
    Leads target post ((noteIf p e >>= f).eval callee s) := by
  unfold noteIf
  split <;> rename_i hp
  · exact hnote hp
  · exact hnone hp

theorem leads_require {f : Unit → Prog α}
    (h : Leads target post ((f ()).eval callee (s.require role slot e))) :
    Leads target post ((require role slot e >>= f).eval callee s) := by
  unfold Feed.require at h
  unfold require
  split <;> rename_i hrole
  · rwa [if_pos hrole] at h
  · rwa [if_neg hrole] at h

theorem leads_require_pattern {slot : String} {binder : Pattern} {f : Unit → Prog α}
    (h : Leads target post ((f ()).eval callee s)) :
    Leads target post ((require .assignee slot binder.toExpr >>= f).eval callee s) := by
  have hassignee : binder.toExpr.IsAssignee := by cases binder <;> trivial
  rw [require, if_pos (has_assignee_of_isAssignee hassignee)]
  exact h

theorem leads_name {next : String → Control} {f : Span × String → Prog α}
    (h : s.Reaches target (waiting items frames control))
    (hstep : ∀ t es, step (waiting items frames control es) t =
      nameStep (waiting items frames control es) t next)
    (hf : ∀ a (s : Feed), s.Reaches target (waiting items frames (next a.2)) →
      Leads target post ((f a).eval callee s)) :
    Leads target post ((name "<ident>" >>= f).eval callee s) := by
  apply leads_bind
  refine leads_look h ?_
  intro t s hahead h
  have hstep := hstep t s.recovered
  split <;> rename_i ht
  · refine leads_take (leads_done (hf _ _ (h.take hahead (by simp [ht]) ?_)))
    rw [hstep, nameStep, ht]
    rfl
  · refine leads_reject h hahead ?_
    rw [hstep, nameStep]
    split
    · rename_i name hname
      exact absurd hname (ht name)
    · rfl

theorem leads_mutability (next : Bool → Control) {f : Bool → Prog α}
    (h : s.Reaches target (waiting items frames control))
    (hmut : ∀ span es, step (waiting items frames control es) ⟨.keyword .mutWord, span⟩ =
      .ok (waiting items frames (next true) es))
    (hplain : ∀ t es, t.lexeme ≠ .keyword .mutWord → step (waiting items frames control es) t =
      step (waiting items frames (next false) es) t)
    (hf : ∀ b (s : Feed), s.Reaches target (waiting items frames (next b)) →
      Leads target post ((f b).eval callee s)) :
    Leads target post ((mutability >>= f).eval callee s) := by
  apply leads_bind
  refine leads_accept h ?_ ?_
  · intro t s hahead ht h
    obtain ⟨lexeme, span⟩ := t
    cases ht
    exact leads_done (hf true _ (h.take hahead (by simp) (hmut span _)))
  · intro t s hahead ht h
    exact leads_done (hf false s (h.congr hahead (hplain t _ ht)))

theorem leads_pattern {next : Pattern → Control} {f : Pattern → Prog α}
    (h : s.Reaches target (waiting items frames control))
    (hstep : ∀ t es, step (waiting items frames control es) t =
      patternStep (waiting items frames control es) t next)
    (hf : ∀ p (s : Feed), s.Reaches target (waiting items frames (next p)) →
      Leads target post ((f p).eval callee s)) :
    Leads target post ((pattern >>= f).eval callee s) := by
  apply leads_bind
  refine leads_look h ?_
  intro t s hahead h
  have hstep := hstep t s.recovered
  split <;> rename_i ht
  · refine leads_take (leads_done (hf _ _ (h.take hahead (by simp [ht]) ?_)))
    rw [hstep, patternStep, ht]
    rfl
  · refine leads_take (leads_done (hf _ _ (h.take hahead (by simp [ht]) ?_)))
    rw [hstep, patternStep, ht]
    rfl
  · rename_i hname
    refine leads_reject h hahead ?_
    rw [hstep, patternStep]
    split
    · rename_i name hlexeme
      exact absurd hlexeme (hname name)
    · rename_i hlexeme
      exact absurd hlexeme ht
    · rfl

theorem leads_type {slot : TypeSlot} {f : TypeRef → Prog α}
    (h : s.Reaches target (waiting items frames (.type slot)))
    (hf : ∀ type (s : Feed),
      s.Reaches target (fun es => closeType (waiting items frames .item es) slot type) →
      Leads target post ((f type).eval callee s)) :
    Leads target post ((type >>= f).eval callee s) := by
  -- The control that waited for the type is replaced, so it does not matter which one it was.
  have hlike (es : List Recovered) (k : Control) (type : TypeRef) :
      closeType (waiting items frames k es) slot type =
        closeType (waiting items frames .item es) slot type :=
    closeType_like (Config.like_mk items es frames frames k .item) rfl slot type
  apply leads_bind
  refine leads_look h ?_
  intro t s hahead h
  obtain ⟨lexeme, span⟩ := t
  split <;> rename_i ht <;> dsimp only at ht
  · rename_i name
    subst ht
    split <;> rename_i hkind
    · refine leads_reject h hahead ?_
      simp only [step, waiting, hkind]
    · refine leads_take (leads_done (hf _ _ (h.take hahead (by simp) ?_)))
      rw [← hlike _ (.type slot)]
      simp only [step, waiting, hkind]
    · refine leads_reject h hahead ?_
      simp only [step, waiting, hkind]
  · subst ht
    have hclose : s.drop.Reaches target (waiting items frames (.typeClose span.start slot)) :=
      h.take hahead (by simp) rfl
    refine leads_take (leads_expect (d := fun t es => closeType (waiting items frames .item es) slot
      ⟨.unit, ⟨span.start, t.span.stop⟩⟩) hclose (by simp) ?_ ?_ ?_)
    · intro span' es
      exact congrArg Except.ok (hlike es (.typeClose span.start slot) _)
    · intro close es hne
      simp only [step, waiting]
    · exact fun close s h => leads_done (hf _ _ h)
  · refine leads_reject h hahead ?_
    simp only [step, waiting]

end

def Feed.Begins (s : Feed) (l : Lexeme) : Prop := ∃ span, s.ahead = some ⟨l, span⟩

def Feed.Ends (s : Feed) (n : Nat) : Prop :=
  ∃ t, s.ahead = some t ∧ t.lexeme ≠ .keyword .asWord ∧
    ∀ op, InfixOp.ofLexeme? t.lexeme = some op → op.level < n

def closed (items : List Item) (frames : List Frame) (role : BlockRole) (b : Block) : Stance :=
  fun es => closeBlock (waiting items frames .statement es) b.span.start role b.stmts.reverse b.tail
    frames b.span

theorem mk_parts (b : Block) :
    Block.mk ⟨b.span.start, b.span.stop⟩ b.stmts.reverse.reverse b.tail = b := by
  cases b
  rw [List.reverse_reverse]
  rfl

section

variable {items : List Item} {frames : List Frame} {start : Position} {cond : Expr}
variable {b thenBlock : Block}

theorem closed_plain : closed items frames .plain b =
    waiting items frames (.operator (.block b)) := by
  funext es
  simp only [closed, closeBlock, mk_parts]
  rfl

theorem closed_loopBody : closed items frames (.loopBody start) b =
    waiting items frames (.operator (.loop ⟨start, b.span.stop⟩ b)) := by
  funext es
  simp only [closed, closeBlock, mk_parts]
  rfl

theorem closed_unsafeBody : closed items frames (.unsafeBody start) b =
    waiting items frames (.operator (.unsafeBlock ⟨start, b.span.stop⟩ b)) := by
  funext es
  simp only [closed, closeBlock, mk_parts]
  rfl

theorem closed_whileBody : closed items frames (.whileBody start cond) b = fun es =>
    ((waiting items frames .statement es).requireValue "while condition" cond).replace frames
      (.operator (.whileLoop ⟨start, b.span.stop⟩ cond b)) := by
  funext es
  simp only [closed, closeBlock, mk_parts]

theorem closed_thenBranch : closed items frames (.thenBranch start cond) b = fun es =>
    ((waiting items frames .statement es).requireValue "if condition" cond).replace frames
      (.afterThen start cond b) := by
  funext es
  simp only [closed, closeBlock, mk_parts]

theorem closed_elseBranch : closed items frames (.elseBranch start cond thenBlock) b =
    waiting items (closeElseIf frames (completeIf start cond thenBlock (.block b))).1
      (.operator (closeElseIf frames (completeIf start cond thenBlock (.block b))).2) := by
  funext es
  simp only [closed, closeBlock, mk_parts]
  rfl

theorem closed_functionBody {proto : Prototype} : closed items [] (.functionBody proto) b =
    waiting (.function ⟨⟨proto.span.start, b.span.stop⟩, proto, b⟩ :: items) [] .item := by
  funext es
  simp only [closed, closeBlock, mk_parts]
  rfl

theorem closed_foreignBody {proto : Prototype} {abi : String} {decls : List ForeignItem} :
    closed items (.foreign start abi decls :: frames) (.functionBody proto) b = fun es =>
      ((waiting items (.foreign start abi decls :: frames) .statement es).note
        (.externFunctionWithBody b.span)).replace
          (.foreign start abi (.prototype proto :: decls) :: frames) .foreignItem := by
  funext es
  simp only [closed, closeBlock, mk_parts]

end

def Feed.InBlock (s : Feed) (target : Except ParseError Outcome) (items : List Item)
    (frames : List Frame) (role : BlockRole) (start : Position) (stmts : List Stmt) :
    Option Expr → Prop
  | none => s.Reaches target (waiting items (.block start role stmts :: frames) .statement)
  | some e => ∃ span, s.ahead = some ⟨.symbol .rbrace, span⟩ ∧
    s.drop.Reaches target (closed items frames role (.mk ⟨start, span.stop⟩ stmts.reverse (some e)))

def Operand (target : Except ParseError Outcome) (s : Feed) (x : Answer Expr) : Prop :=
  ∀ items frames, Settled frames → s.Reaches target (waiting items frames .operand) →
    Leads target (fun e s => s.Reaches target (waiting items frames (.operator e))) x

/-- What each procedure has to be called with, and what it reads then. -/
def Production.Leads (target : Except ParseError Outcome) (s : Feed) :
    (p : Production) → Answer p.Result → Prop
  | items done, x => s.Reaches target (waiting done [] .item) →
    Descent.Leads target (fun items s => s.Begins .eof ∧
      s.Reaches target (waiting items.reverse [] .item)) x
  | function, x => ∀ items, s.Begins (.keyword .fnWord) →
    s.Reaches target (waiting items [] .item) →
    Descent.Leads target (fun fn s =>
      s.Reaches target (waiting (.function fn :: items) [] .item)) x
  | prototype, x => ∀ items frames control, control = .item ∨ control = .foreignItem →
    s.Begins (.keyword .fnWord) → s.Reaches target (waiting items frames control) →
    Descent.Leads target (fun proto s => s.Reaches target (waiting items frames (.body proto))) x
  | params done, x => ∀ items frames start name,
    s.Reaches target (waiting items frames (.param ⟨start, name, done⟩)) →
    Descent.Leads target (fun params s => s.Begins (.symbol .rparen) ∧
      s.Reaches target (waiting items frames (.param ⟨start, name, params.reverse⟩))) x
  | param, x => ∀ items frames head, (s.Begins (.keyword .mutWord) ∨ s.Begins .underscore ∨
      ∃ name, s.Begins (.identifier name)) →
    s.Reaches target (waiting items frames (.param head)) →
    Descent.Leads target (fun p s => s.Reaches target
      (waiting items frames (.paramNext { head with params := p :: head.params }))) x
  | static false, x => ∀ items, s.Begins (.keyword .staticWord) →
    s.Reaches target (waiting items [] .item) →
    Descent.Leads target (fun decl s =>
      s.Reaches target (waiting (.static decl :: items) [] .item)) x
  | static true, x => ∀ items start abi decls, s.Begins (.keyword .staticWord) →
    s.Reaches target (waiting items [.foreign start abi decls] .foreignItem) →
    Descent.Leads target (fun decl s => s.Reaches target
      (waiting items [.foreign start abi (.static decl :: decls)] .foreignItem)) x
  | foreign, x => ∀ items, s.Begins (.keyword .externWord) →
    s.Reaches target (waiting items [] .item) →
    Descent.Leads target (fun block s =>
      s.Reaches target (waiting (.foreign block :: items) [] .item)) x
  | foreignItems done, x => ∀ items start abi,
    s.Reaches target (waiting items [.foreign start abi done] .foreignItem) →
    Descent.Leads target (fun decls s => s.Begins (.symbol .rbrace) ∧
      s.Reaches target (waiting items [.foreign start abi decls.reverse] .foreignItem)) x
  | foreignFunction, x => ∀ items start abi decls, s.Begins (.keyword .fnWord) →
    s.Reaches target (waiting items [.foreign start abi decls] .foreignItem) →
    Descent.Leads target (fun proto s => s.Reaches target
      (waiting items [.foreign start abi (.prototype proto :: decls)] .foreignItem)) x
  | block, x => ∀ items frames role, s.Reaches target (waiting items frames (.blockOpen role)) →
    Descent.Leads target (fun b s => s.Reaches target (closed items frames role b)) x
  | statements start stmts tail, x => ∀ items frames role,
    s.InBlock target items frames role start stmts tail →
    Descent.Leads target (fun b s => s.Reaches target (closed items frames role b)) x
  | binding, x => ∀ items frames start role stmts, s.Begins (.keyword .letWord) →
    s.Reaches target (waiting items (.block start role stmts :: frames) .statement) →
    Descent.Leads target (fun stmt s => s.Reaches target
      (waiting items (.block start role (stmt :: stmts) :: frames) .statement)) x
  | level n, x => ∀ items frames, n ≤ castLevel → OpenFor n frames → Settled frames →
    s.Reaches target (waiting items frames .operand) →
    Descent.Leads target (fun e s => s.Ends n ∧
      s.Reaches target (waiting items frames (.operator e))) x
  | rest n lhs, x => ∀ items frames, n < castLevel → n ≠ comparisonLevel → OpenFor n frames →
    s.Ends (n + 1) → s.Reaches target (waiting items frames (.operator lhs)) →
    Descent.Leads target (fun e s => s.Ends n ∧
      s.Reaches target (waiting items frames (.operator e))) x
  | casts operand, x => ∀ items frames, OpenFor castLevel frames →
    s.Reaches target (waiting items frames (.operator operand)) →
    Descent.Leads target (fun e s => s.Ends castLevel ∧
      s.Reaches target (waiting items frames (.operator e))) x
  | unary, x => Operand target s x
  | primary, x => (∃ t, s.ahead = some t ∧ t.lexeme ≠ .symbol .minus ∧
    t.lexeme ≠ .symbol .bang) → Operand target s x
  | pathOrCall, x => (∃ name, s.Begins (.identifier name)) → Operand target s x
  | arguments done, x => ∀ items frames span name,
    s.Reaches target (waiting items (.call span name done :: frames) .argument) →
    Descent.Leads target (fun args s => s.Begins (.symbol .rparen) ∧
      s.Reaches target (waiting items (.call span name args.reverse :: frames) .argument)) x
  | grouped, x => s.Begins (.symbol .lparen) → Operand target s x
  | conditional, x => ∀ items frames, s.Begins (.keyword .ifWord) →
    s.Reaches target (waiting items frames .operand) →
    Descent.Leads target (fun e s => s.Reaches target
      (waiting items (closeElseIf frames e).1 (.operator (closeElseIf frames e).2))) x
  | loop, x => s.Begins (.keyword .loopWord) → Operand target s x
  | whileLoop, x => s.Begins (.keyword .whileWord) → Operand target s x
  | unsafeBlock, x => s.Begins (.keyword .unsafeWord) → Operand target s x
  | ret, x => s.Begins (.keyword .returnWord) → Operand target s x

end MicroRust.Descent
