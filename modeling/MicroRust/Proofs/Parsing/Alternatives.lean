import MicroRust.Proofs.Parsing.Reading
import MicroRust.Proofs.Tree.Within

/-! The parser puts nothing but blocks and conditionals behind an `else`.

The type of trees would allow any expression there. That the parser does not use this freedom is an
invariant of its configurations: it holds of every expression that has been read, whether it is part
of an item, of an open construct or of what the parser waits for. -/

namespace MicroRust.Parsing

def BlockRole.Branched : BlockRole → Prop
  | .whileBody _ cond => cond.Branched
  | .thenBranch _ cond => cond.Branched
  | .elseBranch _ cond thenBlock => cond.Branched ∧ (Expr.block thenBlock).Branched
  | _ => True

def Frame.Branched : Frame → Prop
  | .operation _ lhs => lhs.Branched
  | .call _ _ args => ∀ e ∈ args, e.Branched
  | .elseIf _ cond thenBlock => cond.Branched ∧ (Expr.block thenBlock).Branched
  | .block _ role stmts => role.Branched ∧ ∀ s ∈ stmts, s.Branched
  | .foreign _ _ items => ∀ d ∈ items, d.Branched
  | _ => True

def TypeSlot.Branched : TypeSlot → Prop
  | .cast operand => operand.Branched
  | _ => True

def Control.Branched : Control → Prop
  | .type slot => slot.Branched
  | .typeClose _ slot => slot.Branched
  | .blockOpen role => role.Branched
  | .afterThen _ cond thenBlock => cond.Branched ∧ (Expr.block thenBlock).Branched
  | .afterElse _ cond thenBlock => cond.Branched ∧ (Expr.block thenBlock).Branched
  | .operator e => e.Branched
  | _ => True

/-- The property holds in items and in open constructs. -/
structure Keeps (items : List Item) (fs : List Frame) : Prop where
  items : ∀ item ∈ items, item.Branched
  frames : ∀ f ∈ fs, f.Branched

def Config.Branched (c : Config) : Prop := Keeps c.items c.frames ∧ c.control.Branched

variable {items : List Item} {c d : Config} {f : Frame} {fs : List Frame} {e : Expr} {t : Token}

namespace Keeps

theorem push (h : Keeps items fs) (hf : f.Branched) : Keeps items (f :: fs) :=
  ⟨h.items, List.forall_mem_cons.2 ⟨hf, h.frames⟩⟩

theorem top (h : Keeps items (f :: fs)) : f.Branched := h.frames f (List.mem_cons_self ..)

theorem pop (h : Keeps items (f :: fs)) : Keeps items fs :=
  ⟨h.items, (List.forall_mem_cons.1 h.frames).2⟩

theorem addItem {item : Item} (h : Keeps items fs) (hitem : item.Branched) :
    Keeps (item :: items) fs :=
  ⟨List.forall_mem_cons.2 ⟨hitem, h.items⟩, h.frames⟩

theorem addDecl {start : Position} {abi : String} {decls : List ForeignItem} {decl : ForeignItem}
    (h : Keeps items (.foreign start abi decls :: fs)) (hdecl : decl.Branched) :
    Keeps items (.foreign start abi (decl :: decls) :: fs) :=
  have hdecls : ∀ d ∈ decl :: decls, d.Branched := List.forall_mem_cons.2 ⟨hdecl, h.top⟩
  h.pop.push hdecls

end Keeps

theorem completeOperation_branched {op : InfixOp} {lhs : Expr}
    (h : Keeps c.items (.operation op lhs :: fs)) (he : e.Branched) :
    Keeps (completeOperation c op lhs e).1.items fs ∧
      (completeOperation c op lhs e).2.Branched := by
  cases op with
  | assign => simpa [completeOperation] using ⟨h.pop, .two rfl trivial h.top he⟩
  | binary op => simpa [completeOperation] using ⟨h.pop, .two rfl trivial h.top he⟩

theorem completeNegation_branched {start : Position} {op : NegOp}
    (h : Keeps c.items (.negation start op :: fs)) (he : e.Branched) :
    Keeps (completeNegation c start op e).1.items fs ∧
      (completeNegation c start op e).2.Branched := by
  simpa [completeNegation] using ⟨h.pop, .one rfl trivial he⟩

theorem completeReturn_branched {start : Position} (h : Keeps c.items (.ret start :: fs))
    (he : e.Branched) :
    Keeps (completeReturn c start e).1.items fs ∧ (completeReturn c start e).2.Branched := by
  simpa [completeReturn] using ⟨h.pop, .one rfl trivial he⟩

theorem completeIf_branched {start : Position} {cond : Expr} {thenBlock : Block}
    (hcond : cond.Branched) (hthen : (Expr.block thenBlock).Branched) (he : e.Branched)
    (hkind : e.IsAlternative) :
    (completeIf start cond thenBlock e).Branched :=
  .intro (by simpa [completeIf, Expr.Branches] using hkind)
    (by simpa [completeIf, Expr.parts] using ⟨hcond, hthen, he⟩)

theorem closeTighter_branched {level : Nat} {e' : Expr} (h : Keeps c.items fs) (he : e.Branched)
    (hs : closeTighter level c fs e = some (d, e')) : Keeps d.items d.frames ∧ e'.Branched := by
  induction fs generalizing c e with
  | nil =>
    cases hs
    exact ⟨h, he⟩
  | cons f fs ih =>
    cases f with
    | operation op lhs =>
      rw [closeTighter] at hs
      split at hs
      · cases hs
        exact ⟨h, he⟩
      · split at hs
        · cases hs
        · obtain ⟨hc, he⟩ := completeOperation_branched h he
          exact ih hc he hs
    | negation start op =>
      obtain ⟨hc, he⟩ := completeNegation_branched h he
      exact ih hc he hs
    | _ =>
      cases hs
      exact ⟨h, he⟩

theorem closeOperand_branched (h : Keeps c.items fs) (he : e.Branched) :
    Keeps (closeOperand c fs e).1.items (closeOperand c fs e).1.frames ∧
      (closeOperand c fs e).2.Branched := by
  induction fs generalizing c e with
  | nil => exact ⟨h, he⟩
  | cons f fs ih =>
    cases f with
    | operation op lhs =>
      obtain ⟨hc, he⟩ := completeOperation_branched h he
      exact ih hc he
    | negation start op =>
      obtain ⟨hc, he⟩ := completeNegation_branched h he
      exact ih hc he
    | ret start =>
      obtain ⟨hc, he⟩ := completeReturn_branched h he
      exact ih hc he
    | _ => exact ⟨h, he⟩

theorem closeElseIf_branched (h : Keeps items fs) (he : e.Branched) (hkind : e.IsAlternative) :
    Keeps items (closeElseIf fs e).1 ∧ (closeElseIf fs e).2.Branched := by
  induction fs generalizing e with
  | nil => exact ⟨h, he⟩
  | cons f fs ih =>
    cases f with
    | elseIf start cond thenBlock =>
      exact ih h.pop (completeIf_branched h.top.1 h.top.2 he hkind) trivial
    | _ => exact ⟨h, he⟩

theorem addStatement_branched {start : Position} {role : BlockRole} {stmts : List Stmt}
    {stmt : Stmt} (h : Keeps c.items (.block start role stmts :: fs)) (hstmt : stmt.Branched) :
    (addStatement c start role stmts fs stmt).Branched :=
  ⟨h.pop.push ⟨h.top.1, List.forall_mem_cons.2 ⟨hstmt, h.top.2⟩⟩, trivial⟩

theorem block_branched {span : Span} {stmts : List Stmt} {tail : Option Expr}
    (hstmts : ∀ s ∈ stmts, s.Branched) (htail : ∀ e ∈ tail, e.Branched) :
    (Expr.block (.mk span stmts.reverse tail)).Branched := by
  refine .intro trivial (List.forall_mem_append.2 ⟨?_, ?_⟩)
  · intro e he
    obtain ⟨s, hs, he⟩ := List.mem_flatMap.1 he
    exact hstmts s (List.mem_reverse.1 hs) e he
  · exact option_branched htail

theorem closeBlock_branched {start : Position} {role : BlockRole} {stmts : List Stmt}
    {tail : Option Expr} (h : Keeps c.items (.block start role stmts :: fs))
    (htail : ∀ e ∈ tail, e.Branched) (close : Span) :
    (closeBlock c start role stmts tail fs close).Branched := by
  have hblock : (Expr.block (.mk ⟨start, close.stop⟩ stmts.reverse tail)).Branched :=
    block_branched h.top.2 htail
  have hrole := h.top.1
  have hbelow := h.pop
  unfold closeBlock
  cases role with
  | plain => exact ⟨hbelow, hblock⟩
  | loopBody => exact ⟨hbelow, .one rfl trivial hblock⟩
  | whileBody start cond =>
    exact ⟨by simpa [Config.replace] using hbelow, .two rfl trivial hrole hblock⟩
  | thenBranch start cond => exact ⟨by simpa [Config.replace] using hbelow, hrole, hblock⟩
  | elseBranch start cond thenBlock =>
    exact closeElseIf_branched hbelow (completeIf_branched hrole.1 hrole.2 hblock trivial) trivial
  | unsafeBody => exact ⟨hbelow, .one rfl trivial hblock⟩
  | functionBody proto =>
    dsimp only
    split
    · exact ⟨hbelow.addDecl (.prototype _), trivial⟩
    · exact ⟨hbelow.addItem (List.forall_mem_singleton.2 hblock), trivial⟩

theorem closeStatic_branched {head : StaticHead} {init : Option Expr} (h : Keeps c.items fs)
    (hinit : ∀ e ∈ init, e.Branched) (close : Span) :
    (closeStatic c head init fs close).Branched := by
  have hinit := option_branched hinit
  have hdecl (span : Span) :
      ForeignItem.Branched (.static ⟨span, head.name, head.mutable, head.type, init⟩) := hinit
  have hitem (span : Span) :
      Item.Branched (.static ⟨span, head.name, head.mutable, head.type, init⟩) := hinit
  unfold closeStatic
  dsimp only
  split
  · cases init <;> exact ⟨h.addDecl (hdecl _), trivial⟩
  · cases init <;> exact ⟨h.addItem (hitem _), trivial⟩

theorem closeType_branched {slot : TypeSlot} {type : TypeRef} (h : Keeps c.items c.frames)
    (hslot : slot.Branched) : (closeType c slot type).Branched := by
  cases slot with
  | cast operand =>
    simpa [closeType, Config.Branched, Config.expect] using ⟨h, .one rfl trivial hslot⟩
  | _ => exact ⟨h, trivial⟩

theorem operandStep_branched (h : Keeps c.items c.frames) (hs : operandStep c t = .ok d) :
    d.Branched := by
  unfold operandStep at hs
  split at hs <;> cases hs
  case h_1 | h_2 | h_3 | h_4 => exact ⟨h, .leaf rfl trivial⟩
  case h_7 => exact ⟨h.push ⟨trivial, by simp⟩, trivial⟩
  case h_8 | h_9 | h_10 | h_11 => exact ⟨h.push trivial, trivial⟩
  all_goals exact ⟨h, trivial⟩

theorem statementStep_branched (h : Keeps c.items c.frames) (hs : statementStep c t = .ok d) :
    d.Branched := by
  unfold statementStep at hs
  split at hs
  · rename_i hframes
    cases hs
    exact closeBlock_branched (hframes ▸ h) (by simp) _
  · cases hs
    exact ⟨h, trivial⟩
  · cases hs
    exact ⟨h, trivial⟩
  · exact operandStep_branched h hs

theorem delimiterStep_branched (h : Keeps c.items c.frames) (he : e.Branched)
    (hs : delimiterStep c e t = .ok d) : d.Branched := by
  unfold delimiterStep at hs
  split at hs
  case h_1 hframes =>
    rw [hframes] at h
    split at hs <;> cases hs
    exact ⟨by simpa [Config.replace] using h.pop, .one rfl trivial he⟩
  case h_2 calleeSpan callee args fs hframes =>
    rw [hframes] at h
    have hargs : ∀ arg ∈ e :: args, arg.Branched := List.forall_mem_cons.2 ⟨he, h.top⟩
    split at hs <;> cases hs
    · have hcall : Frame.Branched (.call calleeSpan callee (e :: args)) := hargs
      exact ⟨by simpa [Config.replace] using h.pop.push hcall, trivial⟩
    · refine ⟨by simpa [Config.replace] using h.pop, .intro trivial ?_⟩
      exact fun x hx => hargs x (List.mem_reverse.1 hx)
  case h_3 hframes =>
    rw [hframes] at h
    split at hs <;> cases hs
    exact ⟨h.pop.push ⟨he, by simp⟩, trivial⟩
  case h_4 hframes =>
    rw [hframes] at h
    split at hs <;> cases hs
    exact ⟨h.pop.push ⟨he, by simp⟩, trivial⟩
  case h_5 hframes =>
    rw [hframes] at h
    have hstmt (span : Span) : (Stmt.expr span e).Branched := List.forall_mem_singleton.2 he
    split at hs
    · cases hs
      exact addStatement_branched h (hstmt _)
    · cases hs
      exact closeBlock_branched (by simpa using h) (by simpa using he) _
    · refine statementStep_branched ?_ hs
      split <;> exact (addStatement_branched h (hstmt _)).1
  case h_6 head start role stmts fs hframes =>
    rw [hframes] at h
    have hblock (span : Span) : (addStatement (c.requireValue "let initializer" e) start role stmts
        fs (.binding span head.mutable head.pattern head.type (some e))).Branched :=
      addStatement_branched (by simpa using h.pop) (List.forall_mem_singleton.2 he)
    split at hs
    · cases hs
      exact hblock _
    · refine statementStep_branched ?_ hs
      exact (hblock _).1
  case h_7 hframes =>
    rw [hframes] at h
    split at hs <;> cases hs
    exact closeStatic_branched (by simpa using h.pop) (by simpa using he) _
  case h_8 => cases hs

theorem operatorStep_branched (h : Keeps c.items c.frames) (he : e.Branched)
    (hs : operatorStep c e t = .ok d) : d.Branched := by
  unfold operatorStep at hs
  split at hs
  · split at hs <;> cases hs
    rename_i hclose
    obtain ⟨hkeeps, hlhs⟩ := closeTighter_branched h he hclose
    exact ⟨hkeeps.push hlhs, trivial⟩
  · split at hs
    · split at hs <;> cases hs
      rename_i hclose
      obtain ⟨hkeeps, hoperand⟩ := closeTighter_branched h he hclose
      exact ⟨hkeeps, hoperand⟩
    · obtain ⟨hkeeps, he⟩ := closeOperand_branched h he
      exact delimiterStep_branched hkeeps he hs

theorem bodyStep_branched {proto : Prototype} (h : Keeps c.items c.frames)
    (hs : bodyStep c proto t = .ok d) : d.Branched := by
  unfold bodyStep at hs
  split at hs
  · cases hs
    exact ⟨h.push ⟨trivial, by simp⟩, trivial⟩
  · rename_i hframes
    cases hs
    exact ⟨(hframes ▸ h).addDecl (.prototype _), trivial⟩
  · cases hs
  · cases hs

theorem nameStep_branched {next : String → Control} (h : Keeps c.items c.frames)
    (hs : nameStep c t next = .ok d) (hnext : ∀ name, (next name).Branched) : d.Branched := by
  obtain ⟨name, -, rfl⟩ := nameStep_ok hs
  exact ⟨h, hnext name⟩

theorem symbolStep_branched {s : Symbol} {expected : String} {next : Control}
    (h : Keeps c.items c.frames) (hs : symbolStep c t s expected next = .ok d)
    (hnext : next.Branched) : d.Branched := by
  obtain ⟨-, rfl⟩ := symbolStep_ok hs
  exact ⟨h, hnext⟩

theorem patternStep_branched {next : Pattern → Control} (h : Keeps c.items c.frames)
    (hs : patternStep c t next = .ok d) (hnext : ∀ pattern, (next pattern).Branched) :
    d.Branched := by
  obtain ⟨pattern, -, rfl⟩ := patternStep_ok hs
  exact ⟨h, hnext pattern⟩

section

variable (h : Keeps c.items c.frames) (hs : step c t = .ok d)
include h hs

theorem step_abi_branched {start : Position} (hk : c.control = .abi start) : d.Branched := by
  simp only [step, hk] at hs
  split at hs <;> cases hs
  split <;> exact ⟨h, trivial⟩

theorem step_foreignItem_branched (hk : c.control = .foreignItem) : d.Branched := by
  simp only [step, hk] at hs
  split at hs
  · cases hs
    exact ⟨h, trivial⟩
  · cases hs
    exact ⟨h, trivial⟩
  · rename_i start abi decls fs _ hfs
    cases hs
    rw [hfs] at h
    refine ⟨h.pop.addItem fun e he => ?_, trivial⟩
    obtain ⟨decl, hdecl, he⟩ := List.mem_flatMap.1 he
    exact h.top decl (List.mem_reverse.1 hdecl) e he
  · cases hs

theorem step_foreignOpen_branched {start : Position} {abi : String}
    (hk : c.control = .foreignOpen start abi) : d.Branched := by
  simp only [step, hk] at hs
  split at hs <;> cases hs
  have hforeign : Frame.Branched (.foreign start abi []) := by simp [Frame.Branched]
  exact ⟨h.push hforeign, trivial⟩

theorem step_result_branched {head : FunctionHead} {stop : Position}
    (hk : c.control = .result head stop) : d.Branched := by
  simp only [step, hk] at hs
  split at hs
  · cases hs
    exact ⟨h, trivial⟩
  · exact bodyStep_branched h hs
  · exact bodyStep_branched h hs
  · cases hs

theorem step_staticMut_branched {start : Position} (hk : c.control = .staticMut start) :
    d.Branched := by
  simp only [step, hk] at hs
  split at hs
  · cases hs
    exact ⟨h, trivial⟩
  · exact nameStep_branched h hs fun _ => trivial

theorem step_staticInit_branched {head : StaticHead} (hk : c.control = .staticInit head) :
    d.Branched := by
  simp only [step, hk] at hs
  split at hs <;> cases hs
  · exact ⟨h.push trivial, trivial⟩
  · exact closeStatic_branched h (by simp) _

theorem step_bindingMut_branched {start : Position} (hk : c.control = .bindingMut start) :
    d.Branched := by
  simp only [step, hk] at hs
  split at hs
  · cases hs
    exact ⟨h, trivial⟩
  · exact patternStep_branched h hs fun _ => trivial

theorem step_bindingInit_branched {head : BindingHead} (hk : c.control = .bindingInit head) :
    d.Branched := by
  have hstmt (span : Span) :
      (Stmt.binding span head.mutable head.pattern head.type none).Branched := by
    simp [Stmt.Branched, Stmt.exprs]
  simp only [step, hk] at hs
  split at hs
  · cases hs
    exact ⟨h.push trivial, trivial⟩
  · rename_i hfs
    cases hs
    rw [hfs] at h
    exact addStatement_branched h (hstmt _)
  · rename_i hfs _ _
    rw [hfs] at h
    have hblock : Keeps (c.note (.missingToken (.symbol .semicolon) head.type.span.stop)).items _ :=
      h
    exact statementStep_branched (addStatement_branched hblock (hstmt _)).1 hs
  · cases hs

theorem step_type_branched {slot : TypeSlot} (hk : c.control = .type slot)
    (hslot : slot.Branched) : d.Branched := by
  simp only [step, hk] at hs
  split at hs
  · split at hs <;> cases hs
    exact closeType_branched h hslot
  · cases hs
    exact ⟨h, hslot⟩
  · cases hs

theorem step_typeClose_branched {start : Position} {slot : TypeSlot}
    (hk : c.control = .typeClose start slot) (hslot : slot.Branched) : d.Branched := by
  simp only [step, hk] at hs
  split at hs <;> cases hs
  exact closeType_branched h hslot

theorem step_groupOpen_branched {start : Position} (hk : c.control = .groupOpen start) :
    d.Branched := by
  simp only [step, hk] at hs
  split at hs
  · cases hs
    exact ⟨h, .leaf rfl trivial⟩
  · have hgroup : Frame.Branched (.group start) := trivial
    exact operandStep_branched (h.push hgroup) hs

theorem step_pathNext_branched {span : Span} {name : String}
    (hk : c.control = .pathNext span name) : d.Branched := by
  simp only [step, hk] at hs
  split at hs
  · cases hs
    have hcall : Frame.Branched (.call span name []) := by simp [Frame.Branched]
    exact ⟨h.push hcall, trivial⟩
  · exact operatorStep_branched h (.leaf (e := .path span name) rfl trivial) hs

theorem step_argument_branched (hk : c.control = .argument) : d.Branched := by
  simp only [step, hk] at hs
  split at hs
  · rename_i hfs
    cases hs
    rw [hfs] at h
    exact ⟨h.pop, .intro trivial fun e he => h.top e (List.mem_reverse.1 he)⟩
  · exact operandStep_branched h hs

theorem step_returnValue_branched {word : Span} (hk : c.control = .returnValue word) :
    d.Branched := by
  simp only [step, hk] at hs
  split at hs
  · have hret : Frame.Branched (.ret word.start) := trivial
    exact operandStep_branched (h.push hret) hs
  · exact operatorStep_branched h (.leaf (e := .ret word none) rfl trivial) hs

theorem step_blockOpen_branched {role : BlockRole} (hk : c.control = .blockOpen role)
    (hrole : role.Branched) : d.Branched := by
  simp only [step, hk] at hs
  split at hs <;> cases hs
  have hblock : Frame.Branched (.block t.span.start role []) := ⟨hrole, by simp⟩
  exact ⟨h.push hblock, trivial⟩

section

variable {start : Position} {cond : Expr} {thenBlock : Block} (hcond : cond.Branched)
  (hthen : (Expr.block thenBlock).Branched)
include hcond hthen

theorem step_afterThen_branched (hk : c.control = .afterThen start cond thenBlock) :
    d.Branched := by
  simp only [step, hk] at hs
  split at hs
  · cases hs
    exact ⟨h, hcond, hthen⟩
  · have hif : (Expr.conditional ⟨start, thenBlock.span.stop⟩ cond thenBlock none).Branched :=
      .two rfl (by simp [Expr.Branches]) hcond hthen
    obtain ⟨hkeeps, he⟩ := closeElseIf_branched h hif trivial
    exact operatorStep_branched hkeeps he hs

theorem step_afterElse_branched (hk : c.control = .afterElse start cond thenBlock) :
    d.Branched := by
  simp only [step, hk] at hs
  split at hs <;> cases hs
  · have helse : Frame.Branched (.elseIf start cond thenBlock) := ⟨hcond, hthen⟩
    exact ⟨(h.push helse).push trivial, trivial⟩
  · have hblock : Frame.Branched (.block t.span.start (.elseBranch start cond thenBlock) []) :=
      ⟨⟨hcond, hthen⟩, by simp⟩
    exact ⟨h.push hblock, trivial⟩

end

end

theorem step_branched (h : c.Branched) (hs : step c t = .ok d) : d.Branched := by
  obtain ⟨items, recovered, fs, control⟩ := c
  obtain ⟨hkeeps, hcontrol⟩ := h
  cases control with
  -- The words and signs in the heads of items and statements hold no expression.
  | item | param | paramNext =>
    simp only [step] at hs
    split at hs <;> cases hs <;> exact ⟨hkeeps, trivial⟩
  | functionName | staticName => exact nameStep_branched hkeeps hs fun _ => trivial
  | paramsOpen | paramColon | staticColon | bindingColon =>
    exact symbolStep_branched hkeeps hs trivial
  | paramPattern | bindingPattern => exact patternStep_branched hkeeps hs fun _ => trivial
  | abi => exact step_abi_branched hkeeps hs rfl
  | staticMut => exact step_staticMut_branched hkeeps hs rfl
  | bindingMut => exact step_bindingMut_branched hkeeps hs rfl
  | foreignItem => exact step_foreignItem_branched hkeeps hs rfl
  | foreignOpen => exact step_foreignOpen_branched hkeeps hs rfl
  | result => exact step_result_branched hkeeps hs rfl
  | body => exact bodyStep_branched hkeeps hs
  | staticInit => exact step_staticInit_branched hkeeps hs rfl
  | bindingInit => exact step_bindingInit_branched hkeeps hs rfl
  | type => exact step_type_branched hkeeps hs rfl hcontrol
  | typeClose => exact step_typeClose_branched hkeeps hs rfl hcontrol
  | statement => exact statementStep_branched hkeeps hs
  | operand => exact operandStep_branched hkeeps hs
  | groupOpen => exact step_groupOpen_branched hkeeps hs rfl
  | pathNext => exact step_pathNext_branched hkeeps hs rfl
  | argument => exact step_argument_branched hkeeps hs rfl
  | returnValue => exact step_returnValue_branched hkeeps hs rfl
  | blockOpen => exact step_blockOpen_branched hkeeps hs rfl hcontrol
  | afterThen => exact step_afterThen_branched hkeeps hs hcontrol.1 hcontrol.2 rfl
  | afterElse => exact step_afterElse_branched hkeeps hs hcontrol.1 hcontrol.2 rfl
  | operator => exact operatorStep_branched hkeeps hcontrol hs

theorem steps_branched {ts : List Token} (h : c.Branched) (hs : steps c ts = .ok d) :
    d.Branched := by
  induction ts generalizing c with
  | nil =>
    cases hs
    exact h
  | cons t ts ih =>
    obtain ⟨next, hnext, hrest⟩ := exists_step_of_steps_cons hs
    exact ih (step_branched h hnext) hrest

/-- Behind every `else` of a parsed item stands a block or a conditional. -/
theorem run_branched {stream : List Reading} {outcome : Outcome}
    (h : run .initial stream = .ok outcome) : ∀ item ∈ outcome.items, item.Branched := by
  obtain ⟨ts, eof, rest, d, last, -, -, -, hd, hlast, rfl⟩ := exists_steps_of_run_ok h
  have hinitial : Config.initial.Branched :=
    ⟨⟨by simp [Config.initial], by simp [Config.initial]⟩, trivial⟩
  have hbranched := step_branched (steps_branched hinitial hd) hlast
  exact fun item hitem => hbranched.1.items item (List.mem_reverse.1 hitem)

end MicroRust.Parsing
