import MicroRust.Proofs.Parsing.Soundness
import MicroRust.Proofs.Tree.Relocation

/-! An unexpected token is reported at once: what comes before it can be completed.

Each configuration that a parse can be in takes some token that leaves less to be done, and so comes
to the end of an item in the end. How much there is to be done is counted by a weight. -/

namespace MicroRust.Parsing

/-- The number of tokens, at most, that close a construct. Operations and alternatives are closed by
the token that closes what is around them. -/
def Frame.weight : Frame → Nat
  | .operation _ _ => 0
  | .negation _ _ => 0
  | .ret _ => 0
  | .elseIf _ _ _ => 0
  | .ifCondition _ => 4
  | .whileCondition _ => 4
  | .block _ _ _ => 2
  | _ => 1

def Control.weight : Control → Nat
  | .item => 0
  | .abi _ => 4
  | .foreignOpen _ _ => 3
  | .functionName _ => 7
  | .paramsOpen _ _ => 6
  | .param _ => 5
  | .paramPattern _ _ => 8
  | .paramColon _ _ _ _ => 7
  | .paramNext _ => 5
  | .result _ _ => 4
  | .body _ => 4
  | .staticMut _ => 9
  | .staticName _ _ => 8
  | .staticColon _ _ _ => 7
  | .staticInit _ => 2
  | .bindingMut _ => 9
  | .bindingPattern _ _ => 8
  | .bindingColon _ _ _ => 7
  | .bindingInit _ => 2
  | .type _ => 6
  | .typeClose _ _ => 6
  | .operand => 2
  | .groupOpen _ => 2
  | .returnValue _ => 2
  | .blockOpen _ => 4
  | .afterElse _ _ _ => 4
  | _ => 1

def framesWeight : List Frame → Nat
  | [] => 0
  | f :: fs => framesWeight fs + f.weight

@[simp] theorem framesWeight_nil : framesWeight [] = 0 := rfl

@[simp] theorem framesWeight_cons (f : Frame) (fs : List Frame) :
    framesWeight (f :: fs) = framesWeight fs + f.weight := rfl

def Config.weight (c : Config) : Nat := framesWeight c.frames + c.control.weight

variable {items : List Item} {fs : List Frame} {ts : List Token} {es : List Recovered}
  {c d : Config} {k : Ending}

theorem framesWeight_closeElseIf (fs : List Frame) (e : Expr) :
    framesWeight (closeElseIf fs e).1 = framesWeight fs := by
  fun_induction closeElseIf fs e with
  | case1 start cond thenBlock fs e ih => rw [ih, framesWeight_cons, Frame.weight, Nat.add_zero]
  | case2 => rfl

theorem weight_closeBlock_le (c : Config) (start : Position) (role : BlockRole) (stmts : List Stmt)
    (tail : Option Expr) (fs : List Frame) (closing : Span) :
    (closeBlock c start role stmts tail fs closing).weight ≤ framesWeight fs + 1 := by
  cases role with
  | functionBody proto =>
    simp only [closeBlock]
    split
    · exact Nat.le_refl _
    · exact Nat.le_succ _
  | elseBranch start cond thenBlock =>
    simp only [closeBlock, Config.weight, Config.replace, framesWeight_closeElseIf]
    exact Nat.le_refl _
  | plain | loopBody | whileBody | thenBranch | unsafeBody => exact Nat.le_refl _

theorem weight_closeStatic_le (c : Config) (head : StaticHead) (init : Option Expr)
    (fs : List Frame) (closing : Span) :
    (closeStatic c head init fs closing).weight ≤ framesWeight fs + 1 := by
  simp only [closeStatic]
  split
  · exact Nat.le_refl _
  · exact Nat.le_succ _

theorem weight_closeType_le (c : Config) (slot : TypeSlot) (type : TypeRef) :
    (closeType c slot type).weight ≤ framesWeight c.frames + 5 := by
  cases slot <;> simp [closeType, Config.weight, Config.expect, Control.weight]

/-- The symbol that ends the expression being read and goes on with what is around it. -/
def closer : List Frame → Symbol
  | .operation _ _ :: fs => closer fs
  | .negation _ _ :: fs => closer fs
  | .ret _ :: fs => closer fs
  | .ifCondition _ :: _ => .lbrace
  | .whileCondition _ :: _ => .lbrace
  | .block _ _ _ :: _ => .rbrace
  | .binding _ :: _ => .semicolon
  | .static _ :: _ => .semicolon
  | _ => .rparen

theorem delimiterStep_closer (h : Stack items k fs ts es) (c : Config) (e : Expr) :
    ∃ d, delimiterStep (closeOperand c fs e).1 (closeOperand c fs e).2
      (unplaced (.symbol (closer fs))) = .ok d ∧ d.weight < framesWeight fs + 1 := by
  induction h generalizing c e with
  | operation below lhs op sign hopen hlhs hlevel hchain ih =>
    rw [framesWeight_cons, Frame.weight, Nat.add_zero]
    exact ih _ _
  | negation below op sign ih =>
    rw [framesWeight_cons, Frame.weight, Nat.add_zero]
    exact ih _ _
  | ret below word ih =>
    rw [framesWeight_cons, Frame.weight, Nat.add_zero]
    exact ih _ _
  | body | block | thenBlock | elseBlock =>
    refine ⟨_, rfl, Nat.lt_of_le_of_lt (weight_closeBlock_le ..) ?_⟩
    simp [Frame.weight]
  | static =>
    refine ⟨_, rfl, Nat.lt_of_le_of_lt (weight_closeStatic_le ..) ?_⟩
    simp [Frame.weight]
  | group | call | whileCondition | ifCondition | binding =>
    refine ⟨_, rfl, ?_⟩
    simp [Config.weight, Config.replace, addStatement, Frame.weight, Control.weight]

def closers : List Symbol := [.lbrace, .rbrace, .semicolon, .rparen]

theorem closer_mem (fs : List Frame) : closer fs ∈ closers := by
  fun_induction closer fs <;> simp_all [closers]

theorem operatorStep_of_mem_closers {s : Symbol} (h : s ∈ closers) (c : Config) (e : Expr) :
    operatorStep c e (unplaced (.symbol s)) = delimiterStep (closeOperand c c.frames e).1
      (closeOperand c c.frames e).2 (unplaced (.symbol s)) := by
  simp only [closers, List.mem_cons, List.not_mem_nil, or_false] at h
  rcases h with rfl | rfl | rfl | rfl <;> rfl

theorem operatorStep_closer (h : Stack c.items k c.frames ts es) (e : Expr) :
    ∃ d, operatorStep c e (unplaced (.symbol (closer c.frames))) = .ok d ∧
      d.weight < framesWeight c.frames + 1 := by
  rw [operatorStep_of_mem_closers (closer_mem _)]
  exact delimiterStep_closer h c e

/-- The configuration takes some token and is lighter then. -/
def Config.Advances (c : Config) : Prop :=
  ∃ lexeme d, lexeme ≠ .eof ∧ step c (unplaced lexeme) = .ok d ∧ d.weight < c.weight

theorem advances_of_operatorStep (h : Stack c.items k c.frames ts es) (e : Expr)
    (hstep : ∀ s ∈ closers,
      step d (unplaced (.symbol s)) = operatorStep c e (unplaced (.symbol s)))
    (hweight : framesWeight c.frames + 1 ≤ d.weight) : d.Advances := by
  obtain ⟨next, hnext, hlt⟩ := operatorStep_closer h e
  refine ⟨.symbol (closer c.frames), next, by simp, ?_, by omega⟩
  rw [hstep _ (closer_mem _), hnext]

section

variable (recovered : List Recovered)

theorem advances_foreignItem {f : Frame} (outer : Outer items (f :: fs) ts es) :
    (Config.mk items recovered (f :: fs) .foreignItem).Advances := by
  rcases outer.frames_eq with hnil | ⟨start, abi, decls, hcons⟩
  · cases hnil
  · cases hcons
    exact ⟨.symbol .rbrace, _, by simp, rfl, by simp [Config.weight, Control.weight]⟩

theorem advances_pathNext (below : Stack items k fs ts es) (span : Span) (name : String) :
    (Config.mk items recovered fs (.pathNext span name)).Advances := by
  refine advances_of_operatorStep (c := ⟨items, recovered, fs, .pathNext span name⟩) below
    (.path span name) ?_ (Nat.le_refl _)
  intro s hs
  simp only [closers, List.mem_cons, List.not_mem_nil, or_false] at hs
  rcases hs with rfl | rfl | rfl | rfl <;> rfl

theorem advances_afterThen (below : Stack items k fs ts es) (chain : Chain) (word : Span)
    (cond : ExprPhrase) (thenBlock : BlockPhrase) :
    (Config.mk items recovered (chain.frames ++ fs)
      (.afterThen word.start cond.tree thenBlock.tree)).Advances := by
  have hclose := chain.closeElseIf_eq below (.conditional word cond thenBlock)
  have hweight := congrArg (framesWeight ·.1) hclose
  simp only [framesWeight_closeElseIf] at hweight
  refine advances_of_operatorStep
    (c := ⟨items, recovered, _, .afterThen word.start cond.tree thenBlock.tree⟩) below
    (chain.close (.conditional word cond thenBlock)).tree ?_ ?_
  · intro s hs
    rw [ExprPhrase.tree] at hclose
    have helse : (unplaced (.symbol s)).lexeme ≠ .keyword .elseWord := by simp [unplaced]
    simp only [step, if_neg helse, hclose]
  · exact Nat.le_of_eq (congrArg (· + 1) hweight.symm)

end

theorem Waits.advances {next : Control} (h : Waits items fs next ts es) (hne : next ≠ .item)
    (recovered : List Recovered) : (Config.mk items recovered fs next).Advances := by
  cases h with
  | item => exact absurd rfl hne
  | foreignItem outer => exact advances_foreignItem recovered outer
  | abi outer word =>
    exact ⟨.abi "C", _, by simp, rfl,
      by simp [Config.weight, Config.expect, Control.weight]⟩
  | foreignOpen outer word abiSpan abi =>
    exact ⟨.symbol .lbrace, _, by simp, rfl,
      by simp [Config.weight, Config.push, Frame.weight, Control.weight]⟩
  | functionName | staticName | staticMut | paramPattern | bindingMut | bindingPattern =>
    exact ⟨.identifier "x", _, by simp, rfl,
      by simp [Config.weight, Config.expect, Control.weight]⟩
  | paramsOpen =>
    exact ⟨.symbol .lparen, _, by simp, rfl,
      by simp [Config.weight, Config.expect, Control.weight]⟩
  | paramColon | staticColon | bindingColon =>
    exact ⟨.symbol .colon, _, by simp, rfl,
      by simp [Config.weight, Config.expect, Control.weight]⟩
  | param | paramNext =>
    exact ⟨.symbol .rparen, _, by simp, rfl,
      by simp [Config.weight, Config.expect, Control.weight]⟩
  | result | body | blockOpen | afterElse =>
    exact ⟨.symbol .lbrace, _, by simp, rfl,
      by simp [Config.weight, Config.push, Frame.weight, Control.weight]⟩
  | staticInit outer head =>
    refine ⟨.symbol .semicolon, _, by simp, rfl,
      Nat.lt_of_le_of_lt (weight_closeStatic_le ..) ?_⟩
    simp [Config.weight, Control.weight]
  | bindingInit below word binder =>
    exact ⟨.symbol .semicolon, _, by simp, rfl,
      by simp [Config.weight, Config.replace, addStatement, Frame.weight, Control.weight]⟩
  | type hslot =>
    refine ⟨.identifier "i32", _, by simp, rfl,
      Nat.lt_of_le_of_lt (weight_closeType_le ..) ?_⟩
    simp [Config.weight, Control.weight]
  | typeClose hslot opening =>
    refine ⟨.symbol .rparen, _, by simp, rfl,
      Nat.lt_of_le_of_lt (weight_closeType_le ..) ?_⟩
    simp [Config.weight, Control.weight]
  | statement below =>
    refine ⟨.symbol .rbrace, _, by simp, rfl,
      Nat.lt_of_le_of_lt (weight_closeBlock_le ..) ?_⟩
    simp [Config.weight, Frame.weight, Control.weight]
  -- `_` may stand for any operand; that it has no value does not end the parse.
  | operand | returnValue =>
    exact ⟨.underscore, _, by simp, rfl,
      by simp [Config.weight, Config.expect, Frame.weight, Control.weight]⟩
  | groupOpen =>
    exact ⟨.symbol .rparen, _, by simp, rfl,
      by simp [Config.weight, Config.expect, Control.weight]⟩
  | argument =>
    exact ⟨.symbol .rparen, _, by simp, rfl,
      by simp [Config.weight, Config.replace, Frame.weight, Control.weight]⟩
  -- Behind an operand, the token that closes what is around it closes the operations on the way.
  | pathNext below span name => exact advances_pathNext recovered below span name
  | afterThen below chain hchain word cond hcond thenBlock hthen =>
    exact advances_afterThen recovered below chain word cond thenBlock
  | operator below e hopen hlevel he =>
    exact advances_of_operatorStep (c := ⟨items, recovered, fs, .operator e.tree⟩) below e.tree
      (fun s hs => rfl) (Nat.le_refl _)

theorem Config.Reads.exists_completion (h : c.Reads ts) :
    ∃ us d, (∀ t ∈ us, t.lexeme ≠ .eof) ∧ steps c us = .ok d ∧ d.control = .item := by
  induction hn : c.weight using Nat.strongRecOn generalizing c ts with
  | _ n ih =>
    by_cases hk : c.control = .item
    · exact ⟨[], c, by simp, rfl, hk⟩
    · obtain ⟨lexeme, next, ht, hstep, hlt⟩ := Waits.advances h hk c.recovered
      obtain ⟨us, d, hus, hsteps, hd⟩ := ih _ (hn ▸ hlt) (step_reads h ht hstep) rfl
      refine ⟨unplaced lexeme :: us, d, List.forall_mem_cons.2 ⟨ht, hus⟩, ?_, hd⟩
      rw [steps_cons_of_ok hstep, hsteps]

theorem step_item_eof (hk : c.control = .item) {t : Token} (ht : t.lexeme = .eof) :
    step c t = .ok c := by
  simp only [step, hk, ht]

/-- What has been read can be completed to a whole file. -/
theorem Config.Reads.exists_run (h : c.Reads ts) : ∃ more outcome, run c more = .ok outcome := by
  obtain ⟨us, d, hus, hsteps, hk⟩ := h.exists_completion
  have hend : run d [.ok (unplaced .eof)] =
      .ok ⟨d.items.reverse, d.recovered.reverse, Position.origin⟩ := by
    have hstep : step d (unplaced .eof) = .ok d := step_item_eof hk rfl
    simp only [run, hstep]
    rfl
  exact ⟨us.map .ok ++ [.ok (unplaced .eof)], _, (run_of_steps hsteps hus _).trans hend⟩

end MicroRust.Parsing

namespace MicroRust

open Parsing

variable {name : String} {stream : List Reading}

theorem run_of_parse_unexpected {actual : Token} {expected : String}
    (h : parse name stream = .error (.unexpected actual expected)) :
    run .initial stream = .error (.unexpected actual expected) := by
  unfold parse at h
  split at h
  · rename_i e hrun
    cases h
    exact hrun
  · split at h <;> cases h

theorem parse_of_run_error {e : ParseError} (h : run .initial stream = .error e) :
    parse name stream = .error e := by
  simp only [parse, h]

theorem completes_of_run {outcome : Outcome} (h : run .initial stream = .ok outcome) :
    Completes (parse name stream) := by
  simp only [parse, h]
  split <;> trivial

/-- An unexpected token is the last that was taken, it is unexpected whatever follows, and what
comes before it can be completed. -/
theorem parse_unexpected {actual : Token} {expected : String}
    (h : parse name stream = .error (.unexpected actual expected)) :
    ∃ (before : List Token) (rest : List Reading),
      stream = before.map .ok ++ .ok actual :: rest ∧
      parse name (before.map .ok) = .error .endOfTokens ∧
      (∀ (file : String) (rest : List Reading),
        parse file (before.map .ok ++ .ok actual :: rest) =
          .error (.unexpected actual expected)) ∧
      ∃ more, Completes (parse name (before.map .ok ++ more)) := by
  obtain ⟨before, rest, d, rfl, hbefore, hd, hstep⟩ :=
    exists_steps_of_run_unexpected (run_of_parse_unexpected h)
  have hrun := run_of_steps hd hbefore
  refine ⟨before, rest, rfl, parse_of_run_error ?_, fun file rest => parse_of_run_error ?_, ?_⟩
  · have hnil := hrun []
    rwa [List.append_nil] at hnil
  · rw [hrun]
    simp only [run, hstep]
  · obtain ⟨more, outcome, hmore⟩ := (steps_reads reads_initial hbefore hd).exists_run
    exact ⟨more, completes_of_run ((hrun more).trans hmore)⟩

/-- The tokens of `fn f() { 1 < 2 < 3`. -/
def chainedTokens : List Reading :=
  [.keyword .fnWord, .identifier "f", .symbol .lparen, .symbol .rparen, .symbol .lbrace,
    .integer "1" 1, .symbol .less, .integer "2" 2, .symbol .less, .integer "3" 3].map
    fun lexeme => .ok (unplaced lexeme)

theorem parse_unexpected_chainedTokens :
    parse "f.rs" chainedTokens = .error
        (.unexpected (unplaced (.symbol .less)) "comparison operators cannot be chained") ∧
      ∃ (before : List Token) (rest : List Reading),
        chainedTokens = before.map .ok ++ .ok (unplaced (.symbol .less)) :: rest ∧
        ∃ more, Completes (parse "f.rs" (before.map .ok ++ more)) := by
  have h : parse "f.rs" chainedTokens = .error
      (.unexpected (unplaced (.symbol .less)) "comparison operators cannot be chained") := rfl
  obtain ⟨before, rest, hstream, -, -, hmore⟩ := parse_unexpected h
  exact ⟨h, before, rest, hstream, hmore⟩

end MicroRust
