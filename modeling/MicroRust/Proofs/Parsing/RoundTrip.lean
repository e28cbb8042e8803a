import MicroRust.Proofs.Parsing.Completeness
import MicroRust.Proofs.Parsing.Soundness

/-! Items and crates that are written out are read back. -/

namespace MicroRust.Parsing

variable {items : List Item} {recovered : List Recovered} {fs : List Frame} {k : Control}

theorem steps_param (p : Param) (head : FunctionHead) (ts : List Token) :
    steps ⟨items, recovered, fs, .param head⟩ (p.lexemes.map unplaced ++ ts) =
      steps ⟨items, recovered, fs,
        .paramNext { head with params := p.relocate nowhere :: head.params }⟩ ts := by
  obtain ⟨span, mutable, pattern, type⟩ := p
  have htype : steps ⟨items, recovered, fs, _⟩ _ = _ := steps_type type.kind
    (.param head Position.origin mutable (pattern.relocate nowhere)) ts
  cases mutable <;> cases pattern <;> exact htype

theorem steps_params (params : List Param) (head : FunctionHead) (ts : List Token) :
    steps ⟨items, recovered, fs, .param head⟩
        ((commaSeparated (params.map Param.lexemes)).map unplaced ++
          unplaced (.symbol .rparen) :: ts) =
      steps ⟨items, recovered, fs, .result
        { head with params := (params.map (Param.relocate nowhere)).reverse ++ head.params }
        Position.origin⟩ ts := by
  induction params generalizing head with
  | nil => rfl
  | cons p rest ih =>
    cases rest with
    | nil =>
      rw [List.map_singleton, commaSeparated, steps_param]
      rfl
    | cons q rest =>
      have hlexemes : (commaSeparated ((p :: q :: rest).map Param.lexemes)).map unplaced ++
          unplaced (.symbol .rparen) :: ts =
            p.lexemes.map unplaced ++ unplaced (.symbol .comma) ::
              ((commaSeparated ((q :: rest).map Param.lexemes)).map unplaced ++
                unplaced (.symbol .rparen) :: ts) := by
        simp [commaSeparated]
      rw [hlexemes, steps_param]
      show steps ⟨items, recovered, fs, .param _⟩ _ = _
      rw [ih]
      simp

theorem step_result_eq {s : Symbol} (hs : s = .lbrace ∨ s = .semicolon) (head : FunctionHead)
    (stop : Position) :
    step ⟨items, recovered, fs, .result head stop⟩ (unplaced (.symbol s)) =
      step ⟨items, recovered, fs, .body ⟨⟨head.start, stop⟩, head.name, head.params.reverse,
        ⟨.unit, Span.point stop⟩⟩⟩ (unplaced (.symbol s)) := by
  rcases hs with rfl | rfl
  · rfl
  · cases fs with
    | nil => rfl
    | cons frame fs => cases frame <;> rfl

theorem steps_prototype (hk : k = .item ∨ k = .foreignItem) (proto : Prototype) {s : Symbol}
    (hs : s = .lbrace ∨ s = .semicolon) (ts : List Token) :
    steps ⟨items, recovered, fs, k⟩
        (proto.lexemes.map unplaced ++ unplaced (.symbol s) :: ts) =
      steps ⟨items, recovered, fs, .body (proto.relocate nowhere)⟩
        (unplaced (.symbol s) :: ts) := by
  have hlexemes : proto.lexemes.map unplaced ++ unplaced (.symbol s) :: ts =
      unplaced (.keyword .fnWord) :: unplaced (.identifier proto.name) ::
        unplaced (.symbol .lparen) ::
          ((commaSeparated (proto.params.map Param.lexemes)).map unplaced ++
            unplaced (.symbol .rparen) ::
              ((if proto.result.kind = .unit then [] else
                .symbol .arrow :: proto.result.kind.lexemes).map unplaced ++
                  unplaced (.symbol s) :: ts)) := by
    simp [Prototype.lexemes]
  have hopen : ∀ us, steps ⟨items, recovered, fs, k⟩ (unplaced (.keyword .fnWord) ::
      unplaced (.identifier proto.name) :: unplaced (.symbol .lparen) :: us) =
        steps ⟨items, recovered, fs, .param ⟨Position.origin, proto.name, []⟩⟩ us := by
    rcases hk with rfl | rfl <;> exact fun _ => rfl
  have hproto (kind : TypeKind) (hkind : proto.result.kind = kind) :
      (⟨noSpan, proto.name, (proto.params.map (Param.relocate nowhere)).reverse.reverse,
        ⟨kind, noSpan⟩⟩ : Prototype) = proto.relocate nowhere := by
    rw [List.reverse_reverse, ← hkind]
    rfl
  rw [hlexemes, hopen, steps_params, List.append_nil]
  split
  · rename_i hunit
    rw [List.map_nil, List.nil_append, ← hproto .unit hunit, steps_cons, steps_cons]
    exact congrArg (Except.bind · (steps · ts)) (step_result_eq hs ..)
  · rw [List.map_cons, List.cons_append]
    show steps ⟨items, recovered, fs, .type _⟩ _ = _
    rw [steps_type, ← hproto _ rfl]
    rfl

theorem operatorStep_static {e : Expr} (hvalue : e.IsValue) {head : StaticHead} :
    operatorStep ⟨items, recovered, .static head :: fs, k⟩ e (unplaced (.symbol .semicolon)) =
      .ok (closeStatic ⟨items, recovered, fs, .item⟩ head (some e) fs noSpan) := by
  have hlike := Config.like_mk items recovered (.static head :: fs) fs k .item
  show Except.ok (closeStatic (Config.requireValue _ _ e) _ _ _ _) = _
  rw [requireValue_of_isValue hvalue]
  exact congrArg Except.ok (closeStatic_like fs hlike ..)

theorem steps_static (hk : k = .item ∨ k = .foreignItem) (decl : Static)
    (h : ∀ e ∈ decl.init, Readable e) (hvalue : ∀ e ∈ decl.init, e.IsValue) (ts : List Token) :
    steps ⟨items, recovered, fs, k⟩ (decl.lexemes.map unplaced ++ ts) =
      steps (closeStatic ⟨items, recovered, fs, .item⟩
        ⟨Position.origin, decl.mutable, decl.name, ⟨decl.type.kind, noSpan⟩⟩
        (decl.init.map Expr.bare) fs noSpan) ts := by
  obtain ⟨span, name, mutable, type, init⟩ := decl
  have hlexemes : (Static.mk span name mutable type init).lexemes.map unplaced ++ ts =
      unplaced (.keyword .staticWord) :: ((mutLexemes mutable).map unplaced ++
        unplaced (.identifier name) :: unplaced (.symbol .colon) ::
          (type.kind.lexemes.map unplaced ++
            ((optionLexemes [.symbol .assign] init).map unplaced ++
              unplaced (.symbol .semicolon) :: ts))) := by
    simp [Static.lexemes]
  have hopen : ∀ us, steps ⟨items, recovered, fs, k⟩ (unplaced (.keyword .staticWord) ::
      ((mutLexemes mutable).map unplaced ++ unplaced (.identifier name) ::
        unplaced (.symbol .colon) :: us)) =
        steps ⟨items, recovered, fs, .type (.static Position.origin mutable name)⟩ us := by
    rcases hk with rfl | rfl <;> cases mutable <;> exact fun _ => rfl
  rw [hlexemes, hopen, steps_type]
  cases init with
  | none =>
    exact congrArg (steps · ts) (closeStatic_like fs (Config.like_mk ..) ..)
  | some e =>
    show steps ⟨items, recovered, .static _ :: fs, .operand⟩ (e.lexemes.map unplaced ++ _) = _
    exact (h e rfl).steps_cons (operatorStep_static (isValue_bare (hvalue e rfl))) trivial
      (fun _ => rfl) (follows_of_delimiter (by decide)) ts

theorem steps_decl (d : ForeignItem) (hinit : d.Uninitialized)
    (start : Position) (abi : String) (decls : List ForeignItem) (ts : List Token) :
    steps ⟨items, recovered, .foreign start abi decls :: fs, .foreignItem⟩
        (d.lexemes.map unplaced ++ ts) =
      steps ⟨items, recovered, .foreign start abi (d.relocate nowhere :: decls) :: fs,
        .foreignItem⟩ ts := by
  cases d with
  | prototype proto =>
    rw [ForeignItem.lexemes, List.map_append, List.append_assoc]
    exact steps_prototype (.inr rfl) proto (.inr rfl) ts
  | static decl =>
    have hnone : decl.init = none := Option.isNone_iff_eq_none.1 hinit
    rw [ForeignItem.lexemes, steps_static (.inr rfl) decl (by simp [hnone]) (by simp [hnone])]
    simp only [hnone, Option.map_none, ForeignItem.relocate, Static.relocate]
    rfl

theorem steps_decls (decls : List ForeignItem) (hinit : ∀ d ∈ decls, d.Uninitialized)
    (start : Position) (abi : String) (before : List ForeignItem) (ts : List Token) :
    steps ⟨items, recovered, .foreign start abi before :: fs, .foreignItem⟩
        ((decls.flatMap ForeignItem.lexemes).map unplaced ++ ts) =
      steps ⟨items, recovered, .foreign start abi
        ((decls.map (ForeignItem.relocate nowhere)).reverse ++ before) :: fs, .foreignItem⟩ ts := by
  induction decls generalizing before with
  | nil => rfl
  | cons d rest ih =>
    obtain ⟨hd, hrest⟩ := List.forall_mem_cons.1 hinit
    rw [List.flatMap_cons, List.map_append, List.append_assoc, steps_decl d hd, ih hrest]
    simp

theorem steps_item (item : Item) (h : item.outline.Every Node.WellFormed)
    (hinit : item.Initialized) (ts : List Token) :
    steps ⟨items, recovered, [], .item⟩ (item.lexemes.map unplaced ++ ts) =
      steps ⟨item.bare :: items, recovered, [], .item⟩ ts := by
  cases item with
  | function fn =>
    obtain ⟨span, proto, body⟩ := fn
    simp only [Item.outline, Function.outline, Outline.every_node, List.forall_mem_cons] at h
    have hlexemes : (Item.function ⟨span, proto, body⟩).lexemes.map unplaced ++ ts =
        proto.lexemes.map unplaced ++ unplaced (.symbol .lbrace) ::
          ((innerLexemes body).map unplaced ++ ts) := by
      simp [Item.lexemes, lexemes_block]
    rw [hlexemes, steps_prototype (.inl rfl) proto (.inl rfl)]
    show steps ⟨items, recovered, .block Position.origin
      (.functionBody (proto.relocate nowhere)) [] :: [], .statement⟩ _ = _
    rw [readableBlock body h.2.2.1]
    exact congrArg (fun b => steps (Config.mk
      (.function ⟨noSpan, proto.relocate nowhere, b⟩ :: items) recovered [] .item) ts)
      (mk_bare body)
  | static decl =>
    simp only [Item.outline, Static.outline, outlineOption_eq_map, Outline.every_node,
      List.forall_mem_map, Option.mem_toList] at h
    obtain ⟨e, he⟩ := Option.isSome_iff_exists.1 hinit
    rw [Item.lexemes, steps_static (.inl rfl) decl (readableOption _ h.2) h.1]
    simp only [he, Option.map_some, Item.bare, Item.relocate, Static.relocate]
    rfl
  | foreign block =>
    obtain ⟨span, abi, decls⟩ := block
    simp only [Item.outline, Outline.every_node] at h
    obtain ⟨⟨habi, hnone⟩, -⟩ := h
    cases habi
    have hlexemes : (Item.foreign ⟨span, "C", decls⟩).lexemes.map unplaced ++ ts =
        unplaced (.keyword .externWord) :: unplaced (.abi "C") :: unplaced (.symbol .lbrace) ::
          ((decls.flatMap ForeignItem.lexemes).map unplaced ++
            unplaced (.symbol .rbrace) :: ts) := by
      simp [Item.lexemes]
    rw [hlexemes]
    show steps ⟨items, recovered, .foreign Position.origin "C" [] :: [], .foreignItem⟩ _ = _
    rw [steps_decls decls hnone]
    show steps ⟨.foreign ⟨noSpan, "C", (List.reverse _)⟩ :: items, recovered, [], .item⟩ ts = _
    rw [List.append_nil, List.reverse_reverse]
    rfl

theorem steps_items (written : List Item) (h : ∀ item ∈ written, item.outline.Every Node.WellFormed)
    (hinit : ∀ item ∈ written, item.Initialized) (ts : List Token) :
    steps ⟨items, recovered, [], .item⟩ ((written.flatMap Item.lexemes).map unplaced ++ ts) =
      steps ⟨(written.map Item.bare).reverse ++ items, recovered, [], .item⟩ ts := by
  induction written generalizing items with
  | nil => rfl
  | cons item rest ih =>
    obtain ⟨hitem, hrest⟩ := List.forall_mem_cons.1 h
    obtain ⟨hfirst, hinit⟩ := List.forall_mem_cons.1 hinit
    rw [List.flatMap_cons, List.map_append, List.append_assoc, steps_item item hitem hfirst,
      ih hrest hinit]
    simp

theorem run_lexemes {crate : Crate} (h : crate.WellFormed) (rest : List Reading) :
    run .initial ((crate.lexemes.map unplaced).map .ok ++ .ok (unplaced .eof) :: rest) =
      .ok ⟨crate.items.map Item.bare, [], Position.origin⟩ := by
  simp only [Crate.WellFormed, Crate.outline, Outline.every_node, List.forall_mem_map] at h
  have hsteps : steps .initial (crate.lexemes.map unplaced) =
      .ok ⟨(crate.items.map Item.bare).reverse, [], [], .item⟩ := by
    have hitems : steps ⟨[], [], [], .item⟩ _ = _ := steps_items crate.items h.2 h.1 []
    rwa [List.append_nil, List.append_nil] at hitems
  have hne : ∀ t ∈ crate.lexemes.map unplaced, t.lexeme ≠ .eof := by
    rw [List.forall_mem_map]
    rintro l hl rfl
    exact crate.eof_notMem hl
  rw [run_of_steps hsteps hne]
  show Except.ok (Outcome.mk (List.reverse _) _ _) = _
  rw [List.reverse_reverse]
  rfl

end MicroRust.Parsing

namespace MicroRust

open Parsing

/-- A well-formed crate that is written out, with tokens at any places, is read back as it was but
for its ranges. Its name is that of the file. -/
theorem parse_lexemes {crate : Crate} (h : crate.WellFormed) (name : String) {tokens : List Token}
    (htokens : tokens.map Token.lexeme = crate.lexemes) {eof : Token} (heof : eof.lexeme = .eof)
    (rest : List Reading) :
    ∃ parsed, parse name (tokens.map .ok ++ .ok eof :: rest) = .ok parsed ∧
      parsed.bare = { crate.bare with name := crateName name } := by
  have hstream : (tokens.map Except.ok ++ Except.ok eof :: rest : List Reading).map
      (Reading.relocate nowhere) = (crate.lexemes.map unplaced).map .ok ++
        .ok (unplaced .eof) :: rest.map (Reading.relocate nowhere) := by
    rw [← htokens, ← heof]
    simp [Reading.relocate, Token.relocate_nowhere]
  -- Moved to one place, the parse is that of `run_lexemes`; so it has come to its end too.
  have hrun := run_relocate nowhere .initial (tokens.map .ok ++ .ok eof :: rest)
  rw [hstream] at hrun
  have hbare := (run_lexemes h _).symm.trans hrun
  cases houtcome : run .initial (tokens.map .ok ++ .ok eof :: rest) with
  | error e =>
    rw [houtcome] at hbare
    cases hbare
  | ok outcome =>
    obtain ⟨items, recovered, stop⟩ := outcome
    simp only [houtcome, Outcome.relocate, Except.ok.injEq, Outcome.mk.injEq] at hbare
    obtain ⟨hitems, hrecovered, -⟩ := hbare
    obtain rfl := List.map_eq_nil_iff.1 hrecovered.symm
    refine ⟨_, parse_of_run_clean houtcome, ?_⟩
    simp only [Crate.bare, Crate.relocate, ← hitems]
    rfl

/-- The tree of
`fn f(_: i32) -> i32 { if (return) {} else if a {}; a = return * b - -1; return a }`. -/
def returnsCrate : Crate :=
  ⟨"f", [.function ⟨noSpan, ⟨noSpan, "f", [⟨noSpan, false, .wildcard noSpan, ⟨.i32, noSpan⟩⟩],
    ⟨.i32, noSpan⟩⟩, .mk noSpan
    [.expr noSpan (.conditional noSpan (.grouped noSpan (.ret noSpan none)) (.mk noSpan [] none)
        (some (.conditional noSpan (.path noSpan "a") (.mk noSpan [] none) none))),
      .expr noSpan (.assign noSpan (.path noSpan "a") (.binary noSpan (.arith .sub)
        (.binary noSpan (.arith .mul) (.ret noSpan none) (.path noSpan "b"))
        (.negation noSpan .minus (.literal noSpan (.int 1)))))]
    (some (.ret noSpan (some (.path noSpan "a"))))⟩], noSpan⟩

theorem parse_lexemes_returnsCrate :
    returnsCrate.WellFormed ∧ ∃ parsed,
      parse "src/f.rs" ((returnsCrate.lexemes.map unplaced).map .ok ++ [.ok (unplaced .eof)]) =
        .ok parsed ∧ parsed.bare = { returnsCrate.bare with name := crateName "src/f.rs" } := by
  have h : returnsCrate.WellFormed := by decide
  have htokens : (returnsCrate.lexemes.map unplaced).map Token.lexeme = returnsCrate.lexemes := by
    rw [List.map_map]
    exact List.map_id _
  exact ⟨h, parse_lexemes h "src/f.rs" htokens rfl []⟩

end MicroRust
