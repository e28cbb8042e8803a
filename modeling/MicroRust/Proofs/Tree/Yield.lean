import Mathlib.Computability.Language
import Mathlib.Order.CompletePartialOrder
import MicroRust.Proofs.Tree.Phrase

/-! The ways to write a tree, as a language over lexemes.

Everything that a tree records is written in one way and in source order. What it does not record
is free: a comma behind the last parameter or argument, idle semicolons before the statements of a
block and its end, the semicolon behind a statement that ends with a block, and a result `()`.
Numbers are compared by their values. -/

namespace MicroRust

open Computability

def word (lexemes : List Lexeme) : Language Lexeme := {lexemes}

def sign (s : Symbol) : Language Lexeme := word [.symbol s]

def semicolons : Language Lexeme := (sign .semicolon)∗

def separated : List (Language Lexeme) → Language Lexeme
  | [] => 1
  | [member] => member * (1 + sign .comma)
  | member :: rest => member * sign .comma * separated rest

def Literal.yields : Literal → Language Lexeme
  | .int value => {lexemes | ∃ digits, lexemes = [.integer digits value]}
  | .float value => {lexemes | ∃ digits, lexemes = [.float digits value]}
  | .bool value => word [.boolean value]
  | .unit => word [.symbol .lparen, .symbol .rparen]

def TypeKind.yields : TypeKind → Language Lexeme
  | .unit => word [.symbol .lparen, .symbol .rparen]
  | kind => word [.identifier kind.name]

def mutYields (mutable : Bool) : Language Lexeme := if mutable then word [.keyword .mutWord] else 1

def binderYields (mutable : Bool) (pattern : Pattern) (type : TypeRef) : Language Lexeme :=
  mutYields mutable * word [pattern.token.lexeme] * sign .colon * type.kind.yields

mutual

def Expr.yields : Expr → Language Lexeme
  | .literal _ value => value.yields
  | .path _ name => word [.identifier name]
  | .underscore _ => word [.underscore]
  | .grouped _ inner => sign .lparen * inner.yields * sign .rparen
  | .call _ _ callee args =>
    word [.identifier callee] * sign .lparen * argsYields args * sign .rparen
  | .assign _ target value => target.yields * sign .assign * value.yields
  | .binary _ op lhs rhs => lhs.yields * sign op.symbol * rhs.yields
  | .negation _ op operand => sign op.symbol * operand.yields
  | .cast _ operand type => operand.yields * word [.keyword .asWord] * type.kind.yields
  | .block body => body.yields
  | .loop _ body => word [.keyword .loopWord] * body.yields
  | .whileLoop _ cond body => word [.keyword .whileWord] * cond.yields * body.yields
  | .conditional _ cond thenBlock alternative =>
    word [.keyword .ifWord] * cond.yields * thenBlock.yields *
      optionYields (word [.keyword .elseWord]) alternative
  | .unsafeBlock _ body => word [.keyword .unsafeWord] * body.yields
  | .ret _ value => word [.keyword .returnWord] * optionYields 1 value

def argsYields : List Expr → Language Lexeme
  | [] => 1
  | [e] => e.yields * (1 + sign .comma)
  | e :: rest => e.yields * sign .comma * argsYields rest

def optionYields (front : Language Lexeme) : Option Expr → Language Lexeme
  | none => 1
  | some e => front * e.yields

def Stmt.yields : Stmt → Language Lexeme
  | .binding _ mutable pattern type init =>
    word [.keyword .letWord] * binderYields mutable pattern type *
      optionYields (sign .assign) init * sign .semicolon
  | .expr _ e => e.yields * if e.isBlockLike then 1 + sign .semicolon else sign .semicolon

/-- Statements with the idle semicolons behind each. -/
def stmtsYields : List Stmt → Language Lexeme
  | [] => 1
  | s :: rest => s.yields * semicolons * stmtsYields rest

def Block.yields : Block → Language Lexeme
  | .mk _ stmts tail =>
    sign .lbrace * (semicolons * stmtsYields stmts) * optionYields 1 tail * sign .rbrace

end

def Param.yields (p : Param) : Language Lexeme := binderYields p.mutable p.pattern p.type

def Prototype.yields (p : Prototype) : Language Lexeme :=
  word [.keyword .fnWord, .identifier p.name] * sign .lparen *
    separated (p.params.map Param.yields) * sign .rparen *
    if p.result.kind = .unit then 1 + sign .arrow * p.result.kind.yields
    else sign .arrow * p.result.kind.yields

def Static.yields (s : Static) : Language Lexeme :=
  word [.keyword .staticWord] * mutYields s.mutable * word [.identifier s.name] * sign .colon *
    s.type.kind.yields * optionYields (sign .assign) s.init * sign .semicolon

def ForeignItem.yields : ForeignItem → Language Lexeme
  | .prototype proto => proto.yields * sign .semicolon
  | .static decl => decl.yields

def Item.yields : Item → Language Lexeme
  | .function fn => fn.proto.yields * fn.body.yields
  | .static decl => decl.yields
  | .foreign block =>
    word [.keyword .externWord, .abi block.abi] * sign .lbrace *
      (block.items.map ForeignItem.yields).prod * sign .rbrace

def Crate.yields (c : Crate) : Language Lexeme := (c.items.map Item.yields).prod

theorem mem_word (lexemes : List Lexeme) : lexemes ∈ word lexemes := rfl

theorem nil_mem_one : [] ∈ (1 : Language Lexeme) := rfl

theorem argsYields_eq (args : List Expr) : argsYields args = separated (args.map Expr.yields) := by
  induction args with
  | nil => rfl
  | cons e rest ih =>
    cases rest with
    | nil => rfl
    | cons e' rest =>
      rw [argsYields, ih]
      · rfl
      · nofun

def listed (members : List (Language Lexeme)) : Language Lexeme :=
  (members.map (· * sign .comma)).prod

theorem listed_le_separated (members : List (Language Lexeme)) :
    listed members ≤ separated members := by
  induction members with
  | nil => exact le_rfl
  | cons m rest ih =>
    rw [listed, List.map_cons, List.prod_cons]
    cases rest with
    | nil =>
      rw [List.map_nil, List.prod_nil, mul_one]
      exact mul_le_mul_right le_add_self m
    | cons => exact mul_le_mul_right ih _

theorem listed_mul_le_separated (members : List (Language Lexeme)) (last : Language Lexeme) :
    listed members * last ≤ separated (members ++ [last]) := by
  induction members with
  | nil =>
    rw [listed, List.map_nil, List.prod_nil, one_mul]
    exact le_mul_of_one_le_right' le_self_add
  | cons m rest ih =>
    have hne : rest ++ [last] ≠ [] := by simp
    obtain ⟨x, xs, hx⟩ := List.exists_cons_of_ne_nil hne
    rw [listed, List.map_cons, List.prod_cons, mul_assoc, List.cons_append, hx]
    rw [hx] at ih
    exact mul_le_mul_right ih _

theorem stmtsYields_snoc (stmts : List Stmt) (s : Stmt) :
    stmtsYields (stmts ++ [s]) = stmtsYields stmts * s.yields * semicolons := by
  induction stmts with
  | nil => simp only [List.nil_append, stmtsYields, one_mul, mul_one]
  | cons s' rest ih => simp only [List.cons_append, stmtsYields, ih, mul_assoc]

theorem stmtsYields_mul_semicolon_le (stmts : List Stmt) :
    semicolons * stmtsYields stmts * sign .semicolon ≤ semicolons * stmtsYields stmts := by
  rcases List.eq_nil_or_concat stmts with rfl | ⟨init, s, rfl⟩
  · rw [stmtsYields, mul_one]
    exact kstar_mul_le_kstar
  · rw [List.concat_eq_append, stmtsYields_snoc, mul_assoc, mul_assoc _ semicolons]
    exact mul_le_mul_right (mul_le_mul_right kstar_mul_le_kstar _) _

/-- The tokens are one of the ways to write something. -/
def Writes (tokens : List Token) (yields : Language Lexeme) : Prop :=
  tokens.map Token.lexeme ∈ yields

namespace Writes

variable {ts us : List Token} {l m : Language Lexeme}

theorem append (hl : Writes ts l) (hm : Writes us m) : Writes (ts ++ us) (l * m) := by
  rw [Writes, List.map_append]
  exact Language.append_mem_mul hl hm

theorem congr (h : Writes ts l) (hts : ts = us) : Writes us l := hts ▸ h

theorem mono (h : Writes ts l) (hle : l ≤ m) : Writes ts m := hle h

theorem nil : Writes [] 1 := nil_mem_one

theorem one (lexeme : Lexeme) (span : Span) : Writes [⟨lexeme, span⟩] (word [lexeme]) :=
  mem_word _

theorem flatMap {α : Type} {tokens : α → List Token} {yields : α → Language Lexeme} {xs : List α}
    (h : ∀ x ∈ xs, Writes (tokens x) (yields x)) :
    Writes (xs.flatMap tokens) (xs.map yields).prod := by
  induction xs with
  | nil => exact nil
  | cons x xs ih =>
    obtain ⟨hx, hxs⟩ := List.forall_mem_cons.1 h
    rw [List.flatMap_cons, List.map_cons, List.prod_cons]
    exact hx.append (ih hxs)

end Writes

open Writes (one)

theorem optionalToken_mut (mutWord : Option Span) :
    Writes (optionalToken (.keyword .mutWord) mutWord) (mutYields mutWord.isSome) := by
  cases mutWord with
  | none => exact .nil
  | some span => exact one ..

theorem TypePhrase.writes (t : TypePhrase) : Writes t.tokens t.tree.kind.yields := by
  cases t with
  | named span kind hkind =>
    cases kind with
    | unit => exact absurd rfl hkind
    | i32 | f64 | bool => exact one ..
  | unit opening closing => exact mem_word _

theorem BinderPhrase.writes (b : BinderPhrase) :
    Writes b.tokens (binderYields b.mutWord.isSome b.pattern b.type.tree) := by
  have hpattern : Writes [b.pattern.token] (word [b.pattern.token.lexeme]) := mem_word _
  have h := (((optionalToken_mut b.mutWord).append hpattern).append
    (one (.symbol .colon) b.colon)).append b.type.writes
  exact h.congr (by simp [tokens])

theorem writes_end {semi : Option Span} {stop : Position} (h : endFault semi stop = []) :
    Writes (optionalToken (.symbol .semicolon) semi) (sign .semicolon) := by
  cases semi with
  | none => cases h
  | some span => exact one ..

theorem writes_optional (semi : Option Span) :
    Writes (optionalToken (.symbol .semicolon) semi) (1 + sign .semicolon) := by
  cases semi with
  | none => exact Writes.nil.mono le_self_add
  | some span => exact (one (.symbol .semicolon) span).mono le_add_self

mutual

theorem ExprPhrase.writes : ∀ p : ExprPhrase, p.faults = [] → Writes p.tokens p.tree.yields
  | .integer _ digits _, _ => ⟨digits, rfl⟩
  | .float _ digits _, _ => ⟨digits, rfl⟩
  | .boolean .., _ => one ..
  | .unit .., _ => mem_word _
  | .path .., _ => one ..
  | .underscore _, _ => one ..
  | .grouped opening inner closing, h => by
    have hinner := inner.writes (List.append_eq_nil_iff.1 h).1
    exact ((one (.symbol .lparen) opening).append hinner).append (one (.symbol .rparen) closing)
  | .call calleeSpan callee opening args closing, h => by
    have hargs := (args.writes h).mono (listed_le_separated _)
    rw [← argsYields_eq] at hargs
    exact (((one (.identifier callee) calleeSpan).append (one (.symbol .lparen) opening)).append
      hargs).append (one (.symbol .rparen) closing)
  | .callLast calleeSpan callee opening args last closing, h => by
    -- The last argument has no comma behind it, the others have one each.
    obtain ⟨h, -⟩ := List.append_eq_nil_iff.1 h
    obtain ⟨hargs, hlast⟩ := List.append_eq_nil_iff.1 h
    have hall := ((args.writes hargs).append (last.writes hlast)).mono
      (listed_mul_le_separated _ _)
    rw [← List.map_singleton, ← List.map_append, ← argsYields_eq] at hall
    have hcall := (((one (.identifier callee) calleeSpan).append
      (one (.symbol .lparen) opening)).append hall).append (one (.symbol .rparen) closing)
    exact hcall.congr (by simp [ExprPhrase.tokens])
  | .operation lhs op span rhs, h => by
    obtain ⟨h, -⟩ := List.append_eq_nil_iff.1 h
    obtain ⟨hl, hr⟩ := List.append_eq_nil_iff.1 h
    have hop := ((lhs.writes hl).append (one (.symbol op.symbol) span)).append (rhs.writes hr)
    cases op <;> exact hop.congr (by simp [ExprPhrase.tokens])
  | .negation op span operand, h =>
    (one (.symbol op.symbol) span).append (operand.writes (List.append_eq_nil_iff.1 h).1)
  | .cast operand span type, h => by
    have hoperand := operand.writes (List.append_eq_nil_iff.1 h).1
    exact ((hoperand.append (one (.keyword .asWord) span)).append type.writes).congr
      (by simp [ExprPhrase.tokens])
  | .block body, h => body.writes h
  | .loop span body, h => (one (.keyword .loopWord) span).append (body.writes h)
  | .whileLoop span cond body, h => by
    obtain ⟨h, -⟩ := List.append_eq_nil_iff.1 h
    obtain ⟨hc, hb⟩ := List.append_eq_nil_iff.1 h
    exact ((one (.keyword .whileWord) span).append (cond.writes hc)).append (body.writes hb)
  | .conditional span cond thenBlock, h => by
    obtain ⟨h, -⟩ := List.append_eq_nil_iff.1 h
    obtain ⟨hc, ht⟩ := List.append_eq_nil_iff.1 h
    have hif := ((one (.keyword .ifWord) span).append (cond.writes hc)).append (thenBlock.writes ht)
    exact (hif.append .nil).congr (by simp [ExprPhrase.tokens])
  | .conditionalElse span cond thenBlock elseSpan alternative, h => by
    obtain ⟨h, ha⟩ := List.append_eq_nil_iff.1 h
    obtain ⟨h, -⟩ := List.append_eq_nil_iff.1 h
    obtain ⟨hc, ht⟩ := List.append_eq_nil_iff.1 h
    have hif := ((one (.keyword .ifWord) span).append (cond.writes hc)).append (thenBlock.writes ht)
    have helse := (one (.keyword .elseWord) elseSpan).append (alternative.writes ha)
    exact (hif.append helse).congr (by simp [ExprPhrase.tokens])
  | .unsafeBlock span body, h => (one (.keyword .unsafeWord) span).append (body.writes h)
  | .bareReturn span, _ => (one (.keyword .returnWord) span).append .nil
  | .valueReturn span value, h => by
    have hvalue := Writes.nil.append (value.writes (List.append_eq_nil_iff.1 h).1)
    exact (one (.keyword .returnWord) span).append hvalue

theorem ArgsPhrase.writes : ∀ p : ArgsPhrase, p.faults = [] →
    Writes p.tokens (listed (p.trees.map Expr.yields))
  | .none, _ => .nil
  | .snoc init arg comma, h => by
    obtain ⟨h, -⟩ := List.append_eq_nil_iff.1 h
    obtain ⟨hi, ha⟩ := List.append_eq_nil_iff.1 h
    have harg := (arg.writes ha).append (one (.symbol .comma) comma)
    have hall := (init.writes hi).append harg
    simpa [listed, ArgsPhrase.trees, ArgsPhrase.tokens, sign] using hall

theorem StmtPhrase.writes : ∀ {ending : Ending} (p : StmtPhrase ending), p.faults = [] →
    Writes p.tokens p.tree.yields
  | _, .binding span binder semi, h => by
    have hlet := ((one (.keyword .letWord) span).append binder.writes).append .nil
    exact (hlet.append (writes_end h)).congr (by simp [StmtPhrase.tokens])
  | _, .bound span binder signSpan init semi, h => by
    obtain ⟨h, hend⟩ := List.append_eq_nil_iff.1 h
    have hinit := init.writes (List.append_eq_nil_iff.1 h).1
    have hlet := ((one (.keyword .letWord) span).append binder.writes).append
      ((one (.symbol .assign) signSpan).append hinit)
    exact (hlet.append (writes_end hend)).congr (by simp [StmtPhrase.tokens])
  | _, .expr expr semi, h => by
    obtain ⟨he, hend⟩ := List.append_eq_nil_iff.1 h
    refine (expr.writes he).append ?_
    split at hend
    · rename_i hlike
      rw [if_pos hlike]
      exact writes_optional semi
    · rename_i hlike
      rw [if_neg hlike]
      exact writes_end hend

theorem StmtsPhrase.writes : ∀ {k : Ending} (p : StmtsPhrase k), p.faults = [] →
    Writes p.tokens (semicolons * stmtsYields p.trees)
  | _, .none, _ => Language.append_mem_mul (Language.nil_mem_kstar _) nil_mem_one
  | _, .idle init semi, h =>
    ((init.writes h).append (one (.symbol .semicolon) semi)).mono (stmtsYields_mul_semicolon_le _)
  | _, .snoc init stmt, h => by
    -- The idle semicolons behind the new statement are still to come.
    obtain ⟨hi, hs⟩ := List.append_eq_nil_iff.1 h
    refine ((init.writes hi).append (stmt.writes hs)).mono ?_
    rw [StmtsPhrase.trees, stmtsYields_snoc, mul_assoc]
    exact mul_le_mul_right (le_mul_of_one_le_right' one_le_kstar) _

theorem BlockPhrase.writes : ∀ p : BlockPhrase, p.faults = [] → Writes p.tokens p.tree.yields
  | .plain _ opening stmts closing, h => by
    have hfront := ((one (.symbol .lbrace) opening).append (stmts.writes h)).append .nil
    exact (hfront.append (one (.symbol .rbrace) closing)).congr (by simp [BlockPhrase.tokens])
  | .tailed opening stmts tail closing, h => by
    obtain ⟨h, -⟩ := List.append_eq_nil_iff.1 h
    obtain ⟨hs, ht⟩ := List.append_eq_nil_iff.1 h
    have hfront := ((one (.symbol .lbrace) opening).append (stmts.writes hs)).append
      (Writes.nil.append (tail.writes ht))
    exact (hfront.append (one (.symbol .rbrace) closing)).congr (by simp [BlockPhrase.tokens])

end

theorem BinderPhrase.writes_param (b : BinderPhrase) : Writes b.tokens b.param.yields := b.writes

theorem HeadPhrase.writes_params (h : HeadPhrase) :
    Writes (paramTokens h.params) (listed (h.params.map fun p => p.1.param.yields)) := by
  rw [listed, List.map_map]
  exact Writes.flatMap fun p _ => p.1.writes.append (one (.symbol .comma) p.2)

theorem ProtoPhrase.writes_front (p : ProtoPhrase) :
    Writes p.frontTokens (word [.keyword .fnWord, .identifier p.head.name] * sign .lparen *
      separated (p.params.map Param.yields) * sign .rparen) := by
  have hparams : Writes (paramTokens p.head.params ++ p.last.toList.flatMap BinderPhrase.tokens)
      (separated (p.params.map Param.yields)) := by
    rw [params, List.map_append, List.map_map, List.map_map]
    cases p.last with
    | none =>
      simpa [Function.comp_def] using p.head.writes_params.mono (listed_le_separated _)
    | some last =>
      simpa [Function.comp_def] using
        (p.head.writes_params.append last.writes_param).mono (listed_mul_le_separated _ _)
  have hname : Writes [⟨.keyword .fnWord, p.head.word⟩, ⟨.identifier p.head.name, p.head.nameSpan⟩]
      (word [.keyword .fnWord, .identifier p.head.name]) := mem_word _
  have hfront := ((hname.append (one (.symbol .lparen) p.head.opening)).append hparams).append
    (one (.symbol .rparen) p.closing)
  exact hfront.congr (by simp [frontTokens, HeadPhrase.tokens])

theorem ProtoPhrase.writes (p : ProtoPhrase) : Writes p.tokens p.tree.yields := by
  refine p.writes_front.append ?_
  cases hresult : p.result with
  | none =>
    have hkind : p.tree.result.kind = .unit := by simp [tree, resultType, hresult]
    rw [if_pos hkind]
    exact Writes.nil.mono le_self_add
  | some result =>
    obtain ⟨arrow, type⟩ := result
    have htype : p.tree.result = type.tree := by simp [tree, resultType, hresult]
    have harrow := (one (.symbol .arrow) arrow).append type.writes
    rw [htype]
    dsimp only
    split
    · exact harrow.mono le_add_self
    · exact harrow

theorem StaticPhrase.writes (s : StaticPhrase) (h : s.initFaults = []) :
    Writes s.tokens s.tree.yields := by
  have hhead := ((((one (.keyword .staticWord) s.head.word).append
    (optionalToken_mut s.head.mutWord)).append
    (one (.identifier s.head.name) s.head.nameSpan)).append
    (one (.symbol .colon) s.head.colon)).append s.head.type.writes
  have hsemi := one (.symbol .semicolon) s.semi
  obtain ⟨head, init, semi⟩ := s
  cases init with
  | none =>
    exact ((hhead.append .nil).append hsemi).congr (by simp [tokens, StaticHeadPhrase.tokens])
  | some init =>
    obtain ⟨span, e⟩ := init
    have hinit := (one (.symbol .assign) span).append (e.writes (List.append_eq_nil_iff.1 h).1)
    exact ((hhead.append hinit).append hsemi).congr (by simp [tokens, StaticHeadPhrase.tokens])

theorem DeclPhrase.writes (d : DeclPhrase) (h : d.faults = []) : Writes d.tokens d.tree.yields := by
  cases d with
  | prototype proto semi => exact proto.writes.append (one (.symbol .semicolon) semi)
  -- A body is at fault, so there is none to be missed in the tree.
  | function proto body => exact absurd (List.append_eq_nil_iff.1 h).2 (List.cons_ne_nil _ _)
  | static decl => exact decl.writes (List.append_eq_nil_iff.1 h).1

theorem ItemPhrase.writes (p : ItemPhrase) (h : p.faults = []) : Writes p.tokens p.tree.yields := by
  cases p with
  | function proto body => exact proto.writes.append (body.writes h)
  | static decl => exact decl.writes (List.append_eq_nil_iff.1 h).1
  | foreign block closing =>
    have hdecls := List.flatMap_eq_nil_iff.1 (List.append_eq_nil_iff.1 h).2
    have hfront : Writes [⟨.keyword .externWord, block.word⟩, ⟨.abi block.abi, block.abiSpan⟩]
        (word [.keyword .externWord, .abi block.abi]) := mem_word _
    have hall := ((hfront.append (one (.symbol .lbrace) block.opening)).append
      (Writes.flatMap fun d hd => DeclPhrase.writes d (hdecls d hd))).append
      (one (.symbol .rbrace) closing)
    rw [tree, Item.yields, List.map_map]
    exact hall

end MicroRust
