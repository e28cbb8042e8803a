import MicroRust.Proofs.Parsing.Alternatives
import MicroRust.Proofs.Parsing.Soundness
import MicroRust.Proofs.Text.ByteOrder
import MicroRust.Proofs.Tree.Calls

/-! The list of the functions that a body calls: every one of them, each once, in the order of their
bytes. -/

namespace MicroRust

open Text (utf8Bytes utf8Bytes_lt)

theorem mem_insertText (s t : String) (l : List String) :
    t ∈ insertText s l ↔ t = s ∨ t ∈ l := by
  fun_induction insertText s l with
  | case1 => simp
  | case2 u rest hlt => simp
  | case3 rest hlt => simp
  | case4 u rest hlt hne ih => simp [ih, or_left_comm]

theorem pairwise_insertText (s : String) {l : List String} (h : l.Pairwise (· < ·)) :
    (insertText s l).Pairwise (· < ·) := by
  fun_induction insertText s l with
  | case1 => exact List.pairwise_singleton ..
  | case2 u rest hlt =>
    refine List.pairwise_cons.2 ⟨List.forall_mem_cons.2 ⟨hlt, fun t ht => ?_⟩, h⟩
    exact String.lt_trans hlt (List.rel_of_pairwise_cons h ht)
  | case3 rest hlt => exact h
  | case4 u rest hlt hne ih =>
    obtain ⟨hfirst, hrest⟩ := List.pairwise_cons.1 h
    refine List.pairwise_cons.2 ⟨fun t ht => ?_, ih hrest⟩
    rcases (mem_insertText s t rest).1 ht with rfl | ht
    · grind
    · exact hfirst t ht

theorem mem_foldl_insertText (t : String) (names l : List String) :
    t ∈ names.foldl (fun l s => insertText s l) l ↔ t ∈ names ∨ t ∈ l := by
  induction names generalizing l with
  | nil => simp
  | cons s names ih =>
    rw [List.foldl_cons, ih, mem_insertText, List.mem_cons, or_left_comm, or_assoc]

theorem pairwise_foldl_insertText (names : List String) {l : List String}
    (h : l.Pairwise (· < ·)) :
    (names.foldl (fun l s => insertText s l) l).Pairwise (· < ·) := by
  induction names generalizing l with
  | nil => exact h
  | cons s names ih => exact ih (pairwise_insertText s h)

theorem Block.pairwise_calls (b : Block) : b.calls.Pairwise (· < ·) :=
  pairwise_foldl_insertText _ .nil

theorem Block.mem_calls (b : Block) (callee : String) :
    callee ∈ b.calls ↔ callee ∈ b.outline.callees := by
  rw [calls, mem_foldl_insertText, Outline.callees]
  simp

theorem Node.callee?_eq_some_iff (n : Node) (callee : String) : n.callee? = some callee ↔
    ∃ span calleeSpan args, n = .expr (.call span calleeSpan callee args) := by
  fun_cases callee? n <;> simp_all

theorem Block.mem_calls_iff_within (b : Block) (callee : String) :
    callee ∈ b.calls ↔ ∃ span calleeSpan args,
      (Expr.call span calleeSpan callee args).Within (.block b) := by
  have hcall (span calleeSpan : Span) (args : List Expr) (p : Pattern) :
      Expr.call span calleeSpan callee args ≠ p.toExpr := by
    cases p <;> nofun
  rw [b.mem_calls, Outline.callees, List.mem_filterMap]
  constructor
  · rintro ⟨n, hn, hcallee⟩
    obtain ⟨span, calleeSpan, args, rfl⟩ := (n.callee?_eq_some_iff callee).1 hcallee
    exact ⟨span, calleeSpan, args, (Expr.mem_nodes_iff_within (hcall _ _ _) (.block b)).1 hn⟩
  · rintro ⟨span, calleeSpan, args, hwithin⟩
    refine ⟨_, (Expr.mem_nodes_iff_within (hcall _ _ _) (.block b)).2 hwithin, ?_⟩
    exact (Node.callee?_eq_some_iff ..).2 ⟨span, calleeSpan, args, rfl⟩

/-- The tokens that a stream has between the braces of a block. -/
def Encloses (stream : List Reading) (b : Block) (inside : List Token) : Prop :=
  ∃ (before : List Token) (opening closing : Token) (after : List Reading),
    stream = (before ++ opening :: inside ++ [closing]).map .ok ++ after ∧
    opening.lexeme = .symbol .lbrace ∧ closing.lexeme = .symbol .rbrace ∧
    b.span = ⟨opening.span.start, closing.span.stop⟩ ∧
    Writes (opening :: inside ++ [closing]) b.yields

variable {name : String} {stream : List Reading} {crate : Crate} {fn : Function}

theorem exists_body_of_parse (h : parse name stream = .ok crate)
    (hfn : .function fn ∈ crate.items) :
    ∃ (body : BlockPhrase) (before : List Token) (after : List Reading),
      stream = (before ++ body.tokens).map .ok ++ after ∧ body.tree = fn.body ∧ body.faults = [] ∧
      (Expr.block fn.body).Branched := by
  obtain ⟨stop, hrun⟩ := run_of_parse_ok h
  have hbranched := Parsing.run_branched hrun _ hfn (.block fn.body) (List.mem_singleton_self _)
  obtain ⟨phrases, eof, rest, rfl, -, -, hout⟩ := exists_phrases_of_run hrun
  simp only [Outcome.mk.injEq] at hout
  obtain ⟨hitems, hfaults, -⟩ := hout
  rw [hitems] at hfn
  obtain ⟨p, hp, htree⟩ := List.mem_map.1 hfn
  have hnone := List.flatMap_eq_nil_iff.1 hfaults.symm p hp
  obtain ⟨front, behind, rfl⟩ := List.append_of_mem hp
  cases p with
  | function proto body =>
    cases htree
    exact ⟨body, front.flatMap ItemPhrase.tokens ++ proto.tokens,
      (behind.flatMap ItemPhrase.tokens).map .ok ++ .ok eof :: rest, by simp [ItemPhrase.tokens],
      rfl, hnone, hbranched⟩
  | static decl => cases htree
  | foreign block closing => cases htree

/-- The calls of a function of a parsed crate are listed in increasing order of their bytes, all of
them and nothing else: a name is in the list exactly if a call to it stands anywhere in the body,
and exactly if it stands directly before a parenthesis between the braces of the body. -/
theorem parse_calls (h : parse name stream = .ok crate) (hfn : .function fn ∈ crate.items) :
    (fn.body.calls.Pairwise fun s t => utf8Bytes s < utf8Bytes t) ∧
    (∀ callee, callee ∈ fn.body.calls ↔ ∃ span calleeSpan args,
      (Expr.call span calleeSpan callee args).Within (.block fn.body)) ∧
    ∃ inside, Encloses stream fn.body inside ∧
      ∀ callee, callee ∈ fn.body.calls ↔ ∃ front t next behind,
        inside = front ++ t :: next :: behind ∧
        t.lexeme = .identifier callee ∧ next.lexeme = .symbol .lparen := by
  refine ⟨fn.body.pairwise_calls.imp utf8Bytes_lt, fn.body.mem_calls_iff_within, ?_⟩
  obtain ⟨body, before, after, rfl, hbody, hfaults, hbranched⟩ := exists_body_of_parse h hfn
  obtain ⟨opening, inside, closing, htokens, hspan⟩ := body.exists_tokens_eq
  refine ⟨inside, ⟨before, ⟨.symbol .lbrace, opening⟩, ⟨.symbol .rbrace, closing⟩, after, ?_, rfl,
    rfl, ?_, ?_⟩, fun callee => ?_⟩
  · rw [htokens, List.append_assoc]
  · rw [← hbody, hspan]
  · rw [← htokens, ← hbody]
    exact body.writes hfaults
  · have hnames := body.callNames_tokens hfaults (hbody ▸ hbranched)
    rw [htokens, callNames_append_symbol (by decide), callNames_symbol_cons, callNames_nil,
      List.append_nil] at hnames
    rw [fn.body.mem_calls, ← hbody, ← hnames, mem_callNames]

/-- The tokens of `fn f() { if b(a(1)) { b() } b(); }`. -/
def callTokens : List Reading :=
  [.keyword .fnWord, .identifier "f", .symbol .lparen, .symbol .rparen, .symbol .lbrace,
    .keyword .ifWord, .identifier "b", .symbol .lparen, .identifier "a", .symbol .lparen,
    .integer "1" 1, .symbol .rparen, .symbol .rparen, .symbol .lbrace, .identifier "b",
    .symbol .lparen, .symbol .rparen, .symbol .rbrace, .identifier "b", .symbol .lparen,
    .symbol .rparen, .symbol .semicolon, .symbol .rbrace, .eof].map fun lexeme =>
      .ok ⟨lexeme, Span.unknown⟩

theorem parse_calls_callTokens :
    ∃ crate fn, parse "f.rs" callTokens = .ok crate ∧ .function fn ∈ crate.items ∧
      fn.body.calls = ["a", "b"] ∧
      (fn.body.calls.Pairwise fun s t => utf8Bytes s < utf8Bytes t) ∧
      (∀ callee, callee ∈ fn.body.calls ↔ ∃ span calleeSpan args,
        (Expr.call span calleeSpan callee args).Within (.block fn.body)) ∧
      ∃ inside, Encloses callTokens fn.body inside ∧
        ∀ callee, callee ∈ fn.body.calls ↔ ∃ front t next behind,
          inside = front ++ t :: next :: behind ∧
          t.lexeme = .identifier callee ∧ next.lexeme = .symbol .lparen := by
  refine ⟨_, _, rfl, List.mem_singleton_self _, by decide, ?_⟩
  have h : parse "f.rs" callTokens = .ok _ := rfl
  exact parse_calls h (List.mem_singleton_self _)

end MicroRust
