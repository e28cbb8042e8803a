import MicroRust.Proofs.Tree.Parts

/-! Where the faults of a phrase are.

A fault is told about a part of the phrase, from the first token of the part to the last one, or
right behind it. So the faults of a phrase are where its tokens are. -/

namespace MicroRust

/-- The range of some of the tokens, from the first to the last, or the place behind them. -/
def Within (tokens : List Token) (span : Span) : Prop :=
  ∃ part : List Token, part.Sublist tokens ∧
    (Spans part span ∨ ∃ stop, lastPlace part = some stop ∧ span = Span.point stop)

def Covers (tokens : List Token) (faults : List Recovered) : Prop :=
  ∀ r ∈ faults, Within tokens r.span

namespace Covers

variable {ts us : List Token} {rs ss : List Recovered}

theorem nil (ts : List Token) : Covers ts [] := List.forall_mem_nil _

theorem append (h : Covers ts rs) (h' : Covers ts ss) : Covers ts (rs ++ ss) :=
  List.forall_mem_append.2 ⟨h, h'⟩

theorem sublist (h : Covers ts rs) (hts : ts.Sublist us) : Covers us rs := by
  intro r hr
  obtain ⟨part, hpart, hspan⟩ := h r hr
  exact ⟨part, hpart.trans hts, hspan⟩

theorem skip {t : Token} (h : Covers ts rs) : Covers (t :: ts) rs :=
  h.sublist (List.sublist_cons_self t ts)

theorem left (h : Covers ts rs) : Covers (ts ++ us) rs :=
  h.sublist (List.sublist_append_left ts us)

theorem right (h : Covers us rs) : Covers (ts ++ us) rs :=
  h.sublist (List.sublist_append_right ts us)

theorem whole {r : Recovered} (h : Spans ts r.span) : Covers ts [r] := by
  intro s hs
  obtain rfl := List.mem_singleton.1 hs
  exact ⟨ts, List.Sublist.refl ts, .inl h⟩

theorem role (role : Capability) (slot : String) (p : ExprPhrase) :
    Covers p.tokens (roleFault role slot p.tree) := by
  unfold roleFault
  split
  · exact nil _
  · exact whole p.spans

theorem value (slot : String) (p : ExprPhrase) : Covers p.tokens (valueFault slot p.tree) :=
  role .value slot p

theorem ending (semi : Option Span) {stop : Position} (h : lastPlace ts = some stop) :
    Covers ts (endFault semi stop) := by
  cases semi with
  | some _ => exact nil _
  | none =>
    intro r hr
    obtain rfl := List.mem_singleton.1 hr
    exact ⟨ts, List.Sublist.refl ts, .inr ⟨stop, h, rfl⟩⟩

end Covers

-- Faults are not in the order of the tokens, so each part is put in its place on its own.
mutual

theorem ExprPhrase.covers (p : ExprPhrase) : Covers p.tokens p.faults := by
  match p with
  | .integer .. | .float .. | .boolean .. | .unit .. | .path .. | .underscore .. | .bareReturn .. =>
    exact .nil _
  | .grouped _ inner _ => exact (inner.covers.append (.value _ inner)).skip.left
  | .call _ _ _ args _ => exact args.covers.skip.skip.left
  | .callLast _ _ _ args last _ =>
    exact ((args.covers.skip.skip.left.append last.covers.right).append
      (.right (.value _ last))).left
  | .operation lhs op _ rhs =>
    refine (lhs.covers.left.append rhs.covers.skip.right).append ?_
    cases op with
    | assign => exact (Covers.role _ _ lhs).left.append (Covers.value _ rhs).skip.right
    | binary _ => exact (Covers.value _ lhs).left.append (Covers.value _ rhs).skip.right
  | .negation _ _ operand => exact (operand.covers.append (.value _ operand)).skip
  | .cast operand _ _ => exact (operand.covers.append (.value _ operand)).left
  | .block body => exact body.covers
  | .loop _ body => exact body.covers.skip
  | .whileLoop _ cond body =>
    exact (cond.covers.skip.left.append body.covers.right).append (Covers.value _ cond).skip.left
  | .conditional _ cond body =>
    exact (cond.covers.skip.left.append body.covers.right).append (Covers.value _ cond).skip.left
  | .conditionalElse _ cond body _ alternative =>
    exact ((cond.covers.skip.left.append body.covers.right).append
      (Covers.value _ cond).skip.left).left.append alternative.covers.skip.right
  | .unsafeBlock _ body => exact body.covers.skip
  | .valueReturn _ value => exact (value.covers.append (.value _ value)).skip

theorem ArgsPhrase.covers (p : ArgsPhrase) : Covers p.tokens p.faults := by
  match p with
  | .none => exact .nil _
  | .snoc init arg _ =>
    exact ((init.covers.left.append arg.covers.right).append (.right (.value _ arg))).left

theorem StmtPhrase.covers {ending : Ending} (p : StmtPhrase ending) :
    Covers p.tokens p.faults := by
  match p with
  | .binding _ binder semi =>
    exact (Covers.ending semi binder.type.spans.2).skip.skip.right.skip.left
  | .bound _ _ _ init semi =>
    have hvalue := init.covers.append (.value "let initializer" init)
    exact (hvalue.append (.ending semi init.spans.2)).skip.right.left
  | .expr e semi =>
    refine (e.covers.append ?_).left
    split
    · exact .nil _
    · exact .ending semi e.spans.2

theorem StmtsPhrase.covers {k : Ending} (p : StmtsPhrase k) : Covers p.tokens p.faults := by
  match p with
  | .none => exact .nil _
  | .idle init _ => exact init.covers.left
  | .snoc init stmt => exact init.covers.left.append stmt.covers.right

theorem BlockPhrase.covers (p : BlockPhrase) : Covers p.tokens p.faults := by
  match p with
  | .plain _ _ stmts _ => exact stmts.covers.skip.left
  | .tailed _ stmts tail _ =>
    exact ((stmts.covers.skip.left.append tail.covers.right).append (.right (.value _ tail))).left

end

theorem StaticPhrase.covers_init (p : StaticPhrase) : Covers p.tokens p.initFaults := by
  rcases p with ⟨head, _ | ⟨sign, e⟩, semi⟩
  · exact .nil _
  · exact (e.covers.append (.value _ e)).skip.right.left

theorem StaticPhrase.covers (p : StaticPhrase) : Covers p.tokens p.faults := by
  have hwhole := Covers.whole (r := .staticWithoutInit p.tree.span) p.spans
  refine p.covers_init.append ?_
  split
  · exact hwhole
  · exact .nil _

theorem DeclPhrase.covers (p : DeclPhrase) : Covers p.tokens p.faults := by
  cases p with
  | prototype proto semi => exact .nil _
  | function proto body =>
    have hbody := Covers.whole (r := .externFunctionWithBody body.tree.span) body.spans
    exact (body.covers.append hbody).right
  | static decl =>
    refine decl.covers_init.append ?_
    rcases decl with ⟨head, _ | ⟨sign, e⟩, semi⟩
    · exact .nil _
    · have hinit := Covers.whole (r := .externStaticWithInit e.tree.span) e.spans
      exact hinit.skip.right.left

theorem covers_flatMap {α : Type} {tokens : α → List Token} {faults : α → List Recovered}
    (h : ∀ p, Covers (tokens p) (faults p)) (ps : List α) :
    Covers (ps.flatMap tokens) (ps.flatMap faults) := by
  induction ps with
  | nil => exact .nil _
  | cons p ps ih =>
    rw [List.flatMap_cons, List.flatMap_cons]
    exact (h p).left.append ih.right

theorem ForeignPhrase.covers (p : ForeignPhrase) : Covers p.tokens p.faults := by
  have hdecls := covers_flatMap DeclPhrase.covers p.decls
  refine .append ?_ hdecls.skip.skip.skip
  unfold abiFault
  split
  · exact .nil _
  · have habi : Spans [⟨.abi p.abi, p.abiSpan⟩] p.abiSpan := ⟨rfl, rfl⟩
    have hfault := Covers.whole (r := .unsupportedAbi p.abiSpan p.abi) habi
    exact hfault.left.skip

theorem ItemPhrase.covers (p : ItemPhrase) : Covers p.tokens p.faults := by
  cases p with
  | function proto body => exact body.covers.right
  | static decl => exact decl.covers
  | foreign block closing => exact block.covers.left

end MicroRust
