import MicroRust.Proofs.Tree.Phrase
import MicroRust.Tree.Outline

/-! The parts of phrases, one for each node of the tree.

A part has its tokens, the outline of the node that they stand for, and the parts that the children
of the node stand for. The range of the node reaches from its first token to its last one. -/

namespace MicroRust

def Outline.label : Outline → Node
  | .node label _ => label

def Outline.children : Outline → List Outline
  | .node _ children => children

def Outline.span (o : Outline) : Span := o.label.span

theorem Outline.eq_node (o : Outline) : o = .node o.label o.children := by
  cases o
  rfl

def firstPlace (tokens : List Token) : Option Position := tokens.head?.map (·.span.start)

def lastPlace (tokens : List Token) : Option Position := tokens.getLast?.map (·.span.stop)

@[simp] theorem firstPlace_cons (t : Token) (ts : List Token) :
    firstPlace (t :: ts) = some t.span.start := rfl

@[simp] theorem firstPlace_append (ts us : List Token) :
    firstPlace (ts ++ us) = (firstPlace ts).or (firstPlace us) := by
  cases ts <;> rfl

@[simp] theorem firstPlace_nil : firstPlace [] = none := rfl

@[simp] theorem lastPlace_nil : lastPlace [] = none := rfl

@[simp] theorem lastPlace_append (ts us : List Token) :
    lastPlace (ts ++ us) = (lastPlace us).or (lastPlace ts) := by
  unfold lastPlace
  rw [List.getLast?_append]
  cases us.getLast? <;> rfl

@[simp] theorem lastPlace_cons (t : Token) (ts : List Token) :
    lastPlace (t :: ts) = (lastPlace ts).or (some t.span.stop) :=
  lastPlace_append [t] ts

/-- The range from the start of the first token to the end of the last one. -/
def Spans (tokens : List Token) (span : Span) : Prop :=
  firstPlace tokens = some span.start ∧ lastPlace tokens = some span.stop

theorem TypePhrase.spans (p : TypePhrase) : Spans p.tokens p.tree.span := by
  cases p <;> exact ⟨rfl, rfl⟩

theorem BlockPhrase.spans (p : BlockPhrase) : Spans p.tokens p.tree.span := by
  cases p <;> simp [Spans, tokens, tree, Block.span]

theorem ExprPhrase.spans (p : ExprPhrase) : Spans p.tokens p.tree.span := by
  cases p with
  | integer | float | boolean | unit | path | underscore | bareReturn => exact ⟨rfl, rfl⟩
  | grouped | call | callLast => simp [Spans, tokens, tree, Expr.span]
  | operation lhs op sign rhs =>
    obtain ⟨hl, -⟩ := lhs.spans
    obtain ⟨-, hr⟩ := rhs.spans
    cases op <;> simp [Spans, tokens, tree, InfixOp.tree, Expr.span, hl, hr]
  | negation op sign operand =>
    simp [Spans, tokens, tree, Expr.span, operand.spans.2]
  | cast operand word type =>
    simp [Spans, tokens, tree, Expr.span, operand.spans.1, type.spans.2]
  | block body => exact body.spans
  | loop word body | unsafeBlock word body =>
    simp [Spans, tokens, tree, Expr.span, body.spans.2]
  | whileLoop word cond body | conditional word cond body =>
    simp [Spans, tokens, tree, Expr.span, body.spans.2]
  | conditionalElse word cond body elseWord alternative =>
    simp [Spans, tokens, tree, Expr.span, alternative.spans.2]
  | valueReturn word value =>
    simp [Spans, tokens, tree, Expr.span, value.spans.2]

theorem StmtPhrase.spans {ending : Ending} (p : StmtPhrase ending) :
    Spans p.tokens p.tree.span := by
  cases p with
  | binding word binder semi =>
    have htype := binder.type.spans.2
    cases semi <;>
      simp [Spans, tokens, tree, Stmt.span, BinderPhrase.tokens, optionalToken, htype]
  | bound word binder sign init semi =>
    have hinit := init.spans.2
    cases semi <;> simp [Spans, tokens, tree, Stmt.span, optionalToken, hinit]
  | expr e semi =>
    obtain ⟨hstart, hstop⟩ := e.spans
    cases semi <;> simp [Spans, tokens, tree, Stmt.span, optionalToken, hstart, hstop]

theorem BinderPhrase.spans (p : BinderPhrase) : Spans p.tokens p.param.span := by
  have htype := p.type.spans.2
  rcases p with ⟨_ | mutWord, _ | _, colon, type⟩ <;>
    simp_all [Spans, tokens, param, start, optionalToken, Pattern.token, Pattern.span]

theorem ProtoPhrase.spans (p : ProtoPhrase) : Spans p.tokens p.tree.span := by
  rcases p with ⟨head, last, closing, _ | ⟨arrow, type⟩⟩
  · simp [Spans, tokens, frontTokens, HeadPhrase.tokens, tree, resultType, Span.point]
  · simp [Spans, tokens, frontTokens, HeadPhrase.tokens, tree, resultType, type.spans.2]

theorem StaticPhrase.spans (p : StaticPhrase) : Spans p.tokens p.tree.span := by
  simp [Spans, tokens, StaticHeadPhrase.tokens, tree]

inductive Part where
  | function (proto : ProtoPhrase) (body : BlockPhrase)
  | prototype (proto : ProtoPhrase)
  | param (binder : BinderPhrase)
  | static (decl : StaticPhrase)
  | foreign (block : ForeignPhrase) (closing : Span)
  | stmt {ending : Ending} (stmt : StmtPhrase ending)
  | pattern (pattern : Pattern)
  | expr (expr : ExprPhrase)

def ArgsPhrase.parts : ArgsPhrase → List Part
  | .none => []
  | .snoc init arg _ => init.parts ++ [.expr arg]

def StmtsPhrase.parts {k : Ending} : StmtsPhrase k → List Part
  | .none => []
  | .idle init _ => init.parts
  | .snoc init stmt => init.parts ++ [.stmt stmt]

def BlockPhrase.parts : BlockPhrase → List Part
  | .plain _ _ stmts _ => stmts.parts
  | .tailed _ stmts tail _ => stmts.parts ++ [.expr tail]

def ExprPhrase.parts : ExprPhrase → List Part
  | .grouped _ inner _ => [.expr inner]
  | .call _ _ _ args _ => args.parts
  | .callLast _ _ _ args last _ => args.parts ++ [.expr last]
  | .operation lhs _ _ rhs => [.expr lhs, .expr rhs]
  | .negation _ _ operand => [.expr operand]
  | .cast operand _ _ => [.expr operand]
  | .block body => body.parts
  | .loop _ body => [.expr (.block body)]
  | .whileLoop _ cond body => [.expr cond, .expr (.block body)]
  | .conditional _ cond thenBlock => [.expr cond, .expr (.block thenBlock)]
  | .conditionalElse _ cond thenBlock _ alternative =>
    [.expr cond, .expr (.block thenBlock), .expr alternative]
  | .unsafeBlock _ body => [.expr (.block body)]
  | .valueReturn _ value => [.expr value]
  | _ => []

def StmtPhrase.parts {ending : Ending} : StmtPhrase ending → List Part
  | .binding _ binder _ => [.pattern binder.pattern]
  | .bound _ binder _ init _ => [.pattern binder.pattern, .expr init]
  | .expr e _ => [.expr e]

/-- The part of a declaration that is in the tree. A body is not, and a `;` belongs to a static
only. -/
def DeclPhrase.part : DeclPhrase → Part
  | .prototype proto _ => .prototype proto
  | .function proto _ => .prototype proto
  | .static decl => .static decl

def ItemPhrase.part : ItemPhrase → Part
  | .function proto body => .function proto body
  | .static decl => .static decl
  | .foreign block closing => .foreign block closing

namespace Part

def tokens : Part → List Token
  | .function proto body => proto.tokens ++ body.tokens
  | .prototype proto => proto.tokens
  | .param binder => binder.tokens
  | .static decl => decl.tokens
  | .foreign block closing => block.tokens ++ [⟨.symbol .rbrace, closing⟩]
  | .stmt s => s.tokens
  | .pattern p => [p.token]
  | .expr e => e.tokens

def outline : Part → Outline
  | .function proto body => (ItemPhrase.function proto body).tree.outline
  | .prototype proto => proto.tree.outline
  | .param binder => binder.param.outline
  | .static decl => decl.tree.outline
  | .foreign block closing => (ItemPhrase.foreign block closing).tree.outline
  | .stmt s => s.tree.outline
  | .pattern p => .node (.expr p.toExpr) []
  | .expr e => e.tree.outline

def children : Part → List Part
  | .function proto body => [.prototype proto, .expr (.block body)]
  | .prototype proto => (proto.head.params.map (·.1) ++ proto.last.toList).map .param
  | .param binder => [.pattern binder.pattern]
  | .static decl => decl.init.toList.map fun init => .expr init.2
  | .foreign block _ => block.decls.map DeclPhrase.part
  | .stmt s => s.parts
  | .pattern _ => []
  | .expr e => e.parts

end Part

theorem Expr.label_outline (e : Expr) : e.outline.label = .expr e := by
  cases e with
  | block body =>
    cases body
    rfl
  | _ => rfl

theorem Stmt.label_outline (s : Stmt) : s.outline.label = .stmt s := by
  cases s <;> rfl

theorem ArgsPhrase.map_outline_parts (p : ArgsPhrase) :
    p.parts.map Part.outline = outlineArgs p.trees := by
  match p with
  | .none => rfl
  | .snoc init arg _ =>
    have ih := init.map_outline_parts
    rw [outlineArgs_eq_map] at ih ⊢
    simp [parts, trees, ih, Part.outline]

theorem StmtsPhrase.map_outline_parts {k : Ending} (p : StmtsPhrase k) :
    p.parts.map Part.outline = outlineStmts p.trees := by
  match p with
  | .none => rfl
  | .idle init _ => exact init.map_outline_parts
  | .snoc init stmt =>
    have ih := init.map_outline_parts
    rw [outlineStmts_eq_map] at ih ⊢
    simp [parts, trees, ih, Part.outline]

theorem ExprPhrase.children_outline (p : ExprPhrase) :
    p.tree.outline.children = p.parts.map Part.outline := by
  cases p with
  | operation lhs op sign rhs => cases op <;> rfl
  | call _ _ _ args _ => exact args.map_outline_parts.symm
  | callLast _ _ _ args last _ =>
    have hargs := args.map_outline_parts
    rw [outlineArgs_eq_map] at hargs
    simp [tree, Expr.outline, Outline.children, parts, hargs, Part.outline]
  | block body =>
    cases body with
    | plain hk opening stmts closing =>
      simp [tree, BlockPhrase.tree, Expr.outline, Block.outline, Outline.children, parts,
        BlockPhrase.parts, stmts.map_outline_parts, outlineOption]
    | tailed opening stmts tail closing =>
      simp [tree, BlockPhrase.tree, Expr.outline, Block.outline, Outline.children, parts,
        BlockPhrase.parts, stmts.map_outline_parts, outlineOption, Part.outline]
  | _ => rfl

theorem Part.children_outline (p : Part) : p.outline.children = p.children.map outline := by
  cases p with
  | function | param | pattern => rfl
  | prototype proto =>
    simp [outline, Prototype.outline, ProtoPhrase.tree, ProtoPhrase.params, Outline.children,
      children, Function.comp_def]
  | static decl => rcases decl with ⟨head, _ | init, semi⟩ <;> rfl
  | foreign block closing =>
    simp only [outline, ItemPhrase.tree, Item.outline, Outline.children, children, List.map_map]
    refine List.map_congr_left fun d _ => ?_
    cases d <;> rfl
  | stmt s => cases s <;> rfl
  | expr e => exact e.children_outline

theorem Part.spans (p : Part) : Spans p.tokens p.outline.span := by
  unfold Outline.span
  cases p with
  | function proto body =>
    obtain ⟨hstart, -⟩ := proto.spans
    obtain ⟨-, hstop⟩ := body.spans
    simp [Spans, tokens, outline, ItemPhrase.tree, Item.outline, Function.outline, Outline.label,
      Node.span, hstart, hstop]
  | prototype proto => exact proto.spans
  | param binder => exact binder.spans
  | static decl => exact decl.spans
  | foreign block closing =>
    simp [Spans, tokens, outline, ItemPhrase.tree, Item.outline, Outline.label, Node.span,
      ForeignPhrase.tokens]
  | stmt s =>
    rw [outline, Stmt.label_outline]
    exact s.spans
  | pattern p => cases p <;> exact ⟨rfl, rfl⟩
  | expr e =>
    rw [outline, Expr.label_outline]
    exact e.spans

theorem Part.induction {P : Part → Prop} (h : ∀ p : Part, (∀ c ∈ p.children, P c) → P p)
    (p : Part) : P p := by
  -- A child may be made anew, such as the block of a loop, so it is its outline that gets smaller.
  refine h p fun c hc => Part.induction h c
termination_by sizeOf p.outline
decreasing_by
  have hmem : c.outline ∈ p.outline.children := by
    rw [p.children_outline]
    exact List.mem_map_of_mem hc
  have hlt := List.sizeOf_lt_of_mem hmem
  rw [p.outline.eq_node]
  simp only [Outline.node.sizeOf_spec]
  omega

/-- The pieces lie in the tokens, whole and one behind the other. -/
inductive Laid : List Token → List (List Token) → Prop where
  | nil : Laid [] []
  | skip {t : Token} {ts : List Token} {pieces : List (List Token)} (h : Laid ts pieces) :
    Laid (t :: ts) pieces
  | piece (piece : List Token) {ts : List Token} {pieces : List (List Token)} (h : Laid ts pieces) :
    Laid (piece ++ ts) (piece :: pieces)

namespace Laid

variable {ts us : List Token} {pieces others : List (List Token)}

theorem none (ts : List Token) : Laid ts [] := by
  induction ts with
  | nil => exact .nil
  | cons t ts ih => exact .skip ih

theorem whole (ts : List Token) : Laid ts [ts] := by
  have h := Laid.piece ts .nil
  rwa [List.append_nil] at h

theorem append (h : Laid ts pieces) (h' : Laid us others) :
    Laid (ts ++ us) (pieces ++ others) := by
  induction h with
  | nil => exact h'
  | skip h ih => exact .skip ih
  | piece p h ih =>
    rw [List.append_assoc]
    exact .piece _ ih

theorem isInfix (h : Laid ts pieces) {piece : List Token} (hp : piece ∈ pieces) :
    piece <:+: ts := by
  induction h with
  | nil => cases hp
  | skip h ih => exact (ih hp).trans (List.suffix_cons ..).isInfix
  | piece p h ih =>
    rcases List.mem_cons.1 hp with rfl | hp
    · exact (List.prefix_append ..).isInfix
    · exact (ih hp).trans (List.suffix_append ..).isInfix

theorem sublist (h : Laid ts pieces) {piece : List Token} (hp : piece ∈ pieces) :
    piece.Sublist ts :=
  (h.isInfix hp).sublist

theorem pairwise {R : Token → Token → Prop} (h : Laid ts pieces) (hts : ts.Pairwise R) :
    pieces.Pairwise fun p q => ∀ t ∈ p, ∀ u ∈ q, R t u := by
  induction h with
  | nil => exact .nil
  | skip h ih => exact ih (List.pairwise_cons.1 hts).2
  | piece p h ih =>
    obtain ⟨-, hrest, hcross⟩ := List.pairwise_append.1 hts
    refine .cons (fun q hq t ht u hu => ?_) (ih hrest)
    exact hcross t ht u ((h.sublist hq).subset hu)

theorem close (h : Laid ts pieces) (us : List Token) : Laid (ts ++ us) pieces := by
  have happend := h.append (none us)
  rwa [List.append_nil] at happend

end Laid

theorem ArgsPhrase.laid (p : ArgsPhrase) : Laid p.tokens (p.parts.map Part.tokens) := by
  match p with
  | .none => exact .nil
  | .snoc init arg _ =>
    rw [parts, List.map_append]
    exact (init.laid.append (.whole arg.tokens)).close _

theorem StmtsPhrase.laid {k : Ending} (p : StmtsPhrase k) :
    Laid p.tokens (p.parts.map Part.tokens) := by
  match p with
  | .none => exact .nil
  | .idle init _ => exact init.laid.close _
  | .snoc init stmt =>
    rw [parts, List.map_append]
    exact init.laid.append (.whole stmt.tokens)

theorem BlockPhrase.laid (p : BlockPhrase) : Laid p.tokens (p.parts.map Part.tokens) := by
  match p with
  | .plain _ _ stmts _ => exact stmts.laid.skip.close _
  | .tailed _ stmts tail _ =>
    rw [parts, List.map_append]
    exact (stmts.laid.skip.append (.whole tail.tokens)).close _

theorem ExprPhrase.laid (p : ExprPhrase) : Laid p.tokens (p.parts.map Part.tokens) := by
  match p with
  | .integer .. | .float .. | .boolean .. | .unit .. | .path .. | .underscore .. | .bareReturn .. =>
    exact .none _
  | .grouped _ inner _ => exact (Laid.whole inner.tokens).skip.close _
  | .call _ _ _ args _ => exact args.laid.skip.skip.close _
  | .callLast _ _ _ args last _ =>
    rw [parts, List.map_append]
    exact (args.laid.skip.skip.append (.whole last.tokens)).close _
  | .operation lhs _ _ rhs => exact .piece lhs.tokens (.skip (.whole rhs.tokens))
  | .negation _ _ operand => exact .skip (.whole operand.tokens)
  | .cast operand _ type => exact .piece operand.tokens (.none _)
  | .block body => exact body.laid
  | .loop _ body => exact .skip (.whole body.tokens)
  | .whileLoop _ cond body => exact .skip (.piece cond.tokens (.whole body.tokens))
  | .conditional _ cond body => exact .skip (.piece cond.tokens (.whole body.tokens))
  | .conditionalElse _ cond body _ alternative =>
    exact ((Laid.whole cond.tokens).skip.append (.whole body.tokens)).append
      (.skip (.whole alternative.tokens))
  | .unsafeBlock _ body => exact .skip (.whole body.tokens)
  | .valueReturn _ value => exact .skip (.whole value.tokens)

theorem BinderPhrase.laid (p : BinderPhrase) : Laid p.tokens [[p.pattern.token]] :=
  (Laid.none _).append (.piece [_] (.none _))

theorem StmtPhrase.laid {ending : Ending} (p : StmtPhrase ending) :
    Laid p.tokens (p.parts.map Part.tokens) := by
  match p with
  | .binding _ binder semi => exact binder.laid.skip.close _
  | .bound _ binder _ init semi =>
    exact (binder.laid.skip.append (.skip (.whole init.tokens))).close _
  | .expr e semi => exact (Laid.whole e.tokens).close _

theorem laid_paramTokens (params : List (BinderPhrase × Span)) :
    Laid (paramTokens params) ((params.map (·.1)).map BinderPhrase.tokens) := by
  induction params with
  | nil => exact .nil
  | cons p params ih =>
    unfold paramTokens
    rw [List.flatMap_cons, List.append_assoc]
    exact .piece _ (.skip ih)

theorem laid_decls (decls : List DeclPhrase) :
    Laid (decls.flatMap DeclPhrase.tokens) ((decls.map DeclPhrase.part).map Part.tokens) := by
  induction decls with
  | nil => exact .nil
  | cons d decls ih =>
    rw [List.flatMap_cons]
    cases d with
    | prototype proto semi =>
      rw [DeclPhrase.tokens, List.append_assoc]
      exact .piece proto.tokens (.skip ih)
    | function proto body =>
      rw [DeclPhrase.tokens, List.append_assoc]
      exact .piece proto.tokens ((Laid.none body.tokens).append ih)
    | static decl => exact .piece decl.tokens ih

theorem Part.laid (p : Part) : Laid p.tokens (p.children.map tokens) := by
  cases p with
  | function proto body => exact .piece proto.tokens (.whole body.tokens)
  | prototype proto =>
    have hlast : Laid (proto.last.toList.flatMap BinderPhrase.tokens)
        (proto.last.toList.map BinderPhrase.tokens) := by
      cases proto.last with
      | none => exact .nil
      | some b => exact .piece b.tokens .nil
    have hparams := laid_paramTokens proto.head.params
    rw [children, List.map_map, List.map_append]
    exact ((hparams.skip.skip.skip.append hlast).close _).close _
  | param binder => exact binder.laid
  | static decl =>
    rcases decl with ⟨head, _ | ⟨sign, init⟩, semi⟩
    · exact .none _
    · exact ((Laid.none _).append (.skip (.whole init.tokens))).close _
  | foreign block closing =>
    exact (laid_decls block.decls).skip.skip.skip.close _
  | stmt s => exact s.laid
  | pattern p => exact .none _
  | expr e => exact e.laid

end MicroRust
