import MicroRust.Parsing.Error
import MicroRust.Proofs.Tree.Levels

/-! Phrases: constructs of the language together with every token they are written with.

A phrase has its tokens, the tree that they stand for, and the faults of that tree. A tree does not
record whether a list ends with a comma, where a block has idle semicolons, whether a statement is
followed by one, whether a result `()` is written, how a number is spelled, and the body of a
function in an extern block; a phrase does. -/

namespace MicroRust

namespace BinaryOp

def symbol : BinaryOp → Symbol
  | .lazy .or => .orOr
  | .lazy .and => .andAnd
  | .compare .eq => .equal
  | .compare .ne => .notEqual
  | .compare .gt => .greater
  | .compare .lt => .less
  | .compare .ge => .greaterEqual
  | .compare .le => .lessEqual
  | .arith .bitOr => .pipe
  | .arith .bitXor => .caret
  | .arith .bitAnd => .ampersand
  | .arith .add => .plus
  | .arith .sub => .minus
  | .arith .mul => .star
  | .arith .div => .slash
  | .arith .rem => .percent

theorem ofSymbol?_eq_some_iff (s : Symbol) (op : BinaryOp) :
    ofSymbol? s = some op ↔ s = op.symbol := by
  constructor
  · intro h
    fun_cases ofSymbol? s <;> simp_all [ofSymbol?] <;> subst h <;> rfl
  · rintro rfl
    fun_cases symbol op <;> rfl

end BinaryOp

namespace InfixOp

def symbol : InfixOp → Symbol
  | .assign => .assign
  | .binary op => op.symbol

theorem ofLexeme?_eq_some_iff (l : Lexeme) (op : InfixOp) :
    ofLexeme? l = some op ↔ l = .symbol op.symbol := by
  constructor
  · intro h
    fun_cases ofLexeme? l <;> simp only [ofLexeme?, Option.map_eq_some_iff, Option.some.injEq] at h
    · subst h
      rfl
    · obtain ⟨b, hb, rfl⟩ := h
      rw [(BinaryOp.ofSymbol?_eq_some_iff _ _).1 hb, symbol]
    · cases h
  · rintro rfl
    cases op with
    | assign => rfl
    | binary b =>
      have hb := (BinaryOp.ofSymbol?_eq_some_iff _ _).2 (rfl : b.symbol = b.symbol)
      rw [symbol, ofLexeme?, hb, Option.map_some]
      intro h
      rw [h] at hb
      cases hb

theorem symbol_ne_lparen (op : InfixOp) : op.symbol ≠ .lparen := by
  cases op with
  | assign => decide
  | binary op => fun_cases BinaryOp.symbol op <;> decide

def tree (op : InfixOp) (lhs rhs : Expr) : Expr :=
  match op with
  | .assign => .assign ⟨lhs.span.start, rhs.span.stop⟩ lhs rhs
  | .binary op => .binary ⟨lhs.span.start, rhs.span.stop⟩ op lhs rhs

end InfixOp

def NegOp.symbol : NegOp → Symbol
  | .minus => .minus
  | .not => .bang

/-- The fault of an expression in a slot that wants a role. -/
def roleFault (role : Capability) (slot : String) (e : Expr) : List Recovered :=
  if e.capability.has role then [] else [.wrongRole e.span role e.capability slot]

def valueFault (slot : String) (e : Expr) : List Recovered := roleFault .value slot e

def InfixOp.faults (op : InfixOp) (lhs rhs : Expr) : List Recovered :=
  match op with
  | .assign => roleFault .assignee "assignment target" lhs ++ valueFault "assigned value" rhs
  | .binary _ => valueFault "operand" lhs ++ valueFault "operand" rhs

def endFault (semi : Option Span) (stop : Position) : List Recovered :=
  match semi with
  | some _ => []
  | none => [.missingToken (.symbol .semicolon) stop]

def optionalToken (lexeme : Lexeme) : Option Span → List Token
  | some span => [⟨lexeme, span⟩]
  | none => []

def Pattern.token : Pattern → Token
  | .named span name => ⟨.identifier name, span⟩
  | .wildcard span => ⟨.underscore, span⟩

inductive TypePhrase where
  | named (span : Span) (kind : TypeKind) (hkind : kind ≠ .unit)
  | unit (opening closing : Span)

namespace TypePhrase

def tokens : TypePhrase → List Token
  | .named span kind _ => [⟨.identifier kind.name, span⟩]
  | .unit opening closing => [⟨.symbol .lparen, opening⟩, ⟨.symbol .rparen, closing⟩]

def tree : TypePhrase → TypeRef
  | .named span kind _ => ⟨kind, span⟩
  | .unit opening closing => ⟨.unit, ⟨opening.start, closing.stop⟩⟩

end TypePhrase

structure BinderPhrase where
  mutWord : Option Span
  pattern : Pattern
  colon : Span
  type : TypePhrase

namespace BinderPhrase

def tokens (b : BinderPhrase) : List Token :=
  optionalToken (.keyword .mutWord) b.mutWord ++ b.pattern.token :: ⟨.symbol .colon, b.colon⟩ ::
    b.type.tokens

def start (b : BinderPhrase) : Position := (b.mutWord.getD b.pattern.span).start

end BinderPhrase

/-- How the last of some statements ends, which decides what may follow it. A `;` behind a `let` that
lacks its own would end that `let`, and an expression without one is no statement before a brace. -/
inductive Ending where
  | semicolon
  | binding
  | expr
deriving DecidableEq

def Ending.of (kind : Ending) : Option Span → Ending
  | some _ => .semicolon
  | none => kind

mutual

inductive ExprPhrase : Type where
  | integer (span : Span) (digits : String) (value : Int32)
  | float (span : Span) (digits : String) (value : Binary64)
  | boolean (span : Span) (value : Bool)
  | unit (opening closing : Span)
  | path (span : Span) (name : String)
  | underscore (span : Span)
  | grouped (opening : Span) (inner : ExprPhrase) (closing : Span)
  | call (calleeSpan : Span) (callee : String) (opening : Span) (args : ArgsPhrase) (closing : Span)
  | callLast (calleeSpan : Span) (callee : String) (opening : Span) (args : ArgsPhrase)
      (last : ExprPhrase) (closing : Span)
  | operation (lhs : ExprPhrase) (op : InfixOp) (sign : Span) (rhs : ExprPhrase)
  | negation (op : NegOp) (sign : Span) (operand : ExprPhrase)
  | cast (operand : ExprPhrase) (word : Span) (type : TypePhrase)
  | block (body : BlockPhrase)
  | loop (word : Span) (body : BlockPhrase)
  | whileLoop (word : Span) (cond : ExprPhrase) (body : BlockPhrase)
  | conditional (word : Span) (cond : ExprPhrase) (thenBlock : BlockPhrase)
  | conditionalElse (word : Span) (cond : ExprPhrase) (thenBlock : BlockPhrase) (elseWord : Span)
      (alternative : ExprPhrase)
  | unsafeBlock (word : Span) (body : BlockPhrase)
  | bareReturn (word : Span)
  | valueReturn (word : Span) (value : ExprPhrase)

inductive ArgsPhrase : Type where
  | none
  | snoc (init : ArgsPhrase) (arg : ExprPhrase) (comma : Span)

inductive StmtPhrase : Ending → Type where
  | binding (word : Span) (binder : BinderPhrase) (semi : Option Span) :
    StmtPhrase (.of .binding semi)
  | bound (word : Span) (binder : BinderPhrase) (sign : Span) (init : ExprPhrase)
      (semi : Option Span) : StmtPhrase (.of .binding semi)
  | expr (expr : ExprPhrase) (semi : Option Span) : StmtPhrase (.of .expr semi)

inductive StmtsPhrase : Ending → Type where
  | none : StmtsPhrase .semicolon
  | idle (init : StmtsPhrase .semicolon) (semi : Span) : StmtsPhrase .semicolon
  | snoc {k ending : Ending} (init : StmtsPhrase k) (stmt : StmtPhrase ending) : StmtsPhrase ending

inductive BlockPhrase : Type where
  | plain {k : Ending} (hk : k ≠ .expr) (opening : Span) (stmts : StmtsPhrase k) (closing : Span)
  | tailed {k : Ending} (opening : Span) (stmts : StmtsPhrase k) (tail : ExprPhrase)
      (closing : Span)

end

mutual

def ExprPhrase.tokens : ExprPhrase → List Token
  | .integer span digits value => [⟨.integer digits value, span⟩]
  | .float span digits value => [⟨.float digits value, span⟩]
  | .boolean span value => [⟨.boolean value, span⟩]
  | .unit opening closing => [⟨.symbol .lparen, opening⟩, ⟨.symbol .rparen, closing⟩]
  | .path span name => [⟨.identifier name, span⟩]
  | .underscore span => [⟨.underscore, span⟩]
  | .grouped opening inner closing =>
    ⟨.symbol .lparen, opening⟩ :: inner.tokens ++ [⟨.symbol .rparen, closing⟩]
  | .call calleeSpan callee opening args closing =>
    ⟨.identifier callee, calleeSpan⟩ :: ⟨.symbol .lparen, opening⟩ :: args.tokens ++
      [⟨.symbol .rparen, closing⟩]
  | .callLast calleeSpan callee opening args last closing =>
    ⟨.identifier callee, calleeSpan⟩ :: ⟨.symbol .lparen, opening⟩ :: args.tokens ++
      last.tokens ++ [⟨.symbol .rparen, closing⟩]
  | .operation lhs op sign rhs => lhs.tokens ++ ⟨.symbol op.symbol, sign⟩ :: rhs.tokens
  | .negation op sign operand => ⟨.symbol op.symbol, sign⟩ :: operand.tokens
  | .cast operand word type => operand.tokens ++ ⟨.keyword .asWord, word⟩ :: type.tokens
  | .block body => body.tokens
  | .loop word body => ⟨.keyword .loopWord, word⟩ :: body.tokens
  | .whileLoop word cond body => ⟨.keyword .whileWord, word⟩ :: cond.tokens ++ body.tokens
  | .conditional word cond thenBlock =>
    ⟨.keyword .ifWord, word⟩ :: cond.tokens ++ thenBlock.tokens
  | .conditionalElse word cond thenBlock elseWord alternative =>
    ⟨.keyword .ifWord, word⟩ :: cond.tokens ++ thenBlock.tokens ++
      ⟨.keyword .elseWord, elseWord⟩ :: alternative.tokens
  | .unsafeBlock word body => ⟨.keyword .unsafeWord, word⟩ :: body.tokens
  | .bareReturn word => [⟨.keyword .returnWord, word⟩]
  | .valueReturn word value => ⟨.keyword .returnWord, word⟩ :: value.tokens

def ArgsPhrase.tokens : ArgsPhrase → List Token
  | .none => []
  | .snoc init arg comma => init.tokens ++ arg.tokens ++ [⟨.symbol .comma, comma⟩]

def StmtPhrase.tokens {ending : Ending} : StmtPhrase ending → List Token
  | .binding word binder semi =>
    ⟨.keyword .letWord, word⟩ :: binder.tokens ++ optionalToken (.symbol .semicolon) semi
  | .bound word binder sign init semi =>
    ⟨.keyword .letWord, word⟩ :: binder.tokens ++ ⟨.symbol .assign, sign⟩ :: init.tokens ++
      optionalToken (.symbol .semicolon) semi
  | .expr expr semi => expr.tokens ++ optionalToken (.symbol .semicolon) semi

def StmtsPhrase.tokens {k : Ending} : StmtsPhrase k → List Token
  | .none => []
  | .idle init semi => init.tokens ++ [⟨.symbol .semicolon, semi⟩]
  | .snoc init stmt => init.tokens ++ stmt.tokens

def BlockPhrase.tokens : BlockPhrase → List Token
  | .plain _ opening stmts closing =>
    ⟨.symbol .lbrace, opening⟩ :: stmts.tokens ++ [⟨.symbol .rbrace, closing⟩]
  | .tailed opening stmts tail closing =>
    ⟨.symbol .lbrace, opening⟩ :: stmts.tokens ++ tail.tokens ++ [⟨.symbol .rbrace, closing⟩]

end

mutual

def ExprPhrase.tree : ExprPhrase → Expr
  | .integer span _ value => .literal span (.int value)
  | .float span _ value => .literal span (.float value)
  | .boolean span value => .literal span (.bool value)
  | .unit opening closing => .literal ⟨opening.start, closing.stop⟩ .unit
  | .path span name => .path span name
  | .underscore span => .underscore span
  | .grouped opening inner closing => .grouped ⟨opening.start, closing.stop⟩ inner.tree
  | .call calleeSpan callee _ args closing =>
    .call ⟨calleeSpan.start, closing.stop⟩ calleeSpan callee args.trees
  | .callLast calleeSpan callee _ args last closing =>
    .call ⟨calleeSpan.start, closing.stop⟩ calleeSpan callee (args.trees ++ [last.tree])
  | .operation lhs op _ rhs => op.tree lhs.tree rhs.tree
  | .negation op sign operand =>
    .negation ⟨sign.start, operand.tree.span.stop⟩ op operand.tree
  | .cast operand _ type =>
    .cast ⟨operand.tree.span.start, type.tree.span.stop⟩ operand.tree type.tree
  | .block body => .block body.tree
  | .loop word body => .loop ⟨word.start, body.tree.span.stop⟩ body.tree
  | .whileLoop word cond body =>
    .whileLoop ⟨word.start, body.tree.span.stop⟩ cond.tree body.tree
  | .conditional word cond thenBlock =>
    .conditional ⟨word.start, thenBlock.tree.span.stop⟩ cond.tree thenBlock.tree none
  | .conditionalElse word cond thenBlock _ alternative =>
    .conditional ⟨word.start, alternative.tree.span.stop⟩ cond.tree thenBlock.tree
      (some alternative.tree)
  | .unsafeBlock word body => .unsafeBlock ⟨word.start, body.tree.span.stop⟩ body.tree
  | .bareReturn word => .ret word none
  | .valueReturn word value => .ret ⟨word.start, value.tree.span.stop⟩ (some value.tree)

def ArgsPhrase.trees : ArgsPhrase → List Expr
  | .none => []
  | .snoc init arg _ => init.trees ++ [arg.tree]

def StmtPhrase.tree {ending : Ending} : StmtPhrase ending → Stmt
  | .binding word binder semi =>
    .binding ⟨word.start, (semi.getD binder.type.tree.span).stop⟩ binder.mutWord.isSome
      binder.pattern binder.type.tree none
  | .bound word binder _ init semi =>
    .binding ⟨word.start, (semi.getD init.tree.span).stop⟩ binder.mutWord.isSome binder.pattern
      binder.type.tree (some init.tree)
  | .expr expr semi => .expr ⟨expr.tree.span.start, (semi.getD expr.tree.span).stop⟩ expr.tree

def StmtsPhrase.trees {k : Ending} : StmtsPhrase k → List Stmt
  | .none => []
  | .idle init _ => init.trees
  | .snoc init stmt => init.trees ++ [stmt.tree]

def BlockPhrase.tree : BlockPhrase → Block
  | .plain _ opening stmts closing => .mk ⟨opening.start, closing.stop⟩ stmts.trees none
  | .tailed opening stmts tail closing =>
    .mk ⟨opening.start, closing.stop⟩ stmts.trees (some tail.tree)

end

mutual

/-- The faults in the order in which they come to light: those of the parts first, and the one of a
condition behind those of the block. -/
def ExprPhrase.faults : ExprPhrase → List Recovered
  | .grouped _ inner _ => inner.faults ++ valueFault "grouped expression" inner.tree
  | .call _ _ _ args _ => args.faults
  | .callLast _ _ _ args last _ =>
    args.faults ++ last.faults ++ valueFault "function argument" last.tree
  | .operation lhs op _ rhs => lhs.faults ++ rhs.faults ++ op.faults lhs.tree rhs.tree
  | .negation _ _ operand => operand.faults ++ valueFault "operand" operand.tree
  | .cast operand _ _ => operand.faults ++ valueFault "cast operand" operand.tree
  | .block body => body.faults
  | .loop _ body => body.faults
  | .whileLoop _ cond body =>
    cond.faults ++ body.faults ++ valueFault "while condition" cond.tree
  | .conditional _ cond thenBlock =>
    cond.faults ++ thenBlock.faults ++ valueFault "if condition" cond.tree
  | .conditionalElse _ cond thenBlock _ alternative =>
    cond.faults ++ thenBlock.faults ++ valueFault "if condition" cond.tree ++ alternative.faults
  | .unsafeBlock _ body => body.faults
  | .valueReturn _ value => value.faults ++ valueFault "return value" value.tree
  | _ => []

def ArgsPhrase.faults : ArgsPhrase → List Recovered
  | .none => []
  | .snoc init arg _ => init.faults ++ arg.faults ++ valueFault "function argument" arg.tree

def StmtPhrase.faults {ending : Ending} : StmtPhrase ending → List Recovered
  | .binding _ binder semi => endFault semi binder.type.tree.span.stop
  | .bound _ _ _ init semi =>
    init.faults ++ valueFault "let initializer" init.tree ++ endFault semi init.tree.span.stop
  | .expr expr semi =>
    expr.faults ++ if expr.tree.isBlockLike then [] else endFault semi expr.tree.span.stop

def StmtsPhrase.faults {k : Ending} : StmtsPhrase k → List Recovered
  | .none => []
  | .idle init _ => init.faults
  | .snoc init stmt => init.faults ++ stmt.faults

def BlockPhrase.faults : BlockPhrase → List Recovered
  | .plain _ _ stmts _ => stmts.faults
  | .tailed _ stmts tail _ =>
    stmts.faults ++ tail.faults ++ valueFault "block tail expression" tail.tree

end

def BinderPhrase.param (b : BinderPhrase) : Param :=
  ⟨⟨b.start, b.type.tree.span.stop⟩, b.mutWord.isSome, b.pattern, b.type.tree⟩

def paramTokens (params : List (BinderPhrase × Span)) : List Token :=
  params.flatMap fun (b, comma) => b.tokens ++ [⟨.symbol .comma, comma⟩]

structure HeadPhrase where
  word : Span
  nameSpan : Span
  name : String
  opening : Span
  params : List (BinderPhrase × Span)

def HeadPhrase.tokens (h : HeadPhrase) : List Token :=
  ⟨.keyword .fnWord, h.word⟩ :: ⟨.identifier h.name, h.nameSpan⟩ :: ⟨.symbol .lparen, h.opening⟩ ::
    paramTokens h.params

structure ProtoPhrase where
  head : HeadPhrase
  last : Option BinderPhrase
  closing : Span
  result : Option (Span × TypePhrase)

namespace ProtoPhrase

def frontTokens (p : ProtoPhrase) : List Token :=
  p.head.tokens ++ p.last.toList.flatMap BinderPhrase.tokens ++ [⟨.symbol .rparen, p.closing⟩]

def tokens (p : ProtoPhrase) : List Token :=
  p.frontTokens ++ match p.result with
    | none => []
    | some (arrow, type) => ⟨.symbol .arrow, arrow⟩ :: type.tokens

def params (p : ProtoPhrase) : List Param :=
  p.head.params.map (·.1.param) ++ p.last.toList.map BinderPhrase.param

/-- The result type. One that is left out is `()` at the end of the parameters. -/
def resultType (p : ProtoPhrase) : TypeRef :=
  match p.result with
  | none => ⟨.unit, Span.point p.closing.stop⟩
  | some (_, type) => type.tree

def tree (p : ProtoPhrase) : Prototype :=
  ⟨⟨p.head.word.start, p.resultType.span.stop⟩, p.head.name, p.params, p.resultType⟩

end ProtoPhrase

structure StaticHeadPhrase where
  word : Span
  mutWord : Option Span
  nameSpan : Span
  name : String
  colon : Span
  type : TypePhrase

def StaticHeadPhrase.tokens (h : StaticHeadPhrase) : List Token :=
  ⟨.keyword .staticWord, h.word⟩ :: optionalToken (.keyword .mutWord) h.mutWord ++
    ⟨.identifier h.name, h.nameSpan⟩ :: ⟨.symbol .colon, h.colon⟩ :: h.type.tokens

structure StaticPhrase where
  head : StaticHeadPhrase
  init : Option (Span × ExprPhrase)
  semi : Span

namespace StaticPhrase

def tokens (s : StaticPhrase) : List Token :=
  s.head.tokens ++ (match s.init with
    | none => []
    | some (sign, e) => ⟨.symbol .assign, sign⟩ :: e.tokens) ++ [⟨.symbol .semicolon, s.semi⟩]

def tree (s : StaticPhrase) : Static :=
  ⟨⟨s.head.word.start, s.semi.stop⟩, s.head.name, s.head.mutWord.isSome, s.head.type.tree,
    s.init.map (·.2.tree)⟩

def initFaults (s : StaticPhrase) : List Recovered :=
  match s.init with
  | none => []
  | some (_, e) => e.faults ++ valueFault "static initializer" e.tree

def faults (s : StaticPhrase) : List Recovered :=
  s.initFaults ++ match s.init with
    | none => [.staticWithoutInit s.tree.span]
    | some _ => []

def foreignFaults (s : StaticPhrase) : List Recovered :=
  s.initFaults ++ match s.init with
    | none => []
    | some (_, e) => [.externStaticWithInit e.tree.span]

end StaticPhrase

inductive DeclPhrase where
  | prototype (proto : ProtoPhrase) (semi : Span)
  | function (proto : ProtoPhrase) (body : BlockPhrase)
  | static (decl : StaticPhrase)

namespace DeclPhrase

def tokens : DeclPhrase → List Token
  | .prototype proto semi => proto.tokens ++ [⟨.symbol .semicolon, semi⟩]
  | .function proto body => proto.tokens ++ body.tokens
  | .static decl => decl.tokens

def tree : DeclPhrase → ForeignItem
  | .prototype proto _ => .prototype proto.tree
  | .function proto _ => .prototype proto.tree
  | .static decl => .static decl.tree

def faults : DeclPhrase → List Recovered
  | .prototype _ _ => []
  | .function _ body => body.faults ++ [.externFunctionWithBody body.tree.span]
  | .static decl => decl.foreignFaults

end DeclPhrase

structure ForeignPhrase where
  word : Span
  abiSpan : Span
  abi : String
  opening : Span
  decls : List DeclPhrase

def abiFault (span : Span) (abi : String) : List Recovered :=
  if abi = "C" then [] else [.unsupportedAbi span abi]

namespace ForeignPhrase

def tokens (f : ForeignPhrase) : List Token :=
  ⟨.keyword .externWord, f.word⟩ :: ⟨.abi f.abi, f.abiSpan⟩ :: ⟨.symbol .lbrace, f.opening⟩ ::
    f.decls.flatMap DeclPhrase.tokens

def faults (f : ForeignPhrase) : List Recovered :=
  abiFault f.abiSpan f.abi ++ f.decls.flatMap DeclPhrase.faults

end ForeignPhrase

inductive ItemPhrase where
  | function (proto : ProtoPhrase) (body : BlockPhrase)
  | static (decl : StaticPhrase)
  | foreign (block : ForeignPhrase) (closing : Span)

namespace ItemPhrase

def tokens : ItemPhrase → List Token
  | .function proto body => proto.tokens ++ body.tokens
  | .static decl => decl.tokens
  | .foreign block closing => block.tokens ++ [⟨.symbol .rbrace, closing⟩]

def tree : ItemPhrase → Item
  | .function proto body =>
    .function ⟨⟨proto.tree.span.start, body.tree.span.stop⟩, proto.tree, body.tree⟩
  | .static decl => .static decl.tree
  | .foreign block closing =>
    .foreign ⟨⟨block.word.start, closing.stop⟩, block.abi, block.decls.map DeclPhrase.tree⟩

def faults : ItemPhrase → List Recovered
  | .function _ body => body.faults
  | .static decl => decl.faults
  | .foreign block _ => block.faults

end ItemPhrase

end MicroRust
