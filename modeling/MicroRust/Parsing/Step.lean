import MicroRust.Parsing.Config

/-! One step of the parser: what a token does to a configuration.

Some tokens end several constructs at once. Those are closed from the inside out, and only then does
the token find its place. -/

namespace MicroRust.Parsing

abbrev Stepped := Except ParseError Config

def unexpected (t : Token) (expected : String) : Stepped := .error (.unexpected t expected)

def completeOperation (c : Config) (op : InfixOp) (lhs rhs : Expr) : Config × Expr :=
  let span : Span := ⟨lhs.span.start, rhs.span.stop⟩
  match op with
  | .assign =>
    ((c.require .assignee "assignment target" lhs).requireValue "assigned value" rhs,
      .assign span lhs rhs)
  | .binary op =>
    ((c.requireValue "operand" lhs).requireValue "operand" rhs, .binary span op lhs rhs)

def completeNegation (c : Config) (start : Position) (op : NegOp) (operand : Expr) :
    Config × Expr :=
  (c.requireValue "operand" operand, .negation ⟨start, operand.span.stop⟩ op operand)

def completeReturn (c : Config) (start : Position) (value : Expr) : Config × Expr :=
  (c.requireValue "return value" value, .ret ⟨start, value.span.stop⟩ (some value))

def completeIf (start : Position) (cond : Expr) (thenBlock : Block) (alternative : Expr) : Expr :=
  .conditional ⟨start, alternative.span.stop⟩ cond thenBlock (some alternative)

/-- Closes the operations that bind at least as tightly as `level`, so that an operator of that
level can take `e` as its left operand. Comparisons do not chain: then there is no answer. -/
def closeTighter (level : Nat) (c : Config) : List Frame → Expr → Option (Config × Expr)
  | .operation op lhs :: frames, e =>
    if op.level < level then some ({ c with frames := .operation op lhs :: frames }, e)
    else if op.level = 3 && level = 3 then none
    else
      let (c, e) := completeOperation c op lhs e
      closeTighter level c frames e
  | .negation start op :: frames, e =>
    let (c, e) := completeNegation c start op e
    closeTighter level c frames e
  | frames, e => some ({ c with frames }, e)

/-- Closes every operation and every `return` around `e`. -/
def closeOperand (c : Config) : List Frame → Expr → Config × Expr
  | .operation op lhs :: frames, e =>
    let (c, e) := completeOperation c op lhs e
    closeOperand c frames e
  | .negation start op :: frames, e =>
    let (c, e) := completeNegation c start op e
    closeOperand c frames e
  | .ret start :: frames, e =>
    let (c, e) := completeReturn c start e
    closeOperand c frames e
  | frames, e => ({ c with frames }, e)

def closeElseIf : List Frame → Expr → List Frame × Expr
  | .elseIf start cond thenBlock :: frames, e =>
    closeElseIf frames (completeIf start cond thenBlock e)
  | frames, e => (frames, e)

def addStatement (c : Config) (start : Position) (role : BlockRole) (stmts : List Stmt)
    (frames : List Frame) (stmt : Stmt) : Config :=
  c.replace (.block start role (stmt :: stmts) :: frames) .statement

def closeBlock (c : Config) (start : Position) (role : BlockRole) (stmts : List Stmt)
    (tail : Option Expr) (frames : List Frame) (close : Span) : Config :=
  let block : Block := .mk ⟨start, close.stop⟩ stmts.reverse tail
  match role with
  | .plain => c.replace frames (.operator (.block block))
  | .loopBody start => c.replace frames (.operator (.loop ⟨start, close.stop⟩ block))
  | .whileBody start cond =>
    (c.requireValue "while condition" cond).replace frames
      (.operator (.whileLoop ⟨start, close.stop⟩ cond block))
  | .thenBranch start cond =>
    (c.requireValue "if condition" cond).replace frames (.afterThen start cond block)
  | .elseBranch start cond thenBlock =>
    let (frames, e) := closeElseIf frames (completeIf start cond thenBlock (.block block))
    c.replace frames (.operator e)
  | .unsafeBody start => c.replace frames (.operator (.unsafeBlock ⟨start, close.stop⟩ block))
  | .functionBody proto => match frames with
    | .foreign start abi items :: frames =>
      (c.note (.externFunctionWithBody block.span)).replace
        (.foreign start abi (.prototype proto :: items) :: frames) .foreignItem
    | frames =>
      { c with
        items := .function ⟨⟨proto.span.start, close.stop⟩, proto, block⟩ :: c.items
        frames
        control := .item }

/-- Ends a static with the `;` at `close`. Outside extern blocks it has to have an initial value,
and inside it must not. -/
def closeStatic (c : Config) (head : StaticHead) (init : Option Expr) (frames : List Frame)
    (close : Span) : Config :=
  let decl : Static := ⟨⟨head.start, close.stop⟩, head.name, head.mutable, head.type, init⟩
  match frames with
  | .foreign start abi items :: frames =>
    let c := match init with
      | some e => c.note (.externStaticWithInit e.span)
      | none => c
    c.replace (.foreign start abi (.static decl :: items) :: frames) .foreignItem
  | frames =>
    let c := match init with
      | some _ => c
      | none => c.note (.staticWithoutInit decl.span)
    { c with items := .static decl :: c.items, frames, control := .item }

def closeType (c : Config) (slot : TypeSlot) (type : TypeRef) : Config :=
  match slot with
  | .param head start mutable pattern =>
    let param : Param := ⟨⟨start, type.span.stop⟩, mutable, pattern, type⟩
    c.expect (.paramNext { head with params := param :: head.params })
  | .result head =>
    c.expect (.body ⟨⟨head.start, type.span.stop⟩, head.name, head.params.reverse, type⟩)
  | .binding start mutable pattern => c.expect (.bindingInit ⟨start, mutable, pattern, type⟩)
  | .static start mutable name => c.expect (.staticInit ⟨start, mutable, name, type⟩)
  | .cast operand =>
    (c.requireValue "cast operand" operand).expect
      (.operator (.cast ⟨operand.span.start, type.span.stop⟩ operand type))

def operandStep (c : Config) (t : Token) : Stepped :=
  match t.lexeme with
  | .integer _ value => .ok (c.expect (.operator (.literal t.span (.int value))))
  | .float _ value => .ok (c.expect (.operator (.literal t.span (.float value))))
  | .boolean value => .ok (c.expect (.operator (.literal t.span (.bool value))))
  | .underscore => .ok (c.expect (.operator (.underscore t.span)))
  | .identifier name => .ok (c.expect (.pathNext t.span name))
  | .symbol .lparen => .ok (c.expect (.groupOpen t.span.start))
  | .symbol .lbrace => .ok (c.push (.block t.span.start .plain []) .statement)
  | .symbol .minus => .ok (c.push (.negation t.span.start .minus) .operand)
  | .symbol .bang => .ok (c.push (.negation t.span.start .not) .operand)
  | .keyword .ifWord => .ok (c.push (.ifCondition t.span.start) .operand)
  | .keyword .whileWord => .ok (c.push (.whileCondition t.span.start) .operand)
  | .keyword .loopWord => .ok (c.expect (.blockOpen (.loopBody t.span.start)))
  | .keyword .unsafeWord => .ok (c.expect (.blockOpen (.unsafeBody t.span.start)))
  | .keyword .returnWord => .ok (c.expect (.returnValue t.span))
  | _ => unexpected t "<expr>"

def beginsOperand (t : Token) : Bool :=
  match t.lexeme with
  | .integer _ _ => true
  | .float _ _ => true
  | .boolean _ => true
  | .underscore => true
  | .identifier _ => true
  | .symbol s => s = .lparen || s = .lbrace || s = .minus || s = .bang
  | .keyword k =>
    k = .ifWord || k = .whileWord || k = .loopWord || k = .unsafeWord || k = .returnWord
  | _ => false

def statementStep (c : Config) (t : Token) : Stepped :=
  match t.lexeme, c.frames with
  | .symbol .rbrace, .block start role stmts :: frames =>
    .ok (closeBlock c start role stmts none frames t.span)
  | .symbol .semicolon, _ => .ok (c.expect .statement)
  | .keyword .letWord, _ => .ok (c.expect (.bindingMut t.span.start))
  | _, _ => operandStep c t

/-- A token behind the expression `e` that is the next part of the innermost construct. -/
def delimiterStep (c : Config) (e : Expr) (t : Token) : Stepped :=
  match c.frames with
  | .group start :: frames => match t.lexeme with
    | .symbol .rparen =>
      .ok ((c.requireValue "grouped expression" e).replace frames
        (.operator (.grouped ⟨start, t.span.stop⟩ e)))
    | _ => unexpected t "')'"
  | .call calleeSpan callee args :: frames =>
    let c := c.requireValue "function argument" e
    match t.lexeme with
    | .symbol .comma => .ok (c.replace (.call calleeSpan callee (e :: args) :: frames) .argument)
    | .symbol .rparen =>
      .ok (c.replace frames (.operator
        (.call ⟨calleeSpan.start, t.span.stop⟩ calleeSpan callee (e :: args).reverse)))
    | _ => unexpected t "',', ')'"
  | .ifCondition start :: frames => match t.lexeme with
    | .symbol .lbrace =>
      .ok (c.replace (.block t.span.start (.thenBranch start e) [] :: frames) .statement)
    | _ => unexpected t "'\x7b'"
  | .whileCondition start :: frames => match t.lexeme with
    | .symbol .lbrace =>
      .ok (c.replace (.block t.span.start (.whileBody start e) [] :: frames) .statement)
    | _ => unexpected t "'\x7b'"
  | .block start role stmts :: frames => match t.lexeme with
    | .symbol .semicolon =>
      .ok (addStatement c start role stmts frames (.expr ⟨e.span.start, t.span.stop⟩ e))
    | .symbol .rbrace =>
      .ok (closeBlock (c.requireValue "block tail expression" e) start role stmts (some e) frames
        t.span)
    | _ =>
      let c := if e.isBlockLike then c
        else c.note (.missingToken (.symbol .semicolon) e.span.stop)
      statementStep (addStatement c start role stmts frames (.expr e.span e)) t
  | .binding head :: .block start role stmts :: frames =>
    let c := c.requireValue "let initializer" e
    let bound (stop : Position) : Stmt :=
      .binding ⟨head.start, stop⟩ head.mutable head.pattern head.type (some e)
    match t.lexeme with
    | .symbol .semicolon => .ok (addStatement c start role stmts frames (bound t.span.stop))
    | _ =>
      let c := c.note (.missingToken (.symbol .semicolon) e.span.stop)
      statementStep (addStatement c start role stmts frames (bound e.span.stop)) t
  | .static head :: frames => match t.lexeme with
    | .symbol .semicolon =>
      .ok (closeStatic (c.requireValue "static initializer" e) head (some e) frames t.span)
    | _ => unexpected t "';'"
  | _ => unexpected t "<expr>"

def operatorStep (c : Config) (e : Expr) (t : Token) : Stepped :=
  match InfixOp.ofLexeme? t.lexeme with
  | some op => match closeTighter op.level c c.frames e with
    | some (c, e) => .ok (c.push (.operation op e) .operand)
    | none => unexpected t "comparison operators cannot be chained"
  | none =>
    if t.lexeme = .keyword .asWord then match closeTighter castLevel c c.frames e with
      | some (c, e) => .ok (c.expect (.type (.cast e)))
      | none => unexpected t "comparison operators cannot be chained"
    else
      let (c, e) := closeOperand c c.frames e
      delimiterStep c e t

def bodyStep (c : Config) (proto : Prototype) (t : Token) : Stepped :=
  match t.lexeme, c.frames with
  | .symbol .lbrace, _ => .ok (c.push (.block t.span.start (.functionBody proto) []) .statement)
  | .symbol .semicolon, .foreign start abi items :: frames =>
    .ok (c.replace (.foreign start abi (.prototype proto :: items) :: frames) .foreignItem)
  | _, .foreign _ _ _ :: _ => unexpected t "';', '\x7b'"
  | _, _ => unexpected t "'\x7b'"

def patternStep (c : Config) (t : Token) (next : Pattern → Control) : Stepped :=
  match t.lexeme with
  | .identifier name => .ok (c.expect (next (.named t.span name)))
  | .underscore => .ok (c.expect (next (.wildcard t.span)))
  | _ => unexpected t "<pattern>"

def symbolStep (c : Config) (t : Token) (s : Symbol) (expected : String) (next : Control) :
    Stepped :=
  if t.lexeme = .symbol s then .ok (c.expect next) else unexpected t expected

def nameStep (c : Config) (t : Token) (next : String → Control) : Stepped :=
  match t.lexeme with
  | .identifier name => .ok (c.expect (next name))
  | _ => unexpected t "<ident>"

def step (c : Config) (t : Token) : Stepped :=
  match c.control with
  | .item => match t.lexeme with
    | .keyword .fnWord => .ok (c.expect (.functionName t.span.start))
    | .keyword .staticWord => .ok (c.expect (.staticMut t.span.start))
    | .keyword .externWord => .ok (c.expect (.abi t.span.start))
    | .eof => .ok c
    | _ => unexpected t "<item>"
  | .foreignItem => match t.lexeme, c.frames with
    | .keyword .fnWord, _ => .ok (c.expect (.functionName t.span.start))
    | .keyword .staticWord, _ => .ok (c.expect (.staticMut t.span.start))
    | .symbol .rbrace, .foreign start abi items :: frames =>
      .ok { c with
        items := .foreign ⟨⟨start, t.span.stop⟩, abi, items.reverse⟩ :: c.items
        frames
        control := .item }
    | _, _ => unexpected t "<extern item>"
  | .abi start => match t.lexeme with
    | .abi body =>
      let c := if body = "C" then c else c.note (.unsupportedAbi t.span body)
      .ok (c.expect (.foreignOpen start body))
    | _ => unexpected t "<ABI>"
  | .foreignOpen start abi =>
    if t.lexeme = .symbol .lbrace then .ok (c.push (.foreign start abi []) .foreignItem)
    else unexpected t "'\x7b'"
  | .functionName start => nameStep c t (.paramsOpen start)
  | .paramsOpen start name => symbolStep c t .lparen "'('" (.param ⟨start, name, []⟩)
  | .param head => match t.lexeme with
    | .keyword .mutWord => .ok (c.expect (.paramPattern head t.span.start))
    | .identifier name =>
      .ok (c.expect (.paramColon head t.span.start false (.named t.span name)))
    | .underscore => .ok (c.expect (.paramColon head t.span.start false (.wildcard t.span)))
    | .symbol .rparen => .ok (c.expect (.result head t.span.stop))
    | _ => unexpected t "<fn parameter>"
  | .paramPattern head start => patternStep c t (.paramColon head start true)
  | .paramColon head start mutable pattern =>
    symbolStep c t .colon "':'" (.type (.param head start mutable pattern))
  | .paramNext head => match t.lexeme with
    | .symbol .comma => .ok (c.expect (.param head))
    | .symbol .rparen => .ok (c.expect (.result head t.span.stop))
    | _ => unexpected t "',', ')'"
  | .result head stop =>
    let proto : Prototype :=
      ⟨⟨head.start, stop⟩, head.name, head.params.reverse, ⟨.unit, Span.point stop⟩⟩
    match t.lexeme with
    | .symbol .arrow => .ok (c.expect (.type (.result head)))
    | .symbol .semicolon => bodyStep c proto t
    | .symbol .lbrace => bodyStep c proto t
    | _ => unexpected t "'->', ';', '\x7b'"
  | .body proto => bodyStep c proto t
  | .staticMut start => match t.lexeme with
    | .keyword .mutWord => .ok (c.expect (.staticName start true))
    | _ => nameStep c t (.staticColon start false)
  | .staticName start mutable => nameStep c t (.staticColon start mutable)
  | .staticColon start mutable name =>
    symbolStep c t .colon "':'" (.type (.static start mutable name))
  | .staticInit head => match t.lexeme with
    | .symbol .assign => .ok (c.push (.static head) .operand)
    | .symbol .semicolon => .ok (closeStatic c head none c.frames t.span)
    | _ => unexpected t "'=', ';'"
  | .bindingMut start => match t.lexeme with
    | .keyword .mutWord => .ok (c.expect (.bindingPattern start true))
    | _ => patternStep c t (.bindingColon start false)
  | .bindingPattern start mutable => patternStep c t (.bindingColon start mutable)
  | .bindingColon start mutable pattern =>
    symbolStep c t .colon "':'" (.type (.binding start mutable pattern))
  | .bindingInit head => match t.lexeme, c.frames with
    | .symbol .assign, _ => .ok (c.push (.binding head) .operand)
    | .symbol .semicolon, .block start role stmts :: frames =>
      .ok (addStatement c start role stmts frames
        (.binding ⟨head.start, t.span.stop⟩ head.mutable head.pattern head.type none))
    | _, .block start role stmts :: frames =>
      let stop := head.type.span.stop
      let c := c.note (.missingToken (.symbol .semicolon) stop)
      statementStep (addStatement c start role stmts frames
        (.binding ⟨head.start, stop⟩ head.mutable head.pattern head.type none)) t
    | _, _ => unexpected t "<expr>"
  | .type slot => match t.lexeme with
    | .identifier name => match TypeKind.ofName? name with
      | some .unit => unexpected t "<type>"
      | some kind => .ok (closeType c slot ⟨kind, t.span⟩)
      | none => unexpected t "<type>"
    | .symbol .lparen => .ok (c.expect (.typeClose t.span.start slot))
    | _ => unexpected t "<type>"
  | .typeClose start slot => match t.lexeme with
    | .symbol .rparen => .ok (closeType c slot ⟨.unit, ⟨start, t.span.stop⟩⟩)
    | _ => unexpected t "')'"
  | .statement => statementStep c t
  | .operand => operandStep c t
  | .groupOpen start => match t.lexeme with
    | .symbol .rparen => .ok (c.expect (.operator (.literal ⟨start, t.span.stop⟩ .unit)))
    | _ => operandStep { c with frames := .group start :: c.frames } t
  | .pathNext span name => match t.lexeme with
    | .symbol .lparen => .ok (c.push (.call span name []) .argument)
    | _ => operatorStep c (.path span name) t
  | .argument => match t.lexeme, c.frames with
    | .symbol .rparen, .call calleeSpan callee args :: frames =>
      .ok (c.replace frames (.operator
        (.call ⟨calleeSpan.start, t.span.stop⟩ calleeSpan callee args.reverse)))
    | _, _ => operandStep c t
  | .returnValue span =>
    if beginsOperand t then operandStep { c with frames := .ret span.start :: c.frames } t
    else operatorStep c (.ret span none) t
  | .blockOpen role =>
    if t.lexeme = .symbol .lbrace then .ok (c.push (.block t.span.start role []) .statement)
    else unexpected t "'\x7b'"
  | .afterThen start cond thenBlock =>
    if t.lexeme = .keyword .elseWord then .ok (c.expect (.afterElse start cond thenBlock))
    else
      let (frames, e) := closeElseIf c.frames
        (.conditional ⟨start, thenBlock.span.stop⟩ cond thenBlock none)
      operatorStep { c with frames } e t
  | .afterElse start cond thenBlock => match t.lexeme with
    | .keyword .ifWord =>
      .ok (c.replace (.ifCondition t.span.start :: .elseIf start cond thenBlock :: c.frames)
        .operand)
    | .symbol .lbrace =>
      .ok (c.push (.block t.span.start (.elseBranch start cond thenBlock) []) .statement)
    | _ => unexpected t "'if', '\x7b'"
  | .operator e => operatorStep c e t

end MicroRust.Parsing
