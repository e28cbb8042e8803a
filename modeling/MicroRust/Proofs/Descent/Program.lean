import MicroRust.Parsing.Run

/-! The parser as procedures that call each other.

For each construct of the language there is a procedure. It looks one token ahead, takes tokens and
calls other procedures, and a loop calls itself for its next round. The bodies are data, so that the
calls in them can be spoken of; nothing in them says that a call comes back. -/

namespace MicroRust.Descent

open Parsing

/-- The procedures. One that is a round of a loop is given what the rounds before it have read, the
last one first. -/
inductive Production where
  | items (done : List Item)
  | function
  | prototype
  | params (done : List Param)
  | param
  | static (inForeign : Bool)
  | foreign
  | foreignItems (done : List ForeignItem)
  | foreignFunction
  | block
  | statements (start : Position) (stmts : List Stmt) (tail : Option Expr)
  | binding
  | level (n : Nat)
  | rest (n : Nat) (lhs : Expr)
  | casts (operand : Expr)
  | unary
  | primary
  | pathOrCall
  | arguments (done : List Expr)
  | grouped
  | conditional
  | loop
  | whileLoop
  | unsafeBlock
  | ret

/-- What a procedure gives back. -/
abbrev Production.Result : Production → Type
  | items _ => List Item
  | function => Function
  | prototype => Prototype
  | params _ => List Param
  | param => Param
  | static _ => Static
  | foreign => ForeignBlock
  | foreignItems _ => List ForeignItem
  | foreignFunction => Prototype
  | block => Block
  | statements _ _ _ => Block
  | binding => Stmt
  | arguments _ => List Expr
  | level _ | rest _ _ | casts _ | unary | primary | pathOrCall | grouped | conditional | loop
  | whileLoop | unsafeBlock | ret => Expr

inductive Prog (α : Type) where
  | done (a : α)
  | fail (e : ParseError)
  | peek (next : Token → Prog α)
  | drop (next : Prog α)
  | note (e : Recovered) (next : Prog α)
  | call (p : Production) (next : p.Result → Prog α)

namespace Prog

def bind {α β : Type} : Prog α → (α → Prog β) → Prog β
  | done a, f => f a
  | fail e, _ => fail e
  | peek next, f => peek fun t => (next t).bind f
  | drop next, f => drop (next.bind f)
  | note e next, f => note e (next.bind f)
  | call p next, f => call p fun a => (next a).bind f

instance : Monad Prog where
  pure := done
  bind := bind

end Prog

def look : Prog Token := .peek .done

def take : Prog Unit := .drop (.done ())

def note (e : Recovered) : Prog Unit := .note e (.done ())

def call (p : Production) : Prog p.Result := .call p .done

def reject {α : Type} (expected : String) : Prog α :=
  .peek fun t => .drop (.fail (.unexpected t expected))

def expect (wanted : Lexeme) (expected : String) : Prog Token := do
  let t ← look
  if t.lexeme = wanted then
    take
    return t
  else reject expected

def accept (wanted : Lexeme) : Prog (Option Token) := do
  let t ← look
  if t.lexeme = wanted then
    take
    return some t
  else return none

def name (expected : String) : Prog (Span × String) := do
  let t ← look
  match t.lexeme with
  | .identifier name =>
    take
    return (t.span, name)
  | _ => reject expected

def require (role : Capability) (slot : String) (e : Expr) : Prog Unit :=
  if e.capability.has role then return ()
  else note (.wrongRole e.span role e.capability slot)

def requireValue (slot : String) (e : Expr) : Prog Unit := require .value slot e

def noteIf (p : Prop) [Decidable p] (e : Recovered) : Prog Unit := if p then note e else return ()

def mutability : Prog Bool := return (← accept (.keyword .mutWord)).isSome

def pattern : Prog Pattern := do
  let t ← look
  match t.lexeme with
  | .identifier name =>
    take
    return .named t.span name
  | .underscore =>
    take
    return .wildcard t.span
  | _ => reject "<pattern>"

def type : Prog TypeRef := do
  let t ← look
  match t.lexeme with
  | .identifier name => match TypeKind.ofName? name with
    | some .unit => reject "<type>"
    | some kind =>
      take
      return ⟨kind, t.span⟩
    | none => reject "<type>"
  | .symbol .lparen =>
    take
    let close ← expect (.symbol .rparen) "')'"
    return ⟨.unit, ⟨t.span.start, close.span.stop⟩⟩
  | _ => reject "<type>"

def items (done : List Item) : Prog (List Item) := do
  let t ← look
  match t.lexeme with
  | .keyword .fnWord =>
    let fn ← call .function
    call (.items (.function fn :: done))
  | .keyword .staticWord =>
    let decl ← call (.static false)
    call (.items (.static decl :: done))
  | .keyword .externWord =>
    let block ← call .foreign
    call (.items (.foreign block :: done))
  | .eof => return done.reverse
  | _ => reject "<item>"

def function : Prog Function := do
  let proto ← call .prototype
  let body ← call .block
  return ⟨⟨proto.span.start, body.span.stop⟩, proto, body⟩

def prototypeEnd (start stop : Position) (fnName : String) (params : List Param) :
    Prog Prototype := do
  let plain : Prototype := ⟨⟨start, stop⟩, fnName, params, ⟨.unit, Span.point stop⟩⟩
  let t ← look
  match t.lexeme with
  | .symbol .arrow =>
    take
    let result ← type
    return ⟨⟨start, result.span.stop⟩, fnName, params, result⟩
  | .symbol .semicolon => return plain
  | .symbol .lbrace => return plain
  | _ => reject "'->', ';', '\x7b'"

def prototype : Prog Prototype := do
  let word ← expect (.keyword .fnWord) "'fn'"
  let (_, fnName) ← name "<ident>"
  let _ ← expect (.symbol .lparen) "'('"
  let params ← call (.params [])
  let close ← expect (.symbol .rparen) "')'"
  prototypeEnd word.span.start close.span.stop fnName params

def paramsNext (done : List Param) : Prog (List Param) := do
  let t ← look
  match t.lexeme with
  | .symbol .comma =>
    take
    call (.params done)
  | .symbol .rparen => return done.reverse
  | _ => reject "',', ')'"

def params (done : List Param) : Prog (List Param) := do
  let t ← look
  match t.lexeme with
  | .keyword .mutWord | .underscore | .identifier _ =>
    let param ← call .param
    paramsNext (param :: done)
  | .symbol .rparen => return done.reverse
  | _ => reject "<fn parameter>"

def paramType (start : Position) (mutable : Bool) (binder : Pattern) : Prog Param := do
  let _ ← expect (.symbol .colon) "':'"
  let annotation ← type
  require .assignee "parameter pattern" binder.toExpr
  return ⟨⟨start, annotation.span.stop⟩, mutable, binder, annotation⟩

def param : Prog Param := do
  let first ← look
  let mutable ← mutability
  let binder ← pattern
  paramType first.span.start mutable binder

def staticInit : Prog (Option Expr) := do
  let t ← look
  match t.lexeme with
  | .symbol .assign =>
    take
    let e ← call (.level 0)
    requireValue "static initializer" e
    return some e
  | .symbol .semicolon => return none
  | _ => reject "'=', ';'"

def checkStatic (inForeign : Bool) (decl : Static) : Prog Unit :=
  match inForeign, decl.init with
  | true, some e => note (.externStaticWithInit e.span)
  | false, none => note (.staticWithoutInit decl.span)
  | _, _ => return ()

def staticEnd (inForeign : Bool) (head : StaticHead) : Prog Static := do
  let init ← staticInit
  let close ← expect (.symbol .semicolon) "';'"
  let decl : Static :=
    ⟨⟨head.start, close.span.stop⟩, head.name, head.mutable, head.type, init⟩
  checkStatic inForeign decl
  return decl

def static (inForeign : Bool) : Prog Static := do
  let word ← expect (.keyword .staticWord) "'static'"
  let mutable ← mutability
  let (_, itemName) ← name "<ident>"
  let _ ← expect (.symbol .colon) "':'"
  let annotation ← type
  staticEnd inForeign ⟨word.span.start, mutable, itemName, annotation⟩

def foreignBody (start : Position) (abi : String) : Prog ForeignBlock := do
  let _ ← expect (.symbol .lbrace) "'\x7b'"
  let items ← call (.foreignItems [])
  let close ← expect (.symbol .rbrace) "'\x7d'"
  return ⟨⟨start, close.span.stop⟩, abi, items⟩

def foreign : Prog ForeignBlock := do
  let word ← expect (.keyword .externWord) "'extern'"
  let t ← look
  match t.lexeme with
  | .abi abi =>
    take
    noteIf (abi ≠ "C") (.unsupportedAbi t.span abi)
    foreignBody word.span.start abi
  | _ => reject "<ABI>"

def foreignItems (done : List ForeignItem) : Prog (List ForeignItem) := do
  let t ← look
  match t.lexeme with
  | .keyword .fnWord =>
    let proto ← call .foreignFunction
    call (.foreignItems (.prototype proto :: done))
  | .keyword .staticWord =>
    let decl ← call (.static true)
    call (.foreignItems (.static decl :: done))
  | .symbol .rbrace => return done.reverse
  | _ => reject "<extern item>"

def foreignFunction : Prog Prototype := do
  let proto ← call .prototype
  let t ← look
  match t.lexeme with
  | .symbol .semicolon =>
    take
    return proto
  | .symbol .lbrace =>
    let body ← call .block
    note (.externFunctionWithBody body.span)
    return proto
  | _ => reject "';', '\x7b'"

def block : Prog Block := do
  let brace ← expect (.symbol .lbrace) "'\x7b'"
  call (.statements brace.span.start [] none)

def statementsNext (start : Position) (stmts : List Stmt) (tail : Option Expr) (e : Expr) :
    Prog Block := do
  let next ← look
  match next.lexeme with
  | .symbol .semicolon =>
    take
    call (.statements start (.expr ⟨e.span.start, next.span.stop⟩ e :: stmts) tail)
  | .symbol .rbrace =>
    requireValue "block tail expression" e
    call (.statements start stmts (some e))
  | _ =>
    noteIf (e.isBlockLike = false) (.missingToken (.symbol .semicolon) e.span.stop)
    call (.statements start (.expr e.span e :: stmts) tail)

def statements (start : Position) (stmts : List Stmt) (tail : Option Expr) : Prog Block := do
  let t ← look
  match t.lexeme with
  | .symbol .rbrace =>
    take
    return .mk ⟨start, t.span.stop⟩ stmts.reverse tail
  | .symbol .semicolon =>
    take
    call (.statements start stmts tail)
  | .keyword .letWord =>
    let stmt ← call .binding
    call (.statements start (stmt :: stmts) tail)
  | _ =>
    let e ← call (.level 0)
    statementsNext start stmts tail e

def bindingInit : Prog (Option Expr) := do
  match ← accept (.symbol .assign) with
  | some _ =>
    let e ← call (.level 0)
    requireValue "let initializer" e
    return some e
  | none => return none

def statementEnd (stop : Position) : Prog Position := do
  match ← accept (.symbol .semicolon) with
  | some close => return close.span.stop
  | none =>
    note (.missingToken (.symbol .semicolon) stop)
    return stop

def bindingEnd (head : BindingHead) : Prog Stmt := do
  let init ← bindingInit
  let stop ← statementEnd ((init.map Expr.span).getD head.type.span).stop
  return .binding ⟨head.start, stop⟩ head.mutable head.pattern head.type init

def binding : Prog Stmt := do
  let word ← expect (.keyword .letWord) "'let'"
  let mutable ← mutability
  let binder ← pattern
  let _ ← expect (.symbol .colon) "':'"
  let annotation ← type
  require .assignee "let pattern" binder.toExpr
  bindingEnd ⟨word.span.start, mutable, binder, annotation⟩

def operatorAt? (n : Nat) (t : Token) : Option InfixOp :=
  (InfixOp.ofLexeme? t.lexeme).filter (·.level = n)

def combine (op : InfixOp) (lhs rhs : Expr) : Prog Expr := do
  let span : Span := ⟨lhs.span.start, rhs.span.stop⟩
  match op with
  | .assign =>
    require .assignee "assignment target" lhs
    requireValue "assigned value" rhs
    return .assign span lhs rhs
  | .binary op =>
    requireValue "operand" lhs
    requireValue "operand" rhs
    return .binary span op lhs rhs

/-- How tightly comparisons bind, of which there is no chain. -/
def comparisonLevel : Nat := 3

def comparison (lhs : Expr) : Prog Expr := do
  let t ← look
  match operatorAt? comparisonLevel t with
  | none => return lhs
  | some op =>
    take
    let rhs ← call (.level (comparisonLevel + 1))
    let e ← combine op lhs rhs
    let next ← look
    match operatorAt? comparisonLevel next with
    | none => return e
    | some _ => reject "comparison operators cannot be chained"

def level (n : Nat) : Prog Expr := do
  if n < castLevel then
    let lhs ← call (.level (n + 1))
    if n = comparisonLevel then comparison lhs else call (.rest n lhs)
  else
    let operand ← call .unary
    call (.casts operand)

def rest (n : Nat) (lhs : Expr) : Prog Expr := do
  let t ← look
  match operatorAt? n t with
  | none => return lhs
  | some op =>
    take
    let rhs ← call (.level (n + 1))
    let e ← combine op lhs rhs
    call (.rest n e)

def casts (operand : Expr) : Prog Expr := do
  match ← accept (.keyword .asWord) with
  | none => return operand
  | some _ =>
    let target ← type
    requireValue "cast operand" operand
    call (.casts (.cast ⟨operand.span.start, target.span.stop⟩ operand target))

def negation (start : Position) (op : NegOp) : Prog Expr := do
  take
  let operand ← call .unary
  requireValue "operand" operand
  return .negation ⟨start, operand.span.stop⟩ op operand

def unary : Prog Expr := do
  let t ← look
  match t.lexeme with
  | .symbol .minus => negation t.span.start .minus
  | .symbol .bang => negation t.span.start .not
  | _ => call .primary

def primary : Prog Expr := do
  let t ← look
  match t.lexeme with
  | .integer _ value =>
    take
    return .literal t.span (.int value)
  | .float _ value =>
    take
    return .literal t.span (.float value)
  | .boolean value =>
    take
    return .literal t.span (.bool value)
  | .underscore =>
    take
    return .underscore t.span
  | .identifier _ => call .pathOrCall
  | .symbol .lparen => call .grouped
  | .symbol .lbrace => return .block (← call .block)
  | .keyword .ifWord => call .conditional
  | .keyword .loopWord => call .loop
  | .keyword .whileWord => call .whileLoop
  | .keyword .unsafeWord => call .unsafeBlock
  | .keyword .returnWord => call .ret
  | _ => reject "<expr>"

def pathOrCall : Prog Expr := do
  let (span, callee) ← name "<path>"
  match ← accept (.symbol .lparen) with
  | none => return .path span callee
  | some _ =>
    let args ← call (.arguments [])
    let close ← expect (.symbol .rparen) "')'"
    return .call ⟨span.start, close.span.stop⟩ span callee args

def argumentsNext (done : List Expr) (e : Expr) : Prog (List Expr) := do
  requireValue "function argument" e
  let next ← look
  match next.lexeme with
  | .symbol .comma =>
    take
    call (.arguments (e :: done))
  | .symbol .rparen => call (.arguments (e :: done))
  | _ => reject "',', ')'"

def arguments (done : List Expr) : Prog (List Expr) := do
  let t ← look
  if t.lexeme = .symbol .rparen then return done.reverse
  else if beginsOperand t then
    let e ← call (.level 0)
    argumentsNext done e
  else reject "<expr>"

def grouped : Prog Expr := do
  let brace ← expect (.symbol .lparen) "'('"
  match ← accept (.symbol .rparen) with
  | some close => return .literal ⟨brace.span.start, close.span.stop⟩ .unit
  | none =>
    let inner ← call (.level 0)
    let close ← expect (.symbol .rparen) "')'"
    requireValue "grouped expression" inner
    return .grouped ⟨brace.span.start, close.span.stop⟩ inner

def alternative : Prog Expr := do
  let t ← look
  match t.lexeme with
  | .keyword .ifWord => call .conditional
  | .symbol .lbrace => return .block (← call .block)
  | _ => reject "'if', '\x7b'"

def conditional : Prog Expr := do
  let word ← expect (.keyword .ifWord) "'if'"
  let cond ← call (.level 0)
  let thenBlock ← call .block
  requireValue "if condition" cond
  match ← accept (.keyword .elseWord) with
  | none => return .conditional ⟨word.span.start, thenBlock.span.stop⟩ cond thenBlock none
  | some _ =>
    let other ← alternative
    return .conditional ⟨word.span.start, other.span.stop⟩ cond thenBlock (some other)

def loop : Prog Expr := do
  let word ← expect (.keyword .loopWord) "'loop'"
  let body ← call .block
  return .loop ⟨word.span.start, body.span.stop⟩ body

def whileLoop : Prog Expr := do
  let word ← expect (.keyword .whileWord) "'while'"
  let cond ← call (.level 0)
  let body ← call .block
  requireValue "while condition" cond
  return .whileLoop ⟨word.span.start, body.span.stop⟩ cond body

def unsafeBlock : Prog Expr := do
  let word ← expect (.keyword .unsafeWord) "'unsafe'"
  let body ← call .block
  return .unsafeBlock ⟨word.span.start, body.span.stop⟩ body

def ret : Prog Expr := do
  let word ← expect (.keyword .returnWord) "'return'"
  let t ← look
  if beginsOperand t then
    let e ← call (.level 0)
    requireValue "return value" e
    return .ret ⟨word.span.start, e.span.stop⟩ (some e)
  else return .ret word.span none

def Production.body : (p : Production) → Prog p.Result
  | .items done => Descent.items done
  | .function => Descent.function
  | .prototype => Descent.prototype
  | .params done => Descent.params done
  | .param => Descent.param
  | .static inForeign => Descent.static inForeign
  | .foreign => Descent.foreign
  | .foreignItems done => Descent.foreignItems done
  | .foreignFunction => Descent.foreignFunction
  | .block => Descent.block
  | .statements start stmts tail => Descent.statements start stmts tail
  | .binding => Descent.binding
  | .level n => Descent.level n
  | .rest n lhs => Descent.rest n lhs
  | .casts operand => Descent.casts operand
  | .unary => Descent.unary
  | .primary => Descent.primary
  | .pathOrCall => Descent.pathOrCall
  | .arguments done => Descent.arguments done
  | .grouped => Descent.grouped
  | .conditional => Descent.conditional
  | .loop => Descent.loop
  | .whileLoop => Descent.whileLoop
  | .unsafeBlock => Descent.unsafeBlock
  | .ret => Descent.ret

/-- What the procedures work on: the readings that the lexer has not given yet, the token that has
been looked at, the errors noted, the last one first, and the number of requests to the lexer. -/
structure Feed where
  readings : List Reading
  ahead : Option Token := none
  recovered : List Recovered := []
  requests : Nat := 0

namespace Feed

def peek (s : Feed) : Except ParseError Token × Feed :=
  match s.ahead with
  | some t => (.ok t, s)
  | none =>
    let asked := { s with requests := s.requests + 1 }
    match s.readings with
    | [] => (.error .endOfTokens, asked)
    | .error failure :: readings => (.error (.ofFailure failure), { asked with readings })
    | .ok t :: readings => (.ok t, { asked with readings, ahead := some t })

def drop (s : Feed) : Feed := { s with ahead := none }

def note (s : Feed) (e : Recovered) : Feed := { s with recovered := e :: s.recovered }

end Feed

/-- What comes of a run, if it comes back: a result or an error, and what is left. -/
abbrev Answer (α : Type) := Option (Except ParseError α × Feed)

def Prog.eval {α : Type} (callee : (p : Production) → Feed → Answer p.Result) :
    Prog α → Feed → Answer α
  | .done a, s => some (.ok a, s)
  | .fail e, s => some (.error e, s)
  | .peek next, s => match s.peek with
    | (.ok t, s) => (next t).eval callee s
    | (.error e, s) => some (.error e, s)
  | .drop next, s => next.eval callee s.drop
  | .note e next, s => next.eval callee (s.note e)
  | .call p next, s => match callee p s with
    | some (.ok a, s) => (next a).eval callee s
    | some (.error e, s) => some (.error e, s)
    | none => none

def Production.eval : (depth : Nat) → (p : Production) → Feed → Answer p.Result
  | 0, _, _ => none
  | depth + 1, p, s => p.body.eval (Production.eval depth) s

def file : Prog (List Item × Token) := do
  let items ← call (.items [])
  let eof ← look
  take
  return (items, eof)

/-- Parses a whole stream by calling procedures, with calls nested `depth` deep at most. -/
def descend (depth : Nat) (name : String) (stream : List Reading) : Answer Crate :=
  match file.eval (Production.eval depth) { readings := stream } with
  | some (.ok (items, eof), s) => match s.recovered.reverse with
    | [] => some (.ok ⟨crateName name, items, ⟨Position.origin, eof.span.stop⟩⟩, s)
    | errors => some (.error (.recovered errors), s)
  | some (.error e, s) => some (.error e, s)
  | none => none

end MicroRust.Descent
