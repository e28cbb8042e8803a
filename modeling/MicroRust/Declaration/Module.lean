import MicroRust.Tree.Outline

/-! The declarations of a crate, as they are handed to a code generator. -/

namespace MicroRust

open Text

inductive Declaration where
  | function (fn : Function)
  | static (decl : Static)
  | foreignFunction (abi : String) (proto : Prototype)
  | foreignStatic (decl : Static)

namespace Declaration

def name : Declaration → String
  | .function fn => fn.proto.name
  | .static decl => decl.name
  | .foreignFunction _ proto => proto.name
  | .foreignStatic decl => decl.name

end Declaration

/-- A receiver of declarations: each one changes its state, and may be refused. A refusal shows the
state it leaves behind. -/
structure Backend (σ : Type) where
  declare : σ → Declaration → Except (String × σ) σ

section

variable {σ α : Type}

/-- Hands over one by one, up to the first refusal. The answer is the last state and the refusal. -/
def untilRefusal (hand : σ → α → σ × Option String) (state : σ) : List α → σ × Option String
  | [] => (state, none)
  | a :: rest => match hand state a with
    | (next, none) => untilRefusal hand next rest
    | (last, some message) => (last, some message)

namespace Backend

variable (backend : Backend σ)

def hand (state : σ) (d : Declaration) : σ × Option String :=
  match backend.declare state d with
  | .ok next => (next, none)
  | .error (message, last) => (last, some message)

def handForeignItem (abi : String) (state : σ) : ForeignItem → σ × Option String
  | .prototype proto => backend.hand state (.foreignFunction abi proto)
  | .static decl => backend.hand state (.foreignStatic decl)

def handItem (state : σ) : Item → σ × Option String
  | .function fn => backend.hand state (.function fn)
  | .static decl => backend.hand state (.static decl)
  | .foreign block => untilRefusal (backend.handForeignItem block.abi) state block.items

def generate (state : σ) : Option Crate → σ × Option String
  | none => (state, some "codegen: nil crate")
  | some c =>
    let (last, refusal) := untilRefusal backend.handItem state c.items
    (last, refusal.map fun message => s!"crate {c.name}: {message}")

end Backend

end

inductive DeclKind where
  | function | static | foreignFunction | foreignStatic
deriving DecidableEq, Repr

namespace DeclKind

def all : List DeclKind := [.function, .static, .foreignFunction, .foreignStatic]

def name : DeclKind → String
  | .function => "fn"
  | .static => "static"
  | .foreignFunction => "extern fn"
  | .foreignStatic => "extern static"

def nameOf (n : Int) : String := ((numbered? all n).map name).getD s!"DeclKind({n})"

end DeclKind

structure Decl where
  kind : DeclKind
  name : String
  signature : String
  abi : String := ""
  calls : List String := []
deriving DecidableEq, Repr

def Decl.text (d : Decl) : String :=
  d.kind.name ++ (if d.abi.isEmpty then "" else " " ++ quoted d.abi) ++ " " ++ d.signature ++
    (if d.calls.isEmpty then "" else " calls " ++ ", ".intercalate d.calls)

def Prototype.signature (proto : Prototype) : String :=
  proto.name ++ "(" ++ ", ".intercalate (proto.params.map (·.type.kind.name)) ++ ") -> " ++
    proto.result.kind.name

def Static.signature (decl : Static) : String :=
  (if decl.mutable then "mut " else "") ++ decl.name ++ ": " ++ decl.type.kind.name

def Node.callee? : Node → Option String
  | .expr (.call _ _ callee _) => some callee
  | _ => none

/-- Adds a text to an increasing list of texts, unless it is there. Texts are compared character by
character. -/
def insertText (s : String) : List String → List String
  | [] => [s]
  | t :: rest =>
    if s < t then s :: t :: rest else if s = t then t :: rest else t :: insertText s rest

def Block.calls (body : Block) : List String :=
  (body.outline.nodes.filterMap Node.callee?).foldl (fun names s => insertText s names) []

def Decl.ofDeclaration : Declaration → Decl
  | .function fn => ⟨.function, fn.proto.name, fn.proto.signature, "", fn.body.calls⟩
  | .static decl => ⟨.static, decl.name, decl.signature, "", []⟩
  | .foreignFunction abi proto => ⟨.foreignFunction, proto.name, proto.signature, abi, []⟩
  | .foreignStatic decl => ⟨.foreignStatic, decl.name, decl.signature, "", []⟩

structure Module where
  name : String
  decls : List Decl := []
deriving DecidableEq, Repr

namespace Module

def find? (m : Module) (name : String) : Option Decl := m.decls.find? (·.name = name)

def add (m : Module) (d : Decl) : Except (String × Module) Module :=
  match m.find? d.name with
  | some _ => .error (s!"duplicate definition of {quoted d.name}", m)
  | none => .ok { m with decls := m.decls ++ [d] }

def backend : Backend Module := ⟨fun m d => m.add (.ofDeclaration d)⟩

def text (m : Module) : String :=
  s!"module {m.name}\n" ++ String.join (m.decls.map fun d => s!"  {d.text}\n")

end Module

def Crate.module (c : Crate) : Module × Option String :=
  Module.backend.generate ⟨c.name, []⟩ (some c)

def Declaration.trace : Declaration → String
  | .function fn => s!"function {fn.proto.name}"
  | .static decl => s!"static {decl.name}"
  | .foreignFunction abi proto => s!"extern {abi} {proto.name}"
  | .foreignStatic decl => s!"extern static {decl.name}"

def traceBackend (refused : String) : Backend (List String) :=
  ⟨fun trace d =>
    let trace := trace ++ [d.trace]
    if d.name = refused then .error ("backend failure", trace) else .ok trace⟩

end MicroRust
