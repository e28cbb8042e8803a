import MicroRust.Toml.Datetime
import MicroRust.Toml.Numeral

/-! Documents in TOML: what is written in one and why a text is none. -/

namespace MicroRust.Toml

inductive Value where
  | string (text : String)
  | integer (digits : String)
  | float (text : String) (numeral : Numeral)
  | boolean (value : Bool)
  | datetime (text : String) (time : Datetime)
  | array (elements : List Value)

inductive Fault where
  | badSyntax
  | badEscape
  | keyAtKey (key : String) (line : Nat)
  | keyAtTable (key : String) (line : Nat)
  | keyAtElements (key : String)
  | valueOnWay (key : String) (line : Nat)
  | tableAtKey (name : String) (line : Nat)
  | tableAtTable (name : String) (line : Nat)
  | tableAtElements (name : String) (line : Nat)
  | elementAtKey (name : String) (line : Nat)
  | elementAtTable (name : String) (line : Nat)
deriving DecidableEq, Repr

/-- Where two keys clash, the line stands in base sixteen with a letter behind it. -/
def Fault.message : Fault → String
  | .badSyntax => "invalid TOML syntax"
  | .badEscape => "invalid syntax"
  | .keyAtKey key line =>
    s!"key `{key}' is in conflict with line " ++ String.ofList (Nat.toDigits 16 line) ++ "d"
  | .keyAtTable key line => s!"key `{key}' is in conflict with table in line {line}"
  | .keyAtElements key =>
    s!"BUG: key `{key}' is in conflict but it's unknown type `[]*ast.Table'"
  | .valueOnWay key line => s!"key `{key}' is in conflict with line {line}"
  | .tableAtKey name line => s!"table `{name}' is in conflict with line {line}"
  | .tableAtTable name line => s!"table `{name}' is in conflict with table in line {line}"
  | .tableAtElements name line => s!"table `{name}' is in conflict with array table in line {line}"
  | .elementAtKey name line => s!"array table `{name}' is in conflict with line {line}"
  | .elementAtTable name line => s!"array table `{name}' is in conflict with table in line {line}"

structure Error where
  line : Nat
  fault : Fault
deriving DecidableEq, Repr

structure Literal where
  text? : Option String
  line : Nat

def Literal.text (l : Literal) : Except Error String :=
  match l.text? with
  | some text => .ok text
  | none => .error ⟨l.line, .badEscape⟩

inductive Term where
  | string (text : Literal)
  | plain (value : Value)
  | array (elements : List Term)
  | table (line : Nat) (entries : List (Literal × Term × Nat))

/-- One step of a document: a key with its value, the head of a table, or the head of a further
table of a list. A head has the name between its brackets. -/
inductive Statement where
  | pair (key : Literal) (term : Term) (line : Nat)
  | table (name : String) (keys : List Literal) (line : Nat)
  | element (name : String) (keys : List Literal) (line : Nat)

end MicroRust.Toml
