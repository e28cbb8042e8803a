import MicroRust.Toml.Reader

/-! What the keys and tables of a document define, and where two of them clash. -/

namespace MicroRust.Toml

/-- A table of a document: the keys that lead to it, each with the number of the table it means in
a list of tables. -/
abbrev Place := List (String × Nat)

inductive Content where
  | value (value : Value)
  | table (headed : Bool)
  | elements (count : Nat)

structure Definition where
  place : Place
  key : String
  content : Content
  line : Nat

structure Document where
  definitions : List Definition := []
  current : Place := []

namespace Document

def find? (d : Document) (place : Place) (key : String) : Option Definition :=
  d.definitions.find? fun e => e.key = key && e.place = place

def define (d : Document) (e : Definition) : Document :=
  { d with definitions := d.definitions ++ [e] }

def redefine (d : Document) (e : Definition) : Document :=
  { d with definitions := d.definitions.map fun old =>
      if old.key = e.key && old.place = e.place then e else old }

def enter (d : Document) (place : Place) (line : Nat) :
    List String → Except Error (Document × Place)
  | [] => .ok (d, place)
  | key :: keys => match d.find? place key with
    | none => enter (d.define ⟨place, key, .table false, line⟩) (place ++ [(key, 0)]) line keys
    | some e => match e.content with
      | .table _ => enter d (place ++ [(key, 0)]) line keys
      | .elements count => enter d (place ++ [(key, count - 1)]) line keys
      | .value _ => .error ⟨line, .valueOnWay key e.line⟩

def openTable (d : Document) (place : Place) (name : String) (keys : List String) (headed : Bool)
    (line : Nat) : Except Error (Document × Place) := do
  let (d, place) ← d.enter place line keys.dropLast
  let key := keys.getLastD ""
  let new : Definition := ⟨place, key, .table headed, line⟩
  let inside := place ++ [(key, 0)]
  match d.find? place key with
  | none => return (d.define new, inside)
  | some e => match e.content with
    | .table false => return (d.redefine new, inside)
    | .table true => .error ⟨line, .tableAtTable name e.line⟩
    | .elements _ => .error ⟨line, .tableAtElements name e.line⟩
    | .value _ => .error ⟨line, .tableAtKey name e.line⟩

def openElement (d : Document) (place : Place) (name : String) (keys : List String) (line : Nat) :
    Except Error (Document × Place) := do
  let (d, place) ← d.enter place line keys.dropLast
  let key := keys.getLastD ""
  match d.find? place key with
  | none => return (d.define ⟨place, key, .elements 1, line⟩, place ++ [(key, 0)])
  | some e => match e.content with
    | .elements count =>
      return (d.redefine { e with content := .elements (count + 1) }, place ++ [(key, count)])
    | .table _ => .error ⟨line, .elementAtTable name e.line⟩
    | .value _ => .error ⟨line, .elementAtKey name e.line⟩

def setValue (d : Document) (place : Place) (key : String) (value : Value) (line : Nat) :
    Except Error Document :=
  match d.find? place key with
  | none => .ok (d.define ⟨place, key, .value value, line⟩)
  | some e => match e.content with
    | .value _ => .error ⟨line, .keyAtKey key e.line⟩
    | .table _ => .error ⟨line, .keyAtTable key e.line⟩
    | .elements _ => .error ⟨line, .keyAtElements key⟩

mutual

/-- Takes what is written behind a key, and gives its value if no table is part of it. A table
becomes one of the document, and inside a list (`listed`) a further one of a list. -/
def addTerm (d : Document) (place : Place) (key : String) (listed : Bool) :
    Term → Except Error (Document × Option Value)
  | .string text => do return (d, some (.string (← text.text)))
  | .plain value => .ok (d, some value)
  | .array elements => do
    let (d, values) ← addTerms d place key elements
    return (d, values.map Value.array)
  | .table start entries => do
    let (d, inside) ← if listed then d.openElement place key [key] start
      else d.openTable place key [key] false start
    return (← addPairs d inside listed entries, none)

def addTerms (d : Document) (place : Place) (key : String) :
    List Term → Except Error (Document × Option (List Value))
  | [] => .ok (d, some [])
  | term :: rest => do
    let (d, value) ← addTerm d place key true term
    let (d, values) ← addTerms d place key rest
    return (d, match value, values with
      | some value, some values => some (value :: values)
      | _, _ => none)

def addPairs (d : Document) (place : Place) (listed : Bool) :
    List (Literal × Term × Nat) → Except Error Document
  | [] => .ok d
  | (key, term, line) :: rest => do
    let key ← key.text
    let (d, value) ← addTerm d place key listed term
    let d ← match value with
      | some value => d.setValue place key value line
      | none => pure d
    addPairs d place listed rest

end

def add (d : Document) : Statement → Except Error Document
  | .pair key term line => d.addPairs d.current false [(key, term, line)]
  | .table name keys line => do
    let (d, inside) ← d.openTable [] name (← keys.mapM Literal.text) true line
    return { d with current := inside }
  | .element name keys line => do
    let (d, inside) ← d.openElement [] name (← keys.mapM Literal.text) line
    return { d with current := inside }

def parse (text : List Char) : Except Error Document := do
  (← statements text).foldlM add {}

def fields (d : Document) : List Definition := d.definitions.filter (·.place.isEmpty)

end Document

end MicroRust.Toml
