import MicroRust.Source.Position
import MicroRust.Text.Quoted

/-! Flags on a command line.

A flag begins with one or two hyphens. Its value is the next word or follows an equals sign; a
switch has a value only behind an equals sign. -/

namespace MicroRust

open Text

inductive FlagKind where
  | switch | text | number
deriving DecidableEq, Repr

inductive FlagValue where
  | switch (on : Bool)
  | text (text : String)
  | number (n : Int)
deriving DecidableEq, Repr

inductive FlagError where
  | badForm (word : String)
  | unknown (name : String)
  | noValue (name : String)
  | notSwitch (name value : String)
  | notNumber (name value : String)
deriving DecidableEq, Repr

def FlagError.message : FlagError → String
  | .badForm word => s!"bad flag syntax: {word}"
  | .unknown name => s!"flag provided but not defined: -{name}"
  | .noValue name => s!"flag needs an argument: -{name}"
  | .notSwitch name value => s!"invalid boolean value {quoted value} for -{name}: parse error"
  | .notNumber name value => s!"invalid value {quoted value} for flag -{name}: parse error"

namespace Flags

def switchOf? (value : String) : Option Bool :=
  if ["1", "t", "T", "true", "TRUE", "True"].contains value then some true
  else if ["0", "f", "F", "false", "FALSE", "False"].contains value then some false
  else none

def digitValue (c : Char) : Nat :=
  if c.isDigit then c.toNat - 48
  else if 'a' ≤ c.toLower && c.toLower ≤ 'z' then c.toLower.toNat - 87
  else 36

def digitsOf? (base : Nat) : (value : Nat) → List Char → Option Nat
  | value, [] => some value
  | value, '_' :: c :: rest =>
    if digitValue c < base then digitsOf? base (value * base + digitValue c) rest else none
  | value, c :: rest =>
    if digitValue c < base then digitsOf? base (value * base + digitValue c) rest else none

def magnitude? : List Char → Option Nat
  | [] => none
  | ['0'] => some 0
  | '0' :: c :: rest =>
    if c = 'x' || c = 'X' then if rest.isEmpty then none else digitsOf? 16 0 rest
    else if c = 'b' || c = 'B' then if rest.isEmpty then none else digitsOf? 2 0 rest
    else if c = 'o' || c = 'O' then if rest.isEmpty then none else digitsOf? 8 0 rest
    else digitsOf? 8 0 (c :: rest)
  | '_' :: _ => none
  | digits => digitsOf? 10 0 digits

def numberOf? (value : String) : Option Int := do
  let n : Int ← match value.toList with
    | '-' :: rest => (magnitude? rest).map fun n => -(n : Int)
    | '+' :: rest => (magnitude? rest).map fun n => (n : Int)
    | rest => (magnitude? rest).map fun n => (n : Int)
  if Position.fitsWord n then some n else none

def valueOf (name : String) (kind : FlagKind) (value : String) : Except FlagError FlagValue :=
  match kind with
  | .text => .ok (.text value)
  | .switch => match switchOf? value with
    | some on => .ok (.switch on)
    | none => .error (.notSwitch name value)
  | .number => match numberOf? value with
    | some n => .ok (.number n)
    | none => .error (.notNumber name value)

def splitFlag (text : List Char) : String × Option String :=
  match text.dropWhile (· ≠ '=') with
  | _ :: value => (String.ofList (text.takeWhile (· ≠ '=')), some (String.ofList value))
  | [] => (String.ofList text, none)

inductive WordForm where
  | flag (text : List Char)
  | stop
  | plain

def formOf (word : String) : WordForm :=
  match word.toList with
  | ['-', '-'] => .stop
  | '-' :: '-' :: rest => .flag rest
  | ['-'] => .plain
  | '-' :: rest => .flag rest
  | _ => .plain

/-- The flags that a list of words begins with, and the words behind them. A double hyphen ends the
flags and is dropped. -/
def read (kind? : String → Option FlagKind) :
    List String → Except FlagError (List (String × FlagValue) × List String)
  | [] => .ok ([], [])
  | word :: rest => match formOf word with
    | .plain => .ok ([], word :: rest)
    | .stop => .ok ([], rest)
    | .flag text =>
      if text.isEmpty || text.head? = some '-' || text.head? = some '=' then .error (.badForm word)
      else
        let (name, given) := splitFlag text
        match kind? name, given, rest with
        | none, _, _ => .error (.unknown name)
        | some kind, some value, rest => do
          let value ← valueOf name kind value
          let (flags, words) ← read kind? rest
          return ((name, value) :: flags, words)
        | some .switch, none, rest => do
          let (flags, words) ← read kind? rest
          return ((name, .switch true) :: flags, words)
        | some _, none, [] => .error (.noValue name)
        | some kind, none, value :: rest => do
          let value ← valueOf name kind value
          let (flags, words) ← read kind? rest
          return ((name, value) :: flags, words)

def last? (names : List String) (flags : List (String × FlagValue)) : Option FlagValue :=
  (flags.reverse.find? fun f => names.contains f.1).map (·.2)

def text? (flags : List (String × FlagValue)) (name : String) : Option String :=
  match last? [name] flags with
  | some (.text t) => some t
  | _ => none

def number? (flags : List (String × FlagValue)) (names : List String) : Option Int :=
  match last? names flags with
  | some (.number n) => some n
  | _ => none

def isOn (flags : List (String × FlagValue)) (name : String) : Bool :=
  last? [name] flags = some (.switch true)

def beginsFlag (word : String) : Bool := word.startsWith "-" && word ≠ "-"

/-- Puts the words before the first flag behind the flags. Words behind a double hyphen are no
flags. -/
def flagsFirst (words : List String) : List String :=
  let before := words.takeWhile (· ≠ "--")
  let closed := words.dropWhile (· ≠ "--")
  let plain := before.takeWhile (!beginsFlag ·)
  let flags := before.dropWhile (!beginsFlag ·)
  if flags.isEmpty then words else flags ++ plain ++ closed

end Flags

end MicroRust
