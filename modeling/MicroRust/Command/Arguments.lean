import MicroRust.Command.Flags

/-! What a command line asks for. -/

namespace MicroRust

structure Options where
  config : String := "murust.toml"
  color : Option String := none
  maxErrors : Option Int := none
  denyWarnings : Bool := false
  verbose : Bool := false
  debug : Bool := false
deriving DecidableEq, Repr

inductive Command where
  | lex (paths : List String)
  | parse (decls : Bool) (paths : List String)
  | check (jobs : Option Int) (paths : List String)
  | watch (paths : List String)
  | version (json : Bool)
  | unknown
deriving DecidableEq, Repr

structure Arguments where
  options : Options
  command : Command
deriving DecidableEq, Repr

namespace Arguments

def optionKind? : String → Option FlagKind
  | "config" => some .text
  | "color" => some .text
  | "max-errors" => some .number
  | "deny-warnings" => some .switch
  | "verbose" => some .switch
  | "debug" => some .switch
  | _ => none

def commandKind? (command flag : String) : Option FlagKind :=
  match command, flag with
  | "parse", "decls" => some .switch
  | "check", "jobs" => some .number
  | "check", "j" => some .number
  | "version", "json" => some .switch
  | _, _ => none

def optionsOf (flags : List (String × FlagValue)) : Options where
  config := (Flags.text? flags "config").getD "murust.toml"
  color := Flags.text? flags "color"
  maxErrors := Flags.number? flags ["max-errors"]
  denyWarnings := Flags.isOn flags "deny-warnings"
  verbose := Flags.isOn flags "verbose"
  debug := Flags.isOn flags "debug"

def commandOf (command : String) (words : List String) : Except FlagError Command := do
  let (flags, paths) ← Flags.read (commandKind? command) (Flags.flagsFirst words)
  match command with
  | "lex" => return .lex paths
  | "parse" => return .parse (Flags.isOn flags "decls") paths
  | "check" => return .check (Flags.number? flags ["jobs", "j"]) paths
  | "watch" => return .watch paths
  | "version" => return .version (Flags.isOn flags "json")
  | _ => return .unknown

/-- Reads a command line. Flags of the command may stand behind its files. -/
def read (words : List String) : Except FlagError Arguments := do
  let (flags, words) ← Flags.read optionKind? words
  let options := optionsOf flags
  match words with
  | [] => return ⟨options, .unknown⟩
  | command :: rest => return ⟨options, ← commandOf command rest⟩

end Arguments

end MicroRust
