import MicroRust.Parsing.Step
import MicroRust.Token.Lexer

/-! Parsing a whole sequence of tokens. -/

namespace MicroRust

open Parsing

structure Outcome where
  items : List Item
  recovered : List Recovered
  stop : Position

def Parsing.run (c : Config) : List Reading → Except ParseError Outcome
  | [] => .error .endOfTokens
  | .error failure :: _ => .error (.ofFailure failure)
  | .ok t :: rest => match step c t with
    | .error e => .error e
    | .ok next =>
      if t.lexeme = .eof then .ok ⟨next.items.reverse, next.recovered.reverse, t.span.stop⟩
      else run next rest

def parse (name : String) (stream : List Reading) : Except ParseError Crate :=
  match Parsing.run .initial stream with
  | .error e => .error e
  | .ok outcome => match outcome.recovered with
    | [] => .ok ⟨crateName name, outcome.items, ⟨Position.origin, outcome.stop⟩⟩
    | errors => .error (.recovered errors)

def Source.parse (source : Source) : Except ParseError Crate :=
  MicroRust.parse source.name source.readings

end MicroRust
