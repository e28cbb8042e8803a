import MicroRust.Token.Basic

/-! What can be wrong with the characters of a source. -/

namespace MicroRust

open Text

inductive LexCause where
  | invalidInteger (digits : String)
  | invalidFloat (digits : String)
  | unterminated (body : String)
  | unknownCharacter (c : Char)
  | unclassified (number : Int) (c : Char)
deriving DecidableEq, Repr

namespace LexCause

def names : List String :=
  ["invalid integer literal", "invalid float literal", "unterminated string literal",
    "unknown token"]

def nameOf (n : Int) : String := (numbered? names n).getD s!"ErrorKind({n})"

def number : LexCause → Int
  | .invalidInteger _ => 0
  | .invalidFloat _ => 1
  | .unterminated _ => 2
  | .unknownCharacter _ => 3
  | .unclassified n _ => n

def name (cause : LexCause) : String := nameOf cause.number

def ofNumber (n : Int) (text : String) (c : Char) : LexCause :=
  if n = 0 then .invalidInteger text
  else if n = 1 then .invalidFloat text
  else if n = 2 then .unterminated text
  else if n = 3 then .unknownCharacter c
  else .unclassified n c

end LexCause

structure LexError where
  cause : LexCause
  span : Span
deriving DecidableEq, Repr

def LexError.message (e : LexError) : String :=
  match e.cause with
  | .invalidInteger digits => s!"{e.cause.name} {quoted digits} at {e.span.text}"
  | .invalidFloat digits => s!"{e.cause.name} {quoted digits} at {e.span.text}"
  | .unknownCharacter c => s!"{e.cause.name} {quotedChar c} at {e.span.text}"
  | .unterminated _ => s!"{e.cause.name} at {e.span.text}"
  | .unclassified _ _ => s!"{e.cause.name} at {e.span.text}"

inductive LexFailure where
  | lexical (e : LexError)
  | unreadable (name reason : String)
deriving DecidableEq, Repr

def LexFailure.message : LexFailure → String
  | .lexical e => e.message
  | .unreadable name reason => s!"read {name}: {reason}"

end MicroRust
