import MicroRust.Number.Binary64
import MicroRust.Source.Position
import MicroRust.Text.Quoted

/-! Tokens of μRust: reserved words, symbols, literals and names, each with its place. -/

namespace MicroRust

open Text

inductive Keyword where
  | fnWord | staticWord | externWord | letWord | mutWord | asWord | loopWord | whileWord | ifWord
  | elseWord | unsafeWord | returnWord
deriving DecidableEq, Repr

namespace Keyword

def all : List Keyword :=
  [.fnWord, .staticWord, .externWord, .letWord, .mutWord, .asWord, .loopWord, .whileWord, .ifWord,
    .elseWord, .unsafeWord, .returnWord]

def text : Keyword → String
  | .fnWord => "fn"
  | .staticWord => "static"
  | .externWord => "extern"
  | .letWord => "let"
  | .mutWord => "mut"
  | .asWord => "as"
  | .loopWord => "loop"
  | .whileWord => "while"
  | .ifWord => "if"
  | .elseWord => "else"
  | .unsafeWord => "unsafe"
  | .returnWord => "return"

def ofText? (s : String) : Option Keyword := all.find? fun k => k.text = s

end Keyword

inductive Symbol where
  | lparen | rparen | lbrace | rbrace | semicolon | comma | colon | arrow
  | assign | plus | minus | star | slash | percent | ampersand | pipe | caret | bang
  | andAnd | orOr | equal | notEqual | greater | less | greaterEqual | lessEqual
deriving DecidableEq, Repr

namespace Symbol

def delimiters : List Symbol :=
  [.lparen, .rparen, .lbrace, .rbrace, .semicolon, .comma, .colon, .arrow]

def operators : List Symbol :=
  [.assign, .plus, .minus, .star, .slash, .percent, .ampersand, .pipe, .caret, .bang, .andAnd,
    .orOr, .equal, .notEqual, .greater, .less, .greaterEqual, .lessEqual]

def text : Symbol → String
  | .lparen => "("
  | .rparen => ")"
  | .lbrace => "\x7b"
  | .rbrace => "\x7d"
  | .semicolon => ";"
  | .comma => ","
  | .colon => ":"
  | .arrow => "->"
  | .assign => "="
  | .plus => "+"
  | .minus => "-"
  | .star => "*"
  | .slash => "/"
  | .percent => "%"
  | .ampersand => "&"
  | .pipe => "|"
  | .caret => "^"
  | .bang => "!"
  | .andAnd => "&&"
  | .orOr => "||"
  | .equal => "=="
  | .notEqual => "!="
  | .greater => ">"
  | .less => "<"
  | .greaterEqual => ">="
  | .lessEqual => "<="

def ofPair? : Char → Char → Option Symbol
  | '-', '>' => some .arrow
  | '&', '&' => some .andAnd
  | '|', '|' => some .orOr
  | '=', '=' => some .equal
  | '!', '=' => some .notEqual
  | '<', '=' => some .lessEqual
  | '>', '=' => some .greaterEqual
  | _, _ => none

def ofChar? : Char → Option Symbol
  | '(' => some .lparen
  | ')' => some .rparen
  | '\x7b' => some .lbrace
  | '\x7d' => some .rbrace
  | ';' => some .semicolon
  | ',' => some .comma
  | ':' => some .colon
  | '=' => some .assign
  | '+' => some .plus
  | '-' => some .minus
  | '*' => some .star
  | '/' => some .slash
  | '%' => some .percent
  | '&' => some .ampersand
  | '|' => some .pipe
  | '^' => some .caret
  | '!' => some .bang
  | '>' => some .greater
  | '<' => some .less
  | _ => none

end Symbol

inductive TokenKind where
  | eof
  | identifier
  | underscore
  | abi
  | keyword (k : Keyword)
  | symbol (s : Symbol)
  | integer
  | float
  | boolean
deriving DecidableEq, Repr

namespace TokenKind

def all : List TokenKind :=
  [.eof, .identifier, .underscore, .abi] ++ Keyword.all.map .keyword ++
    Symbol.delimiters.map .symbol ++ [.integer, .float, .boolean] ++ Symbol.operators.map .symbol

def name : TokenKind → String
  | .eof => "EOF"
  | .identifier => "IDENT"
  | .underscore => "_"
  | .abi => "ABI"
  | .keyword k => k.text
  | .symbol s => s.text
  | .integer => "INT"
  | .float => "FLOAT"
  | .boolean => "BOOL"

end TokenKind

/-- The member of a list with a number from zero on. -/
def numbered? {α : Type} (members : List α) (n : Int) : Option α :=
  if 0 ≤ n then members[n.toNat]? else none

def TokenKind.nameOf (n : Int) : String :=
  match numbered? all n with
  | some kind => kind.name
  | none => s!"UNKNOWN({n})"

inductive Lexeme where
  | eof
  | identifier (name : String)
  | underscore
  | abi (body : String)
  | keyword (k : Keyword)
  | symbol (s : Symbol)
  | integer (digits : String) (value : Int32)
  | float (digits : String) (value : Binary64)
  | boolean (value : Bool)
deriving DecidableEq, Repr

namespace Lexeme

def kind : Lexeme → TokenKind
  | .eof => .eof
  | .identifier _ => .identifier
  | .underscore => .underscore
  | .abi _ => .abi
  | .keyword k => .keyword k
  | .symbol s => .symbol s
  | .integer _ _ => .integer
  | .float _ _ => .float
  | .boolean _ => .boolean

def literal : Lexeme → String
  | .eof => ""
  | .identifier name => name
  | .underscore => "_"
  | .abi body => body
  | .keyword k => k.text
  | .symbol s => s.text
  | .integer digits _ => digits
  | .float digits _ => digits
  | .boolean value => if value then "true" else "false"

end Lexeme

structure Token where
  lexeme : Lexeme
  span : Span
deriving DecidableEq, Repr

namespace Token

def kind (t : Token) : TokenKind := t.lexeme.kind

def literal (t : Token) : String := t.lexeme.literal

def text (t : Token) : String := s!"{t.kind.name} {quoted t.literal} at {t.span.text}"

end Token

end MicroRust
