import MicroRust.Token.Basic

/-! Operators and how tightly they bind. -/

namespace MicroRust

inductive ArithOp where
  | add | sub | mul | div | rem | bitAnd | bitOr | bitXor
deriving DecidableEq, Repr

inductive CompareOp where
  | eq | ne | gt | lt | ge | le
deriving DecidableEq, Repr

/-- Operators that leave their right operand alone when the left one decides. -/
inductive LazyOp where
  | and | or
deriving DecidableEq, Repr

inductive NegOp where
  | minus | not
deriving DecidableEq, Repr

namespace ArithOp

def all : List ArithOp := [.add, .sub, .mul, .div, .rem, .bitAnd, .bitOr, .bitXor]

def text : ArithOp → String
  | .add => "+"
  | .sub => "-"
  | .mul => "*"
  | .div => "/"
  | .rem => "%"
  | .bitAnd => "&"
  | .bitOr => "|"
  | .bitXor => "^"

end ArithOp

namespace CompareOp

def all : List CompareOp := [.eq, .ne, .gt, .lt, .ge, .le]

def text : CompareOp → String
  | .eq => "=="
  | .ne => "!="
  | .gt => ">"
  | .lt => "<"
  | .ge => ">="
  | .le => "<="

end CompareOp

namespace LazyOp

def all : List LazyOp := [.and, .or]

def text : LazyOp → String
  | .and => "&&"
  | .or => "||"

end LazyOp

namespace NegOp

def all : List NegOp := [.minus, .not]

def text : NegOp → String
  | .minus => "-"
  | .not => "!"

end NegOp

def operatorNameOf (texts : List String) (n : Int) : String :=
  (numbered? texts n).getD s!"op({n})"

inductive BinaryOp where
  | arith (op : ArithOp)
  | compare (op : CompareOp)
  | lazy (op : LazyOp)
deriving DecidableEq, Repr

namespace BinaryOp

def text : BinaryOp → String
  | .arith op => op.text
  | .compare op => op.text
  | .lazy op => op.text

def level : BinaryOp → Nat
  | .lazy .or => 1
  | .lazy .and => 2
  | .compare _ => 3
  | .arith .bitOr => 4
  | .arith .bitXor => 5
  | .arith .bitAnd => 6
  | .arith .add => 7
  | .arith .sub => 7
  | .arith .mul => 8
  | .arith .div => 8
  | .arith .rem => 8

def ofSymbol? : Symbol → Option BinaryOp
  | .orOr => some (.lazy .or)
  | .andAnd => some (.lazy .and)
  | .equal => some (.compare .eq)
  | .notEqual => some (.compare .ne)
  | .greater => some (.compare .gt)
  | .less => some (.compare .lt)
  | .greaterEqual => some (.compare .ge)
  | .lessEqual => some (.compare .le)
  | .pipe => some (.arith .bitOr)
  | .caret => some (.arith .bitXor)
  | .ampersand => some (.arith .bitAnd)
  | .plus => some (.arith .add)
  | .minus => some (.arith .sub)
  | .star => some (.arith .mul)
  | .slash => some (.arith .div)
  | .percent => some (.arith .rem)
  | _ => none

end BinaryOp

inductive InfixOp where
  | assign
  | binary (op : BinaryOp)
deriving DecidableEq, Repr

namespace InfixOp

def level : InfixOp → Nat
  | .assign => 0
  | .binary op => op.level

def ofLexeme? : Lexeme → Option InfixOp
  | .symbol .assign => some .assign
  | .symbol s => (BinaryOp.ofSymbol? s).map .binary
  | _ => none

end InfixOp

def castLevel : Nat := 9

end MicroRust
