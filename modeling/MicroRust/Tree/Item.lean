import MicroRust.Tree.Expr

/-! Items and crates. -/

namespace MicroRust

structure Param where
  span : Span
  mutable : Bool
  pattern : Pattern
  type : TypeRef
deriving DecidableEq, Repr

structure Prototype where
  span : Span
  name : String
  params : List Param
  result : TypeRef
deriving DecidableEq, Repr

structure Static where
  span : Span
  name : String
  mutable : Bool
  type : TypeRef
  init : Option Expr

structure Function where
  span : Span
  proto : Prototype
  body : Block

inductive ForeignItem where
  | prototype (proto : Prototype)
  | static (decl : Static)

structure ForeignBlock where
  span : Span
  abi : String
  items : List ForeignItem

inductive Item where
  | function (fn : Function)
  | static (decl : Static)
  | foreign (block : ForeignBlock)

structure Crate where
  name : String
  items : List Item
  span : Span

def baseName (path : String) : String :=
  if path.isEmpty then "."
  else
    let trimmed := (path.toList.reverse.dropWhile (· = '/')).takeWhile (· != '/')
    if trimmed.isEmpty then "/" else String.ofList trimmed.reverse

def crateName (path : String) : String :=
  let base := (baseName path).toList
  if base.contains '.' then String.ofList ((base.reverse.dropWhile (· != '.')).drop 1).reverse
  else String.ofList base

end MicroRust
