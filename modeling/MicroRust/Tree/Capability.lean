/-! The roles an expression may fill. -/

namespace MicroRust

structure Capability where
  bits : UInt8
deriving DecidableEq, Repr

namespace Capability

def place : Capability := ⟨1⟩

def value : Capability := ⟨2⟩

def assignee : Capability := ⟨4⟩

def union (c d : Capability) : Capability := ⟨c.bits ||| d.bits⟩

def has (c d : Capability) : Bool := c.bits &&& d.bits == d.bits

def isValid (c : Capability) : Bool := !c.has place || c.has assignee

def text (c : Capability) : String :=
  let roles := (if c.has place then ["place"] else []) ++ (if c.has value then ["value"] else []) ++
    (if c.has assignee then ["assignee"] else [])
  if roles.isEmpty then "none" else "|".intercalate roles

def withArticle (c : Capability) : String :=
  (if c = assignee then "an " else "a ") ++ c.text

end Capability

end MicroRust
