/-! Files by path, and why one cannot be read. -/

namespace MicroRust

inductive FileError where
  | missing
  | notDirectory
  | nameTooLong
  | invalidPath
  | directory
deriving DecidableEq, Repr

namespace FileError

def message (path : String) : FileError → String
  | .missing => s!"open {path}: no such file or directory"
  | .notDirectory => s!"open {path}: not a directory"
  | .nameTooLong => s!"open {path}: file name too long"
  | .invalidPath => s!"open {path}: invalid argument"
  | .directory => s!"read {path}: is a directory"

def opens : FileError → Bool
  | .directory => true
  | _ => false

end FileError

abbrev Files := String → Except FileError (List UInt8)

/-- Where a path leads: to a place below the directory it starts from, or out of that directory. -/
inductive FilePlace where
  | inside (names : List String)
  | outside
deriving DecidableEq, Repr

namespace FilePlace

/-- The place one name further. Two dots lead up; nothing leads back in. -/
def further : FilePlace → String → FilePlace
  | place, "." => place
  | .inside names, ".." => if names.isEmpty then .outside else .inside names.dropLast
  | .inside names, name => .inside (names ++ [name])
  | .outside, _ => .outside

def isAbove : FilePlace → FilePlace → Bool
  | .inside above, .inside below => above.isPrefixOf below && above.length < below.length
  | .outside, .inside _ => true
  | _, .outside => false

end FilePlace

def pathNames (path : String) : List String := (path.splitOn "/").filter (!·.isEmpty)

def nameLimit : Nat := 255

def pathLimit : Nat := 4095

/-- The files of a directory, by their names relative to it. Around it are directories only. -/
structure FileTree where
  files : List (String × List UInt8)

namespace FileTree

def placeOf (name : String) : FilePlace := (pathNames name).foldl FilePlace.further (.inside [])

def find? (t : FileTree) (place : FilePlace) : Option (List UInt8) :=
  (t.files.find? fun f => placeOf f.1 = place).map (·.2)

def hasDirectory (t : FileTree) (place : FilePlace) : Bool :=
  place = .inside [] || place = .outside || t.files.any fun f => place.isAbove (placeOf f.1)

def step (t : FileTree) (place : FilePlace) (name : String) : Except FileError FilePlace :=
  if !t.hasDirectory place then
    .error (if (t.find? place).isSome then .notDirectory else .missing)
  else if nameLimit < name.utf8ByteSize then .error .nameTooLong
  else if place = .outside && name ≠ "." && name ≠ ".." then .error .missing
  else .ok (place.further name)

def read (t : FileTree) : Files := fun path =>
  if path.contains '\x00' then .error .invalidPath
  else if path.isEmpty then .error .missing
  else if pathLimit < path.utf8ByteSize then .error .nameTooLong
  else do
    let start := if path.startsWith "/" then .outside else .inside []
    let names := pathNames path ++ if path.endsWith "/" then ["."] else []
    let place ← names.foldlM t.step start
    if t.hasDirectory place then .error .directory
    else match t.find? place with
      | some content => .ok content
      | none => .error .missing

end FileTree

end MicroRust
