import MicroRust.Command.Run
import Std.Time.DateTime.Timestamp

/-! The command line of the front end. -/

namespace MicroRust

def twoDigits (n : Nat) : String := if n < 10 then s!"0{n}" else toString n

def timeOfDay (seconds : Nat) : String :=
  ":".intercalate [twoDigits (seconds / 3600 % 24), twoDigits (seconds / 60 % 60),
    twoDigits (seconds % 60)]

/-- The number by which the system says that a name is too long. -/
def nameTooLongCode : UInt32 := 36

/-- Reads a file, and says why that fails. A path that could be opened is no longer named when
reading it fails. -/
def readPath (path : String) : IO (Except FileError (List UInt8)) := do
  try
    return .ok (← IO.FS.readBinFile path).toList
  catch e => match e with
    | .inappropriateType none .. => return .error .directory
    | .inappropriateType (some _) .. => return .error .notDirectory
    | .invalidArgument _ code _ =>
      return .error (if code = nameTooLongCode then .nameTooLong else .invalidPath)
    | _ => return .error .missing

def writeTo (stream : IO.FS.Stream) (text : List Text.Glyph) : IO Unit := do
  stream.write ⟨(Text.encode text).toArray⟩
  stream.flush

end MicroRust

open MicroRust

def main (words : List String) : IO UInt32 := do
  let contents ← (pathsRead words).mapM fun path => return (path, ← readPath path)
  let now ← Std.Time.Timestamp.now
  let here : Surroundings :=
    { files := fun path => (contents.lookup path).getD (.error .missing)
      build := { language := "unknown", platform := "unknown", arch := "unknown" }
      time := timeOfDay now.toSecondsSinceUnixEpoch.val.toNat }
  let result := runProgram here words
  writeTo (← IO.getStdout) result.stdout
  writeTo (← IO.getStderr) result.stderr
  return result.exit.toUInt32
