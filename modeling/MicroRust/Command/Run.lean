import MicroRust.Command.Check
import MicroRust.Text.Table

/-! The commands of the program. -/

namespace MicroRust

open Text

structure Transcript where
  exit : Nat := 0
  stdout : List Glyph := []
  stderr : List Glyph := []

namespace Transcript

def usage (text : String) : Transcript :=
  { exit := 2, stderr := glyphs s!"usage: murustc {text}\n" }

def failure (message : String) : Transcript :=
  { exit := 1, stderr := glyphs s!"Error: {message}\n" }

end Transcript

namespace Command

def tokenTable (tokens : List Token) : Table :=
  ⟨["KIND", "TEXT", "SPAN"], tokens.map fun t => [t.kind.name, t.literal, t.span.text]⟩

def lexFile (here : Surroundings) (s : Session) (path : String) : Transcript :=
  match openSource here.files path with
  | .error cause => .failure (openFailure path cause)
  | .ok source =>
    let (tokens, failure) := tokensUntilFailure source.readings
    let table := glyphs (tokenTable tokens).text
    match failure with
    | none => ⟨0, table, glyphs (s.logger.log here.time .info s!"{path}: {tokens.length} tokens")⟩
    | some e =>
      let engine := ({ filename := path, policy := s.policy } : Engine).add (.ofLexFailure e)
      ⟨1, table, Report.text s.style (some (.ofBytes path source.content)) engine⟩

def parseFile (here : Surroundings) (s : Session) (decls : Bool) (path : String) : Transcript :=
  let result := s.frontEnd here.files path
  match result.compiled with
  | none => ⟨1, [], result.output⟩
  | some (c, m) =>
    let shown := if decls then m.text else String.join (c.outline.lines.map (· ++ "\n"))
    ⟨0, glyphs shown, result.output⟩

def checkReport (here : Surroundings) (s : Session) (begun : List String) (result : CheckResult) :
    Transcript :=
  let log (level : LogLevel) (message : String) : List Glyph :=
    glyphs (s.logger.log here.time level message)
  let started := begun.flatMap fun path => log .debug s!"checking {path}"
  let counted := log .info s!"checked {result.checked} file(s), {result.failed} failed"
  let stopped := if 0 < result.truncated then
      log .warn (s!"{result.truncated} file(s) stopped after {s.settings.maxErrors} errors, " ++
        "raise MaxErrors to see the rest")
    else []
  ⟨if 0 < result.failed then 1 else 0, [], started ++ result.output ++ counted ++ stopped⟩

def checkAll (here : Surroundings) (s : Session) (paths : List String) : Transcript :=
  checkReport here s paths (checkFiles s here.files paths)

/-- Reports on files that are checked as jobs under a schedule, if that brings all of them to their
end. -/
def checkScheduled (here : Surroundings) (s : Session) (limit : Int) (paths : List String)
    (schedule : List JobEvent) : Option Transcript := do
  let group ← (checkGroup s here.files limit paths).run? schedule
  if group.isDone then
    match group.results with
    | .ok checks =>
      return checkReport here s (group.begun.map fun i => paths.getD i "") (.ofChecks checks)
    | .error e => return .failure e
  else none

def watchFile (here : Surroundings) (s : Session) (path : String) : Transcript :=
  ⟨0, [], (checkFile s here.files path).output ++
    glyphs (s.logger.log here.time .info s!"watching {path}")⟩

def withSession (here : Surroundings) (o : Options) (run : Session → Transcript) : Transcript :=
  match Session.start here o with
  | .ok s => run s
  | .error e => .failure e.message

/-- Runs a command. Whether it was called in the right way is settled before the settings are
read. -/
def run (here : Surroundings) (o : Options) : Command → Transcript
  | .lex [path] => withSession here o fun s => lexFile here s path
  | .lex _ => .usage "lex <file.mrs>"
  | .parse decls [path] => withSession here o fun s => parseFile here s decls path
  | .parse _ _ => .usage "parse <file.mrs>"
  | .check _ [] => .usage "check <file.mrs>..."
  | .check _ paths => withSession here o fun s => checkAll here s paths
  | .watch [path] => withSession here o fun s => watchFile here s path
  | .watch _ => .usage "watch <file.mrs>"
  | .version json =>
    let build := here.build
    { stdout := glyphs (if json then build.json "murustc" else build.text "murustc") }
  | .unknown => .usage "[flags] lex|parse|check|watch|version ..."

end Command

def runProgram (here : Surroundings) (words : List String) : Transcript :=
  match Arguments.read words with
  | .ok arguments => arguments.command.run here arguments.options
  | .error e => .failure e.message

def pathsRead (words : List String) : List String :=
  match Arguments.read words with
  | .error _ => []
  | .ok ⟨options, command⟩ => options.config :: match command with
    | .lex paths => paths
    | .parse _ paths => paths
    | .check _ paths => paths
    | .watch paths => paths
    | .version _ => []
    | .unknown => []

end MicroRust
