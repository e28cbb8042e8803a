import MicroRust.Text.Quoted

/-! What the program says about itself. -/

namespace MicroRust

open Text

structure BuildInfo where
  version : String := "0.1.0"
  date : String := "2026-10-01"
  commit : String := "unknown"
  language : String
  platform : String
  arch : String
deriving DecidableEq, Repr

/-- A character inside a JSON string. Besides what has to be escaped, so are the characters that
mean something in a web page. -/
def jsonChar (c : Char) : List Char :=
  match c with
  | '"' => ['\\', '"']
  | '\\' => ['\\', '\\']
  | '\x08' => ['\\', 'b']
  | '\x0C' => ['\\', 'f']
  | '\n' => ['\\', 'n']
  | '\r' => ['\\', 'r']
  | '\t' => ['\\', 't']
  | c =>
    if c.toNat < 0x20 || c = '<' || c = '>' || c = '&' || c = '\u2028' || c = '\u2029' then
      '\\' :: 'u' :: hexDigits 4 c.toNat
    else [c]

def jsonString (s : String) : String :=
  String.ofList ('"' :: s.toList.flatMap jsonChar ++ ['"'])

namespace BuildInfo

def text (b : BuildInfo) (tool : String) : String :=
  s!"{tool} v{b.version}\nBuild Date: {b.date}\n" ++
    (if b.commit = "unknown" || b.commit.isEmpty then "" else s!"Commit: {b.commit}\n") ++
    s!"Go Version: {b.language}\nPlatform: {b.platform}/{b.arch}\n"

def json (b : BuildInfo) (tool : String) : String :=
  let entry (name value : String) : String := s!"    \"{name}\": " ++ jsonString value
  "\x7b\n  \"tool\": " ++ jsonString tool ++ ",\n  \"version_info\": \x7b\n" ++
    ",\n".intercalate [entry "version" b.version, entry "build_date" b.date,
      entry "commit_sha" b.commit, entry "go_version" b.language,
      entry "platform" b.platform, entry "arch" b.arch] ++
    "\n  \x7d\n\x7d\n"

end BuildInfo

end MicroRust
