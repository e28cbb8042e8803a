import MicroRust.Parsing.Error

/-! Diagnostics: coded messages about a source, and how errors become diagnostics. -/

namespace MicroRust

open Text

inductive Severity where
  | error | warning
deriving DecidableEq, Repr

namespace Severity

def all : List Severity := [.error, .warning]

def name : Severity → String
  | .error => "error"
  | .warning => "warning"

def rank : Severity → Nat
  | .error => 0
  | .warning => 1

def nameOf (n : Int) : String := ((numbered? all n).map name).getD "unknown"

end Severity

inductive Category where
  | lexical | syntactic | semantic | io
deriving DecidableEq, Repr

namespace Category

def all : List Category := [.lexical, .syntactic, .semantic, .io]

def name : Category → String
  | .lexical => "lexical"
  | .syntactic => "syntax"
  | .semantic => "semantic"
  | .io => "io"

def nameOf (n : Int) : String := ((numbered? all n).map name).getD "unknown"

end Category

structure Diagnostic where
  severity : Severity
  category : Category
  code : String
  title : String
  message : String
  notes : List String := []
  span : Span := Span.unknown
deriving DecidableEq, Repr

namespace Diagnostic

def hasSpan (d : Diagnostic) : Bool := d.span.start.isValid

def unreadable (message : String) : Diagnostic :=
  { severity := .error, category := .io, code := "E0002", title := "Cannot read source", message }

def tooMany (limit : Int) : Diagnostic :=
  { severity := .error, category := .lexical, code := "E0001", title := "Too many errors",
    message := s!"Stopping after {limit} errors" }

def declaration (message : String) : Diagnostic :=
  { severity := .error, category := .semantic, code := "E2101", title := "Invalid declaration",
    message }

def ofLexError (e : LexError) : Diagnostic :=
  let about (code title message : String) : Diagnostic :=
    { severity := .error, category := .lexical, code, title, message, span := e.span }
  match e.cause with
  | .invalidInteger digits =>
    about "E0101" "Invalid integer literal" s!"'{digits}' is not a valid i32"
  | .invalidFloat digits => about "E0102" "Invalid float literal" s!"'{digits}' is not a valid f64"
  | .unterminated _ => about "E0103" "Unterminated string" "Missing closing '\"'"
  | .unknownCharacter c => about "E0104" "Unknown token" s!"Unexpected character {quotedChar c}"
  | .unclassified _ c => about "E0104" "Unknown token" s!"Unexpected character {quotedChar c}"

def ofLexFailure : LexFailure → Diagnostic
  | .lexical e => ofLexError e
  | .unreadable name reason => unreadable (LexFailure.unreadable name reason).message

def ofRecovered (e : Recovered) : Diagnostic :=
  let about (code title message : String) (notes : List String) : Diagnostic :=
    { severity := .error, category := .semantic, code, title, message, notes, span := e.span }
  match e with
  | .wrongRole _ expected actual slot =>
    about "E2001" "Wrong expression kind"
      (s!"The {slot} must be {expected.withArticle} expression, " ++
        s!"found {actual.text} expression") []
  | .staticWithoutInit _ =>
    about "E2002" "Static without initializer" "Static items must be initialized"
      ["add '= <expr>' before the ';'"]
  | .externStaticWithInit _ =>
    about "E2003" "Extern static with initializer" "Statics in extern blocks cannot be initialized"
      []
  | .externFunctionWithBody _ =>
    about "E2004" "Extern function with body" "Functions in extern blocks cannot have a body" []
  | .unclassified _ _ => about "E2999" "Error" e.message []
  | .missingToken expected _ =>
    { severity := .error, category := .syntactic, code := "E1003", title := "Missing token",
      message := s!"Expected '{expected.name}'", span := e.span }
  | .unsupportedAbi _ abi =>
    about "E2005" "Unsupported ABI" s!"ABI {quoted abi} is not supported"
      ["only \"C\" is supported"]

def ofParseError : ParseError → List Diagnostic
  | .recovered errors => errors.map ofRecovered
  | .lexical e => [ofLexError e]
  | .unreadable name reason => [ofLexFailure (.unreadable name reason)]
  | .unexpected actual expected =>
    let found := if actual.lexeme = .eof then "end of file" else s!"'{actual.literal}'"
    [{ severity := .error, category := .syntactic, code := "E1001", title := "Unexpected token",
       message := s!"Expected {expected}, found {found}", span := actual.span }]
  | .endOfTokens =>
    [{ severity := .error, category := .syntactic, code := "E1002",
       title := "Unexpected end of file",
       message := "The token stream ended before parsing finished" }]

end Diagnostic

end MicroRust
