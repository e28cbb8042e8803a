import MicroRust.Token.Error
import MicroRust.Tree.Capability

/-! What can be wrong with the tokens of a source.

A fatal error ends parsing. A recovered one is noted and parsing goes on; a file with recovered
errors has no tree either. -/

namespace MicroRust

open Text

inductive Recovered where
  | wrongRole (span : Span) (expected actual : Capability) (slot : String)
  | staticWithoutInit (span : Span)
  | externStaticWithInit (span : Span)
  | externFunctionWithBody (span : Span)
  | unclassified (number : Int) (span : Span)
  | missingToken (expected : TokenKind) (place : Position)
  | unsupportedAbi (span : Span) (abi : String)
deriving DecidableEq, Repr

namespace Recovered

def ruleNames : List String :=
  ["wrong expression kind", "static item without initializer", "extern static with initializer",
    "extern function with body"]

def ruleNameOf (n : Int) : String := (numbered? ruleNames n).getD s!"SemanticKind({n})"

def rule? : Recovered → Option Int
  | .wrongRole _ _ _ _ => some 0
  | .staticWithoutInit _ => some 1
  | .externStaticWithInit _ => some 2
  | .externFunctionWithBody _ => some 3
  | .unclassified n _ => some n
  | .missingToken _ _ => none
  | .unsupportedAbi _ _ => none

def ofRule (n : Int) (span : Span) (expected actual : Capability) (slot : String) : Recovered :=
  if n = 0 then .wrongRole span expected actual slot
  else if n = 1 then .staticWithoutInit span
  else if n = 2 then .externStaticWithInit span
  else if n = 3 then .externFunctionWithBody span
  else .unclassified n span

def span : Recovered → Span
  | .wrongRole span _ _ _ => span
  | .staticWithoutInit span => span
  | .externStaticWithInit span => span
  | .externFunctionWithBody span => span
  | .unclassified _ span => span
  | .missingToken _ place => Span.point place
  | .unsupportedAbi span _ => span

def message : Recovered → String
  | .wrongRole span expected actual slot =>
    s!"{ruleNameOf 0} at {span.text}: {slot} must be {expected.withArticle} expression, " ++
      s!"found {actual.text}"
  | .staticWithoutInit span => s!"{ruleNameOf 1} at {span.text}"
  | .externStaticWithInit span => s!"{ruleNameOf 2} at {span.text}"
  | .externFunctionWithBody span => s!"{ruleNameOf 3} at {span.text}"
  | .unclassified n span => s!"{ruleNameOf n} at {span.text}"
  | .missingToken expected place => s!"missing '{expected.name}' at {place.text}"
  | .unsupportedAbi span abi => s!"unsupported ABI {quoted abi} at {span.text}"

end Recovered

inductive ParseError where
  /-- The tokens came to their end without the token for the end of the file. -/
  | endOfTokens
  | unexpected (actual : Token) (expected : String)
  | lexical (e : LexError)
  | unreadable (name reason : String)
  | recovered (errors : List Recovered)
deriving DecidableEq, Repr

namespace ParseError

def kindNames : List String :=
  ["unexpected end of file", "unexpected token", "lexical error", "aggregated errors"]

def kindNameOf (n : Int) : String := (numbered? kindNames n).getD s!"ErrorKind({n})"

def ofFailure : LexFailure → ParseError
  | .lexical e => .lexical e
  | .unreadable name reason => .unreadable name reason

def message : ParseError → String
  | .endOfTokens => kindNameOf 0
  | .unexpected actual expected => s!"unexpected token {actual.text}, expected {expected}"
  | .lexical e => e.message
  | .unreadable name reason => (LexFailure.unreadable name reason).message
  | .recovered errors =>
    s!"{errors.length} error(s): " ++ "; ".intercalate (errors.map Recovered.message)

end ParseError

end MicroRust
