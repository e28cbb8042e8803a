import MicroRust.Diagnostic.Basic

/-! The diagnostics of one file, collected under a policy. -/

namespace MicroRust

/-- What is collected: codes that are dropped, how many errors are kept (no limit unless positive),
and whether warnings count as errors. -/
structure Policy where
  ignoreCodes : List String := []
  maxErrors : Int := 0
  warningsAsErrors : Bool := false
deriving Repr

structure Engine where
  filename : String
  policy : Policy
  diagnostics : List Diagnostic := []
  truncated : Bool := false
deriving Repr

namespace Engine

def errors (e : Engine) : List Diagnostic := e.diagnostics.filter (·.severity = .error)

def warnings (e : Engine) : List Diagnostic := e.diagnostics.filter (·.severity = .warning)

def hasErrors (e : Engine) : Bool := !e.errors.isEmpty

def limitReached (e : Engine) : Bool :=
  0 < e.policy.maxErrors && e.policy.maxErrors ≤ e.errors.length

def promote (policy : Policy) (d : Diagnostic) : Diagnostic :=
  if policy.warningsAsErrors then { d with severity := .error } else d

/-- Takes a diagnostic. Beyond the limit errors are dropped, and the first one dropped leaves a
mark. -/
def add (e : Engine) (d : Diagnostic) : Engine :=
  if e.policy.ignoreCodes.contains d.code then e
  else
    let d := promote e.policy d
    if d.severity = .error && e.limitReached then
      if e.truncated then e
      else { e with
        diagnostics := e.diagnostics ++ [.tooMany e.policy.maxErrors]
        truncated := true }
    else { e with diagnostics := e.diagnostics ++ [d] }

def addAll (e : Engine) (ds : List Diagnostic) : Engine := ds.foldl add e

/-- Whether `a` comes strictly before `b`: first by having a place, then by line, column and
severity. -/
def precedes (a b : Diagnostic) : Bool :=
  if a.hasSpan != b.hasSpan then a.hasSpan
  else if a.span.start.line ≠ b.span.start.line then a.span.start.line < b.span.start.line
  else if a.span.start.column ≠ b.span.start.column then
    a.span.start.column < b.span.start.column
  else a.severity.rank < b.severity.rank

def sort (e : Engine) : Engine :=
  { e with diagnostics := e.diagnostics.mergeSort fun a b => !precedes b a }

end Engine

end MicroRust
