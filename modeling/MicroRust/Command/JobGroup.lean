/-! Jobs that run side by side, each on a result of its own.

A job is done piece by piece, and the pieces of different jobs come in any order. The first failure
gives the group up: jobs that have not begun return at once, and those that have go on. -/

namespace MicroRust

inductive JobEvent where
  | start (job : Nat)
  | advance (job : Nat)
deriving DecidableEq, Repr

abbrev Work (ε α : Type) := List (α → Except ε α)

def Work.finish {ε α : Type} (work : Work ε α) (result : α) : Except ε α :=
  work.foldlM (fun result piece => piece result) result

inductive JobPhase where
  | waiting | running | returned
deriving DecidableEq, Repr

structure Job (ε α : Type) where
  phase : JobPhase := .waiting
  work : Work ε α
  result : α

structure JobGroup (ε α : Type) where
  limit : Nat
  jobs : List (Job ε α)
  begun : List Nat := []
  failure : Option ε := none

namespace JobGroup

variable {ε α : Type}

/-- A group of which no more than `limit` jobs run at once, but always one. All results are the same
at first. -/
def ofWorks (limit : Int) (works : List (Work ε α)) (blank : α) : JobGroup ε α :=
  { limit := (max 1 limit).toNat
    jobs := works.map fun work => { work, result := blank } }

def running (g : JobGroup ε α) : Nat := g.jobs.countP (·.phase = .running)

def put (g : JobGroup ε α) (i : Nat) (job : Job ε α) : JobGroup ε α :=
  { g with jobs := g.jobs.set i job }

/-- A waiting job begins, or returns if the group has been given up. -/
def start (g : JobGroup ε α) (i : Nat) (job : Job ε α) : JobGroup ε α :=
  if g.failure.isSome then g.put i { job with phase := .returned }
  else { g.put i { job with phase := .running } with begun := g.begun ++ [i] }

def advance (g : JobGroup ε α) (i : Nat) (job : Job ε α) : JobGroup ε α :=
  match job.work with
  | [] => g.put i { job with phase := .returned }
  | piece :: work => match piece job.result with
    | .ok result => g.put i { job with work, result }
    | .error e =>
      { g.put i { job with phase := .returned } with failure := g.failure.or (some e) }

def step? (g : JobGroup ε α) : JobEvent → Option (JobGroup ε α)
  | .start i => match g.jobs[i]? with
    | some job =>
      if job.phase = .waiting ∧ g.running < g.limit then some (g.start i job) else none
    | none => none
  | .advance i => match g.jobs[i]? with
    | some job => if job.phase = .running then some (g.advance i job) else none
    | none => none

def run? (g : JobGroup ε α) : List JobEvent → Option (JobGroup ε α)
  | [] => some g
  | e :: es => (g.step? e).bind fun g => g.run? es

def isDone (g : JobGroup ε α) : Bool := g.jobs.all (·.phase = .returned)

def results (g : JobGroup ε α) : Except ε (List α) :=
  match g.failure with
  | some e => .error e
  | none => .ok (g.jobs.map (·.result))

end JobGroup

end MicroRust
