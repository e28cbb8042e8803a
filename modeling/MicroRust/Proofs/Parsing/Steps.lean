import MicroRust.Parsing.Run

/-! Sequences of steps, and how a whole parse is made of them. -/

namespace MicroRust.Parsing

def steps (c : Config) (ts : List Token) : Stepped := ts.foldlM step c

theorem steps_cons (c : Config) (t : Token) (ts : List Token) :
    steps c (t :: ts) = (step c t).bind (steps · ts) := rfl

theorem steps_append (c : Config) (ts us : List Token) :
    steps c (ts ++ us) = (steps c ts).bind (steps · us) :=
  List.foldlM_append

theorem steps_cons_of_ok {c d : Config} {t : Token} (h : step c t = .ok d) (ts : List Token) :
    steps c (t :: ts) = steps d ts := by
  rw [steps_cons, h]
  rfl

theorem exists_step_of_steps_cons {c d : Config} {t : Token} {ts : List Token}
    (h : steps c (t :: ts) = .ok d) : ∃ next, step c t = .ok next ∧ steps next ts = .ok d := by
  rw [steps_cons] at h
  cases hs : step c t with
  | error e =>
    rw [hs] at h
    cases h
  | ok next =>
    rw [hs] at h
    exact ⟨next, rfl, h⟩

theorem steps_append_of_ok {c d : Config} {ts : List Token} (h : steps c ts = .ok d)
    (us : List Token) : steps c (ts ++ us) = steps d us := by
  rw [steps_append, h]
  rfl

theorem run_of_steps {c d : Config} {ts : List Token} (h : steps c ts = .ok d)
    (hts : ∀ t ∈ ts, t.lexeme ≠ .eof) (rest : List Reading) :
    run c (ts.map .ok ++ rest) = run d rest := by
  induction ts generalizing c with
  | nil =>
    cases h
    rfl
  | cons t ts ih =>
    rw [steps_cons] at h
    cases hs : step c t with
    | error e =>
      rw [hs] at h
      cases h
    | ok next =>
      rw [hs] at h
      have ht : t.lexeme ≠ .eof := hts t (List.mem_cons_self ..)
      simp only [List.map_cons, List.cons_append, run, hs, if_neg ht]
      exact ih h fun u hu => hts u (List.mem_cons_of_mem _ hu)

theorem exists_steps_of_run_ok {c : Config} {stream : List Reading} {outcome : Outcome}
    (h : run c stream = .ok outcome) :
    ∃ ts eof rest d last, stream = ts.map .ok ++ .ok eof :: rest ∧
      (∀ t ∈ ts, t.lexeme ≠ .eof) ∧ eof.lexeme = .eof ∧ steps c ts = .ok d ∧
      step d eof = .ok last ∧
      outcome = ⟨last.items.reverse, last.recovered.reverse, eof.span.stop⟩ := by
  induction stream generalizing c with
  | nil => cases h
  | cons reading rest ih =>
    cases reading with
    | error failure => cases h
    | ok t =>
      cases hs : step c t with
      | error e => simp only [run, hs, reduceCtorEq] at h
      | ok next =>
        simp only [run, hs] at h
        split at h
        · rename_i heof
          cases h
          exact ⟨[], t, rest, c, next, rfl, by simp, heof, rfl, hs, rfl⟩
        · rename_i hne
          obtain ⟨ts, eof, rest', d, last, rfl, hts, he, hd, hl, ho⟩ := ih h
          exact ⟨t :: ts, eof, rest', d, last, rfl, List.forall_mem_cons.2 ⟨hne, hts⟩, he,
            by rw [steps_cons_of_ok hs, hd], hl, ho⟩

/-- The answer is a configuration, or says that `t` does not fit. -/
def Stepped.Blames (t : Token) : Stepped → Prop
  | .ok _ => True
  | .error e => ∃ expected, e = .unexpected t expected

@[simp] theorem blames_ok (t : Token) (c : Config) : Stepped.Blames t (.ok c) := trivial

@[simp] theorem blames_unexpected (t : Token) (expected : String) :
    Stepped.Blames t (unexpected t expected) := ⟨expected, rfl⟩

@[simp] theorem operandStep_blames (c : Config) (t : Token) : (operandStep c t).Blames t := by
  unfold operandStep
  split <;> simp

@[simp] theorem statementStep_blames (c : Config) (t : Token) : (statementStep c t).Blames t := by
  unfold statementStep
  split <;> simp

@[simp] theorem delimiterStep_blames (c : Config) (e : Expr) (t : Token) :
    (delimiterStep c e t).Blames t := by
  unfold delimiterStep
  repeat' split
  all_goals simp

@[simp] theorem operatorStep_blames (c : Config) (e : Expr) (t : Token) :
    (operatorStep c e t).Blames t := by
  unfold operatorStep
  repeat' split
  all_goals simp

@[simp] theorem bodyStep_blames (c : Config) (proto : Prototype) (t : Token) :
    (bodyStep c proto t).Blames t := by
  unfold bodyStep
  split <;> simp

@[simp] theorem patternStep_blames (c : Config) (t : Token) (next : Pattern → Control) :
    (patternStep c t next).Blames t := by
  unfold patternStep
  split <;> simp

@[simp] theorem symbolStep_blames (c : Config) (t : Token) (s : Symbol) (expected : String)
    (next : Control) : (symbolStep c t s expected next).Blames t := by
  unfold symbolStep
  split <;> simp

@[simp] theorem nameStep_blames (c : Config) (t : Token) (next : String → Control) :
    (nameStep c t next).Blames t := by
  unfold nameStep
  split <;> simp

theorem step_blames (c : Config) (t : Token) : (step c t).Blames t := by
  unfold step
  repeat' split
  all_goals simp

theorem exists_steps_of_run_unexpected {c : Config} {stream : List Reading} {actual : Token}
    {expected : String} (h : run c stream = .error (.unexpected actual expected)) :
    ∃ ts rest d, stream = ts.map .ok ++ .ok actual :: rest ∧ (∀ t ∈ ts, t.lexeme ≠ .eof) ∧
      steps c ts = .ok d ∧ step d actual = .error (.unexpected actual expected) := by
  induction stream generalizing c with
  | nil => cases h
  | cons reading rest ih =>
    cases reading with
    | error failure => cases failure <;> cases h
    | ok t =>
      cases hs : step c t with
      | error e =>
        simp only [run, hs, Except.error.injEq] at h
        have hb := step_blames c t
        rw [hs, h] at hb
        obtain ⟨_, hb⟩ := hb
        cases hb
        exact ⟨[], rest, c, rfl, by simp, rfl, by rw [hs, h]⟩
      | ok next =>
        simp only [run, hs] at h
        split at h
        · cases h
        · rename_i ht
          obtain ⟨ts, rest', d, rfl, hts, hd, hstep⟩ := ih h
          exact ⟨t :: ts, rest', d, rfl, List.forall_mem_cons.2 ⟨ht, hts⟩,
            by rw [steps_cons_of_ok hs, hd], hstep⟩

section

variable {t : Token} (h : t.lexeme = .eof)
include h

theorem operandStep_eof (c : Config) : operandStep c t = unexpected t "<expr>" := by
  simp [operandStep, h]

theorem statementStep_eof (c : Config) : statementStep c t = unexpected t "<expr>" := by
  simp [statementStep, h, operandStep_eof h]

theorem delimiterStep_eof (c d : Config) (e : Expr) : delimiterStep c e t ≠ .ok d := by
  unfold delimiterStep
  split <;> simp [h, statementStep_eof h, unexpected]

theorem operatorStep_eof (c d : Config) (e : Expr) : operatorStep c e t ≠ .ok d := by
  simp [operatorStep, h, InfixOp.ofLexeme?, delimiterStep_eof h]

theorem bodyStep_eof (c d : Config) (proto : Prototype) : bodyStep c proto t ≠ .ok d := by
  unfold bodyStep
  split <;> simp_all [unexpected]

theorem step_eof {c d : Config} (hs : step c t = .ok d) : c.control = .item ∧ d = c := by
  unfold step at hs
  split at hs
  case h_1 hk =>
    simp only [h] at hs
    cases hs
    exact ⟨hk, rfl⟩
  -- A `let` without `;` goes on to the next statement, which cannot begin with the end of the file.
  case h_20 =>
    exfalso
    split at hs <;> simp_all [unexpected, statementStep_eof]
  all_goals
    exfalso
    simp_all [unexpected, nameStep, symbolStep, patternStep, operandStep_eof, statementStep_eof,
      operatorStep_eof, bodyStep_eof, beginsOperand]

end

end MicroRust.Parsing
