import MicroRust.Proofs.Descent.Items

/-! The procedures parse what the parser parses, and they come back. -/

namespace MicroRust.Descent

open Parsing

variable {target : Except ParseError Outcome}

theorem Production.leads_none (p : Production) (s : Feed) : p.Leads target s none := by
  cases p with
  | static inForeign =>
    cases inForeign <;> simp only [Production.Leads, Descent.Leads, implies_true]
  | _ => simp only [Production.Leads, Operand, Descent.Leads, implies_true]

theorem Production.leads_body {callee : (p : Production) → Feed → Answer p.Result}
    (hcallee : ∀ (p : Production) (s : Feed), p.Leads target s (callee p s)) (p : Production)
    (s : Feed) : p.Leads target s (p.body.eval callee s) := by
  cases p with
  | items done => exact leads_items hcallee done
  | function => exact leads_function hcallee
  | prototype => exact leads_prototype hcallee
  | params done => exact leads_params hcallee done
  | param => exact leads_param
  | static inForeign => exact leads_static hcallee inForeign
  | foreign => exact leads_foreign hcallee
  | foreignItems done => exact leads_foreignItems hcallee done
  | foreignFunction => exact leads_foreignFunction hcallee
  | block => exact leads_block hcallee
  | statements start stmts tail => exact leads_statements hcallee start stmts tail
  | binding => exact leads_binding hcallee
  | level n => exact leads_level hcallee n
  | rest n lhs => exact leads_rest hcallee n lhs
  | casts operand => exact leads_casts hcallee operand
  | unary => exact leads_unary hcallee
  | primary => exact leads_primary hcallee
  | pathOrCall => exact leads_pathOrCall hcallee
  | arguments done => exact leads_arguments hcallee done
  | grouped => exact leads_grouped hcallee
  | conditional => exact leads_conditional hcallee
  | loop => exact leads_loop hcallee
  | whileLoop => exact leads_whileLoop hcallee
  | unsafeBlock => exact leads_unsafeBlock hcallee
  | ret => exact leads_ret hcallee

theorem Production.leads_eval (depth : Nat) (p : Production) (s : Feed) :
    p.Leads target s (p.eval depth s) := by
  induction depth generalizing p s with
  | zero => exact p.leads_none s -- No answer leads anywhere.
  | succ depth ih => exact leads_body ih p s

theorem leads_file (depth : Nat) (stream : List Reading) :
    Leads (run .initial stream)
      (fun r s => run .initial stream = .ok ⟨r.1, s.recovered.reverse, r.2.span.stop⟩)
      (file.eval (Production.eval depth) { readings := stream }) := by
  refine leads_call (Production.leads_eval depth (.items []) _ rfl) ?_
  rintro items s ⟨⟨span, hahead⟩, h⟩
  refine leads_look_ahead hahead (leads_take (leads_done ?_))
  rw [Feed.Reaches, Feed.stream_of_ahead hahead] at h
  simp only [run, step, waiting, List.reverse_reverse] at h
  exact h.symm

/-- What comes of calling the procedures is what the parse comes to. -/
theorem descend_eq_parse {depth : Nat} {name : String} {stream : List Reading}
    {x : Except ParseError Crate} {s : Feed} (h : descend depth name stream = some (x, s)) :
    x = parse name stream := by
  have hfile := leads_file depth stream
  rw [descend] at h
  rcases hx : file.eval (Production.eval depth) { readings := stream } with
    _ | ⟨e | ⟨items, eof⟩, s'⟩ <;> rw [hx] at h hfile
  · cases h
  · have hrun : run .initial stream = .error e := hfile
    cases h
    simp only [parse, hrun]
  · have hrun : run .initial stream = .ok ⟨items, s'.recovered.reverse, eof.span.stop⟩ := hfile
    cases hrecovered : s'.recovered.reverse with
    | nil =>
      simp only [hrecovered] at h
      cases h
      simp only [parse, hrun, hrecovered]
    | cons e errors =>
      simp only [hrecovered] at h
      cases h
      simp only [parse, hrun, hrecovered]

def depthBound (stream : List Reading) : Nat := rankBound * (tokenCount stream + 1)

theorem measure_items_lt (stream : List Reading) :
    (Production.items []).measure { readings := stream } < depthBound stream := by
  rw [depthBound, Nat.mul_succ]
  exact Nat.add_lt_add_left (Production.rank_lt _) _

theorem exists_eval_file (stream : List Reading) :
    ∃ x, file.eval (Production.eval (depthBound stream)) { readings := stream } = some x ∧
      x.2.requests ≤ tokenCount stream + 1 := by
  have hstart : Feed.limit { readings := stream } = tokenCount stream + 1 :=
    congrArg (· + 1) (Nat.zero_add _)
  obtain ⟨⟨result, s⟩, hx, hreturned⟩ := Production.exists_eval (measure_items_lt stream)
  cases result with
  | error e => exact ⟨_, Prog.eval_call_error hx, hstart ▸ hreturned⟩
  | ok items =>
    obtain ⟨-, hlimit, -⟩ := hreturned
    rw [hstart] at hlimit
    have hfile : file.eval (Production.eval (depthBound stream)) { readings := stream } =
        (Prog.peek fun eof => .drop (.done (items, eof))).eval
          (Production.eval (depthBound stream)) s := Prog.eval_call hx
    rcases s.peek_cases with ⟨t, s', hpeek, -, -, -, hlimit'⟩ | ⟨e, s', hpeek, hrequests, -⟩
    · refine ⟨_, hfile.trans (Prog.eval_peek hpeek), ?_⟩
      exact Nat.le_trans s'.requests_le_limit (hlimit' ▸ hlimit)
    · exact ⟨_, hfile.trans (Prog.eval_peek_error hpeek), Nat.le_trans hrequests hlimit⟩

theorem exists_descend (name : String) (stream : List Reading) :
    ∃ s : Feed, s.requests ≤ tokenCount stream + 1 ∧
      ∀ depth, depthBound stream ≤ depth →
        descend depth name stream = some (parse name stream, s) := by
  obtain ⟨⟨result, s⟩, hx, hrequests⟩ := exists_eval_file stream
  refine ⟨s, hrequests, fun depth hdepth => ?_⟩
  have hfile := Prog.eval_mono (fun _ _ _ => Production.eval_mono hdepth) hx
  obtain ⟨y, hy⟩ : ∃ y, descend depth name stream = some (y, s) := by
    rw [descend, hfile]
    rcases result with e | ⟨items, eof⟩
    · exact ⟨_, rfl⟩
    · dsimp only
      split <;> exact ⟨_, rfl⟩
  exact descend_eq_parse hy ▸ hy

/-- The parse is total and does not spin. What is no round of a loop has taken a token when it gives
a result; a loop goes on to another round only with fewer tokens left; a call leaves fewer tokens,
or no more and a procedure of lower rank. So each procedure comes back, and what all of them make of
a file is its parse, with no more requests to the lexer than there are tokens and the end of the
file. -/
theorem parse_descends :
    (∀ (p : Production) (s : Feed) (depth : Nat) (a : p.Result) (s' : Feed),
      p.loop? = none → p.eval depth s = some (.ok a, s') → s'.left < s.left) ∧
    (∀ (p q : Production) (s u : Feed) (l : Loop), p.Calls s q u →
      p.loop? = some l → q.loop? = some l → u.left < s.left) ∧
    (∀ (p q : Production) (s u : Feed), p.Calls s q u →
      u.left < s.left ∨ u.left ≤ s.left ∧ q.rank < p.rank) ∧
    (∀ (p : Production) (s : Feed), ∃ x, ∀ depth, p.measure s < depth → p.eval depth s = some x) ∧
    ∀ (name : String) (stream : List Reading), ∃ s : Feed,
      s.requests ≤ tokenCount stream + 1 ∧ ∀ depth, depthBound stream ≤ depth →
        descend depth name stream = some (parse name stream, s) := by
  refine ⟨?_, ?_, ?_, ?_, exists_descend⟩
  · intro p s depth a s' hloop h
    exact (Production.returned_of_eval h).2.2 (p.takes_of_loop hloop)
  · exact fun p q s u l h hp hq => h.left_lt hp hq
  · exact fun p q s u h => h.below
  · intro p s
    obtain ⟨x, -, hx⟩ := p.exists_forall_eval s
    exact ⟨x, hx⟩

/-- The tokens of `static X: i32 = 1;`. -/
def staticTokens : List Reading :=
  [.keyword .staticWord, .identifier "X", .symbol .colon, .identifier "i32", .symbol .assign,
    .integer "1" 1, .symbol .semicolon, .eof].map fun l => .ok (unplaced l)

theorem parse_descends_staticTokens :
    (∃ (decl : MicroRust.Static) (s : Feed),
      (Production.static false).eval 20 { readings := staticTokens } = some (.ok decl, s) ∧
        s.left < 7) ∧
    (∃ (item : Item) (u : Feed),
      (Production.items []).Calls { readings := staticTokens } (.items [item]) u ∧ u.left < 7) ∧
    ∃ s : Feed, s.requests ≤ 8 ∧
      descend 120 "one" staticTokens = some (parse "one" staticTokens, s) := by
  obtain ⟨htakes, hloop, -, -, hparse⟩ := parse_descends
  have hstatic : ∃ (decl : MicroRust.Static) (s : Feed),
      (Production.static false).eval 20 { readings := staticTokens } = some (.ok decl, s) :=
    ⟨_, _, rfl⟩
  have hround : ∃ (item : Item) (u : Feed),
      (Production.items []).Calls { readings := staticTokens } (.items [item]) u :=
    ⟨_, _, 20, .inr ⟨_, _, rfl, .inl ⟨rfl, rfl⟩⟩⟩
  obtain ⟨decl, s, hstatic⟩ := hstatic
  obtain ⟨item, u, hround⟩ := hround
  obtain ⟨s', hrequests, hdescend⟩ := hparse "one" staticTokens
  exact ⟨⟨decl, s, hstatic, htakes _ _ _ _ _ rfl hstatic⟩,
    ⟨item, u, hround, hloop _ _ _ _ .items hround rfl rfl⟩,
    s', hrequests, hdescend 120 (Nat.le_refl 120)⟩

end MicroRust.Descent
