import MicroRust.Proofs.Descent.Program

/-! Calls come back.

A body that is looked through once, from its start to its ends, shows that it calls only after a
token has been taken, or else a procedure of lower rank, and that it ends only after a token has
been taken, unless it is a loop that may end at once. From this it follows that calls descend in the
number of tokens left and the rank, so that there is a last one. -/

namespace MicroRust.Descent

open Parsing

/-- The number of tokens up to the end of the file, or to what cannot be read. -/
def tokenCount : List Reading → Nat
  | .ok t :: rest => if t.lexeme = .eof then 0 else tokenCount rest + 1
  | _ => 0

namespace Feed

def stream (s : Feed) : List Reading := s.ahead.toList.map .ok ++ s.readings

/-- The number of tokens left. -/
def left (s : Feed) : Nat := tokenCount s.stream

/-- The requests made, and those that the tokens left can lead to. -/
def limit (s : Feed) : Nat := s.requests + s.left + if s.ahead.isNone then 1 else 0

variable {s : Feed} {t : Token}

theorem stream_of_ahead (h : s.ahead = some t) : s.stream = .ok t :: s.readings := by
  rw [stream, h]
  rfl

theorem peek_of_ahead (h : s.ahead = some t) : s.peek = (.ok t, s) := by
  rw [peek, h]

theorem requests_le_limit (s : Feed) : s.requests ≤ s.limit := by
  rw [limit, Nat.add_assoc]
  exact Nat.le_add_right ..

theorem peek_cases (s : Feed) :
    (∃ t s', s.peek = (.ok t, s') ∧ s'.ahead = some t ∧ s'.stream = s.stream ∧
      s'.recovered = s.recovered ∧ s'.limit = s.limit) ∨
    ∃ e s', s.peek = (.error e, s') ∧ s'.requests ≤ s.limit ∧
      ∀ c, run c s.stream = .error e := by
  obtain ⟨readings, ahead, recovered, requests⟩ := s
  cases ahead with
  | some t => exact .inl ⟨t, _, rfl, rfl, rfl, rfl, rfl⟩
  | none =>
    cases readings with
    | nil => exact .inr ⟨_, _, rfl, Nat.le_refl _, fun _ => rfl⟩
    | cons reading readings =>
      cases reading with
      | ok t =>
        refine .inl ⟨t, _, rfl, rfl, rfl, rfl, ?_⟩
        exact Nat.add_right_comm requests 1 _
      | error failure => exact .inr ⟨_, _, rfl, Nat.le_refl _, fun _ => rfl⟩

theorem left_drop (h : s.ahead = some t) (ht : t.lexeme ≠ .eof) : s.left = s.drop.left + 1 := by
  rw [left, stream_of_ahead h, tokenCount, if_neg ht]
  rfl

theorem limit_drop (h : s.ahead = some t) (ht : t.lexeme ≠ .eof) : s.drop.limit = s.limit := by
  rw [limit, limit, left_drop h ht, h]
  rfl

theorem left_eq_of_stream {s' : Feed} (h : s'.stream = s.stream) : s'.left = s.left :=
  congrArg tokenCount h

end Feed

/-- The rank of a procedure. Among expressions, the looser the operators the higher it is; what
begins by reading an expression stands above them, and what begins with a token of its own below. -/
def Production.rank : Production → Nat
  | statements _ _ _ | arguments _ => castLevel + 5
  | level n => castLevel - n + 3
  | unary => 2
  | items _ | foreignItems _ | params _ => 2
  | primary | function | foreignFunction => 1
  | _ => 0

def rankBound : Nat := castLevel + 6

theorem Production.rank_lt (p : Production) : p.rank < rankBound := by
  cases p <;> simp only [rank, rankBound] <;> omega

/-- Whether a procedure takes a token whenever it gives a result. A round of a loop may be the last
one, and leave the next token to others. -/
def Production.takes : Production → Bool
  | items _ | params _ | foreignItems _ | rest _ _ | casts _ | arguments _ => false
  | _ => true

inductive Loop where
  | items
  | params
  | foreignItems
  | statements
  | operators (n : Nat)
  | casts
  | arguments

/-- The loop that a procedure is a round of. -/
def Production.loop? : Production → Option Loop
  | items _ => some .items
  | params _ => some .params
  | foreignItems _ => some .foreignItems
  | statements _ _ _ => some .statements
  | rest n _ => some (.operators n)
  | casts _ => some .casts
  | arguments _ => some .arguments
  | _ => none

theorem Production.takes_of_loop (p : Production) (h : p.loop? = none) : p.takes = true := by
  cases p <;> first | rfl | cases h

def Loop.rank : Loop → Nat
  | statements | arguments => castLevel + 5
  | items | foreignItems | params => 2
  | operators _ | casts => 0

theorem Production.rank_of_loop {p : Production} {l : Loop} (h : p.loop? = some l) :
    p.rank = l.rank := by
  cases p <;> cases h <;> rfl

/-- Tokens left first, and then the rank. -/
def Production.Below (q : Production) (u : Feed) (left rank : Nat) : Prop :=
  u.left < left ∨ u.left ≤ left ∧ q.rank < rank

def Production.measure (p : Production) (s : Feed) : Nat := rankBound * s.left + p.rank

theorem Production.Below.measure_lt {q p : Production} {u s : Feed}
    (h : q.Below u s.left p.rank) : q.measure u < p.measure s := by
  have hrank := q.rank_lt
  unfold measure
  rcases h with hleft | ⟨hleft, hlt⟩
  · have hmul := Nat.mul_le_mul_left rankBound (Nat.succ_le_of_lt hleft)
    rw [Nat.mul_succ] at hmul
    omega
  · have hmul := Nat.mul_le_mul_left rankBound hleft
    omega

namespace Prog

variable {α β : Type}

/-- What a body does from a point on: `taken` tells whether a token has been taken before, and
`ahead` the next token if it is known. A call needs a token to have been taken, or a lower rank.
What is taken is no end of the file, or else the parse fails at once. -/
def Checked (rank : Nat) (post : Bool → Option Token → α → Prop) :
    Prog α → (taken : Bool) → (ahead : Option Token) → Prop
  | done a, taken, ahead => post taken ahead a
  | fail _, _, _ => True
  | peek next, taken, some t => (next t).Checked rank post taken (some t)
  | peek next, taken, none => ∀ t, (next t).Checked rank post taken (some t)
  | drop next, _, some t =>
    (t.lexeme = .eof → ∃ e, next = fail e) ∧
      (t.lexeme ≠ .eof → next.Checked rank post true none)
  | drop _, _, none => False
  | note _ next, taken, ahead => next.Checked rank post taken ahead
  | call p next, taken, _ =>
    (taken = true ∨ p.rank < rank) ∧ ∀ a, (next a).Checked rank post (taken || p.takes) none

variable {rank : Nat} {post : Bool → Option Token → β → Prop} {taken : Bool} {ahead : Option Token}

theorem checked_bind {x : Prog α} {f : α → Prog β}
    (h : x.Checked rank (fun taken ahead a => (f a).Checked rank post taken ahead) taken ahead) :
    (x >>= f).Checked rank post taken ahead := by
  change (x.bind f).Checked rank post taken ahead
  induction x generalizing taken ahead with
  | done a => exact h
  | fail e => trivial
  | peek next ih =>
    cases ahead with
    | some t => exact ih t h
    | none => exact fun t => ih t (h t)
  | drop next ih =>
    cases ahead with
    | some t =>
      refine ⟨?_, fun ht => ih (h.2 ht)⟩
      intro ht
      obtain ⟨e, rfl⟩ := h.1 ht
      exact ⟨e, rfl⟩
    | none => exact h
  | note e next ih => exact ih h
  | call p next ih => exact ⟨h.1, fun a => ih a (h.2 a)⟩

variable {f : α → Prog β}

theorem checked_done {b : β} (h : post taken ahead b) :
    (pure b : Prog β).Checked rank post taken ahead := h

theorem checked_look {f : Token → Prog β}
    (h : ∀ t, (f t).Checked rank post taken (some t)) :
    (look >>= f).Checked rank post taken ahead := by
  cases ahead with
  | some t => exact h t
  | none => exact h

theorem checked_take {f : Unit → Prog β} {t : Token} (ht : t.lexeme ≠ .eof)
    (h : (f ()).Checked rank post true none) :
    (take >>= f).Checked rank post taken (some t) :=
  ⟨fun heof => absurd heof ht, fun _ => h⟩

theorem checked_reject (expected : String) :
    (reject expected : Prog β).Checked rank post taken ahead := by
  have hdrop (t : Token) : (drop (fail (.unexpected t expected)) : Prog β).Checked rank post taken
      (some t) := ⟨fun _ => ⟨_, rfl⟩, fun _ => trivial⟩
  cases ahead with
  | some t => exact hdrop t
  | none => exact hdrop

theorem checked_note {f : Unit → Prog β} (e : Recovered)
    (h : (f ()).Checked rank post taken ahead) :
    (Descent.note e >>= f).Checked rank post taken ahead := h

theorem checked_noteIf {f : Unit → Prog β} (p : Prop) [Decidable p] (e : Recovered)
    (h : (f ()).Checked rank post taken ahead) :
    (noteIf p e >>= f).Checked rank post taken ahead := by
  unfold noteIf
  split <;> exact h

theorem checked_require {f : Unit → Prog β} (role : Capability) (slot : String) (e : Expr)
    (h : (f ()).Checked rank post taken ahead) :
    (require role slot e >>= f).Checked rank post taken ahead := by
  unfold require
  split <;> exact h

theorem checked_call {p : Production} {f : p.Result → Prog β} (hp : taken = true ∨ p.rank < rank)
    (h : ∀ a, (f a).Checked rank post (taken || p.takes) none) :
    (Descent.call p >>= f).Checked rank post taken ahead := by
  cases ahead <;> exact ⟨hp, h⟩

theorem checked_tail {p : Production} {post : Bool → Option Token → p.Result → Prop}
    (hp : taken = true ∨ p.rank < rank) (h : ∀ a, post (taken || p.takes) none a) :
    (Descent.call p).Checked rank post taken ahead := by
  cases ahead <;> exact ⟨hp, h⟩

theorem checked_expect {f : Token → Prog β} {wanted : Lexeme} (hwanted : wanted ≠ .eof)
    (expected : String) (h : ∀ t, (f t).Checked rank post true none) :
    (expect wanted expected >>= f).Checked rank post taken ahead := by
  apply checked_bind
  apply checked_look
  intro t
  split
  · rename_i ht
    exact checked_take (ht ▸ hwanted) (h t)
  · exact checked_reject expected

theorem checked_accept {f : Option Token → Prog β} {wanted : Lexeme} (hwanted : wanted ≠ .eof)
    (hnone : ∀ t, (f none).Checked rank post taken (some t))
    (hsome : ∀ t, (f (some t)).Checked rank post true none) :
    (accept wanted >>= f).Checked rank post taken ahead := by
  apply checked_bind
  apply checked_look
  intro t
  split
  · rename_i ht
    exact checked_take (ht ▸ hwanted) (hsome t)
  · exact hnone t

theorem checked_name {f : Span × String → Prog β} (expected : String)
    (h : ∀ a, (f a).Checked rank post true none) :
    (name expected >>= f).Checked rank post taken ahead := by
  apply checked_bind
  apply checked_look
  intro t
  split
  · rename_i ht
    exact checked_take (by simp [ht]) (h _)
  · exact checked_reject expected

theorem checked_mutability {f : Bool → Prog β}
    (h : ∀ b taken' ahead', (taken = true → taken' = true) →
      (f b).Checked rank post taken' ahead') :
    (mutability >>= f).Checked rank post taken ahead := by
  apply checked_bind
  apply checked_accept (by simp)
  · exact fun t => h _ taken (some t) id
  · exact fun t => h _ true none fun _ => rfl

theorem checked_pattern {f : Pattern → Prog β} (h : ∀ a, (f a).Checked rank post true none) :
    (pattern >>= f).Checked rank post taken ahead := by
  apply checked_bind
  apply checked_look
  intro t
  split
  · rename_i ht
    exact checked_take (by simp [ht]) (h _)
  · rename_i ht
    exact checked_take (by simp [ht]) (h _)
  · exact checked_reject _

theorem checked_type {f : TypeRef → Prog β} (h : ∀ a, (f a).Checked rank post true none) :
    (type >>= f).Checked rank post taken ahead := by
  apply checked_bind
  apply checked_look
  intro t
  split
  · rename_i ht
    split
    · exact checked_reject _
    · exact checked_take (by simp [ht]) (h _)
    · exact checked_reject _
  · rename_i ht
    apply checked_take (by simp [ht])
    apply checked_expect (by simp)
    exact fun close => h _
  · exact checked_reject _

end Prog

def Production.Ends (p : Production) (taken : Bool) (_ : Option Token) (_ : p.Result) : Prop :=
  p.takes = true → taken = true

section

open Prog

variable {rank : Nat} {taken : Bool} {ahead : Option Token}

theorem checked_items (done : List Item) :
    (items done).Checked 2 (Production.items done).Ends false none := by
  apply checked_look
  intro t
  split
  · apply checked_call (.inr (by decide))
    exact fun fn => checked_tail (.inl rfl) nofun
  · apply checked_call (.inr (by decide))
    exact fun decl => checked_tail (.inl rfl) nofun
  · apply checked_call (.inr (by decide))
    exact fun block => checked_tail (.inl rfl) nofun
  · exact checked_done nofun
  · exact checked_reject _

theorem checked_function : function.Checked 1 Production.function.Ends false none := by
  apply checked_call (.inr (by decide))
  intro proto
  apply checked_call (.inl rfl)
  exact fun body => checked_done fun _ => rfl

theorem checked_prototypeEnd (start stop : Position) (fnName : String) (params : List Param) :
    (prototypeEnd start stop fnName params).Checked 0 Production.prototype.Ends true none := by
  apply checked_look
  intro t
  split
  · rename_i ht
    apply checked_take (by simp [ht])
    exact checked_type fun result => checked_done fun _ => rfl
  · exact checked_done fun _ => rfl
  · exact checked_done fun _ => rfl
  · exact checked_reject _

theorem checked_prototype : prototype.Checked 0 Production.prototype.Ends false none := by
  apply checked_expect (by simp)
  intro word
  apply checked_name
  intro fnName
  apply checked_expect (by simp)
  intro opening
  apply checked_call (.inl rfl)
  intro params
  apply checked_expect (by simp)
  intro close
  exact checked_prototypeEnd _ _ _ _

theorem checked_paramsNext (done : List Param) {taken : Bool} {ahead : Option Token} :
    (paramsNext done).Checked 2 (Production.params done).Ends taken ahead := by
  apply checked_look
  intro t
  split
  · rename_i ht
    apply checked_take (by simp [ht])
    exact checked_tail (.inl rfl) nofun
  · exact checked_done nofun
  · exact checked_reject _

theorem checked_params (done : List Param) :
    (params done).Checked 2 (Production.params done).Ends false none := by
  have hround : (do
      let param ← call .param
      paramsNext (param :: done)).Checked 2 (Production.params done).Ends false none :=
    checked_call (.inr (by decide)) fun param => checked_paramsNext (param :: done)
  apply checked_look
  intro t
  split
  · exact hround
  · exact hround
  · exact hround
  · exact checked_done nofun
  · exact checked_reject _

theorem checked_param : param.Checked 0 Production.param.Ends false none := by
  apply checked_look
  intro first
  apply checked_mutability
  intro mutable taken ahead _
  apply checked_pattern
  intro binder
  apply checked_expect (by simp)
  intro colon
  apply checked_type
  intro annotation
  apply checked_require
  exact checked_done fun _ => rfl

theorem checked_checkStatic {β : Type} {post : Bool → Option Token → β → Prop} {f : Unit → Prog β}
    (inForeign : Bool) (decl : MicroRust.Static) (h : (f ()).Checked rank post taken ahead) :
    (checkStatic inForeign decl >>= f).Checked rank post taken ahead := by
  unfold checkStatic
  split <;> exact h

theorem checked_staticEnd (inForeign : Bool) (head : StaticHead) :
    (staticEnd inForeign head).Checked 0 (Production.static inForeign).Ends true ahead := by
  have hend (init : Option Expr) (ahead : Option Token) : (do
      let close ← expect (.symbol .semicolon) "';'"
      let decl : MicroRust.Static :=
        ⟨⟨head.start, close.span.stop⟩, head.name, head.mutable, head.type, init⟩
      checkStatic inForeign decl
      return decl : Prog MicroRust.Static).Checked 0 (Production.static inForeign).Ends true
        ahead := by
    apply checked_expect (by simp)
    intro close
    apply checked_checkStatic
    exact checked_done fun _ => rfl
  apply checked_bind
  apply checked_look
  intro t
  split
  · rename_i ht
    apply checked_take (by simp [ht])
    apply checked_call (.inl rfl)
    intro e
    apply checked_require
    exact hend _ _
  · exact hend _ _
  · exact checked_reject _

theorem checked_static (inForeign : Bool) :
    (static inForeign).Checked 0 (Production.static inForeign).Ends false none := by
  apply checked_expect (by simp)
  intro word
  apply checked_mutability
  intro mutable taken ahead _
  apply checked_name
  intro itemName
  apply checked_expect (by simp)
  intro colon
  apply checked_type
  exact fun annotation => checked_staticEnd inForeign _

theorem checked_foreign : foreign.Checked 0 Production.foreign.Ends false none := by
  apply checked_expect (by simp)
  intro word
  apply checked_look
  intro t
  split
  · rename_i ht
    apply checked_take (by simp [ht])
    apply checked_noteIf
    apply checked_expect (by simp)
    intro brace
    apply checked_call (.inl rfl)
    intro decls
    apply checked_expect (by simp)
    exact fun close => checked_done fun _ => rfl
  · exact checked_reject _

theorem checked_foreignItems (done : List ForeignItem) :
    (foreignItems done).Checked 2 (Production.foreignItems done).Ends false none := by
  apply checked_look
  intro t
  split
  · apply checked_call (.inr (by decide))
    exact fun proto => checked_tail (.inl rfl) nofun
  · apply checked_call (.inr (by decide))
    exact fun decl => checked_tail (.inl rfl) nofun
  · exact checked_done nofun
  · exact checked_reject _

theorem checked_foreignFunction :
    foreignFunction.Checked 1 Production.foreignFunction.Ends false none := by
  apply checked_call (.inr (by decide))
  intro proto
  apply checked_look
  intro t
  split
  · rename_i ht
    apply checked_take (by simp [ht])
    exact checked_done fun _ => rfl
  · apply checked_call (.inl rfl)
    exact fun body => checked_note _ (checked_done fun _ => rfl)
  · exact checked_reject _

theorem checked_block : block.Checked 0 Production.block.Ends false none := by
  apply checked_expect (by simp)
  exact fun brace => checked_tail (.inl rfl) fun _ _ => rfl

theorem checked_statementsNext (start : Position) (stmts : List Stmt) (tail : Option Expr)
    (e : Expr) :
    (statementsNext start stmts tail e).Checked (castLevel + 5)
      (Production.statements start stmts tail).Ends true none := by
  apply checked_look
  intro next
  split
  · rename_i hnext
    apply checked_take (by simp [hnext])
    exact checked_tail (.inl rfl) fun _ _ => rfl
  · apply checked_require
    exact checked_tail (.inl rfl) fun _ _ => rfl
  · apply checked_noteIf
    exact checked_tail (.inl rfl) fun _ _ => rfl

theorem checked_statements (start : Position) (stmts : List Stmt) (tail : Option Expr) :
    (statements start stmts tail).Checked (castLevel + 5)
      (Production.statements start stmts tail).Ends false none := by
  apply checked_look
  intro t
  split
  · rename_i ht
    apply checked_take (by simp [ht])
    exact checked_done fun _ => rfl
  · rename_i ht
    apply checked_take (by simp [ht])
    exact checked_tail (.inl rfl) fun _ _ => rfl
  · apply checked_call (.inr (by decide))
    exact fun stmt => checked_tail (.inl rfl) fun _ _ => rfl
  · apply checked_call (.inr (by decide))
    exact fun e => checked_statementsNext start stmts tail e

theorem checked_bindingEnd (head : BindingHead) :
    (bindingEnd head).Checked 0 Production.binding.Ends true ahead := by
  have hend (init : Option Expr) (ahead : Option Token) : (do
      let stop ← statementEnd ((init.map Expr.span).getD head.type.span).stop
      return .binding ⟨head.start, stop⟩ head.mutable head.pattern head.type init :
        Prog Stmt).Checked 0 Production.binding.Ends true ahead := by
    apply checked_bind
    apply checked_accept (by simp)
    · exact fun t => checked_note _ (checked_done fun _ => rfl)
    · exact fun close => checked_done fun _ => rfl
  apply checked_bind
  apply checked_accept (by simp)
  · exact fun t => hend none _
  · intro sign
    apply checked_call (.inl rfl)
    intro e
    apply checked_require
    exact hend (some e) _

theorem checked_binding : binding.Checked 0 Production.binding.Ends false none := by
  apply checked_expect (by simp)
  intro word
  apply checked_mutability
  intro mutable taken ahead _
  apply checked_pattern
  intro binder
  apply checked_expect (by simp)
  intro colon
  apply checked_type
  intro annotation
  apply checked_require
  exact checked_bindingEnd _

theorem checked_combine {β : Type} {post : Bool → Option Token → β → Prop} {f : Expr → Prog β}
    (op : InfixOp) (lhs rhs : Expr) (h : ∀ e, (f e).Checked rank post taken ahead) :
    (combine op lhs rhs >>= f).Checked rank post taken ahead := by
  apply checked_bind
  cases op with
  | assign | binary =>
    apply checked_require
    apply checked_require
    exact h _

theorem not_eof_of_operatorAt? {n : Nat} {t : Token} {op : InfixOp}
    (h : operatorAt? n t = some op) : t.lexeme ≠ .eof := by
  intro ht
  rw [operatorAt?, ht] at h
  cases h

theorem checked_level (n : Nat) :
    (level n).Checked (castLevel - n + 3) (Production.level n).Ends false none := by
  unfold level
  split
  · rename_i hn
    apply checked_call (.inr (by simp only [Production.rank]; omega))
    intro lhs
    split
    · apply checked_look
      intro t
      split
      · exact checked_done fun _ => rfl
      · rename_i op hop
        apply checked_take (not_eof_of_operatorAt? hop)
        apply checked_call (.inl rfl)
        intro rhs
        apply checked_combine
        intro e
        apply checked_look
        intro next
        split
        · exact checked_done fun _ => rfl
        · exact checked_reject _
    · exact checked_tail (.inl rfl) fun _ _ => rfl
  · apply checked_call (.inr (by simp only [Production.rank]; omega))
    exact fun operand => checked_tail (.inl rfl) fun _ _ => rfl

theorem checked_rest (n : Nat) (lhs : Expr) :
    (Descent.rest n lhs).Checked 0 (Production.rest n lhs).Ends false none := by
  apply checked_look
  intro t
  split
  · exact checked_done nofun
  · rename_i op hop
    apply checked_take (not_eof_of_operatorAt? hop)
    apply checked_call (.inl rfl)
    intro rhs
    apply checked_combine
    exact fun e => checked_tail (.inl rfl) nofun

theorem checked_casts (operand : Expr) :
    (casts operand).Checked 0 (Production.casts operand).Ends false none := by
  apply checked_accept (by simp)
  · exact fun t => checked_done nofun
  · intro word
    apply checked_type
    intro target
    apply checked_require
    exact checked_tail (.inl rfl) nofun

theorem checked_negation {t : Token} (start : Position) (op : NegOp) (ht : t.lexeme ≠ .eof) :
    (negation start op).Checked 2 Production.unary.Ends false (some t) := by
  apply checked_take ht
  apply checked_call (.inl rfl)
  intro operand
  apply checked_require
  exact checked_done fun _ => rfl

theorem checked_unary : unary.Checked 2 Production.unary.Ends false none := by
  apply checked_look
  intro t
  split
  · rename_i ht
    exact checked_negation _ _ (by simp [ht])
  · rename_i ht
    exact checked_negation _ _ (by simp [ht])
  · exact checked_tail (.inr (by decide)) fun _ _ => rfl

theorem checked_primary : primary.Checked 1 Production.primary.Ends false none := by
  have hone {t : Token} (ht : t.lexeme ≠ .eof) (e : Expr) : (do
      take
      return e : Prog Expr).Checked 1 Production.primary.Ends false (some t) :=
    checked_take ht (checked_done fun _ => rfl)
  apply checked_look
  intro t
  split
  · rename_i ht
    exact hone (by simp [ht]) _
  · rename_i ht
    exact hone (by simp [ht]) _
  · rename_i ht
    exact hone (by simp [ht]) _
  · rename_i ht
    exact hone (by simp [ht]) _
  · exact checked_tail (.inr (by decide)) fun _ _ => rfl
  · exact checked_tail (.inr (by decide)) fun _ _ => rfl
  · apply checked_call (.inr (by decide))
    exact fun body => checked_done fun _ => rfl
  · exact checked_tail (.inr (by decide)) fun _ _ => rfl
  · exact checked_tail (.inr (by decide)) fun _ _ => rfl
  · exact checked_tail (.inr (by decide)) fun _ _ => rfl
  · exact checked_tail (.inr (by decide)) fun _ _ => rfl
  · exact checked_tail (.inr (by decide)) fun _ _ => rfl
  · exact checked_reject _

theorem checked_pathOrCall : pathOrCall.Checked 0 Production.pathOrCall.Ends false none := by
  apply checked_name
  intro path
  apply checked_accept (by simp)
  · exact fun t => checked_done fun _ => rfl
  · intro opening
    apply checked_call (.inl rfl)
    intro args
    apply checked_expect (by simp)
    exact fun close => checked_done fun _ => rfl

theorem checked_argumentsNext (done : List Expr) (e : Expr) :
    (argumentsNext done e).Checked (castLevel + 5) (Production.arguments done).Ends true none := by
  apply checked_require
  apply checked_look
  intro next
  split
  · rename_i hnext
    apply checked_take (by simp [hnext])
    exact checked_tail (.inl rfl) nofun
  · exact checked_tail (.inl rfl) nofun
  · exact checked_reject _

theorem checked_arguments (done : List Expr) :
    (arguments done).Checked (castLevel + 5) (Production.arguments done).Ends false none := by
  apply checked_look
  intro t
  split
  · exact checked_done nofun
  · split
    · apply checked_call (.inr (by decide))
      exact fun e => checked_argumentsNext done e
    · exact checked_reject _

theorem checked_grouped : grouped.Checked 0 Production.grouped.Ends false none := by
  apply checked_expect (by simp)
  intro brace
  apply checked_accept (by simp)
  · intro t
    apply checked_call (.inl rfl)
    intro inner
    apply checked_expect (by simp)
    intro close
    apply checked_require
    exact checked_done fun _ => rfl
  · exact fun close => checked_done fun _ => rfl

theorem checked_conditional : conditional.Checked 0 Production.conditional.Ends false none := by
  apply checked_expect (by simp)
  intro word
  apply checked_call (.inl rfl)
  intro cond
  apply checked_call (.inl rfl)
  intro thenBlock
  apply checked_require
  apply checked_accept (by simp)
  · exact fun t => checked_done fun _ => rfl
  · intro word
    apply checked_bind
    apply checked_look
    intro t
    split
    · exact checked_tail (.inl rfl) fun other => checked_done fun _ => rfl
    · apply checked_call (.inl rfl)
      exact fun body => checked_done fun _ => rfl
    · exact checked_reject _

theorem checked_wordBlock {wanted : Lexeme} (hwanted : wanted ≠ .eof) (expected : String)
    {p : Production} (tree : Token → Block → p.Result) : (do
      let word ← expect wanted expected
      let body ← call .block
      return tree word body : Prog p.Result).Checked 0 p.Ends false none := by
  apply checked_expect hwanted
  intro word
  apply checked_call (.inl rfl)
  exact fun body => checked_done fun _ => rfl

theorem checked_whileLoop : whileLoop.Checked 0 Production.whileLoop.Ends false none := by
  apply checked_expect (by simp)
  intro word
  apply checked_call (.inl rfl)
  intro cond
  apply checked_call (.inl rfl)
  intro body
  apply checked_require
  exact checked_done fun _ => rfl

theorem checked_ret : ret.Checked 0 Production.ret.Ends false none := by
  apply checked_expect (by simp)
  intro word
  apply checked_look
  intro t
  split
  · apply checked_call (.inl rfl)
    intro e
    apply checked_require
    exact checked_done fun _ => rfl
  · exact checked_done fun _ => rfl

theorem Production.checked (p : Production) : p.body.Checked p.rank p.Ends false none := by
  cases p with
  | items done => exact checked_items done
  | function => exact checked_function
  | prototype => exact checked_prototype
  | params done => exact checked_params done
  | param => exact checked_param
  | static inForeign => exact checked_static inForeign
  | foreign => exact checked_foreign
  | foreignItems done => exact checked_foreignItems done
  | foreignFunction => exact checked_foreignFunction
  | block => exact checked_block
  | statements start stmts tail => exact checked_statements start stmts tail
  | binding => exact checked_binding
  | level n => exact checked_level n
  | rest n lhs => exact checked_rest n lhs
  | casts operand => exact checked_casts operand
  | unary => exact checked_unary
  | primary => exact checked_primary
  | pathOrCall => exact checked_pathOrCall
  | arguments done => exact checked_arguments done
  | grouped => exact checked_grouped
  | conditional => exact checked_conditional
  | loop => exact checked_wordBlock (by simp) _ _
  | whileLoop => exact checked_whileLoop
  | unsafeBlock => exact checked_wordBlock (by simp) _ _
  | ret => exact checked_ret

end

/-- What can come of a run from `s`: a result with no more left than before, or an error. Either way
the requests made are among those that `s` could lead to. -/
def Within {α : Type} (s : Feed) (post : α → Feed → Prop) : Except ParseError α × Feed → Prop
  | (.ok a, s') => s'.left ≤ s.left ∧ s'.limit ≤ s.limit ∧ post a s'
  | (.error _, s') => s'.requests ≤ s.limit

abbrev Production.Returned (p : Production) (s : Feed) : Except ParseError p.Result × Feed → Prop :=
  Within s fun _ s' => p.takes = true → s'.left < s.left

/-- The calls that a body makes when it is run from a state, given what the calls come to: each with
the state that it starts from. -/
def Prog.Makes {α : Type} (callee : (p : Production) → Feed → Answer p.Result) (q : Production)
    (u : Feed) : Prog α → Feed → Prop
  | .done _, _ => False
  | .fail _, _ => False
  | .peek next, s => match s.peek with
    | (.ok t, s) => (next t).Makes callee q u s
    | (.error _, _) => False
  | .drop next, s => next.Makes callee q u s.drop
  | .note e next, s => next.Makes callee q u (s.note e)
  | .call p next, s =>
    p = q ∧ s = u ∨ ∃ a s', callee p s = some (.ok a, s') ∧ (next a).Makes callee q u s'

namespace Prog

variable {α : Type} {callee : (p : Production) → Feed → Answer p.Result}

theorem eval_peek {next : Token → Prog α} {s s' : Feed} {t : Token} (h : s.peek = (.ok t, s')) :
    (peek next).eval callee s = (next t).eval callee s' := by
  rw [eval, h]

theorem eval_peek_error {next : Token → Prog α} {s s' : Feed} {e : ParseError}
    (h : s.peek = (.error e, s')) : (peek next).eval callee s = some (.error e, s') := by
  rw [eval, h]

theorem eval_call {p : Production} {next : p.Result → Prog α} {s s' : Feed} {a : p.Result}
    (h : callee p s = some (.ok a, s')) :
    (call p next).eval callee s = (next a).eval callee s' := by
  rw [eval, h]

theorem eval_call_error {p : Production} {next : p.Result → Prog α} {s s' : Feed} {e : ParseError}
    (h : callee p s = some (.error e, s')) :
    (call p next).eval callee s = some (.error e, s') := by
  rw [eval, h]

theorem eval_bind {β : Type} (x : Prog α) (f : α → Prog β) (s : Feed) :
    (x >>= f).eval callee s = match x.eval callee s with
      | some (.ok a, s') => (f a).eval callee s'
      | some (.error e, s') => some (.error e, s')
      | none => none := by
  change (x.bind f).eval callee s = _
  induction x generalizing s with
  | done a => rfl
  | fail e => rfl
  | peek next ih =>
    simp only [bind, eval]
    split
    · exact ih _ _
    · rfl
  | drop next ih => exact ih _
  | note e next ih => exact ih _
  | call p next ih =>
    simp only [bind, eval]
    split
    · exact ih _ _
    · rfl
    · rfl

theorem eval_mono {callee' : (p : Production) → Feed → Answer p.Result}
    (hcallee : ∀ p s x, callee p s = some x → callee' p s = some x) {prog : Prog α} {s : Feed}
    {x : Except ParseError α × Feed} (h : prog.eval callee s = some x) :
    prog.eval callee' s = some x := by
  induction prog generalizing s with
  | done a => exact h
  | fail e => exact h
  | peek next ih =>
    rw [eval] at h ⊢
    split at h
    · exact ih _ h
    · exact h
  | drop next ih => exact ih h
  | note e next ih => exact ih h
  | call p next ih =>
    rw [eval] at h
    split at h
    · rename_i a s' ha
      rw [eval_call (hcallee p s _ ha)]
      exact ih a h
    · rename_i e s' he
      rw [eval_call_error (hcallee p s _ he)]
      exact h
    · cases h

end Prog

namespace Production

theorem eval_mono {depth depth' : Nat} (hle : depth ≤ depth') {p : Production} {s : Feed}
    {x : Except ParseError p.Result × Feed} (h : p.eval depth s = some x) :
    p.eval depth' s = some x := by
  induction depth generalizing depth' p s with
  | zero => cases h
  | succ depth ih =>
    cases depth' with
    | zero => cases hle
    | succ depth' =>
      exact Prog.eval_mono (fun _ _ _ => ih (Nat.le_of_succ_le_succ hle)) h

end Production

structure Feed.At (s : Feed) (left : Nat) (taken : Bool) (ahead : Option Token) : Prop where
  left_le : s.left ≤ left
  left_lt : taken = true → s.left < left
  ahead_eq : ∀ t, ahead = some t → s.ahead = some t

namespace Feed.At

variable {s s' : Feed} {left : Nat} {taken : Bool} {ahead : Option Token} {t : Token}

theorem start (s : Feed) : s.At s.left false none := ⟨Nat.le_refl _, nofun, fun _ h => by cases h⟩

theorem looked (h : s.At left taken ahead) (hstream : s'.stream = s.stream)
    (ht : s'.ahead = some t) : s'.At left taken (some t) := by
  have hleft := left_eq_of_stream hstream
  exact ⟨hleft ▸ h.left_le, fun htaken => hleft ▸ h.left_lt htaken,
    fun _ heq => Option.some.inj heq ▸ ht⟩

theorem drop (h : s.At left taken (some t)) (ht : t.lexeme ≠ .eof) :
    s.drop.At left true none := by
  have hleft := left_drop (h.ahead_eq t rfl) ht
  have hle := h.left_le
  exact ⟨by omega, fun _ => by omega, fun _ h => by cases h⟩

theorem called {p : Production} {post : Bool} (h : s.At left taken ahead)
    (hleft : s'.left ≤ s.left) (htakes : p.takes = true → s'.left < s.left)
    (hpost : post = (taken || p.takes)) : s'.At left post none := by
  have hle := h.left_le
  refine ⟨by omega, ?_, fun _ h => by cases h⟩
  intro htrue
  rw [hpost, Bool.or_eq_true] at htrue
  rcases htrue with htaken | hp
  · exact Nat.lt_of_le_of_lt hleft (h.left_lt htaken)
  · exact Nat.lt_of_lt_of_le (htakes hp) hle

theorem below {p : Production} {rank : Nat} (h : s.At left taken ahead)
    (hp : taken = true ∨ p.rank < rank) : p.Below s left rank := by
  rcases hp with htaken | hrank
  · exact .inl (h.left_lt htaken)
  · exact .inr ⟨h.left_le, hrank⟩

end Feed.At

theorem Within.trans {α : Type} {s s' : Feed} {post : α → Feed → Prop}
    {x : Except ParseError α × Feed} (h : Within s' post x) (hleft : s'.left ≤ s.left)
    (hlimit : s'.limit ≤ s.limit) : Within s post x := by
  obtain ⟨result, s''⟩ := x
  cases result with
  | ok a => exact ⟨Nat.le_trans h.1 hleft, Nat.le_trans h.2.1 hlimit, h.2.2⟩
  | error e => exact Nat.le_trans h hlimit

namespace Prog

variable {α : Type} {callee : (p : Production) → Feed → Answer p.Result} {rank left : Nat}
variable {post : Bool → Option Token → α → Prop}

theorem checked_next {next : Token → Prog α} {taken : Bool} {ahead : Option Token} {s s' : Feed}
    {t : Token} (h : (peek next).Checked rank post taken ahead) (hs : s.At left taken ahead)
    (hpeek : s.peek = (.ok t, s')) : (next t).Checked rank post taken (some t) := by
  cases ahead with
  | none => exact h t
  | some t' =>
    rw [Feed.peek_of_ahead (hs.ahead_eq t' rfl)] at hpeek
    cases hpeek
    exact h

/-- A body that has been looked through comes back if the calls below do. -/
theorem eval_of_checked {prog : Prog α} {taken : Bool} {ahead : Option Token} {s : Feed}
    (hcallee : ∀ q u, q.Below u left rank → ∃ x, callee q u = some x ∧ q.Returned u x)
    (h : prog.Checked rank post taken ahead) (hs : s.At left taken ahead) :
    ∃ x, prog.eval callee s = some x ∧
      Within s (fun a s' => ∃ taken ahead, post taken ahead a ∧ s'.At left taken ahead) x := by
  -- Along the body, `Feed.At` keeps count against the tokens left at its start, not at this point.
  induction prog generalizing taken ahead s with
  | done a => exact ⟨_, rfl, Nat.le_refl _, Nat.le_refl _, taken, ahead, h, hs⟩
  | fail e => exact ⟨_, rfl, s.requests_le_limit⟩
  | peek next ih =>
    rcases s.peek_cases with ⟨t, s', hpeek, hahead, hstream, -, hlimit⟩ | ⟨e, s', hpeek, hreq, -⟩
    · obtain ⟨x, hx, hwithin⟩ :=
        ih t (checked_next h hs hpeek) (hs.looked hstream hahead)
      exact ⟨x, by rw [eval_peek hpeek, hx],
        hwithin.trans (Nat.le_of_eq (Feed.left_eq_of_stream hstream)) (Nat.le_of_eq hlimit)⟩
    · exact ⟨_, eval_peek_error hpeek, hreq⟩
  | drop next ih =>
    cases ahead with
    | none => exact h.elim
    | some t =>
      by_cases ht : t.lexeme = .eof
      · -- The end of the file is only taken for an error, which ends the run.
        obtain ⟨e, rfl⟩ := h.1 ht
        exact ⟨_, rfl, s.requests_le_limit⟩
      · obtain ⟨x, hx, hwithin⟩ := ih (h.2 ht) (hs.drop ht)
        have hahead := hs.ahead_eq t rfl
        have hleft := Feed.left_drop hahead ht
        exact ⟨x, hx, hwithin.trans (by omega) (Nat.le_of_eq (Feed.limit_drop hahead ht))⟩
  | note e next ih => exact ih h ⟨hs.left_le, hs.left_lt, hs.ahead_eq⟩
  | call p next ih =>
    obtain ⟨⟨result, s'⟩, hx, hreturned⟩ := hcallee p s (hs.below h.1)
    cases result with
    | ok a =>
      obtain ⟨hleft, hlimit, htakes⟩ := hreturned
      obtain ⟨x, hx', hwithin⟩ := ih a (h.2 a) (hs.called hleft htakes rfl)
      exact ⟨x, by rw [eval_call hx, hx'], hwithin.trans hleft hlimit⟩
    | error e => exact ⟨_, eval_call_error hx, hreturned⟩

theorem below_of_makes {prog : Prog α} {taken : Bool} {ahead : Option Token} {s : Feed}
    {q : Production} {u : Feed}
    (hcallee : ∀ q u x, callee q u = some x → q.Returned u x)
    (h : prog.Checked rank post taken ahead) (hs : s.At left taken ahead)
    (hmakes : prog.Makes callee q u s) : q.Below u left rank := by
  induction prog generalizing taken ahead s with
  | done a => exact hmakes.elim
  | fail e => exact hmakes.elim
  | peek next ih =>
    rcases s.peek_cases with ⟨t, s', hpeek, hahead, hstream, -, -⟩ | ⟨e, s', hpeek, -, -⟩
    · rw [Makes, hpeek] at hmakes
      exact ih t (checked_next h hs hpeek) (hs.looked hstream hahead) hmakes
    · rw [Makes, hpeek] at hmakes
      exact hmakes.elim
  | drop next ih =>
    cases ahead with
    | none => exact h.elim
    | some t =>
      by_cases ht : t.lexeme = .eof
      · obtain ⟨e, rfl⟩ := h.1 ht
        exact hmakes.elim
      · exact ih (h.2 ht) (hs.drop ht) hmakes
  | note e next ih => exact ih (s := s.note e) h ⟨hs.left_le, hs.left_lt, hs.ahead_eq⟩ hmakes
  | call p next ih =>
    rcases hmakes with ⟨rfl, rfl⟩ | ⟨a, s', ha, hmakes⟩
    · exact hs.below h.1
    · obtain ⟨hleft, -, htakes⟩ := hcallee p s _ ha
      exact ih a (h.2 a) (hs.called hleft htakes rfl) hmakes

end Prog

namespace Production

theorem exists_eval {depth : Nat} {p : Production} {s : Feed} (h : p.measure s < depth) :
    ∃ x, p.eval depth s = some x ∧ p.Returned s x := by
  induction depth generalizing p s with
  | zero => cases h
  | succ depth ih =>
    -- A call that is below has a smaller measure, so one level of nesting less is enough for it.
    have hcallee (q : Production) (u : Feed) (hbelow : q.Below u s.left p.rank) :
        ∃ x, q.eval depth u = some x ∧ q.Returned u x :=
      ih (Nat.lt_of_lt_of_le hbelow.measure_lt (Nat.le_of_lt_succ h))
    obtain ⟨⟨result, s'⟩, hx, hwithin⟩ :=
      Prog.eval_of_checked hcallee p.checked (Feed.At.start s)
    refine ⟨_, hx, ?_⟩
    cases result with
    | ok a =>
      obtain ⟨hleft, hlimit, taken, ahead, hends, hat⟩ := hwithin
      exact ⟨hleft, hlimit, fun htakes => hat.left_lt (hends htakes)⟩
    | error e => exact hwithin

theorem returned_of_eval {depth : Nat} {p : Production} {s : Feed}
    {x : Except ParseError p.Result × Feed} (h : p.eval depth s = some x) : p.Returned s x := by
  obtain ⟨y, hy, hreturned⟩ := exists_eval (Nat.lt_succ_self (p.measure s))
  -- The two depths are not in order, so the answers meet at a depth above both.
  have hx := eval_mono (Nat.le_max_left depth (p.measure s + 1)) h
  rw [eval_mono (Nat.le_max_right depth (p.measure s + 1)) hy] at hx
  exact Option.some.inj hx ▸ hreturned

theorem exists_forall_eval (p : Production) (s : Feed) :
    ∃ x, p.Returned s x ∧ ∀ depth, p.measure s < depth → p.eval depth s = some x := by
  obtain ⟨x, hx, hreturned⟩ := exists_eval (Nat.lt_succ_self (p.measure s))
  exact ⟨x, hreturned, fun depth hdepth => eval_mono hdepth hx⟩

def Calls (p : Production) (s : Feed) (q : Production) (u : Feed) : Prop :=
  ∃ depth, p.body.Makes (Production.eval depth) q u s

theorem Calls.below {p q : Production} {s u : Feed} (h : p.Calls s q u) :
    q.Below u s.left p.rank := by
  obtain ⟨depth, hmakes⟩ := h
  exact Prog.below_of_makes (fun _ _ _ => returned_of_eval) p.checked (Feed.At.start s) hmakes

theorem Calls.left_lt {p q : Production} {s u : Feed} {l : Loop} (h : p.Calls s q u)
    (hp : p.loop? = some l) (hq : q.loop? = some l) : u.left < s.left := by
  rcases h.below with hleft | ⟨-, hrank⟩
  · exact hleft
  · rw [rank_of_loop hp, rank_of_loop hq] at hrank
    exact absurd hrank (Nat.lt_irrefl _)

end Production

end MicroRust.Descent
