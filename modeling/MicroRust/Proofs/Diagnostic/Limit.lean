import Mathlib.Data.List.Basic
import Mathlib.Data.List.Induction
import MicroRust.Proofs.Diagnostic.Engine

/-! What an engine keeps of all that it is given.

An engine decides on each diagnostic when it comes, by what it holds at that time. What it holds in
the end can be said without it: what becomes of a diagnostic depends on the policy and on the number
of errors that came before, and on nothing else. -/

namespace MicroRust

inductive Failure where
  | none
  | parsing (e : ParseError)
  | lexing (e : LexFailure)
  | other (message : String)

def Failure.diagnostics : Failure → List Diagnostic
  | .none => []
  | .parsing e => Diagnostic.ofParseError e
  | .lexing e => [.ofLexFailure e]
  | .other message => [.unreadable message]

inductive Engine.Call where
  | one (d : Diagnostic)
  | several (ds : List Diagnostic)
  | failure (f : Failure)

def Engine.Call.diagnostics : Call → List Diagnostic
  | .one d => [d]
  | .several ds => ds
  | .failure f => f.diagnostics

namespace Engine

def take (e : Engine) : Call → Engine
  | .one d => e.add d
  | .several ds => e.addAll ds
  | .failure f => e.addAll f.diagnostics

def after (policy : Policy) (filename : String) (calls : List Call) : Engine :=
  calls.foldl take { filename, policy }

theorem take_eq (e : Engine) (call : Call) : e.take call = e.addAll call.diagnostics := by
  cases call <;> rfl

theorem after_eq (policy : Policy) (filename : String) (calls : List Call) :
    after policy filename calls = collect policy filename (calls.flatMap Call.diagnostics) := by
  unfold after collect
  generalize ({ filename, policy } : Engine) = e
  induction calls generalizing e with
  | nil => rfl
  | cons call calls ih =>
    rw [List.foldl_cons, ih, take_eq, List.flatMap_cons, addAll, addAll, addAll, List.foldl_append]

end Engine

def errorCount (ds : List Diagnostic) : Nat := ds.countP (·.severity = .error)

theorem errorCount_eq (ds : List Diagnostic) :
    errorCount ds = (ds.filter (·.severity = .error)).length :=
  List.countP_eq_length_filter

theorem errorCount_concat (ds : List Diagnostic) (d : Diagnostic) :
    errorCount (ds ++ [d]) = errorCount ds + if d.severity = .error then 1 else 0 := by
  simp [errorCount, List.countP_cons]

/-- The mark in the place of the first error that is not shown. -/
def Diagnostic.limitMark (limit : Int) : Diagnostic where
  severity := .error
  category := .lexical
  code := "E0001"
  title := "Too many errors"
  message := s!"Stopping after {limit} errors"

namespace Policy

/-- A diagnostic as the policy sees it: a warning may count as an error. -/
def seen (policy : Policy) (d : Diagnostic) : Diagnostic :=
  match d.severity with
  | .error => d
  | .warning => { d with severity := if policy.warningsAsErrors then .error else .warning }

/-- The diagnostics that are not dropped for their code, as the policy sees them. -/
def admitted (policy : Policy) (ds : List Diagnostic) : List Diagnostic :=
  (ds.filter (·.code ∉ policy.ignoreCodes)).map policy.seen

/-- What is shown for a diagnostic behind `n` errors. Errors beyond the limit are not shown, and the
first of them leaves a mark. -/
def shown (policy : Policy) (n : Nat) (d : Diagnostic) : List Diagnostic :=
  if d.severity = .warning ∨ policy.maxErrors ≤ 0 ∨ n < policy.maxErrors then [d]
  else if n = policy.maxErrors then [.limitMark policy.maxErrors]
  else []

def limited (policy : Policy) (ds : List Diagnostic) : List Diagnostic :=
  ds.zipIdx.flatMap fun (d, i) => policy.shown (errorCount (ds.take i)) d

theorem promote_eq_seen (policy : Policy) (d : Diagnostic) :
    Engine.promote policy d = policy.seen d := by
  obtain ⟨severity⟩ := d
  cases severity <;> cases hdeny : policy.warningsAsErrors <;>
    simp [Engine.promote, seen, hdeny]

variable {policy : Policy}

theorem limited_concat (policy : Policy) (ds : List Diagnostic) (d : Diagnostic) :
    policy.limited (ds ++ [d]) = policy.limited ds ++ policy.shown (errorCount ds) d := by
  have hfront : ∀ p ∈ ds.zipIdx, policy.shown (errorCount ((ds ++ [d]).take p.2)) p.1 =
      policy.shown (errorCount (ds.take p.2)) p.1 := by
    intro p hp
    have hlt : p.2 < ds.length := (List.mem_zipIdx' hp).1
    rw [List.take_append_of_le_length (Nat.le_of_lt hlt)]
  rw [limited, List.zipIdx_append, List.flatMap_append]
  refine congrArg₂ _ (List.flatMap_congr hfront) ?_
  simp

theorem limited_of_nonpos (h : policy.maxErrors ≤ 0) (ds : List Diagnostic) :
    policy.limited ds = ds := by
  induction ds using List.reverseRecOn with
  | nil => rfl
  | append_singleton ds d ih => rw [limited_concat, ih, shown, if_pos (.inr (.inl h))]

theorem filter_warning_limited (policy : Policy) (ds : List Diagnostic) :
    (policy.limited ds).filter (·.severity = .warning) = ds.filter (·.severity = .warning) := by
  induction ds using List.reverseRecOn with
  | nil => rfl
  | append_singleton ds d ih =>
    rw [limited_concat, List.filter_append, ih, List.filter_append]
    congr 1
    unfold shown
    split
    · rfl
    · rename_i hshown
      have hd : ¬ d.severity = .warning := fun hd => hshown (.inl hd)
      split <;> simp [hd, Diagnostic.limitMark]

theorem shown_error {k : Nat} (hk : policy.maxErrors = k) (hpos : 0 < k) {d : Diagnostic}
    (hd : d.severity = .error) (n : Nat) :
    policy.shown n d = if n < k then [d] else if n = k then [.limitMark k] else [] := by
  have hlimit : ¬ (k : Int) ≤ 0 := by omega
  simp only [shown, hd, hk, hlimit, reduceCtorEq, false_or, Int.ofNat_lt, Int.ofNat_inj]

theorem filter_error_limited {k : Nat} (hk : policy.maxErrors = k) (hpos : 0 < k)
    (ds : List Diagnostic) :
    (policy.limited ds).filter (·.severity = .error) =
      (ds.filter (·.severity = .error)).take k ++
        if k < errorCount ds then [.limitMark k] else [] := by
  induction ds using List.reverseRecOn with
  | nil => simp [limited, errorCount]
  | append_singleton ds d ih =>
    have hcount := errorCount_eq ds
    rw [limited_concat, List.filter_append, ih, List.filter_append, List.append_assoc,
      errorCount_concat]
    cases hd : d.severity with
    | warning =>
      have hshown : policy.shown (errorCount ds) d = [d] := if_pos (.inl hd)
      simp [hshown, hd]
    | error =>
      have hone : [d].filter (·.severity = .error) = [d] := by simp [hd]
      rw [if_pos rfl, hone]
      generalize ds.filter (·.severity = .error) = errors at hcount
      rw [hcount]
      rw [shown_error hk hpos hd]
      -- Below the limit the error is shown, at the limit it leaves the mark, behind it nothing.
      rcases Nat.lt_trichotomy errors.length k with hlt | heq | hgt
      · have hbelow : ¬ k < errors.length := Nat.lt_asymm hlt
        have hnext : ¬ k < errors.length + 1 := by omega
        have htake : (errors ++ [d]).take k = errors ++ [d] :=
          List.take_of_length_le (by simp; omega)
        simp [hlt, hbelow, hnext, htake, hone, List.take_of_length_le (Nat.le_of_lt hlt)]
      · subst heq
        simp [Diagnostic.limitMark]
      · have hnext : k < errors.length + 1 := by omega
        have htake : (errors ++ [d]).take k = errors.take k :=
          List.take_append_of_le_length (Nat.le_of_lt hgt)
        simp [Nat.lt_asymm hgt, Nat.ne_of_gt hgt, hgt, hnext, htake]

theorem length_filter_limited_le {k : Nat} (hk : policy.maxErrors = k) (hpos : 0 < k)
    (ds : List Diagnostic) :
    ((policy.limited ds).filter (·.severity = .error)).length ≤ k + 1 := by
  rw [filter_error_limited hk hpos, List.length_append]
  have hfront := List.length_take_le k (ds.filter (·.severity = .error))
  split <;> simp only [List.length_cons, List.length_nil] <;> omega

theorem admitted_append (policy : Policy) (ds es : List Diagnostic) :
    policy.admitted (ds ++ es) = policy.admitted ds ++ policy.admitted es := by
  simp [admitted]

end Policy

namespace Engine

variable {policy : Policy} {ds : List Diagnostic} {e : Engine}

/-- The engine holds what the policy shows of the diagnostics `ds`, and knows whether it is all. -/
structure Keeps (policy : Policy) (ds : List Diagnostic) (e : Engine) : Prop where
  policy_eq : e.policy = policy
  shown : e.diagnostics = policy.limited ds
  full : e.truncated = true ↔ 0 < policy.maxErrors ∧ policy.maxErrors < errorCount ds

theorem Keeps.limitReached_iff (h : Keeps policy ds e) :
    e.limitReached = true ↔ 0 < policy.maxErrors ∧ policy.maxErrors ≤ errorCount ds := by
  simp only [limitReached, errors, Bool.and_eq_true, decide_eq_true_eq, h.policy_eq, h.shown]
  refine and_congr_right fun hpos => ?_
  obtain ⟨k, hk⟩ := Int.eq_ofNat_of_zero_le (Int.le_of_lt hpos)
  -- A mark counts as an error too, but where there is one the limit is reached without it.
  rw [Policy.filter_error_limited hk (by omega), hk, List.length_append, List.length_take,
    ← errorCount_eq]
  split <;> simp only [List.length_cons, List.length_nil] <;> omega

theorem Keeps.drop (h : Keeps policy ds e) {d : Diagnostic} (hd : d.severity = .error)
    (hlimit : e.limitReached = true) :
    Keeps policy (ds ++ [d]) (if e.truncated then e else { e with
      diagnostics := e.diagnostics ++ [.tooMany policy.maxErrors], truncated := true }) := by
  obtain ⟨hpos, hle⟩ := h.limitReached_iff.1 hlimit
  have hcount : errorCount (ds ++ [d]) = errorCount ds + 1 := by
    rw [errorCount_concat, if_pos hd]
  have hmore : policy.maxErrors < errorCount (ds ++ [d]) := by omega
  have hover : ¬ (d.severity = .warning ∨ policy.maxErrors ≤ 0 ∨
      errorCount ds < policy.maxErrors) := by
    simp only [hd, reduceCtorEq, false_or]
    omega
  split
  · rename_i htruncated
    have hlt := (h.full.1 htruncated).2
    have hshown : policy.shown (errorCount ds) d = [] := by
      rw [Policy.shown, if_neg hover, if_neg (by omega)]
    refine ⟨h.policy_eq, ?_, fun _ => ⟨hpos, hmore⟩, fun _ => htruncated⟩
    rw [Policy.limited_concat, hshown, List.append_nil, h.shown]
  · rename_i htruncated
    have hnot := mt h.full.2 htruncated
    have hshown : policy.shown (errorCount ds) d = [.limitMark policy.maxErrors] := by
      rw [Policy.shown, if_neg hover, if_pos (by omega)]
    refine ⟨h.policy_eq, ?_, fun _ => ⟨hpos, hmore⟩, fun _ => rfl⟩
    rw [Policy.limited_concat, hshown, ← h.shown]
    rfl

theorem Keeps.append (h : Keeps policy ds e) {d : Diagnostic}
    (hroom : ¬ (d.severity = .error ∧ e.limitReached = true)) :
    Keeps policy (ds ++ [d]) { e with diagnostics := e.diagnostics ++ [d] } := by
  rw [h.limitReached_iff] at hroom
  have hcount := errorCount_concat ds d
  cases hd : d.severity with
  | warning =>
    have hshown : policy.shown (errorCount ds) d = [d] := if_pos (.inl hd)
    rw [hd, if_neg (by decide)] at hcount
    refine ⟨h.policy_eq, ?_, ?_⟩
    · rw [Policy.limited_concat, hshown, ← h.shown]
    · rw [hcount]
      exact h.full
  | error =>
    have hbelow := not_and.1 hroom hd
    have hshown : policy.shown (errorCount ds) d = [d] := by
      rw [Policy.shown, if_pos (.inr (by omega))]
    rw [if_pos hd] at hcount
    refine ⟨h.policy_eq, ?_, ?_⟩
    · rw [Policy.limited_concat, hshown, ← h.shown]
    · rw [h.full, hcount]
      omega

theorem Keeps.add (h : Keeps policy ds e) (d : Diagnostic) :
    Keeps policy (ds ++ policy.admitted [d]) (e.add d) := by
  obtain rfl := h.policy_eq
  unfold Engine.add
  by_cases hcode : d.code ∈ e.policy.ignoreCodes
  · have hnone : e.policy.admitted [d] = [] := by simp [Policy.admitted, hcode]
    rw [if_pos (List.contains_iff_mem.2 hcode), hnone, List.append_nil]
    exact h
  · have hone : e.policy.admitted [d] = [promote e.policy d] := by
      simp [Policy.admitted, Policy.promote_eq_seen, hcode]
    rw [if_neg (mt List.contains_iff_mem.1 hcode), hone]
    dsimp only
    split
    · rename_i hdrop
      rw [Bool.and_eq_true, decide_eq_true_eq] at hdrop
      exact h.drop hdrop.1 hdrop.2
    · rename_i hroom
      rw [Bool.and_eq_true, decide_eq_true_eq] at hroom
      exact h.append hroom

theorem Keeps.addAll (h : Keeps policy ds e) (es : List Diagnostic) :
    Keeps policy (ds ++ policy.admitted es) (e.addAll es) := by
  induction es generalizing e ds with
  | nil => simpa [Engine.addAll, Policy.admitted] using h
  | cons d es ih =>
    have hrest := ih (h.add d)
    rw [List.append_assoc, ← Policy.admitted_append] at hrest
    exact hrest

theorem keeps_collect (policy : Policy) (filename : String) (es : List Diagnostic) :
    Keeps policy (policy.admitted es) (collect policy filename es) := by
  have hempty : Keeps policy [] { filename, policy } := by
    have hnone : errorCount [] = 0 := rfl
    refine ⟨rfl, rfl, ?_, ?_⟩
    · intro htruncated
      cases htruncated
    · rintro ⟨hpos, hlt⟩
      omega
  exact hempty.addAll es

theorem Keeps.add_eq_self (h : Keeps policy ds e) (htruncated : e.truncated = true)
    {d : Diagnostic} (hd : (policy.seen d).severity = .error) : e.add d = e := by
  have hfull := h.full.1 htruncated
  have hlimit : e.limitReached = true := h.limitReached_iff.2 ⟨hfull.1, Int.le_of_lt hfull.2⟩
  unfold Engine.add
  rw [h.policy_eq, Policy.promote_eq_seen]
  simp [hd, hlimit, htruncated]

theorem Keeps.take_eq_self (h : Keeps policy ds e) (htruncated : e.truncated = true) {call : Call}
    (hcall : ∀ d ∈ call.diagnostics, (policy.seen d).severity = .error) : e.take call = e := by
  rw [take_eq]
  generalize call.diagnostics = es at hcall
  induction es with
  | nil => rfl
  | cons d es ih =>
    obtain ⟨hd, hes⟩ := List.forall_mem_cons.1 hcall
    have hself := h.add_eq_self htruncated hd
    exact (congrArg (Engine.addAll · es) hself).trans (ih hes)

/-- An engine holds what the policy shows of all that it was given, whatever came when and by which
call. So it is truncated exactly if more errors came than the limit, it holds no more of them than
the limit and the mark, every warning is there, and behind the mark errors change nothing. -/
theorem after_limited (policy : Policy) (filename : String) (calls : List Call) :
    (after policy filename calls).diagnostics =
      policy.limited (policy.admitted (calls.flatMap Call.diagnostics)) ∧
    ((after policy filename calls).truncated = true ↔
      0 < policy.maxErrors ∧
        policy.maxErrors < errorCount (policy.admitted (calls.flatMap Call.diagnostics))) ∧
    (0 < policy.maxErrors →
      (after policy filename calls).errors.length ≤ policy.maxErrors + 1) ∧
    (after policy filename calls).warnings =
      (policy.admitted (calls.flatMap Call.diagnostics)).filter (·.severity = .warning) ∧
    ((after policy filename calls).truncated = true → ∀ call : Call,
      (∀ d ∈ call.diagnostics, (policy.seen d).severity = .error) →
      (after policy filename calls).take call = after policy filename calls) := by
  have hkeeps := keeps_collect policy filename (calls.flatMap Call.diagnostics)
  rw [← after_eq] at hkeeps
  refine ⟨hkeeps.shown, hkeeps.full, ?_, ?_, ?_⟩
  · intro hpos
    obtain ⟨k, hk⟩ := Int.eq_ofNat_of_zero_le (Int.le_of_lt hpos)
    have hlength := Policy.length_filter_limited_le hk (by omega)
      (policy.admitted (calls.flatMap Call.diagnostics))
    rw [errors, hkeeps.shown, hk]
    exact_mod_cast hlength
  · rw [warnings, hkeeps.shown, Policy.filter_warning_limited]
  · intro htruncated call hcall
    exact hkeeps.take_eq_self htruncated hcall

example : (after { maxErrors := 1 } "a.rs" [.one (.declaration "a"), .several [.declaration "b",
    { severity := .warning, category := .semantic, code := "W0001", title := "", message := "" }],
    .failure (.other "c")]).diagnostics.map (·.code) = ["E2101", "E0001", "W0001"] := by
  decide

end Engine

end MicroRust
