import MicroRust.Proofs.Parsing.Errors
import MicroRust.Proofs.Parsing.Relocation
import MicroRust.Proofs.Parsing.Soundness
import MicroRust.Proofs.Token.Tiling
import MicroRust.Proofs.Tree.Parts

/-! Tokens with the missing semicolons put in.

Where a statement lacks its `;`, the parser goes on as it would behind one. So the repaired tokens
take it through the same configurations, but for places and for the errors about the semicolons. -/

namespace MicroRust.Parsing

/-- The token begins a statement, and the one before it lacks its `;`. With the `;`, all would be as
it is, except for places and for the error. -/
def Lacks (f : Token → Stepped) (places : List Position) (t : Token) (place : Position) : Prop :=
  ∃ m : Config, m.missing = places ∧ m.control = .statement ∧
    f t = statementStep (m.note (.missingToken (.symbol .semicolon) place)) t ∧
    ∀ span, ∃ m', f ⟨.symbol .semicolon, span⟩ = .ok m' ∧ m'.relocate nowhere = m.relocate nowhere

theorem Lacks.of_eq {f g : Token → Stepped} {places : List Position} {t : Token} {place : Position}
    (h : Lacks g places t place) (ht : f t = g t)
    (hsemi : ∀ span, f ⟨.symbol .semicolon, span⟩ = g ⟨.symbol .semicolon, span⟩) :
    Lacks f places t place := by
  obtain ⟨m, hmissing, hcontrol, hstep, hm⟩ := h
  refine ⟨m, hmissing, hcontrol, ht.trans hstep, fun span => ?_⟩
  rw [hsemi]
  exact hm span

theorem Lacks.missing_eq {f : Token → Stepped} {places : List Position} {t : Token}
    {place : Position} {d : Config} (h : Lacks f places t place) (hd : f t = .ok d) :
    d.missing = place :: places := by
  obtain ⟨m, hmissing, -, hstep, -⟩ := h
  have hkeeps := statementStep_keeps (m.note (.missingToken (.symbol .semicolon) place)) t
  rw [← hstep, hd] at hkeeps
  exact hkeeps.trans (congrArg (place :: ·) hmissing)

section

variable (c : Config) (t : Token)

theorem lacks_of_block {start : Position} {role : BlockRole} {stmts : List Stmt}
    {fs : List Frame} (hframes : c.frames = .block start role stmts :: fs) {e : Expr}
    (hlike : e.isBlockLike = false) (hsemi : t.lexeme ≠ .symbol .semicolon)
    (hbrace : t.lexeme ≠ .symbol .rbrace) : Lacks (delimiterStep c e) c.missing t e.span.stop := by
  refine ⟨addStatement c start role stmts fs (.expr e.span e), rfl, rfl, ?_, fun span => ?_⟩
  · simp only [delimiterStep, hframes, hlike]
    rfl
  · simp only [delimiterStep, hframes]
    exact ⟨_, rfl, rfl⟩

theorem lacks_of_binding {head : BindingHead} {start : Position} {role : BlockRole}
    {stmts : List Stmt} {fs : List Frame}
    (hframes : c.frames = .binding head :: .block start role stmts :: fs) (e : Expr)
    (hsemi : t.lexeme ≠ .symbol .semicolon) :
    Lacks (delimiterStep c e) c.missing t e.span.stop := by
  refine ⟨addStatement (c.requireValue "let initializer" e) start role stmts fs
    (.binding ⟨head.start, e.span.stop⟩ head.mutable head.pattern head.type (some e)),
    Config.missing_requireValue .., rfl, ?_, fun span => ?_⟩
  · simp only [delimiterStep, hframes]
    rfl
  · simp only [delimiterStep, hframes]
    exact ⟨_, rfl, rfl⟩

theorem delimiterStep_keeps_or_lacks (e : Expr) :
    (delimiterStep c e t).Keeps c.missing ∨ Lacks (delimiterStep c e) c.missing t e.span.stop := by
  fun_cases delimiterStep c e t
  -- A brace behind the tail of a block.
  case case11 =>
    left
    exact (missing_closeBlock ..).trans (Config.missing_requireValue ..)
  -- A statement of a block, without a `;`.
  case case12 start role stmts fs hframes next hsemi hbrace =>
    cases hlike : e.isBlockLike with
    | true =>
      left
      have hnext : next = c := by simp [next, hlike]
      rw [hnext]
      exact statementStep_keeps ..
    | false => exact .inr (lacks_of_block c t hframes hlike hsemi hbrace)
  -- The initial value of a `let`, without a `;`.
  case case14 head start role stmts fs hframes _ _ _ hsemi =>
    exact .inr (lacks_of_binding c t hframes e hsemi)
  -- The `;` of a static.
  case case15 =>
    left
    exact (missing_closeStatic ..).trans (Config.missing_requireValue ..)
  all_goals
    left
    first | trivial | rfl | exact Config.missing_requireValue ..

theorem stop_span_closeOperand (fs : List Frame) (e : Expr) :
    (closeOperand c fs e).2.span.stop = e.span.stop := by
  induction fs generalizing c e with
  | nil => rfl
  | cons frame fs ih =>
    cases frame with
    | operation op lhs =>
      rw [closeOperand, ih]
      cases op <;> rfl
    | negation start op | ret start =>
      rw [closeOperand, ih]
      rfl
    | _ => rfl

theorem stop_span_closeElseIf (fs : List Frame) (e : Expr) :
    (closeElseIf fs e).2.span.stop = e.span.stop := by
  induction fs generalizing e with
  | nil => rfl
  | cons frame fs ih =>
    cases frame with
    | elseIf start cond thenBlock =>
      rw [closeElseIf, ih]
      rfl
    | _ => rfl

theorem operatorStep_keeps_or_lacks (e : Expr) :
    (operatorStep c e t).Keeps c.missing ∨ Lacks (operatorStep c e) c.missing t e.span.stop := by
  cases hop : InfixOp.ofLexeme? t.lexeme with
  | some op =>
    left
    simp only [operatorStep, hop]
    split
    · rename_i d e' hclose
      have hmissing := missing_closeTighter c hclose
      exact hmissing
    · trivial
  | none =>
    by_cases has : t.lexeme = .keyword .asWord
    · left
      simp only [operatorStep, hop, if_pos has]
      split
      · rename_i d e' hclose
        have hmissing := missing_closeTighter c hclose
        exact hmissing
      · trivial
    · have hd := delimiterStep_keeps_or_lacks (closeOperand c c.frames e).1 t
        (closeOperand c c.frames e).2
      rw [missing_closeOperand, stop_span_closeOperand] at hd
      have ht : operatorStep c e t = delimiterStep (closeOperand c c.frames e).1
          (closeOperand c c.frames e).2 t := by
        simp only [operatorStep, hop, if_neg has]
      rw [ht]
      exact hd.imp_right fun h => h.of_eq ht fun span => rfl

theorem lacks_of_bindingInit {head : BindingHead} (hk : c.control = .bindingInit head)
    {start : Position} {role : BlockRole} {stmts : List Stmt} {fs : List Frame}
    (hframes : c.frames = .block start role stmts :: fs) (hassign : t.lexeme ≠ .symbol .assign)
    (hsemi : t.lexeme ≠ .symbol .semicolon) : Lacks (step c) c.missing t head.type.span.stop := by
  refine ⟨addStatement c start role stmts fs (.binding ⟨head.start, head.type.span.stop⟩
    head.mutable head.pattern head.type none), rfl, rfl, ?_, fun span => ?_⟩
  · simp only [step, hk, hframes]
    rfl
  · simp only [step, hk, hframes]
    exact ⟨_, rfl, rfl⟩

def KeepsOrLacks : Prop := (step c t).Keeps c.missing ∨
  ∃ place, c.control.stop? = some place ∧ Lacks (step c) c.missing t place

theorem keepsOrLacks_of_operatorStep {d : Config} {e : Expr} (hd : d.missing = c.missing)
    (hplace : c.control.stop? = some e.span.stop) (ht : step c t = operatorStep d e t)
    (hsemi : ∀ span, step c ⟨.symbol .semicolon, span⟩ =
      operatorStep d e ⟨.symbol .semicolon, span⟩) : KeepsOrLacks c t := by
  have h := operatorStep_keeps_or_lacks d t e
  rw [hd, ← ht] at h
  exact h.imp_right fun h => ⟨e.span.stop, hplace, h.of_eq ht hsemi⟩

theorem step_keepsOrLacks : KeepsOrLacks c t := by
  cases hk : c.control with
  | operator e =>
    have ht (t : Token) : step c t = operatorStep c e t := by simp only [step, hk]
    exact keepsOrLacks_of_operatorStep c t rfl (by rw [hk]; rfl) (ht t) fun span => ht _
  | pathNext span name =>
    by_cases hparen : t.lexeme = .symbol .lparen
    · left
      simp only [step, hk, hparen]
      rfl
    · refine keepsOrLacks_of_operatorStep c t (e := .path span name) rfl (by rw [hk]; rfl) ?_ ?_
      · simp only [step, hk]
      · intro span
        simp only [step, hk]
  | returnValue span =>
    by_cases hbegins : beginsOperand t = true
    · left
      simp only [step, hk, if_pos hbegins]
      exact operandStep_keeps ..
    · refine keepsOrLacks_of_operatorStep c t (e := .ret span none) rfl (by rw [hk]; rfl) ?_ ?_
      · simp only [step, hk, if_neg hbegins]
      · intro span
        simp only [step, hk]
        rfl
  | afterThen start cond thenBlock =>
    by_cases helse : t.lexeme = .keyword .elseWord
    · left
      simp only [step, hk, if_pos helse]
      rfl
    · have hstop := stop_span_closeElseIf c.frames
        (.conditional ⟨start, thenBlock.span.stop⟩ cond thenBlock none)
      generalize hclose : closeElseIf c.frames _ = closed at hstop
      refine keepsOrLacks_of_operatorStep c t
        (d := ⟨c.items, c.recovered, closed.1, .afterThen start cond thenBlock⟩) rfl
        (by rw [hk, hstop]; rfl) ?_ ?_
      · simp only [step, hk, if_neg helse, hclose]
      · intro span
        simp only [step, hk, hclose]
        rfl
  | bindingInit head =>
    have h : (step c t).Keeps c.missing ∨ ∃ start role stmts fs,
        c.frames = .block start role stmts :: fs ∧ t.lexeme ≠ .symbol .assign ∧
          t.lexeme ≠ .symbol .semicolon := by
      simp only [step, hk]
      split
      · exact .inl rfl
      · exact .inl rfl
      · rename_i hframes hassign hsemi
        exact .inr ⟨_, _, _, _, hframes, hassign, hsemi⟩
      · exact .inl trivial
    refine h.imp_right fun h => ?_
    obtain ⟨start, role, stmts, fs, hframes, hassign, hsemi⟩ := h
    exact ⟨_, by rw [hk]; rfl, lacks_of_bindingInit c t hk hframes hassign hsemi⟩
  | _ => exact .inl (step_keeps c t (by rw [hk]; rfl))

end

def Config.prune (c : Config) : Config := { c with recovered := c.recovered.filter Recovered.isOther }

/-- The second configuration is the first one with no `;` missing, up to places. -/
def Mended (c c' : Config) : Prop := c'.relocate nowhere = (c.relocate nowhere).prune

theorem missingPlace?_relocate (f : Position → Position) (e : Recovered) :
    (e.relocate f).missingPlace? = e.missingPlace?.map f := by
  cases e with
  | missingToken expected place =>
    cases expected with
    | symbol s => cases s <;> rfl
    | _ => rfl
  | _ => rfl

theorem isOther_relocate (f : Position → Position) (e : Recovered) :
    (e.relocate f).isOther = e.isOther := by
  rw [Recovered.isOther, missingPlace?_relocate, Option.isNone_map]
  rfl

theorem missing_relocate (f : Position → Position) (c : Config) :
    (c.relocate f).missing = c.missing.map f := by
  simp only [Config.missing, Config.relocate, List.filterMap_map, List.map_filterMap,
    Function.comp_def, missingPlace?_relocate]

theorem prune_eq_self {c : Config} (h : c.missing = []) : c.prune = c := by
  have hfilter : c.recovered.filter Recovered.isOther = c.recovered := by
    refine List.filter_eq_self.2 fun e he => ?_
    rw [Recovered.isOther, List.filterMap_eq_nil_iff.1 h e he]
    rfl
  unfold Config.prune
  rw [hfilter]

theorem prune_extend (c : Config) (errors : List Recovered) :
    (c.extend errors).prune = c.prune.extend (errors.filter Recovered.isOther) := by
  simp only [Config.prune, Config.extend, List.filter_append]

theorem missing_extend (c : Config) (errors : List Recovered) :
    (c.extend errors).missing = c.missing ++ errors.filterMap Recovered.missingPlace? :=
  List.filterMap_append

def Config.clear (c : Config) : Config := { c with recovered := [] }

theorem clear_extend (c : Config) : c.clear.extend c.recovered = c := rfl

theorem prune_clear (c : Config) : c.clear.prune = c.clear := rfl

section

variable {c c' d : Config} {t : Token}

theorem Mended.step_ok (hc : Mended c c') (h : step c t = .ok d)
    (hd : d.missing.length = c.missing.length) : ∃ d', step c' t = .ok d' ∧ Mended d d' := by
  have hstep := step_relocate nowhere c t
  have hstep' := step_relocate nowhere c' t
  -- Without its places and its errors, the configuration is the same one in both runs.
  rw [← clear_extend (c.relocate nowhere), step_extend, h, relocate_ok] at hstep
  rw [hc, ← clear_extend (c.relocate nowhere), prune_extend, prune_clear, step_extend] at hstep'
  cases hclear : step (c.relocate nowhere).clear (t.relocate nowhere) with
  | error e =>
    rw [hclear] at hstep
    cases hstep
  | ok n =>
    rw [hclear] at hstep hstep'
    have hn : n.extend _ = d.relocate nowhere := Except.ok.inj hstep
    have hnone : n.missing = [] := by
      have hlength : n.missing.length + (c.relocate nowhere).missing.length =
          (d.relocate nowhere).missing.length := by
        rw [← hn, missing_extend, List.length_append]
        rfl
      rw [missing_relocate, missing_relocate, List.length_map, List.length_map] at hlength
      exact List.length_eq_zero_iff.1 (by omega)
    cases hs : step c' t with
    | error e =>
      rw [hs] at hstep'
      cases hstep'
    | ok d' =>
      rw [hs] at hstep'
      have hn' : n.extend _ = d'.relocate nowhere := Except.ok.inj hstep'
      refine ⟨d', rfl, ?_⟩
      unfold Mended
      rw [← hn, ← hn', prune_extend, prune_eq_self hnone]

/-- A step that notes a missing `;` is made by the mended configuration behind a `;`. -/
theorem Mended.steps_of_lacks (hc : Mended c c') (h : step c t = .ok d) {place : Position}
    (hlacks : Lacks (step c) c.missing t place) (span : Span) :
    ∃ d', steps c' [⟨.symbol .semicolon, span⟩, t] = .ok d' ∧ Mended d d' := by
  have hmissing := hlacks.missing_eq h
  obtain ⟨m, hm, hcontrol, ht, hsemi⟩ := hlacks
  obtain ⟨m₁, hm₁, hbare⟩ := hsemi span
  have hlength : m₁.missing.length = c.missing.length := by
    have hmap := congrArg (fun c => c.missing.length) hbare
    simpa only [missing_relocate, List.length_map, hm] using hmap
  obtain ⟨m', hm', hmended⟩ := hc.step_ok hm₁ hlength
  have hnoted : Mended (m.note (.missingToken (.symbol .semicolon) place)) m' := by
    unfold Mended at *
    rw [hmended, hbare]
    rfl
  have hstep : step (m.note (.missingToken (.symbol .semicolon) place)) t = .ok d := by
    rw [← h, ht]
    simp only [step, Config.note, hcontrol]
  have hkept : d.missing.length =
      (m.note (.missingToken (.symbol .semicolon) place)).missing.length := by
    rw [hmissing, ← hm]
    rfl
  obtain ⟨d', hd', hmended'⟩ := hnoted.step_ok hstep hkept
  refine ⟨d', ?_, hmended'⟩
  rw [steps_cons_of_ok hm', steps_cons_of_ok hd']
  rfl

end

theorem Mended.recovered_eq {c c' : Config} (h : Mended c c') :
    c'.recovered.reverse.map (Recovered.relocate nowhere) =
      (c.recovered.reverse.filter Recovered.isOther).map (Recovered.relocate nowhere) := by
  have hmended := congrArg Config.recovered h
  have hother : Recovered.isOther ∘ Recovered.relocate nowhere = Recovered.isOther :=
    funext (isOther_relocate nowhere)
  have hfilter : c'.recovered.map (Recovered.relocate nowhere) =
      (c.recovered.map (Recovered.relocate nowhere)).filter Recovered.isOther := hmended
  rw [List.map_reverse, hfilter, List.filter_map, hother, List.filter_reverse, List.map_reverse]

theorem Waits.lastPlace_eq {items : List Item} {fs : List Frame} {next : Control}
    {ts : List Token} {es : List Recovered} {place : Position} (h : Waits items fs next ts es)
    (hplace : next.stop? = some place) : lastPlace ts = some place := by
  cases h with
  | operator below e =>
    cases hplace
    simp [e.spans.2]
  | pathNext | returnValue =>
    cases hplace
    simp
  | afterThen below chain hchain word cond hcond thenBlock =>
    cases hplace
    simp [ExprPhrase.tokens, thenBlock.spans.2]
  | bindingInit below word binder =>
    cases hplace
    simp [BinderPhrase.tokens, binder.type.spans.2, bindingHead]
  | _ => cases hplace

theorem Config.Reads.place_eq {c : Config} {done : List Token} {u : Token} {place : Position}
    (h : c.Reads (done ++ [u])) (hplace : c.control.stop? = some place) : place = u.span.stop := by
  have hlast := Waits.lastPlace_eq h hplace
  simpa using hlast.symm

/-- A token, with a `;` behind it for each error at its end. -/
def withSemicolons (places : List Position) (span : Position → Span) (t : Token) : List Token :=
  t :: List.replicate (places.count t.span.stop) ⟨.symbol .semicolon, span t.span.stop⟩

theorem withSemicolons_reverse (places : List Position) :
    withSemicolons places.reverse = withSemicolons places := by
  funext span t
  rw [withSemicolons, List.count_reverse]
  rfl

theorem lexeme_ne_eof_of_mem_flatMap {places : List Position} {span : Position → Span} {ts : List Token}
    (hts : ∀ t ∈ ts, t.lexeme ≠ .eof) :
    ∀ t ∈ ts.flatMap (withSemicolons places span), t.lexeme ≠ .eof := by
  intro t ht
  obtain ⟨u, hu, ht⟩ := List.mem_flatMap.1 ht
  rcases List.mem_cons.1 ht with rfl | ht
  · exact hts t hu
  · rw [List.eq_of_mem_replicate ht]
    exact Lexeme.noConfusion

theorem length_withSemicolons_cons (ts : List Token) (p : Position) (places : List Position)
    (span : Position → Span) :
    (ts.flatMap (withSemicolons (p :: places) span)).length =
      (ts.flatMap (withSemicolons places span)).length + (ts.map (·.span.stop)).count p := by
  induction ts with
  | nil => rfl
  | cons t ts ih =>
    have hcomm : (t.span.stop == p) = (p == t.span.stop) := BEq.comm
    simp only [List.flatMap_cons, withSemicolons, List.length_append, List.length_cons,
      List.length_replicate, List.map_cons, ih, List.count_cons, hcomm]
    omega

theorem nodup_stops {ts : List Token} (hseq : Sequential ts) : (ts.map (·.span.stop)).Nodup := by
  induction ts with
  | nil => exact .nil
  | cons t ts ih =>
    refine List.nodup_cons.2 ⟨fun hmem => ?_, ih hseq.tail⟩
    obtain ⟨u, hu, hstop⟩ := List.mem_map.1 hmem
    have hlt := hseq.stop_lt hu
    rw [hstop] at hlt
    exact lt_irrefl _ hlt

theorem length_withSemicolons {ts : List Token} {places : List Position} (hseq : Sequential ts)
    (hplaces : ∀ p ∈ places, ∃ t ∈ ts, t.span.stop = p) (span : Position → Span) :
    (ts.flatMap (withSemicolons places span)).length = ts.length + places.length := by
  induction places with
  | nil => simp [withSemicolons]
  | cons p places ih =>
    obtain ⟨⟨t, ht, hstop⟩, hplaces⟩ := List.forall_mem_cons.1 hplaces
    have hmem : p ∈ ts.map (·.span.stop) := List.mem_map.2 ⟨t, ht, hstop⟩
    rw [length_withSemicolons_cons, ih hplaces, List.count_eq_one_of_mem (nodup_stops hseq) hmem,
      List.length_cons]
    omega

def repairedRest (places : List Position) (span : Position → Span) (u : Token) (ts : List Token) :
    List Token :=
  List.replicate (places.count u.span.stop) ⟨.symbol .semicolon, span u.span.stop⟩ ++
    ts.flatMap (withSemicolons places span)

section

variable {c c' d : Config} {done ts : List Token} {t u : Token}

theorem step_missing (hreads : c.Reads (done ++ [u])) (h : step c t = .ok d) :
    d.missing = c.missing ∨
      d.missing = u.span.stop :: c.missing ∧ Lacks (step c) c.missing t u.span.stop := by
  rcases step_keepsOrLacks c t with hkeeps | ⟨place, hplace, hlacks⟩
  · rw [h] at hkeeps
    exact .inl hkeeps
  · obtain rfl := hreads.place_eq hplace
    exact .inr ⟨hlacks.missing_eq h, hlacks⟩

theorem steps_missing (hreads : c.Reads (done ++ [u])) (hts : ∀ t ∈ ts, t.lexeme ≠ .eof)
    (hseq : Sequential (u :: ts)) (hs : steps c ts = .ok d) :
    ∃ later, d.missing = later ++ c.missing ∧
      ∀ p ∈ later, (∃ t ∈ u :: ts, t.span.stop = p) ∧ ∃ t ∈ ts, p < t.span.stop := by
  induction ts generalizing c done u with
  | nil =>
    cases hs
    exact ⟨[], rfl, by simp⟩
  | cons t ts ih =>
    obtain ⟨ht, hts⟩ := List.forall_mem_cons.1 hts
    obtain ⟨n, hstep, hs⟩ := exists_step_of_steps_cons hs
    have hn : n.Reads ((done ++ [u]) ++ [t]) := step_reads hreads ht hstep
    obtain ⟨later, hlater, hplaces⟩ := ih hn hts hseq.tail hs
    have hplaces' : ∀ p ∈ later, (∃ w ∈ u :: t :: ts, w.span.stop = p) ∧
        ∃ w ∈ t :: ts, p < w.span.stop := by
      intro p hp
      obtain ⟨⟨w, hw, hstop⟩, v, hv, hlt⟩ := hplaces p hp
      exact ⟨⟨w, List.mem_cons_of_mem _ hw, hstop⟩, v, List.mem_cons_of_mem _ hv, hlt⟩
    rcases step_missing hreads hstep with hmissing | ⟨hmissing, -⟩
    · exact ⟨later, by rw [hlater, hmissing], hplaces'⟩
    · refine ⟨later ++ [u.span.stop], by rw [hlater, hmissing, List.append_assoc]; rfl, ?_⟩
      refine List.forall_mem_append.2 ⟨hplaces', List.forall_mem_singleton.2 ⟨?_, ?_⟩⟩
      · exact ⟨u, List.mem_cons_self .., rfl⟩
      · exact ⟨t, List.mem_cons_self .., hseq.stop_lt (List.mem_cons_self ..)⟩

theorem count_missing_eq_zero {later : List Position} (hlt : ∀ p ∈ later, u.span.stop < p)
    {old : List Position} (hold : ∀ p ∈ old, p < u.span.stop) :
    later.count u.span.stop = 0 ∧ old.count u.span.stop = 0 :=
  ⟨List.count_eq_zero.2 fun h => lt_irrefl _ (hlt _ h),
    List.count_eq_zero.2 fun h => lt_irrefl _ (hold _ h)⟩

theorem Mended.steps_ok (hc : Mended c c') (hreads : c.Reads (done ++ [u]))
    (hts : ∀ t ∈ ts, t.lexeme ≠ .eof) (hseq : Sequential (u :: ts))
    (hbefore : ∀ p ∈ c.missing, p < u.span.stop) (hs : steps c ts = .ok d)
    (span : Position → Span) :
    ∃ d', steps c' (repairedRest d.missing span u ts) = .ok d' ∧ Mended d d' := by
  induction ts generalizing c c' done u with
  | nil =>
    cases hs
    have hcount := List.count_eq_zero.2 fun h => lt_irrefl _ (hbefore u.span.stop h)
    refine ⟨c', ?_, hc⟩
    rw [repairedRest, hcount]
    rfl
  | cons t ts ih =>
    obtain ⟨ht, hts⟩ := List.forall_mem_cons.1 hts
    have hlt : u.span.stop < t.span.stop := hseq.stop_lt (List.mem_cons_self ..)
    obtain ⟨n, hstep, hs⟩ := exists_step_of_steps_cons hs
    have hn : n.Reads ((done ++ [u]) ++ [t]) := step_reads hreads ht hstep
    obtain ⟨later, hlater, hplaces⟩ := steps_missing hn hts hseq.tail hs
    have hafter : ∀ p ∈ later, u.span.stop < p := by
      intro p hp
      obtain ⟨⟨w, hw, rfl⟩, -⟩ := hplaces p hp
      exact hseq.stop_lt hw
    obtain ⟨hzero, hzero'⟩ := count_missing_eq_zero hafter hbefore
    have hbefore' : ∀ p ∈ c.missing, p < t.span.stop := fun p hp => lt_trans (hbefore p hp) hlt
    have hrest : repairedRest d.missing span u (t :: ts) =
        List.replicate (d.missing.count u.span.stop) ⟨.symbol .semicolon, span u.span.stop⟩ ++
          t :: repairedRest d.missing span t ts := rfl
    rcases step_missing hreads hstep with hmissing | ⟨hmissing, hlacks⟩
    · obtain ⟨n', hn', hmended⟩ := hc.step_ok hstep (by rw [hmissing])
      have hcount : d.missing.count u.span.stop = 0 := by
        rw [hlater, hmissing, List.count_append, hzero, hzero']
      obtain ⟨d', hsteps, hd'⟩ := ih hmended hn hts hseq.tail (by rwa [hmissing]) hs
      refine ⟨d', ?_, hd'⟩
      rw [hrest, hcount]
      exact (steps_cons_of_ok hn' _).trans hsteps
    · obtain ⟨n', hn', hmended⟩ := hc.steps_of_lacks hstep hlacks (span u.span.stop)
      have hcount : d.missing.count u.span.stop = 1 := by
        rw [hlater, hmissing, List.count_append, List.count_cons_self, hzero, hzero']
      have hbound : ∀ p ∈ n.missing, p < t.span.stop := by
        rw [hmissing]
        exact List.forall_mem_cons.2 ⟨hlt, hbefore'⟩
      obtain ⟨d', hsteps, hd'⟩ := ih hmended hn hts hseq.tail hbound hs
      refine ⟨d', ?_, hd'⟩
      rw [hrest, hcount]
      exact (steps_append_of_ok hn' _).trans hsteps

theorem steps_repaired (hts : ∀ t ∈ ts, t.lexeme ≠ .eof) (hseq : Sequential ts)
    (hs : steps .initial ts = .ok d) (span : Position → Span) :
    (∀ p ∈ d.missing, (∃ t ∈ ts, t.span.stop = p) ∧ ∃ t ∈ ts, p < t.span.stop) ∧
      ∃ d', steps .initial (ts.flatMap (withSemicolons d.missing span)) = .ok d' ∧ Mended d d' := by
  cases ts with
  | nil =>
    cases hs
    exact ⟨by simp [Config.missing, Config.initial], _, rfl, rfl⟩
  | cons t ts =>
    obtain ⟨ht, hts⟩ := List.forall_mem_cons.1 hts
    obtain ⟨n, hstep, hs⟩ := exists_step_of_steps_cons hs
    have hmissing : n.missing = [] := by
      rcases step_keepsOrLacks .initial t with hkeeps | ⟨place, hplace, -⟩
      · rw [hstep] at hkeeps
        exact hkeeps
      · cases hplace
    have hn : n.Reads ([] ++ [t]) := step_reads reads_initial ht hstep
    have hinitial : Mended Config.initial .initial := rfl
    obtain ⟨n', hn', hmended⟩ := hinitial.step_ok hstep (by rw [hmissing]; rfl)
    obtain ⟨later, hlater, hplaces⟩ := steps_missing hn hts hseq hs
    obtain ⟨d', hd', hmended'⟩ := hmended.steps_ok hn hts hseq (by simp [hmissing]) hs span
    rw [hmissing, List.append_nil] at hlater
    refine ⟨fun p hp => ?_, d', (steps_cons_of_ok hn' _).trans hd', hmended'⟩
    rw [hlater] at hp
    obtain ⟨hends, w, hw, hlt⟩ := hplaces p hp
    exact ⟨hends, w, List.mem_cons_of_mem _ hw, hlt⟩

end

end MicroRust.Parsing

namespace MicroRust

open Parsing

/-- The readings with a `;` behind a token for each error that one is missing at its end. -/
def repair (errors : List Recovered) (span : Position → Span) (stream : List Reading) :
    List Reading :=
  stream.flatMap fun
    | .ok t => (withSemicolons (errors.filterMap Recovered.missingPlace?) span t).map .ok
    | .error failure => [.error failure]

theorem repair_eq (errors : List Recovered) (span : Position → Span) (ts : List Token)
    (eof : Token) :
    repair errors span (ts.map .ok ++ [.ok eof]) =
      (ts.flatMap (withSemicolons (errors.filterMap Recovered.missingPlace?) span)).map .ok ++
        (withSemicolons (errors.filterMap Recovered.missingPlace?) span eof).map .ok := by
  simp only [repair, List.flatMap_append, List.flatMap_map, List.map_flatMap, List.flatMap_singleton]

theorem length_repair {errors : List Recovered} {ts : List Token} {eof : Token}
    (hseq : Sequential ts)
    (hplaces : ∀ p ∈ errors.filterMap Recovered.missingPlace?,
      (∃ t ∈ ts, t.span.stop = p) ∧ p < eof.span.stop) (span : Position → Span) :
    (repair errors span (ts.map .ok ++ [.ok eof])).length =
      ts.length + 1 + (errors.filterMap Recovered.missingPlace?).length := by
  have hlength := length_withSemicolons hseq (fun p hp => (hplaces p hp).1) span
  have hcount : (errors.filterMap Recovered.missingPlace?).count eof.span.stop = 0 :=
    List.count_eq_zero.2 fun hmem => lt_irrefl _ (hplaces _ hmem).2
  rw [repair_eq, withSemicolons, hcount]
  simp only [List.length_append, List.length_map, hlength, List.length_cons, List.replicate_zero,
    List.length_nil, List.map_cons, List.map_nil]
  omega

/-- Where semicolons are missing, parsing goes on as if they were there: with one put in for each
error that says so, it builds the same items and notes the other errors only. -/
theorem parse_repaired {source : Source} {errors : List Recovered}
    (h : source.parse = .error (.recovered errors)) (span : Position → Span) :
    ∃ outcome outcome' : Outcome,
      run .initial source.readings = .ok outcome ∧ outcome.recovered = errors ∧
      (repair errors span source.readings).length =
        source.readings.length + (errors.filterMap Recovered.missingPlace?).length ∧
      run .initial (repair errors span source.readings) = .ok outcome' ∧
      outcome'.items.map Item.bare = outcome.items.map Item.bare ∧
      outcome'.recovered.map (Recovered.relocate nowhere) =
        (errors.filter Recovered.isOther).map (Recovered.relocate nowhere) ∧
      (errors.filter Recovered.isOther = [] →
        parse source.name (repair errors span source.readings) = .ok
          ⟨crateName source.name, outcome'.items, ⟨Position.origin, outcome'.stop⟩⟩) ∧
      (errors.filter Recovered.isOther ≠ [] →
        parse source.name (repair errors span source.readings) =
          .error (.recovered outcome'.recovered)) := by
  obtain ⟨outcome, hrun, rfl⟩ := run_of_parse_recovered h
  obtain ⟨ts, eof, rest, d, last, hstream, hts, heof, hd, hlast, rfl⟩ := exists_steps_of_run_ok hrun
  obtain ⟨hk, rfl⟩ := step_eof heof hlast
  obtain ⟨rfl, hseq, -, hbounds⟩ := Source.sequential_of_readings hstream heof
  obtain ⟨hplaces, d', hd', hmended⟩ := steps_repaired hts hseq hd span
  obtain ⟨e', hlast', he'⟩ := hmended.step_ok hlast rfl
  have hmissing : last.recovered.reverse.filterMap Recovered.missingPlace? =
      last.missing.reverse := List.filterMap_reverse
  have hstream' : repair last.recovered.reverse span source.readings =
      (ts.flatMap (withSemicolons last.missing span)).map .ok ++
        (withSemicolons last.missing span eof).map .ok := by
    rw [hstream, repair_eq, hmissing, withSemicolons_reverse]
  have hrun' : run .initial (repair last.recovered.reverse span source.readings) =
      .ok ⟨e'.items.reverse, e'.recovered.reverse, eof.span.stop⟩ := by
    rw [hstream', run_of_steps hd' (lexeme_ne_eof_of_mem_flatMap hts)]
    simp only [withSemicolons, List.map_cons, run, hlast', heof, if_true]
  have hitems : e'.items.reverse.map Item.bare = last.items.reverse.map Item.bare := by
    have hmended := congrArg Config.items he'
    rw [List.map_reverse, List.map_reverse]
    exact congrArg List.reverse hmended
  have hrecovered := he'.recovered_eq
  have hempty : e'.recovered.reverse = [] ↔
      last.recovered.reverse.filter Recovered.isOther = [] := by
    rw [← List.map_eq_nil_iff, hrecovered, List.map_eq_nil_iff]
  refine ⟨_, _, hrun, rfl, ?_, hrun', hitems, hrecovered, fun hnone => ?_, fun hsome => ?_⟩
  · rw [hstream, length_repair hseq (fun p hp => ?_) span, List.length_append, List.length_map,
      List.length_singleton]
    rw [hmissing, List.mem_reverse] at hp
    obtain ⟨hends, t, ht, hlt⟩ := hplaces p hp
    exact ⟨hends, lt_of_lt_of_le hlt (hbounds t ht).2⟩
  · rw [hempty.2 hnone] at hrun' ⊢
    exact parse_of_run_clean hrun'
  · exact parse_of_run_faulty hrun' fun hnil => hsome (hempty.1 hnil)

def gapSource : Source := ⟨"gap.rs", "fn f() \x7b 1 _ \x7d\n".toUTF8.toList, none⟩

theorem parse_repaired_gapSource :
    ∃ errors, gapSource.parse = .error (.recovered errors) ∧
      errors.filterMap Recovered.missingPlace? = [⟨1, 11⟩] ∧
      ∃ outcome outcome' : Outcome,
        run .initial gapSource.readings = .ok outcome ∧ outcome.recovered = errors ∧
        (repair errors Span.point gapSource.readings).length = gapSource.readings.length + 1 ∧
        run .initial (repair errors Span.point gapSource.readings) = .ok outcome' ∧
        outcome'.items.map Item.bare = outcome.items.map Item.bare ∧
        outcome'.recovered.map (Recovered.relocate nowhere) =
          (errors.filter Recovered.isOther).map (Recovered.relocate nowhere) := by
  have hplaces : (run .initial gapSource.readings).toOption.map
      (·.recovered.filterMap Recovered.missingPlace?) = some [⟨1, 11⟩] := by
    decide +kernel
  cases hrun : run .initial gapSource.readings with
  | error e =>
    rw [hrun] at hplaces
    cases hplaces
  | ok outcome =>
    rw [hrun] at hplaces
    have hplaces : outcome.recovered.filterMap Recovered.missingPlace? = [⟨1, 11⟩] :=
      Option.some.inj hplaces
    have hfaulty : outcome.recovered ≠ [] := by
      intro hnil
      rw [hnil] at hplaces
      cases hplaces
    have h : gapSource.parse = .error (.recovered outcome.recovered) :=
      parse_of_run_faulty hrun hfaulty
    obtain ⟨_, outcome', hrun', herrors, hlength, hrun'', hitems, hrecovered, -⟩ :=
      parse_repaired h Span.point
    rw [hrun] at hrun'
    rw [hplaces] at hlength
    exact ⟨outcome.recovered, h, hplaces, _, outcome', hrun', herrors, hlength, hrun'', hitems,
      hrecovered⟩

end MicroRust
