import MicroRust.Diagnostic.Report

/-! What a policy makes of the diagnostics of a file.

The limit drops errors only where there are some already, so whether a file has errors depends on
the codes that are dropped and on the promotion of warnings, and on nothing else. A report tells
errors exactly if there are some. -/

namespace MicroRust

open Text

theorem Diagnostic.severity_ofRecovered (r : Recovered) : (ofRecovered r).severity = .error := by
  cases r <;> rfl

theorem Diagnostic.severity_ofParseError (e : ParseError) :
    ∀ d ∈ ofParseError e, d.severity = .error := by
  intro d hd
  cases e with
  | recovered errors =>
    obtain ⟨r, -, rfl⟩ := List.mem_map.1 hd
    exact severity_ofRecovered r
  | lexical e =>
    obtain rfl := List.mem_singleton.1 hd
    obtain ⟨cause, span⟩ := e
    cases cause <;> rfl
  | endOfTokens | unexpected | unreadable =>
    obtain rfl := List.mem_singleton.1 hd
    rfl

/-- The policy keeps a diagnostic, and as an error. -/
def Policy.Rejects (policy : Policy) (d : Diagnostic) : Prop :=
  d.code ∉ policy.ignoreCodes ∧ (d.severity = .error ∨ policy.warningsAsErrors = true)

namespace Engine

variable {e : Engine} {d : Diagnostic}

theorem severity_promote (policy : Policy) (d : Diagnostic) :
    (promote policy d).severity = .error ↔
      d.severity = .error ∨ policy.warningsAsErrors = true := by
  unfold promote
  split
  · rename_i h
    exact ⟨fun _ => .inr h, fun _ => rfl⟩
  · rename_i h
    exact ⟨.inl, fun hor => hor.resolve_right h⟩

theorem hasErrors_iff (e : Engine) :
    e.hasErrors = true ↔ ∃ d ∈ e.diagnostics, d.severity = .error := by
  simp [hasErrors, errors]

theorem hasErrors_of_limitReached (h : e.limitReached = true) : e.hasErrors = true := by
  simp only [limitReached, Bool.and_eq_true, decide_eq_true_eq] at h
  have hpos : 0 < e.errors.length := by omega
  rw [hasErrors, Bool.not_eq_true', List.isEmpty_eq_false_iff]
  exact List.length_pos_iff.1 hpos

theorem add_cases (e : Engine) (d : Diagnostic) :
    d.code ∈ e.policy.ignoreCodes ∧ e.add d = e ∨
    d.code ∉ e.policy.ignoreCodes ∧ (promote e.policy d).severity = .error ∧
      e.limitReached = true ∧
      (e.add d = e ∨ e.add d = { e with
        diagnostics := e.diagnostics ++ [.tooMany e.policy.maxErrors], truncated := true }) ∨
    d.code ∉ e.policy.ignoreCodes ∧
      e.add d = { e with diagnostics := e.diagnostics ++ [promote e.policy d] } := by
  unfold add
  split
  · rename_i h
    exact .inl ⟨List.contains_iff_mem.1 h, rfl⟩
  · rename_i h
    have hcode : d.code ∉ e.policy.ignoreCodes := fun hmem => h (List.contains_iff_mem.2 hmem)
    dsimp only
    split
    · rename_i hlimit
      simp only [Bool.and_eq_true, decide_eq_true_eq] at hlimit
      refine .inr (.inl ⟨hcode, hlimit.1, hlimit.2, ?_⟩)
      split
      · exact .inl rfl
      · exact .inr rfl
    · exact .inr (.inr ⟨hcode, rfl⟩)

@[simp] theorem policy_add (e : Engine) (d : Diagnostic) : (e.add d).policy = e.policy := by
  obtain ⟨-, h⟩ | ⟨-, -, -, h | h⟩ | ⟨-, h⟩ := add_cases e d <;> rw [h]

@[simp] theorem filename_add (e : Engine) (d : Diagnostic) : (e.add d).filename = e.filename := by
  obtain ⟨-, h⟩ | ⟨-, -, -, h | h⟩ | ⟨-, h⟩ := add_cases e d <;> rw [h]

theorem hasErrors_append (e : Engine) (ds : List Diagnostic) (truncated : Bool) :
    ({ e with diagnostics := e.diagnostics ++ ds, truncated } : Engine).hasErrors = true ↔
      e.hasErrors = true ∨ ∃ d ∈ ds, d.severity = .error := by
  simp only [hasErrors_iff, List.mem_append, or_and_right, exists_or]

theorem hasErrors_add (e : Engine) (d : Diagnostic) :
    (e.add d).hasErrors = true ↔ e.hasErrors = true ∨ e.policy.Rejects d := by
  rw [Policy.Rejects, ← severity_promote]
  obtain ⟨hcode, h⟩ | ⟨hcode, herror, hlimit, h⟩ | ⟨hcode, h⟩ := add_cases e d
  · rw [h]
    exact ⟨.inl, fun hor => hor.resolve_right fun hd => hd.1 hcode⟩
  · have he := hasErrors_of_limitReached hlimit
    refine ⟨fun _ => .inl he, fun _ => ?_⟩
    rcases h with h | h
    · rwa [h]
    · rw [h, hasErrors_append]
      exact .inl he
  · rw [h, hasErrors_append]
    simp [hcode]

theorem filename_addAll (e : Engine) (ds : List Diagnostic) :
    (e.addAll ds).filename = e.filename := by
  induction ds generalizing e with
  | nil => rfl
  | cons d ds ih => exact (ih (e.add d)).trans (filename_add e d)

theorem hasErrors_addAll (e : Engine) (ds : List Diagnostic) :
    (e.addAll ds).hasErrors = true ↔ e.hasErrors = true ∨ ∃ d ∈ ds, e.policy.Rejects d := by
  induction ds generalizing e with
  | nil => simp [addAll]
  | cons d ds ih =>
    have hadd : e.addAll (d :: ds) = (e.add d).addAll ds := rfl
    rw [hadd, ih, hasErrors_add, policy_add, or_assoc]
    simp only [List.mem_cons, exists_eq_or_imp]

def collect (policy : Policy) (filename : String) (ds : List Diagnostic) : Engine :=
  Engine.addAll { filename, policy } ds

theorem filename_collect (policy : Policy) (filename : String) (ds : List Diagnostic) :
    (collect policy filename ds).filename = filename :=
  filename_addAll _ ds

/-- Neither the limit nor the order of the findings matters for whether there are errors. -/
theorem hasErrors_collect (policy : Policy) (filename : String) (ds : List Diagnostic) :
    (collect policy filename ds).hasErrors = true ↔ ∃ d ∈ ds, policy.Rejects d := by
  rw [collect, hasErrors_addAll]
  constructor
  · rintro (h | h)
    · cases h
    · exact h
  · exact .inr

theorem length_errors_pos (h : e.hasErrors = true) : 0 < e.errors.length := by
  rw [hasErrors, Bool.not_eq_true', List.isEmpty_eq_false_iff] at h
  exact List.length_pos_iff.2 h

theorem warnings_eq (h : ¬ e.hasErrors = true) : e.errors = [] ∧ e.warnings = e.diagnostics := by
  have hwarning : ∀ d ∈ e.diagnostics, d.severity ≠ .error := by
    intro d hd herror
    exact h ((hasErrors_iff e).2 ⟨d, hd, herror⟩)
  constructor
  · rw [errors, List.filter_eq_nil_iff]
    intro d hd herror
    exact hwarning d hd (of_decide_eq_true herror)
  · rw [warnings, List.filter_eq_self]
    intro d hd
    cases hseverity : d.severity with
    | error => exact absurd hseverity (hwarning d hd)
    | warning => rfl

theorem perm_sort (e : Engine) : e.sort.diagnostics.Perm e.diagnostics :=
  List.mergeSort_perm ..

end Engine

namespace Report

variable {e : Engine}

/-- The line that a diagnostic begins with: where it points, what it is and its title. -/
def headerLine (style : ReportStyle) (filename : String) (d : Diagnostic) : String :=
  let place := if d.span.start.isValid then
      s!"{filename}:{d.span.start.line}:{d.span.start.column}"
    else filename
  let tag := match d.severity with
    | .error => paint style.colored "31;1" s!"error[{d.code}]"
    | .warning => paint style.colored "33;1" s!"warning[{d.code}]"
  let title := paint style.colored "1" d.title
  s!"{place}: {tag}: {title}\n"

theorem header_eq (style : ReportStyle) (filename : String) (d : Diagnostic) :
    header style filename d = headerLine style filename d := by
  have hplace : location filename d = if d.span.start.isValid then
      s!"{filename}:{d.span.start.line}:{d.span.start.column}" else filename := by
    simp only [location, Diagnostic.hasSpan, Position.text, toString, String.append_assoc]
  have htag : paint style.colored (severityCodes d.severity) s!"{d.severity.name}[{d.code}]" =
      match d.severity with
      | .error => paint style.colored "31;1" s!"error[{d.code}]"
      | .warning => paint style.colored "33;1" s!"warning[{d.code}]" := by
    cases d.severity <;> rfl
  rw [header, hplace, htag]
  rfl

theorem headerLine_isPrefix_entry (style : ReportStyle) (filename : String)
    (file : Option SourceFile) (d : Diagnostic) :
    glyphs (headerLine style filename d) <+: entry style filename file d := by
  rw [entry, header_eq, List.append_assoc, List.append_assoc]
  exact List.prefix_append ..

theorem summary_of_hasErrors (h : e.hasErrors = true) :
    ∃ rest : String,
      summary e = s!"\n{e.filename}: found {e.errors.length} error(s){rest}\n" := by
  have hpos := Engine.length_errors_pos h
  have hne : e.errors.length ≠ 0 := Nat.ne_of_gt hpos
  simp only [summary, hne, if_pos hpos, decide_false, Bool.false_and, Bool.false_eq_true,
    if_false]
  split
  · refine ⟨s!", {e.warnings.length} warning(s)", ?_⟩
    simp only [List.singleton_append, String.intercalate_cons_cons, String.intercalate_singleton,
      toString, String.append_assoc]
  · refine ⟨"", ?_⟩
    simp only [List.append_nil, String.intercalate_singleton, toString, String.append_assoc,
      String.append_empty]

theorem summary_of_warnings (h : ¬ e.hasErrors = true) (hne : e.diagnostics ≠ []) :
    summary e = s!"\n{e.filename}: found {e.diagnostics.length} warning(s)\n" := by
  obtain ⟨herrors, hwarnings⟩ := Engine.warnings_eq h
  have hpos : 0 < e.diagnostics.length := List.length_pos_iff.2 hne
  have hne : e.diagnostics.length ≠ 0 := Nat.ne_of_gt hpos
  have htext : " warning(s)" ++ "\n" = " warning(s)\n" := rfl
  simp only [summary, herrors, hwarnings, hne, if_pos hpos, decide_false, Bool.and_false,
    Bool.false_eq_true, if_false, List.length_nil, Nat.lt_irrefl, List.nil_append,
    String.intercalate_singleton, toString, String.append_assoc, htext]

/-- A text that tells errors: an entry for each diagnostic shown, behind its header, and how many
errors are among them. -/
def TellsErrors (style : ReportStyle) (filename : String) (text : List Glyph) : Prop :=
  ∃ (file : Option SourceFile) (shown : List Diagnostic) (rest : String),
    0 < (shown.filter (·.severity = .error)).length ∧
    (∀ d ∈ shown, glyphs (headerLine style filename d) <+: entry style filename file d) ∧
    text = [Glyph.char '\n'].intercalate (shown.map (entry style filename file)) ++
      glyphs (s!"\n{filename}: found {(shown.filter (·.severity = .error)).length} error(s)" ++
        s!"{rest}\n")

/-- A text that tells warnings and no errors. -/
def TellsWarnings (style : ReportStyle) (filename : String) (text : List Glyph) : Prop :=
  ∃ (file : Option SourceFile) (shown : List Diagnostic),
    shown ≠ [] ∧ (∀ d ∈ shown, d.severity = .warning) ∧
    (∀ d ∈ shown, glyphs (headerLine style filename d) <+: entry style filename file d) ∧
    text = [Glyph.char '\n'].intercalate (shown.map (entry style filename file)) ++
      glyphs s!"\n{filename}: found {shown.length} warning(s)\n"

theorem TellsErrors.ne_nil {style : ReportStyle} {filename : String} {text : List Glyph}
    (h : TellsErrors style filename text) : text ≠ [] := by
  obtain ⟨file, shown, rest, -, -, rfl⟩ := h
  simp [glyphs]

theorem tellsErrors_text (style : ReportStyle) (file : Option SourceFile)
    (h : e.hasErrors = true) : TellsErrors style e.filename (text style file e) := by
  have hlength : (e.sort.diagnostics.filter (·.severity = .error)).length = e.errors.length :=
    (e.perm_sort.filter _).length_eq
  obtain ⟨rest, hsummary⟩ := summary_of_hasErrors h
  refine ⟨file, e.sort.diagnostics, rest, ?_, ?_, ?_⟩
  · rw [hlength]
    exact Engine.length_errors_pos h
  · intro d _
    exact headerLine_isPrefix_entry style e.filename file d
  · rw [text, hsummary, hlength]
    simp only [toString, String.append_assoc]

theorem tellsWarnings_text (style : ReportStyle) (file : Option SourceFile)
    (h : ¬ e.hasErrors = true) (hne : e.diagnostics ≠ []) :
    TellsWarnings style e.filename (text style file e) := by
  have hperm := e.perm_sort
  refine ⟨file, e.sort.diagnostics, ?_, ?_, ?_, ?_⟩
  · intro hnil
    rw [hnil] at hperm
    exact hne hperm.nil_eq.symm
  · intro d hd
    cases hseverity : d.severity with
    | error => exact absurd ((Engine.hasErrors_iff e).2 ⟨d, hperm.mem_iff.1 hd, hseverity⟩) h
    | warning => rfl
  · intro d _
    exact headerLine_isPrefix_entry style e.filename file d
  · rw [text, summary_of_warnings h hne, hperm.length_eq]

end Report

end MicroRust
