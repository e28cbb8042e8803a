import MicroRust.Command.Session
import MicroRust.Proofs.Declaration.Module
import MicroRust.Proofs.Diagnostic.Engine
import MicroRust.Proofs.Diagnostic.Lint

/-! The verdict of the front end on a file, and how it is told.

A file is accepted for what is in it and for what the settings say about one warning. Nothing that
is dropped or cut short on the way to the report makes a refused file an accepted one. -/

namespace MicroRust

open Text

/-- The warning about a loop on `true` is one that refuses the crate. -/
def Policy.Denies (policy : Policy) (c : Crate) : Prop :=
  policy.warningsAsErrors = true ∧ "W0001" ∉ policy.ignoreCodes ∧ c.LoopsOnTrue

section

variable (path : String) (content : List UInt8)

theorem examine_cases :
    (∃ e, (Source.mk path content none).parse = .error e ∧
      examine path content = (Diagnostic.ofParseError e, none)) ∨
    (∃ c refusal, (Source.mk path content none).parse = .ok c ∧ ¬ c.names.Nodup ∧
      examine path content = ([.declaration refusal], none)) ∨
    ∃ c, (Source.mk path content none).parse = .ok c ∧ c.names.Nodup ∧
      examine path content =
        (Diagnostic.lint c, some (c, ⟨c.name, c.declarations.map Decl.ofDeclaration⟩)) := by
  unfold examine
  cases (Source.mk path content none).parse with
  | error e => exact .inl ⟨e, rfl, rfl⟩
  | ok c =>
    by_cases hnodup : c.names.Nodup
    · have hmodule := Crate.module_of_nodup hnodup
      refine .inr (.inr ⟨c, rfl, hnodup, ?_⟩)
      simp only [analyze, hmodule, Option.map_some]
    · obtain ⟨last, refusal, hmodule⟩ := Crate.module_of_not_nodup hnodup
      refine .inr (.inl ⟨c, refusal, rfl, hnodup, ?_⟩)
      simp only [analyze, hmodule, Option.map_none]

theorem severity_of_examine (h : (examine path content).2 = none) :
    ∀ d ∈ (examine path content).1, d.severity = .error := by
  obtain ⟨e, -, hexamine⟩ | ⟨c, refusal, -, -, hexamine⟩ | ⟨c, -, -, hexamine⟩ :=
    examine_cases path content
  · rw [hexamine]
    exact Diagnostic.severity_ofParseError e
  · rw [hexamine]
    intro d hd
    obtain rfl := List.mem_singleton.1 hd
    rfl
  · rw [hexamine] at h
    cases h

end

section

variable (policy : Policy) (style : ReportStyle) (path : String)

theorem frontEnd_ok (content : List UInt8) :
    frontEnd policy style path (.ok content) =
      ⟨if (Engine.collect policy path (examine path content).1).hasErrors then none
        else (examine path content).2,
        (Engine.collect policy path (examine path content).1).truncated,
        if (Engine.collect policy path (examine path content).1).diagnostics.isEmpty then []
        else Report.text style (some (.ofBytes path content))
          (Engine.collect policy path (examine path content).1)⟩ :=
  rfl

theorem frontEnd_error (cause : FileError) :
    frontEnd policy style path (.error cause) = ⟨none, false, Report.text style none
      (Engine.collect policy path [.unreadable (cause.message path)])⟩ := by
  simp only [frontEnd, unreadableFile, Engine.collect, Engine.addAll, List.foldl_cons,
    List.foldl_nil]

theorem hasErrors_lint (c : Crate) :
    (Engine.collect policy path (Diagnostic.lint c)).hasErrors = true ↔ policy.Denies c := by
  rw [Engine.hasErrors_collect]
  constructor
  · rintro ⟨d, hd, hcode, hseverity⟩
    obtain ⟨span, cond, body, hin, htrue, rfl⟩ := (Diagnostic.mem_lint_iff c d).1 hd
    refine ⟨hseverity.resolve_left ?_, hcode, span, cond, body, hin, htrue⟩
    intro herror
    cases herror
  · rintro ⟨hpolicy, hcode, span, cond, body, hin, htrue⟩
    refine ⟨_, (Diagnostic.mem_lint_iff c _).2 ⟨span, cond, body, hin, htrue, rfl⟩, ?_⟩
    exact ⟨hcode, .inr hpolicy⟩

theorem frontEnd_compiled_iff (content : List UInt8) (c : Crate) (m : Module) :
    (frontEnd policy style path (.ok content)).compiled = some (c, m) ↔
      (Source.mk path content none).parse = .ok c ∧ c.names.Nodup ∧ ¬ policy.Denies c ∧
      m = ⟨c.name, c.declarations.map Decl.ofDeclaration⟩ := by
  have hlint := hasErrors_lint policy path
  rw [frontEnd_ok]
  obtain ⟨e, hparse, hexamine⟩ | ⟨d, refusal, hparse, hnodup, hexamine⟩ |
    ⟨d, hparse, hnodup, hexamine⟩ := examine_cases path content
  · simp only [hexamine, hparse, ite_self]
    constructor
    · intro h
      cases h
    · rintro ⟨heq, -⟩
      cases heq
  · simp only [hexamine, hparse, ite_self]
    constructor
    · intro h
      cases h
    · rintro ⟨heq, hc, -⟩
      cases heq
      exact absurd hc hnodup
  · simp only [hexamine, hparse]
    by_cases hdenies : policy.Denies d
    · rw [if_pos ((hlint d).2 hdenies)]
      constructor
      · intro h
        cases h
      · rintro ⟨heq, -, hc, -⟩
        cases heq
        exact absurd hdenies hc
    · rw [if_neg fun h => hdenies ((hlint d).1 h)]
      constructor
      · intro h
        cases h
        exact ⟨rfl, hnodup, hdenies, rfl⟩
      · rintro ⟨heq, -, -, rfl⟩
        cases heq
        rfl

end

theorem Session.compiled_iff (s : Session) {files : Files} {path : String} {content : List UInt8}
    (h : files path = .ok content) (c : Crate) (m : Module) :
    (s.frontEnd files path).compiled = some (c, m) ↔
      (Source.mk path content none).parse = .ok c ∧ c.names.Nodup ∧ ¬ s.policy.Denies c ∧
      m = ⟨c.name, c.declarations.map Decl.ofDeclaration⟩ := by
  rw [Session.frontEnd, h]
  exact frontEnd_compiled_iff s.policy s.style path content c m

theorem Session.fst_compiled_iff (s : Session) {files : Files} {path : String}
    {content : List UInt8} (h : files path = .ok content) (c : Crate) :
    (s.frontEnd files path).compiled.map Prod.fst = some c ↔
      (Source.mk path content none).parse = .ok c ∧ c.names.Nodup ∧ ¬ s.policy.Denies c := by
  rw [Option.map_eq_some_iff]
  constructor
  · rintro ⟨⟨c, m⟩, hcompiled, rfl⟩
    obtain ⟨hparse, hnodup, hdenies, -⟩ := (s.compiled_iff h c m).1 hcompiled
    exact ⟨hparse, hnodup, hdenies⟩
  · rintro ⟨hparse, hnodup, hdenies⟩
    exact ⟨_, (s.compiled_iff h c _).2 ⟨hparse, hnodup, hdenies, rfl⟩, rfl⟩

theorem Session.snd_compiled_iff (s : Session) {files : Files} {path : String}
    {content : List UInt8} (h : files path = .ok content) (m : Module) :
    (s.frontEnd files path).compiled.map Prod.snd = some m ↔
      ∃ c, (s.frontEnd files path).compiled.map Prod.fst = some c ∧
        m = ⟨c.name, c.declarations.map Decl.ofDeclaration⟩ := by
  rw [Option.map_eq_some_iff]
  constructor
  · rintro ⟨⟨c, m⟩, hcompiled, rfl⟩
    obtain ⟨-, -, -, hm⟩ := (s.compiled_iff h c m).1 hcompiled
    exact ⟨c, congrArg (Option.map Prod.fst) hcompiled, hm⟩
  · rintro ⟨c, hcrate, rfl⟩
    obtain ⟨hparse, hnodup, hdenies⟩ := (s.fst_compiled_iff h c).1 hcrate
    exact ⟨_, (s.compiled_iff h c _).2 ⟨hparse, hnodup, hdenies, rfl⟩, rfl⟩

theorem Session.compiled_congr {s s' : Session} {files : Files} {path : String}
    {content : List UInt8} (h : files path = .ok content)
    (hdenies : ∀ c, s'.policy.Denies c ↔ s.policy.Denies c) :
    (s'.frontEnd files path).compiled = (s.frontEnd files path).compiled := by
  apply Option.ext
  rintro ⟨c, m⟩
  rw [s'.compiled_iff h, s.compiled_iff h, hdenies]

/-- A file is accepted if it is parsed, its names are distinct and no warning that counts refuses
it, and then both the tree and the module are returned. No other setting has a say. -/
theorem frontEnd_accepts (s : Session) {files : Files} {path : String} {content : List UInt8}
    (h : files path = .ok content) :
    (∀ c, (s.frontEnd files path).compiled.map Prod.fst = some c ↔
      (Source.mk path content none).parse = .ok c ∧ c.names.Nodup ∧
      ¬ (s.settings.warningsAsErrors = true ∧ "W0001" ∉ s.settings.ignoreCodes ∧
        c.LoopsOnTrue)) ∧
    (∀ m, (s.frontEnd files path).compiled.map Prod.snd = some m ↔
      ∃ c, (s.frontEnd files path).compiled.map Prod.fst = some c ∧
        m = ⟨c.name, c.declarations.map Decl.ofDeclaration⟩) ∧
    (∀ s' : Session, s'.settings.warningsAsErrors = s.settings.warningsAsErrors →
      ("W0001" ∈ s'.settings.ignoreCodes ↔ "W0001" ∈ s.settings.ignoreCodes) →
      (s'.frontEnd files path).compiled = (s.frontEnd files path).compiled) ∧
    (s.settings.warningsAsErrors = false →
      ∀ c, (Source.mk path content none).parse = .ok c → c.names.Nodup →
        (s.frontEnd files path).compiled.map Prod.fst = some c) := by
  refine ⟨s.fst_compiled_iff h, s.snd_compiled_iff h, ?_, ?_⟩
  · intro s' hdeny hcode
    apply Session.compiled_congr h
    intro c
    have hpolicy : s'.policy.warningsAsErrors = s.policy.warningsAsErrors := hdeny
    have hcodes : "W0001" ∈ s'.policy.ignoreCodes ↔ "W0001" ∈ s.policy.ignoreCodes := hcode
    rw [Policy.Denies, Policy.Denies, hpolicy, hcodes]
  · intro hallow c hparse hnodup
    refine (s.fst_compiled_iff h c).2 ⟨hparse, hnodup, ?_⟩
    rintro ⟨hdeny, -⟩
    have hpolicy : s.policy.warningsAsErrors = false := hallow
    rw [hpolicy] at hdeny
    cases hdeny

def Session.under (settings : Settings) : Session :=
  ⟨settings, false, defaultWidth, ⟨false, false, false⟩⟩

def lenientSession : Session := .under { warningsAsErrors := true, ignoreCodes := ["W0001"] }

def strictSession : Session := .under { warningsAsErrors := true, ignoreCodes := ["E1001"] }

def loopFiles : Files := fun _ => .ok "fn f() \x7b while (true) \x7b \x7d \x7d".toUTF8.toList

theorem frontEnd_accepts_loopFiles :
    ∃ content c, loopFiles "loop.rs" = .ok content ∧
      (Source.mk "loop.rs" content none).parse = .ok c ∧ c.LoopsOnTrue ∧
      (lenientSession.frontEnd loopFiles "loop.rs").compiled.map Prod.fst = some c ∧
      (strictSession.frontEnd loopFiles "loop.rs").compiled = none := by
  have hsome : (lenientSession.frontEnd loopFiles "loop.rs").compiled.isSome = true := by
    decide +kernel
  have hnone : (strictSession.frontEnd loopFiles "loop.rs").compiled.isNone = true := by
    decide +kernel
  obtain ⟨content, hcontent⟩ : ∃ content, loopFiles "loop.rs" = .ok content := ⟨_, rfl⟩
  obtain ⟨⟨c, m⟩, hcompiled⟩ := Option.isSome_iff_exists.1 hsome
  have hcrate := congrArg (Option.map Prod.fst) hcompiled
  have hnone := Option.isNone_iff_eq_none.1 hnone
  obtain ⟨hparse, hnodup, -⟩ := ((frontEnd_accepts lenientSession hcontent).1 c).1 hcrate
  refine ⟨content, c, hcontent, hparse, ?_, hcrate, hnone⟩
  apply Classical.byContradiction
  intro hloops
  have hstrict := ((frontEnd_accepts strictSession hcontent).1 c).2
    ⟨hparse, hnodup, fun hdenies => hloops hdenies.2.2⟩
  rw [hnone] at hstrict
  cases hstrict

def findings (path : String) : Except FileError (List UInt8) → List Diagnostic
  | .error cause => [.unreadable (cause.message path)]
  | .ok content => (examine path content).1

section

variable {policy : Policy} {style : ReportStyle} {path : String} {content : List UInt8}

theorem hasErrors_of_compiled_eq_none
    (hnone : (frontEnd policy style path (.ok content)).compiled = none) {d : Diagnostic}
    (hd : d ∈ (examine path content).1) (hcode : d.code ∉ policy.ignoreCodes) :
    (Engine.collect policy path (examine path content).1).hasErrors = true := by
  by_cases herrors : (Engine.collect policy path (examine path content).1).hasErrors = true
  · exact herrors
  · rw [frontEnd_ok] at hnone
    have hexamine : (examine path content).2 = none := (if_neg herrors).symm.trans hnone
    have hseverity := severity_of_examine path content hexamine d hd
    exact (Engine.hasErrors_collect ..).2 ⟨d, hd, hcode, .inl hseverity⟩

theorem tellsErrors_collect {ds : List Diagnostic} (file : Option SourceFile)
    (h : (Engine.collect policy path ds).hasErrors = true) :
    Report.TellsErrors style path (Report.text style file (Engine.collect policy path ds)) := by
  have htells := Report.tellsErrors_text style file h
  rwa [Engine.filename_collect] at htells

theorem tellsWarnings_collect {ds : List Diagnostic} (file : Option SourceFile)
    (h : ¬ (Engine.collect policy path ds).hasErrors = true)
    (hne : (Engine.collect policy path ds).diagnostics ≠ []) :
    Report.TellsWarnings style path (Report.text style file (Engine.collect policy path ds)) := by
  have htells := Report.tellsWarnings_text style file h hne
  rwa [Engine.filename_collect] at htells

end

/-- A file that is not accepted is told of, unless the settings drop all that is wrong with it. One
that is accepted is told of for its warnings only. -/
theorem frontEnd_tells (s : Session) (files : Files) (path : String) :
    ((s.frontEnd files path).compiled = none →
      (∃ d ∈ findings path (files path), d.code ∉ s.settings.ignoreCodes) →
      Report.TellsErrors s.style path (s.frontEnd files path).output) ∧
    ∀ c m, (s.frontEnd files path).compiled = some (c, m) →
      (s.frontEnd files path).output = [] ∨
        Report.TellsWarnings s.style path (s.frontEnd files path).output := by
  unfold Session.frontEnd
  cases files path with
  | error cause =>
    constructor
    · rintro - ⟨d, hd, hcode⟩
      obtain rfl := List.mem_singleton.1 hd
      have herrors := (Engine.hasErrors_collect s.policy path _).2
        ⟨_, List.mem_singleton_self _, hcode, .inl rfl⟩
      rw [frontEnd_error]
      exact tellsErrors_collect none herrors
    · intro c m h
      rw [frontEnd_error] at h
      cases h
  | ok content =>
    constructor
    · rintro hnone ⟨d, hd, hcode⟩
      have herrors := hasErrors_of_compiled_eq_none hnone hd hcode
      have hne : ¬ (Engine.collect s.policy path (examine path content).1).diagnostics.isEmpty =
          true := by
        intro hempty
        obtain ⟨d, hd, -⟩ := (Engine.hasErrors_iff _).1 herrors
        rw [List.isEmpty_iff.1 hempty] at hd
        cases hd
      rw [frontEnd_ok, if_neg hne]
      exact tellsErrors_collect _ herrors
    · intro c m h
      rw [frontEnd_ok] at h ⊢
      have hclean : ¬ (Engine.collect s.policy path (examine path content).1).hasErrors = true := by
        intro herrors
        rw [if_pos herrors] at h
        cases h
      dsimp only
      split
      · exact .inl rfl
      · rename_i hne
        refine .inr (tellsWarnings_collect _ hclean ?_)
        intro hnil
        exact hne (List.isEmpty_iff.2 hnil)

def wordFiles : Files := fun _ => .ok "x".toUTF8.toList

def silentSession : Session := .under { ignoreCodes := ["E1001"] }

theorem frontEnd_tells_wordFiles :
    (lenientSession.frontEnd wordFiles "word.rs").compiled = none ∧
      (∃ d ∈ findings "word.rs" (wordFiles "word.rs"),
        d.code ∉ lenientSession.settings.ignoreCodes) ∧
      Report.TellsErrors lenientSession.style "word.rs"
        (lenientSession.frontEnd wordFiles "word.rs").output := by
  have hnone : (lenientSession.frontEnd wordFiles "word.rs").compiled.isNone = true := by
    decide +kernel
  have hfound : ∃ d ∈ findings "word.rs" (wordFiles "word.rs"),
      d.code ∉ lenientSession.settings.ignoreCodes := by
    decide +kernel
  have hnone := Option.isNone_iff_eq_none.1 hnone
  exact ⟨hnone, hfound, (frontEnd_tells lenientSession wordFiles "word.rs").1 hnone hfound⟩

/-- Where the settings drop all that is wrong with a file, it is refused in silence. -/
theorem frontEnd_silent :
    silentSession.settings.validate = .ok () ∧
      (silentSession.frontEnd wordFiles "word.rs").compiled = none ∧
      (silentSession.frontEnd wordFiles "word.rs").output = [] ∧
      ¬ Report.TellsErrors silentSession.style "word.rs"
        (silentSession.frontEnd wordFiles "word.rs").output := by
  have hnone : (silentSession.frontEnd wordFiles "word.rs").compiled.isNone = true := by
    decide +kernel
  have houtput : (silentSession.frontEnd wordFiles "word.rs").output = [] := by
    decide +kernel
  refine ⟨rfl, Option.isNone_iff_eq_none.1 hnone, houtput, ?_⟩
  intro htells
  exact htells.ne_nil houtput

end MicroRust
