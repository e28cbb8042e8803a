import Mathlib.Algebra.GroupWithZero.Nat
import MicroRust.Command.Run
import MicroRust.Proofs.Command.FrontEnd

/-! Checks of files in any order.

Each job works on its own result, so whatever has been done of it and of the others, what is left to
do leads to the same result. None of the checks fails, and a group that is not done can go on. The
report is therefore the one of the files checked one after the other. -/

namespace MicroRust

open Text

section

variable {ε α : Type}

namespace Job

/-- What is left to do of a job gives `final`, and a job that has returned has nothing left. -/
structure Leads (job : Job ε α) (final : α) : Prop where
  finish : job.work.finish job.result = .ok final
  returned : job.phase = .returned → job.work = []

theorem Leads.result_eq {job : Job ε α} {final : α} (h : job.Leads final)
    (hphase : job.phase = .returned) : job.result = final := by
  have hfinish := h.finish
  rw [h.returned hphase] at hfinish
  exact Except.ok.inj hfinish

def remaining (job : Job ε α) : Nat :=
  match job.phase with
  | .waiting => job.work.length + 2
  | .running => job.work.length + 1
  | .returned => 0

end Job

theorem Work.exists_of_finish_cons {piece : α → Except ε α} {work : Work ε α} {result final : α}
    (h : Work.finish (piece :: work) result = .ok final) :
    ∃ next, piece result = .ok next ∧ Work.finish work next = .ok final := by
  unfold Work.finish at h
  rw [List.foldlM_cons] at h
  cases hpiece : piece result with
  | error e =>
    rw [hpiece] at h
    cases h
  | ok next =>
    rw [hpiece] at h
    exact ⟨next, rfl, h⟩

namespace JobGroup

/-- Nothing has failed, and each job leads to its place in `finals`. -/
structure Leads (finals : List α) (g : JobGroup ε α) : Prop where
  limit : 0 < g.limit
  failure : g.failure = none
  length : g.jobs.length = finals.length
  job : ∀ (i : Nat) (job : Job ε α), g.jobs[i]? = some job →
    ∃ final, finals[i]? = some final ∧ job.Leads final

/-- A bound on the events that are still to come. -/
def remaining (g : JobGroup ε α) : Nat := (g.jobs.map Job.remaining).sum

variable {finals : List α} {g next : JobGroup ε α} {e : JobEvent}

theorem leads_ofWorks (limit : Int) {works : List (Work ε α)} {blank : α}
    (hlength : works.length = finals.length)
    (h : ∀ (i : Nat) (work : Work ε α), works[i]? = some work →
      ∃ final, finals[i]? = some final ∧ work.finish blank = .ok final) :
    (ofWorks limit works blank).Leads finals := by
  refine ⟨?_, rfl, ?_, ?_⟩
  · show 0 < (max 1 limit).toNat
    omega
  · exact (List.length_map ..).trans hlength
  · intro i job hjob
    rw [ofWorks, List.getElem?_map] at hjob
    obtain ⟨work, hwork, rfl⟩ := Option.map_eq_some_iff.1 hjob
    obtain ⟨final, hfinal, hfinish⟩ := h i work hwork
    exact ⟨final, hfinal, hfinish, nofun⟩

theorem step?_cases (h : g.step? e = some next) :
    ∃ i job, g.jobs[i]? = some job ∧
      (job.phase = .waiting ∧ next = g.start i job ∨
        job.phase = .running ∧ next = g.advance i job) := by
  cases e with
  | start i =>
    simp only [step?] at h
    split at h
    · rename_i job hjob
      split at h
      · rename_i hphase
        exact ⟨i, job, hjob, .inl ⟨hphase.1, (Option.some.inj h).symm⟩⟩
      · cases h
    · cases h
  | advance i =>
    simp only [step?] at h
    split at h
    · rename_i job hjob
      split at h
      · rename_i hphase
        exact ⟨i, job, hjob, .inr ⟨hphase, (Option.some.inj h).symm⟩⟩
      · cases h
    · cases h

theorem Leads.exists_put (h : g.Leads finals) (hstep : g.step? e = some next) :
    ∃ i job job' final begun, g.jobs[i]? = some job ∧ finals[i]? = some final ∧
      job'.Leads final ∧ job'.remaining < job.remaining ∧
      next = { g.put i job' with begun } := by
  obtain ⟨i, job, hjob, hnext⟩ := step?_cases hstep
  obtain ⟨final, hfinal, hleads⟩ := h.job i job hjob
  rcases hnext with ⟨hphase, rfl⟩ | ⟨hphase, rfl⟩
  · refine ⟨i, job, { job with phase := .running }, final, g.begun ++ [i], hjob, hfinal,
      ⟨hleads.finish, nofun⟩, ?_, ?_⟩
    · simp only [Job.remaining, hphase]
      omega
    · rw [start, h.failure]
      rfl
  · unfold advance
    cases hwork : job.work with
    | nil =>
      refine ⟨i, job, { job with phase := .returned, work := [] }, final, g.begun, hjob, hfinal,
        ⟨hwork ▸ hleads.finish, fun _ => rfl⟩, ?_, rfl⟩
      simp only [Job.remaining, hphase]
      omega
    | cons piece work =>
      have hfinish := hleads.finish
      rw [hwork] at hfinish
      -- The piece cannot fail, or the work would have no result to lead to.
      obtain ⟨result, hpiece, hrest⟩ := Work.exists_of_finish_cons hfinish
      refine ⟨i, job, { job with work, result }, final, g.begun, hjob, hfinal,
        ⟨hrest, fun hreturned => ?_⟩, ?_, ?_⟩
      · rw [hphase] at hreturned
        cases hreturned
      · simp only [Job.remaining, hphase, hwork, List.length_cons]
        omega
      · simp only [hpiece]
        rfl

theorem Leads.step (h : g.Leads finals) (hstep : g.step? e = some next) : next.Leads finals := by
  obtain ⟨i, job, job', final, begun, hjob, hfinal, hleads, -, rfl⟩ := h.exists_put hstep
  refine ⟨h.limit, h.failure, (List.length_set ..).trans h.length, ?_⟩
  intro k other hother
  simp only [put, List.getElem?_set] at hother
  split at hother
  · rename_i hik
    subst hik
    split at hother
    · cases hother
      exact ⟨final, hfinal, hleads⟩
    · cases hother
  · exact h.job k other hother

theorem Leads.run (h : g.Leads finals) {schedule : List JobEvent}
    (hrun : g.run? schedule = some next) : next.Leads finals := by
  induction schedule generalizing g with
  | nil =>
    cases hrun
    exact h
  | cons e es ih =>
    obtain ⟨middle, hstep, hrest⟩ := Option.bind_eq_some_iff.1 hrun
    exact ih (h.step hstep) hrest

theorem Leads.results_eq (h : g.Leads finals) (hdone : g.isDone = true) :
    g.results = .ok finals := by
  have hresults : g.jobs.map (·.result) = finals := by
    apply List.ext_getElem?
    intro i
    rw [List.getElem?_map]
    cases hjob : g.jobs[i]? with
    | none =>
      rw [List.getElem?_eq_none_iff] at hjob
      exact (List.getElem?_eq_none_iff.2 (h.length ▸ hjob)).symm
    | some job =>
      obtain ⟨final, hfinal, hleads⟩ := h.job i job hjob
      have hphase := List.all_eq_true.1 hdone job (List.mem_of_getElem? hjob)
      rw [hfinal, Option.map_some, hleads.result_eq (of_decide_eq_true hphase)]
  rw [results, h.failure, hresults]

theorem remaining_put_lt {i : Nat} {job job' : Job ε α} (hjob : g.jobs[i]? = some job)
    (hlt : job'.remaining < job.remaining) (begun : List Nat) :
    ({ g.put i job' with begun } : JobGroup ε α).remaining < g.remaining := by
  show ((g.jobs.set i job').map Job.remaining).sum < (g.jobs.map Job.remaining).sum
  generalize g.jobs = jobs at hjob
  induction jobs generalizing i with
  | nil => cases hjob
  | cons first jobs ih =>
    cases i with
    | zero =>
      cases hjob
      simp only [List.set_cons_zero, List.map_cons, List.sum_cons]
      omega
    | succ i =>
      have hrest := ih hjob
      simp only [List.set_cons_succ, List.map_cons, List.sum_cons]
      omega

theorem exists_step (hlimit : 0 < g.limit) (hdone : g.isDone = false) :
    ∃ e next, g.step? e = some next := by
  obtain ⟨job, hmem, hphase⟩ := List.all_eq_false.1 hdone
  rw [decide_eq_true_eq] at hphase
  -- The limit keeps a waiting job back only while another one runs, and that one can go on.
  by_cases hrunning : g.running = 0
  · have hwaiting : job.phase = .waiting := by
      have hnot := List.countP_eq_zero.1 hrunning job hmem
      rw [decide_eq_true_eq] at hnot
      cases hcase : job.phase with
      | waiting => rfl
      | running => exact absurd hcase hnot
      | returned => exact absurd hcase hphase
    obtain ⟨i, hjob⟩ := List.mem_iff_getElem?.1 hmem
    refine ⟨.start i, g.start i job, ?_⟩
    simp only [step?, hjob]
    exact if_pos ⟨hwaiting, hrunning ▸ hlimit⟩
  · obtain ⟨other, hother, hcase⟩ := List.countP_pos_iff.1 (Nat.pos_of_ne_zero hrunning)
    obtain ⟨i, hjob⟩ := List.mem_iff_getElem?.1 hother
    refine ⟨.advance i, g.advance i other, ?_⟩
    simp only [step?, hjob]
    exact if_pos (of_decide_eq_true hcase)

/-- Whatever has happened, the group can be brought to its end. -/
theorem Leads.exists_run (h : g.Leads finals) :
    ∃ schedule last, g.run? schedule = some last ∧ last.isDone = true := by
  -- Some event is possible, and whichever it is, fewer are to come.
  induction hn : g.remaining using Nat.strongRecOn generalizing g with
  | _ n ih =>
    cases hdone : g.isDone with
    | true => exact ⟨[], g, rfl, hdone⟩
    | false =>
      obtain ⟨e, next, hstep⟩ := exists_step h.limit hdone
      obtain ⟨i, job, job', final, begun, hjob, -, -, hlt, hnext⟩ := h.exists_put hstep
      have hless : next.remaining < n := by
        rw [hnext, ← hn]
        exact remaining_put_lt hjob hlt begun
      obtain ⟨schedule, last, hrun, hlast⟩ := ih _ hless (h.step hstep) rfl
      refine ⟨e :: schedule, last, ?_, hlast⟩
      rw [run?, hstep]
      exact hrun

theorem run?_append (g : JobGroup ε α) (es fs : List JobEvent) :
    g.run? (es ++ fs) = (g.run? es).bind (·.run? fs) := by
  induction es generalizing g with
  | nil => rfl
  | cons e es ih =>
    simp only [List.cons_append, run?, Option.bind_assoc, ih]

end JobGroup

end

section

variable (s : Session) (files : Files)

theorem finish_checkWork (path : String) :
    (checkWork s files path).finish {} = .ok (checkFile s files path) := by
  unfold checkFile checkWork
  obtain ⟨compiled, truncated, output⟩ := s.frontEnd files path
  cases compiled with
  | some found => rfl
  | none =>
    show Except.ok (FileCheck.mk output false truncated) = .ok ⟨output ++ [], false, truncated⟩
    rw [List.append_nil]

theorem leads_checkGroup (limit : Int) (paths : List String) :
    (checkGroup s files limit paths).Leads (paths.map (checkFile s files)) := by
  refine JobGroup.leads_ofWorks limit (by simp only [List.length_map]) ?_
  intro i work hwork
  rw [List.getElem?_map] at hwork ⊢
  obtain ⟨path, hpath, rfl⟩ := Option.map_eq_some_iff.1 hwork
  exact ⟨_, congrArg (Option.map (checkFile s files)) hpath, finish_checkWork s files path⟩

end

variable (here : Surroundings) (s : Session) (limit : Int) (paths : List String)

/-- What is written about the files, in the order in which they were named: the report on each, and
behind it a line for one that yields a crate. -/
def fileReports : List Glyph :=
  paths.flatMap fun path => (s.frontEnd here.files path).output ++
    if (s.frontEnd here.files path).compiled.isSome then (s!"{path}: ok\n").toList.map .char else []

def failedCount : Nat := paths.countP fun path => (s.frontEnd here.files path).compiled.isNone

def truncatedCount : Nat := paths.countP fun path => (s.frontEnd here.files path).truncated

/-- What is written behind the reports: how many files there are and how many fail, if messages of
progress are wanted, and how many stopped at the limit, if any did. -/
def closingLines : String :=
  let counted := s!"checked {paths.length} file(s), {failedCount here s paths} failed"
  let stopped := s!"{truncatedCount here s paths} file(s) stopped after {s.settings.maxErrors} errors, " ++
    "raise MaxErrors to see the rest"
  (if s.logger.verbose then
    paint s.logger.colored "32" "[INFO]" ++ s!" {here.time}: {counted}\n" else "") ++
  if 0 < truncatedCount here s paths then
    paint s.logger.colored "33" "[WARN]" ++ s!" {here.time}: {stopped}\n" else ""

theorem ofChecks_map_checkFile :
    CheckResult.ofChecks (paths.map (checkFile s here.files)) =
      ⟨fileReports here s paths, paths.length, failedCount here s paths,
        truncatedCount here s paths⟩ := by
  have hfailed : (fun check : FileCheck => !check.ok) ∘ checkFile s here.files =
      fun path => (s.frontEnd here.files path).compiled.isNone := by
    funext path
    exact Option.not_isSome ..
  simp only [CheckResult.ofChecks, List.flatMap_map, List.length_map, List.countP_map, hfailed]
  rfl

theorem checkReport_of_debug_eq_false (hdebug : s.logger.debug = false) (begun begun' : List String)
    (result : CheckResult) :
    Command.checkReport here s begun result = Command.checkReport here s begun' result := by
  have hlog (message : String) : s.logger.log here.time .debug message = "" := by
    simp [Logger.log, Logger.shows, hdebug]
  have hsilent (paths : List String) :
      (paths.flatMap fun path => glyphs (s.logger.log here.time .debug s!"checking {path}")) =
        [] := by
    simp only [hlog]
    exact List.flatMap_eq_nil_iff.2 fun _ _ => rfl
  simp only [Command.checkReport, hsilent]

theorem checkScheduled_eq (hdebug : s.logger.debug = false) {schedule : List JobEvent}
    {group : JobGroup String FileCheck}
    (hrun : (checkGroup s here.files limit paths).run? schedule = some group)
    (hdone : group.isDone = true) :
    Command.checkScheduled here s limit paths schedule = some (Command.checkAll here s paths) := by
  have hleads := (leads_checkGroup s here.files limit paths).run hrun
  have hresults := hleads.results_eq hdone
  simp only [Command.checkScheduled, hrun, Option.bind_eq_bind, Option.bind_some, hdone, if_true,
    hresults]
  exact congrArg some (checkReport_of_debug_eq_false here s hdebug _ paths _)

theorem exists_run_of_checkScheduled {schedule : List JobEvent} {t : Transcript}
    (h : Command.checkScheduled here s limit paths schedule = some t) :
    ∃ group, (checkGroup s here.files limit paths).run? schedule = some group ∧
      group.isDone = true := by
  obtain ⟨group, hrun, hrest⟩ := Option.bind_eq_some_iff.1 h
  cases hdone : group.isDone with
  | true => exact ⟨group, hrun, hdone⟩
  | false =>
    rw [hdone] at hrest
    cases hrest

theorem log_info (l : Logger) (time message : String) : l.log time .info message =
    if l.verbose then paint l.colored "32" "[INFO]" ++ s!" {time}: {message}\n" else "" := rfl

theorem log_warn (l : Logger) (time message : String) :
    l.log time .warn message = paint l.colored "33" "[WARN]" ++ s!" {time}: {message}\n" := rfl

theorem stderr_checkAll (hdebug : s.logger.debug = false) :
    (Command.checkAll here s paths).stderr =
      fileReports here s paths ++ (closingLines here s paths).toList.map .char := by
  rw [Command.checkAll, checkReport_of_debug_eq_false here s hdebug paths [], checkFiles,
    ofChecks_map_checkFile, closingLines, String.toList_append, List.map_append]
  simp only [Command.checkReport, log_info, log_warn, List.flatMap_nil, List.nil_append,
    List.append_assoc]
  congr 2
  split <;> rfl

theorem exit_checkAll :
    (Command.checkAll here s paths).exit = if 0 < failedCount here s paths then 1 else 0 := by
  rw [Command.checkAll, checkFiles, ofChecks_map_checkFile]
  rfl

theorem failedCount_pos_iff :
    0 < failedCount here s paths ↔
      ∃ path ∈ paths, (s.frontEnd here.files path).compiled = none := by
  simp only [failedCount, List.countP_pos_iff, Option.isNone_iff_eq_none]

theorem exit_checkAll_eq_one_iff :
    (Command.checkAll here s paths).exit = 1 ↔
      ∃ path ∈ paths, (s.frontEnd here.files path).compiled = none := by
  rw [exit_checkAll, ← failedCount_pos_iff]
  split
  · rename_i h
    exact ⟨fun _ => h, fun _ => rfl⟩
  · rename_i h
    exact ⟨nofun, fun hpos => absurd hpos h⟩

theorem exit_checkAll_eq_zero_iff :
    (Command.checkAll here s paths).exit = 0 ↔
      ∀ path ∈ paths, (s.frontEnd here.files path).compiled ≠ none := by
  have hnone : (∀ path ∈ paths, (s.frontEnd here.files path).compiled ≠ none) ↔
      ¬ 0 < failedCount here s paths := by
    rw [failedCount_pos_iff]
    simp only [not_exists, not_and, ne_eq]
  rw [exit_checkAll, hnone]
  split
  · rename_i h
    exact ⟨nofun, fun hzero => absurd h hzero⟩
  · rename_i h
    exact ⟨fun _ => h, fun _ => rfl⟩

/-- In whatever order the jobs begin and go on, and however many of them run at once, none fails,
and they can be brought to their end. Then the files have been reported on in the order in which
they were named, each as it is by itself, and the exit code tells whether one of them yields no
crate. -/
theorem check_any_order (hdebug : s.logger.debug = false) :
    (∀ schedule group, (checkGroup s here.files limit paths).run? schedule = some group →
      group.failure = none ∧
      ∃ more t, Command.checkScheduled here s limit paths (schedule ++ more) = some t) ∧
    ∀ schedule t, Command.checkScheduled here s limit paths schedule = some t →
      t.stdout = [] ∧
      t.stderr = fileReports here s paths ++ (closingLines here s paths).toList.map .char ∧
      (t.exit = 1 ↔ ∃ path ∈ paths, (s.frontEnd here.files path).compiled = none) ∧
      (t.exit = 0 ↔ ∀ path ∈ paths, (s.frontEnd here.files path).compiled ≠ none) ∧
      ∀ o jobs, paths ≠ [] → Session.start here o = .ok s →
        (Command.check jobs paths).run here o = t := by
  constructor
  · intro schedule group hrun
    have hleads := (leads_checkGroup s here.files limit paths).run hrun
    obtain ⟨more, last, hmore, hdone⟩ := hleads.exists_run
    have hall : (checkGroup s here.files limit paths).run? (schedule ++ more) = some last := by
      rw [JobGroup.run?_append, hrun]
      exact hmore
    exact ⟨hleads.failure, more, _, checkScheduled_eq here s limit paths hdebug hall hdone⟩
  · intro schedule t h
    obtain ⟨group, hrun, hdone⟩ := exists_run_of_checkScheduled here s limit paths h
    have hall := checkScheduled_eq here s limit paths hdebug hrun hdone
    obtain rfl : Command.checkAll here s paths = t := Option.some.inj (hall.symm.trans h)
    refine ⟨rfl, ?_, exit_checkAll_eq_one_iff here s paths, exit_checkAll_eq_zero_iff here s paths,
      ?_⟩
    · exact stderr_checkAll here s paths hdebug
    · intro o jobs hne hstart
      obtain ⟨first, rest, rfl⟩ := List.exists_cons_of_ne_nil hne
      simp only [Command.run, Command.withSession, hstart]

def oneFile : Surroundings where
  files := fun path =>
    if path = "a.rs" then .ok "fn f() \x7b \x7d".toUTF8.toList else .error .missing
  build := { language := "", platform := "", arch := "" }
  time := ""

def takenInTurns : List JobEvent :=
  [.start 1, .start 0, .advance 0, .advance 1, .advance 1, .advance 0, .advance 0, .advance 1,
    .advance 1, .advance 0]

def twoReports : String :=
  "a.rs: ok\nb.rs: error[E0002]: Cannot read source\n  open b.rs: no such file or directory\n" ++
    "\nb.rs: found 1 error(s)\n"

theorem check_any_order_takenInTurns :
    ∃ s t, Session.start oneFile {} = .ok s ∧ s.logger.debug = false ∧
      Command.checkScheduled oneFile s 2 ["a.rs", "b.rs"] takenInTurns = some t ∧
      t.stdout = [] ∧ t.stderr = twoReports.toList.map .char ∧ t.exit = 1 ∧
      (Command.check none ["a.rs", "b.rs"]).run oneFile {} = t := by
  have hstart : Session.start oneFile {} = .ok (.under {}) := rfl
  have hsome : (Command.checkScheduled oneFile (.under {}) 2 ["a.rs", "b.rs"]
      takenInTurns).isSome = true := by
    decide +kernel
  have htext : fileReports oneFile (.under {}) ["a.rs", "b.rs"] ++
      (closingLines oneFile (.under {}) ["a.rs", "b.rs"]).toList.map .char =
        twoReports.toList.map .char := by
    decide +kernel
  obtain ⟨t, ht⟩ := Option.isSome_iff_exists.1 hsome
  obtain ⟨hstdout, hstderr, hexit, -, hrun⟩ :=
    (check_any_order oneFile (.under {}) 2 _ rfl).2 _ t ht
  exact ⟨_, t, hstart, rfl, ht, hstdout, hstderr.trans htext, hexit.2 ⟨"b.rs", by simp, rfl⟩,
    hrun {} none (by simp) hstart⟩

end MicroRust
