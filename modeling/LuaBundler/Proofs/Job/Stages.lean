import LuaBundler.Job.Run
import LuaBundler.Proofs.Outcome
import LuaBundler.Proofs.Stub.Creation

/-!
# The stages of a run

A run that ends with a report went through all stages: the analysis passed, stubs were made for its
runtime modules, the worker was launched on what they left, and its bundle was stripped
(`Job.Ran`, `run_eq_ok`). The one stage that warns of missing registrations is the last.
-/

namespace LuaBundler

open LuaBundler.Bundle Files Process Worker Stub

/-! ### Warnings -/

namespace Stub

variable {m m' : Machine} {s s' : Stubs} {project : Path} {module : String}

/-- Creating stubs warns of those it skips and of nothing else. -/
theorem eq_stubCreation_of_mem_createAll {modules : List String} {warnings : List Warning}
    (h : createAll m s project modules = (warnings, m', s')) {w : Warning} (hw : w ∈ warnings) :
    ∃ module reason, w = .stubCreation module reason := by
  induction modules generalizing m s warnings with
  | nil =>
    simp only [createAll, Prod.mk.injEq] at h
    simp [← h.1] at hw
  | cons first rest ih =>
    obtain ⟨r, m₁, s₁, later, -, hlater, ⟨-, rfl⟩ | ⟨reason, -, rfl⟩⟩ := createAll_cons h
    · exact ih hlater hw
    · rcases List.mem_cons.1 hw with rfl | hw
      · exact ⟨first, reason, rfl⟩
      · exact ih hlater hw

/-- Warnings of what could not be removed, and no others. -/
def OnlyCleanup (warnings : List Warning) : Prop :=
  ∀ w ∈ warnings, ∃ path message, w = .cleanup path message

theorem onlyCleanup_removal (path : Path) (answer : Machine.Answer Unit) :
    OnlyCleanup (removal path answer).1 := by
  unfold removal
  split <;> simp [OnlyCleanup]

theorem onlyCleanup_removeDir (m : Machine) (path : Path) : OnlyCleanup (removeDir m path).1 := by
  unfold removeDir
  split
  · split <;> simp [OnlyCleanup]
  · simp [OnlyCleanup]
  · exact onlyCleanup_removal path _

theorem onlyCleanup_removeEach {remove : Machine → Path → List Warning × Machine}
    (h : ∀ m path, OnlyCleanup (remove m path).1) (m : Machine) (paths : List Path) :
    OnlyCleanup (removeEach remove m paths).1 := by
  induction paths generalizing m with
  | nil => simp [removeEach, OnlyCleanup]
  | cons path rest ih => exact fun w hw ↦ (List.mem_append.1 hw).elim (h m path w) (ih _ w)

theorem onlyCleanup_cleanUp (s : Stubs) (m : Machine) : OnlyCleanup (s.cleanUp m).1 := by
  intro w hw
  rcases List.mem_append.1 hw with hw | hw
  · exact onlyCleanup_removeEach (fun m path ↦ onlyCleanup_removal path _) _ _ w hw
  · exact onlyCleanup_removeEach onlyCleanup_removeDir _ _ w hw

end Stub

namespace Job

variable {host : Host} {job : Job} {m m' : Machine} {report : JobReport} {analysis : Analysis}
  {module : String}

theorem missing_not_mem_analyze (h : job.analyze m = .ok analysis) :
    .missingRegistration module ∉ analysis.warnings := by
  obtain ⟨built, -, rfl⟩ := analyze_eq_ok_iff.1 h
  simp [analysisOf, graphWarnings]

theorem missing_not_mem_validate {warnings : List Warning}
    (h : job.validate host m = (.ok warnings, m')) : .missingRegistration module ∉ warnings := by
  unfold validate withCompiler at h
  split at h
  · split at h
    · simp only [Prod.mk.injEq, Except.ok.injEq] at h
      simp [← h.1]
    · split at h <;> simp_all
  · simp only [Prod.mk.injEq, Except.ok.injEq] at h
    simp [← h.1]

/-! ### Stages -/

/-- A run of a job from its analysis to its report. -/
structure Ran (host : Host) (job : Job) (m : Machine) (analysis : Analysis) (m' : Machine)
    (s : Stubs) (text : String) (output : Output) (stripped : Stripped) (report : JobReport) :
    Prop where
  analyze : job.analyze m = .ok analysis
  resolved : ensureResolved analysis.graph = .ok ()
  stubs : ∃ warnings, createAll m .empty job.project analysis.runtimeNames = (warnings, m', s)
  searchPath : job.searchPath m' = .ok text
  launch : (launch host m' (job.worker.withVariable searchPathVariable text) job.timeout job.grace
    job.project job.entry).1 = .success output
  strip : output.strip analysis.runtimeNames = .ok stripped
  bundle : report.bundle = stripped.text
  names : report.stripped = stripped.report.stripped
  missing : ∀ module, .missingRegistration module ∈ report.warnings →
    module ∈ stripped.report.missing

theorem makeBundle_eq_ok {output : Output} (h : job.makeBundle host m = (.ok output, m')) :
    ∃ text, job.searchPath m = .ok text ∧
      (launch host m (job.worker.withVariable searchPathVariable text) job.timeout job.grace
        job.project job.entry).1 = .success output := by
  unfold makeBundle at h
  split at h
  · simp at h
  · rename_i text htext
    refine ⟨text, htext, ?_⟩
    simp only at h
    split at h <;> simp_all

theorem bundleStage_eq_ok {p p' : Progress} {stripped : Stripped}
    (h : job.bundleStage host p analysis = (.ok stripped, p')) :
    (∃ output m', job.makeBundle host p.machine = (.ok output, m') ∧
      output.strip analysis.runtimeNames = .ok stripped) ∧
      p'.warnings = p.warnings ∧ p'.stubs = p.stubs := by
  unfold bundleStage at h
  simp only at h
  split at h
  · simp at h
  · rename_i output m₁ hmake
    split at h
    · simp at h
    · rename_i stripped' hstrip
      simp only [Prod.mk.injEq, Except.ok.injEq] at h
      obtain ⟨rfl, rfl⟩ := h
      exact ⟨⟨output, m₁, hmake, hstrip⟩, rfl, rfl⟩

theorem analyzeResolved_eq_ok_iff :
    job.analyzeResolved m = .ok analysis ↔
      job.analyze m = .ok analysis ∧ ensureResolved analysis.graph = .ok () := by
  simp only [analyzeResolved, Except.bind_eq_ok_iff, pure, Except.pure, Except.ok.injEq]
  grind

/-- Without an analysis the files stay as they are. -/
theorem resolveStage_of_error (host : Host) {p : Progress} {e : JobError}
    (h : job.analyzeResolved p.machine = .error e) :
    ∃ p', job.resolveStage host p = (.error e, p') ∧ p'.machine = p.machine ∧
      p'.stubs = p.stubs := by
  have hmachine : (p.reach .resolving).machine = p.machine := rfl
  unfold resolveStage
  simp only [hmachine]
  rcases Except.bind_eq_error_iff.1 h with hanalyze | ⟨analysis, hanalyze, hresolved⟩
  · rw [hanalyze]
    exact ⟨_, rfl, rfl, rfl⟩
  · have herror : ensureResolved analysis.graph = .error e := by
      simpa [Except.bind_eq_error_iff, pure, Except.pure] using hresolved
    simp only [hanalyze, herror]
    exact ⟨_, rfl, rfl, rfl⟩

/-- After an analysis come the stubs of its runtime modules, and the bundle that is made on them. -/
theorem resolveStage_of_ok {p : Progress} (h : job.analyzeResolved p.machine = .ok analysis) :
    job.resolveStage host p = Prod.map (Except.map (analysis, ·)) id (job.bundleStage host
      (job.stubStage ((p.reach .resolving).warn analysis.warnings) analysis) analysis) := by
  obtain ⟨hanalyze, hresolved⟩ := analyzeResolved_eq_ok_iff.1 h
  have hmachine : (p.reach .resolving).machine = p.machine := rfl
  unfold resolveStage
  simp only [hmachine, hanalyze, hresolved]
  generalize job.bundleStage host _ analysis = result
  obtain ⟨outcome | stripped, p'⟩ := result <;> rfl

theorem resolveStage_eq_ok {p p' : Progress} {stripped : Stripped}
    (h : job.resolveStage host p = (.ok (analysis, stripped), p')) :
    job.analyze p.machine = .ok analysis ∧ ensureResolved analysis.graph = .ok () ∧
      ∃ warnings m' s, createAll p.machine p.stubs job.project analysis.runtimeNames =
        (warnings, m', s) ∧
      (∃ output m₂, job.makeBundle host m' = (.ok output, m₂) ∧
        output.strip analysis.runtimeNames = .ok stripped) ∧
      p'.warnings = p.warnings ++ analysis.warnings ++ warnings ∧ p'.stubs = s := by
  cases hanalysis : job.analyzeResolved p.machine with
  | error e =>
    obtain ⟨p₁, hp₁, -⟩ := resolveStage_of_error host hanalysis
    simp [hp₁] at h
  | ok analysis' =>
    rw [resolveStage_of_ok hanalysis] at h
    obtain ⟨houtcome, rfl⟩ := Prod.ext_iff.1 h
    obtain ⟨stripped', hbundle, heq⟩ := Except.map_eq_ok_iff.1 houtcome
    obtain ⟨rfl, rfl⟩ := Prod.mk.inj heq
    obtain ⟨hanalyze, hresolved⟩ := analyzeResolved_eq_ok_iff.1 hanalysis
    obtain ⟨hmake, hwarnings, hstubs⟩ := bundleStage_eq_ok (Prod.ext hbundle rfl)
    exact ⟨hanalyze, hresolved, _, _, _, rfl, hmake, hwarnings, hstubs⟩

/-- A run starts from the machine as it is, without stubs and warnings. -/
theorem exists_start (job : Job) (m : Machine) : ∃ start : Progress,
    (if job.validateSyntax then Progress.reach { machine := m } .validating else { machine := m }) =
      start ∧ start.machine = m ∧ start.stubs = .empty ∧ start.warnings = [] := by
  split <;> exact ⟨_, rfl, rfl, rfl, rfl⟩

theorem execute_eq_ok {p' : Progress} {stripped : Stripped}
    (h : job.execute host m = (.ok (analysis, stripped), p')) :
    ∃ warnings m₁, job.validate host m = (.ok warnings, m₁) ∧
      ∃ p : Progress, p.machine = m₁ ∧ p.stubs = .empty ∧ p.warnings = warnings ∧
        job.resolveStage host p = (.ok (analysis, stripped), p') := by
  obtain ⟨start, hstart, hmachine, hstubs, hwarnings⟩ := exists_start job m
  simp only [execute, hstart, hmachine] at h
  split at h
  · simp at h
  · rename_i warnings m₁ hvalidate
    refine ⟨warnings, m₁, hvalidate, (start.onMachine m₁).warn warnings, rfl, hstubs, ?_, h⟩
    simp [Progress.onMachine, Progress.warn, hwarnings]

/-- **A run that ends with a report went through all stages.** -/
theorem run_eq_ok (h : (job.run host m).1 = .ok report) :
    ∃ warnings m₁, job.validate host m = (.ok warnings, m₁) ∧
      ∃ analysis m' s text output stripped,
        Ran host job m₁ analysis m' s text output stripped report := by
  unfold run at h
  generalize hrun : job.execute host m = result at h
  obtain ⟨outcome, p'⟩ := result
  -- from the last stage back to the first
  obtain ⟨⟨analysis, stripped⟩, rfl, rfl⟩ := Except.map_eq_ok_iff.1 h
  obtain ⟨warnings, m₁, hvalidate, p, rfl, hempty, rfl, hresolve⟩ := execute_eq_ok hrun
  obtain ⟨hanalyze, hresolved, created, m', s, hstubs, ⟨output, m₂, hmake, hstrip⟩, hwarnings, -⟩ :=
    resolveStage_eq_ok hresolve
  obtain ⟨text, htext, hlaunch⟩ := makeBundle_eq_ok hmake
  rw [hempty] at hstubs
  refine ⟨_, _, hvalidate, analysis, m', s, text, output, stripped, hanalyze, hresolved,
    ⟨created, hstubs⟩, htext, hlaunch, hstrip, rfl, rfl, fun module hmodule ↦ ?_⟩
  -- the warnings of the stages before the last are of other kinds
  have hbefore : .missingRegistration module ∉ (cleanUp p').warnings := by
    simp only [cleanUp, Progress.warn, Progress.onMachine, Progress.reach, hwarnings,
      List.mem_append, not_or]
    refine ⟨⟨⟨missing_not_mem_validate hvalidate, missing_not_mem_analyze hanalyze⟩,
      fun hmem ↦ ?_⟩, fun hmem ↦ ?_⟩
    · simpa using eq_stubCreation_of_mem_createAll hstubs hmem
    · simpa using onlyCleanup_cleanUp _ _ _ hmem
  rcases List.mem_append.1 hmodule with hmem | hmem
  · exact absurd hmem hbefore
  · obtain ⟨name, hname, heq⟩ := List.mem_map.1 hmem
    rw [Warning.missingRegistration.injEq] at heq
    exact heq ▸ hname

/-- A run whose stages pass ends with a report. -/
theorem exists_report {m₂ : Machine} {created : List Warning} {s : Stubs} {text : String}
    {output : Output} {stripped : Stripped} (hoff : job.validateSyntax = false)
    (hanalyze : job.analyze m = .ok analysis) (hresolved : ensureResolved analysis.graph = .ok ())
    (hstubs : createAll m .empty job.project analysis.runtimeNames = (created, m', s))
    (htext : job.searchPath m' = .ok text)
    (hlaunch : launch host m' (job.worker.withVariable searchPathVariable text) job.timeout job.grace
      job.project job.entry = (.success output, m₂))
    (hstrip : output.strip analysis.runtimeNames = .ok stripped) :
    ∃ report, (job.run host m).1 = .ok report ∧ report.bundle = stripped.text := by
  have hvalidate : job.validate host m = (.ok [], m) := by simp [validate, withCompiler, hoff]
  have hmake : job.makeBundle host m' = (.ok output, m₂) := by simp only [makeBundle, htext, hlaunch]
  have hbundle : ∀ p : Progress, p.machine = m' →
      ∃ p', job.bundleStage host p analysis = (.ok stripped, p') := by
    intro p hp
    simp only [bundleStage, Progress.reach, hp, hmake, hstrip]
    exact ⟨_, rfl⟩
  have hresolve : ∀ p : Progress, p.machine = m → p.stubs = .empty →
      ∃ p', job.resolveStage host p = (.ok (analysis, stripped), p') := by
    intro p hp hempty
    have hstubbed : (job.stubStage ((p.reach .resolving).warn analysis.warnings) analysis).machine =
        m' := by
      simp only [stubStage, Progress.reach, Progress.warn, hp, hempty, hstubs]
    obtain ⟨p', hp'⟩ := hbundle _ hstubbed
    rw [resolveStage_of_ok (hp ▸ analyzeResolved_eq_ok_iff.2 ⟨hanalyze, hresolved⟩), hp']
    exact ⟨p', rfl⟩
  obtain ⟨p', hp'⟩ := hresolve ((Progress.onMachine { machine := m } m).warn []) rfl rfl
  have hexecute : job.execute host m = (.ok (analysis, stripped), p') := by
    simp only [execute, hoff, Bool.false_eq_true, if_false, hvalidate]
    exact hp'
  exact ⟨job.reportOf (cleanUp p') analysis stripped, by simp only [run, hexecute, Except.map], rfl⟩

end Job

end LuaBundler
