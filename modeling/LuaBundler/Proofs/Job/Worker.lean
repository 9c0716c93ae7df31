import LuaBundler.Proofs.Bundle.Reachability
import LuaBundler.Proofs.Worker.Protocol
import LuaBundler.Proofs.Files.WellFormed
import LuaBundler.Proofs.Search.Agreement
import LuaBundler.Shell.Host
import LuaBundler.Worker.Outcome

/-!
# The built-in worker of a job

A host runs the built-in worker if what the worker process writes and how it exits are those of its
report (`RunsWorker`). On such a host a launch that succeeds has collected a document from the
project directory by the templates of the job (`registers_of_launch`): the report comes through as it
was written.
-/

namespace LuaBundler

open Text Files Process Worker LuaBundler.Bundle

/-- A host that runs the built-in worker as it is: what it writes is its report, and it exits with
the status that goes with it. -/
def RunsWorker (host : Host) : Prop :=
  ∀ m project entry env limit run, host.run m ⟨.self, ["worker", project, entry], env, limit⟩ =
    .ok run → ∀ status, run.exit = .exited status →
      let report := Worker.run { m with env := m.env.setAll env } ⟨project⟩ entry
      run.stdout = encodeString report.wire ∧ status = .code report.exitCode

/-- The host that runs scripts runs the built-in worker. -/
theorem Shell.runsWorker_host : RunsWorker Shell.host := by
  intro m project entry env limit run hrun status hexit
  simp only [host, runCommand] at hrun
  split at hrun
  · simp at hrun
  · simp only [pure, Except.pure, Except.ok.injEq] at hrun
    subst hrun
    unfold runAgain at hexit ⊢
    split at hexit
    · simp at hexit
    · rename_i hlimit
      rw [if_neg hlimit]
      simp only [Exit.exited.injEq] at hexit
      exact ⟨rfl, hexit.symm⟩

/-! ### Documents on machines with other variables -/

namespace Bundle

variable {m : Machine} {env : Environment} {locate : String → Option Path} {entry p : Path}
  {name : String} {d : Document}

theorem reaches_env_iff :
    Reaches { m with env := env } locate entry name p ↔ Reaches m locate entry name p := by
  constructor
  · intro h
    induction h with
    | entry => exact .entry
    | require _ hread hname hne hlocate ih => exact .require ih hread hname hne hlocate
  · intro h
    induction h with
    | entry => exact .entry
    | require _ hread hname hne hlocate ih =>
      exact .require (m := { m with env := env }) ih hread hname hne hlocate

theorem Document.Registers.of_env (h : d.Registers { m with env := env } locate entry) :
    d.Registers m locate entry := by
  refine ⟨h.prelude, h.epilogue, h.nodup, h.head, fun name p hreach ↦ ?_, fun x hx ↦ ?_⟩
  · exact h.registered name p (reaches_env_iff.2 hreach)
  · obtain ⟨p, bytes, hreach, hread, hbody⟩ := h.reaches x hx
    exact ⟨p, bytes, reaches_env_iff.1 hreach, hread, hbody⟩

end Bundle

/-! ### A launch that succeeds -/

variable {host : Host} {m : Machine} {text entry : String} {timeout grace : Duration}
  {project : Path} {output : Output}

theorem templatesIn_setAll (env : Environment) (text : String) :
    templatesIn (env.setAll [(searchPathVariable, text)]) = SearchPath.templatesOf text := by
  simp [templatesIn, Environment.setAll]

/-- What the built-in worker reports as a success is the document that it collects from the project
directory. -/
theorem registers_of_run {env : Environment}
    (h : Worker.run { m with env := env } project entry = .success output) :
    ∃ here d, m.enter project = .ok here ∧ output = .structured d ∧
      d.Registers here (SearchPath.locate here ⟨"."⟩ (templatesIn env))
        (Path.join ⟨"."⟩ ⟨entry⟩) := by
  unfold Worker.run at h
  split at h
  · simp at h
  rename_i here henter
  obtain ⟨π, hentry, rfl⟩ := Machine.enter_eq_ok_iff.1 henter
  unfold reportBundle at h
  split at h
  · rename_i d hcollect
    obtain rfl := Report.success.inj h
    exact ⟨{ m with cwd := π }, d, Machine.enter_eq_ok_iff.2 ⟨π, hentry, rfl⟩, rfl,
      (registers_collect hcollect).of_env⟩
  · simp at h

/-- **A launch that succeeds has collected a document** from the project directory, by the templates
of its search path. -/
theorem registers_of_launch (hhost : RunsWorker host)
    (h : (launch host m ((WorkerCommand.ofSettings none []).withVariable searchPathVariable text)
      timeout grace project entry).1 = .success output) :
    ∃ here d, m.enter project = .ok here ∧ output = .structured d ∧
      d.Registers here (SearchPath.locate here ⟨"."⟩ (SearchPath.templatesOf text))
        (Path.join ⟨"."⟩ ⟨entry⟩) := by
  unfold launch at h
  split at h
  · simp at h
  · rename_i run hrun
    cases hexit : run.exit with
    | timedOut => simp [interpret, hexit] at h
    | waitFailed cause => simp [interpret, hexit] at h
    | exited status =>
      obtain ⟨report, hreport⟩ : ∃ report, Worker.run
        { m with env := m.env.setAll [(searchPathVariable, text)] } project entry = report :=
        ⟨_, rfl⟩
      -- what the worker has written is read back as the report that it made
      have hwritten := hhost m project.text entry [(searchPathVariable, text)] _ run hrun status hexit
      simp only [hreport] at hwritten
      obtain ⟨hstdout, rfl⟩ := hwritten
      simp only [hexit, hstdout, interpret_wire] at h
      cases report with
      | failure diagnostic => simp at h
      | success bundle =>
        obtain rfl := Outcome.success.inj h
        obtain ⟨here, d, henter, houtput, hregisters⟩ := registers_of_run hreport
        rw [templatesIn_setAll] at hregisters
        exact ⟨here, d, henter, houtput, hregisters⟩

/-! ### A host that runs the worker and nothing else -/

/-- The host that runs the built-in worker and nothing else. -/
def workerHost : Host where
  run m c :=
    match c.program, c.args with
    | .self, [_, project, entry] =>
      let report := Worker.run { m with env := m.env.setAll c.env } ⟨project⟩ entry
      .ok ⟨.exited (.code report.exitCode), encodeString report.wire, [], m.tree⟩
    | _, _ => .error .notFound

theorem runsWorker_workerHost : RunsWorker workerHost := by
  intro m project entry env limit run hrun status hexit
  simp only [workerHost, Except.ok.injEq] at hrun
  subst hrun
  simp only [Exit.exited.injEq] at hexit
  exact ⟨rfl, hexit.symm⟩

/-- On this host a launch succeeds if the worker collects a document. -/
theorem launch_workerHost {here : Machine} {d : Document} (henter : m.enter project = .ok here)
    (hcollect : collect
      { here with env := here.env.setAll [(searchPathVariable, text)] } ⟨"."⟩
      (SearchPath.templatesOf text) entry = .ok d) :
    launch workerHost m ((WorkerCommand.ofSettings none []).withVariable searchPathVariable text)
      timeout grace project entry = (.success (.structured d), m) := by
  obtain ⟨π, hentry, rfl⟩ := Machine.enter_eq_ok_iff.1 henter
  have hreport : Worker.run { m with env := m.env.setAll [(searchPathVariable, text)] } project
      entry = .success (.structured d) := by
    have henter' : Machine.enter { m with env := m.env.setAll [(searchPathVariable, text)] } project =
        .ok { m with env := m.env.setAll [(searchPathVariable, text)], cwd := π } :=
      Machine.enter_eq_ok_iff.2 ⟨π, hentry, rfl⟩
    simp only [Worker.run, henter', templatesIn_setAll, reportBundle, hcollect]
  have hrun : workerHost.run m (WorkerCommand.command
      ((WorkerCommand.ofSettings none []).withVariable searchPathVariable text) project entry
      (.terminate timeout grace)) =
      .ok ⟨.exited (.code (Report.success (.structured d)).exitCode),
        encodeString (Report.success (.structured d)).wire, [], m.tree⟩ := by
    rw [← hreport]
    rfl
  simp only [launch, hrun, interpret_wire, outcomeOf_success]

end LuaBundler
