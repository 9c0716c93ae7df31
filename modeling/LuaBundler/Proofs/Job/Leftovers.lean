import LuaBundler.Proofs.Job.Stages
import LuaBundler.Proofs.Search.ProjectRoot
import LuaBundler.Proofs.Stub.Undo

/-!
# What a job leaves behind

Between the syntax check and cleaning up a job changes the files in two ways: it creates stubs, and
it hands the files over to its worker (`Job.Launches`). However far it comes, the stubs it has then
are those that were created on the files that the syntax check has left (`execute_snd`); a job
that never got there has created none, which is what creating the stubs of no module comes to.

So what cleaning up leaves is told by what it does after stubs were created, and where there is no
link no stub was written through one (`not_linked_createAll`): nothing is left but what the worker
added (`run_tree`).
-/

namespace LuaBundler

open LuaBundler.Bundle Files Process Worker Stub

/-! ### Where stubs are written -/

section

variable {m m' : Machine} {π d : Place} {x : String} {project f : Path}

/-- Where there is no link, a plain file of the project is looked up at its place. -/
theorem Files.Machine.LooksUp.eq_of_project (h : m.LooksUp (project.join f) d x)
    (hm : m.tree.WellFormed) (hproject : m.entryAt? project = .ok (π, .dir))
    (hfree : m.tree.LinkFree π) (hf : IsPlain f) : d ++ [x] = π ++ namesOf f.text := by
  obtain ⟨hne, -, ⟨c, -, hleads⟩, -⟩ := (Machine.entryAt?_eq_ok_iff hm).1 hproject
  obtain ⟨ys, c', hsteps, -, hleads'⟩ := h.leads
  obtain ⟨zs, z, hzs⟩ : ∃ zs z, namesOf f.text = zs ++ [z] :=
    ⟨_, _, (List.dropLast_concat_getLast hf.names_ne_nil).symm⟩
  have hnames : bare ys ++ [x] = (bare (namesOf project.text) ++ zs) ++ [z] := by
    have hx : bare [x] = [x] := by simp [bare, h.goesDown.1]
    rw [← hx, ← bare_append, ← hsteps, bare_steps, namesOf_join hf.relative, bare_append,
      hf.bare_namesOf, hzs, List.append_assoc]
  obtain ⟨hys, hxz⟩ := List.append_inj' hnames rfl
  -- the way to the last name leads through the project, and below it a walk follows its names
  have hway := hleads'.bare
  rw [hys, origin_join hne hf.relative, ← bare_steps] at hway
  obtain ⟨e, hbelow, -⟩ := hleads.bare.of_append hway
  rw [hfree.eq_of_leads (fun y hy ↦ hf.down y (by simp [hzs, hy])) hbelow, hzs, hxz,
    List.append_assoc]

/-- **Where there is no link, no stub is written through one.** -/
theorem Stub.not_linked_createAll {s : Stubs} {modules : List String} {warnings : List Warning}
    (hm : m.WellFormed) (hproject : m.entryAt? project = .ok (π, .dir))
    (hfree : m.tree.LinkFree π)
    (hrun : createAll m .empty project modules = (warnings, m', s)) :
    ∀ stub ∈ s.files, ¬ Linked m' stub.path := by
  intro stub hstub hlinked
  have hcreated := created_createAll (created_empty hm) hrun
  obtain ⟨files, dirs, hrecorded⟩ := recorded_createAll hm hrun
  obtain ⟨q, -, -, d, x, hlooks, -⟩ :=
    exists_written hrecorded.written (List.mem_map_of_mem hstub)
  obtain ⟨target, htarget⟩ := (linked_iff hlooks).1 hlinked
  rcases mem_files_createAll hrun stub hstub with hempty | ⟨-, hpath⟩
  · simp [Stubs.empty] at hempty
  obtain ⟨stem, -, hplain, hpath⟩ := path?_eq_some_iff.1 hpath
  rw [hpath] at hlooks
  have hproject' := Machine.entryAt?_of_grows hm hcreated.wellFormed hcreated.grows hproject
  rw [hlooks.eq_of_project hcreated.wellFormed.tree hproject' (hcreated.linkFree hfree) hplain]
    at htarget
  exact hcreated.linkFree hfree _ target htarget

end

namespace Job

variable {host : Host} {job : Job} {m m' : Machine} {t : Tree} {q : Place} {node : Node}

/-! ### What the worker adds -/

/-- The worker of a job, started on a machine, leaves the files `t`. -/
def WorkerLeaves (host : Host) (job : Job) (m : Machine) (t : Tree) : Prop :=
  ∃ text run, job.searchPath m = .ok text ∧
    host.run m ((job.worker.withVariable searchPathVariable text).command job.project job.entry
      (.terminate job.timeout job.grace)) = .ok run ∧ run.tree = t

/-- A job launches its worker on the machine `m'`, which has its stubs, and the worker leaves the
files `t`. -/
def Launches (host : Host) (job : Job) (m m' : Machine) (t : Tree) : Prop :=
  ∃ warnings m₁ analysis created s, job.validate host m = (.ok warnings, m₁) ∧
    job.analyzeResolved m₁ = .ok analysis ∧
    createAll m₁ .empty job.project analysis.runtimeNames = (created, m', s) ∧
    job.WorkerLeaves host m' t

/-- The worker of a job adds an entry. -/
def WorkerAdds (host : Host) (job : Job) (m : Machine) (q : Place) (node : Node) : Prop :=
  ∃ m' t, job.Launches host m m' t ∧ Added m'.tree t q node

/-- A job launches its worker once. -/
theorem Launches.unique {m'' : Machine} {t' : Tree} (h : job.Launches host m m' t)
    (h' : job.Launches host m m'' t') : m' = m'' ∧ t = t' := by
  obtain ⟨_, _, _, _, _, hvalidate, hanalyze, hstubs, _, _, htext, hrun, rfl⟩ := h
  obtain ⟨_, _, _, _, _, hvalidate', hanalyze', hstubs', _, _, htext', hrun', rfl⟩ := h'
  obtain ⟨-, rfl⟩ := Prod.mk.inj (hvalidate.symm.trans hvalidate')
  obtain rfl := Except.ok.inj (hanalyze.symm.trans hanalyze')
  obtain ⟨-, rfl, -⟩ : _ ∧ _ ∧ _ := by simpa using hstubs.symm.trans hstubs'
  obtain rfl := Except.ok.inj (htext.symm.trans htext')
  obtain rfl := Except.ok.inj (hrun.symm.trans hrun')
  exact ⟨rfl, rfl⟩

theorem Launches.workerAdds_iff (h : job.Launches host m m' t) :
    job.WorkerAdds host m q node ↔ Added m'.tree t q node := by
  refine ⟨?_, fun hadded ↦ ⟨m', t, h, hadded⟩⟩
  rintro ⟨m'', t', h', hadded⟩
  obtain ⟨rfl, rfl⟩ := h.unique h'
  exact hadded

/-! ### What the stages do to the files -/

theorem makeBundle_machine (host : Host) (job : Job) (m : Machine) :
    (∃ t, job.WorkerLeaves host m t ∧ (job.makeBundle host m).2 = { m with tree := t }) ∨
      ((∀ t, ¬ job.WorkerLeaves host m t) ∧ (job.makeBundle host m).2 = m) := by
  unfold makeBundle
  cases htext : job.searchPath m with
  | error e =>
    refine .inr ⟨fun t ⟨_, _, htext', _⟩ ↦ ?_, rfl⟩
    rw [htext] at htext'
    simp at htext'
  | ok text =>
    simp only [launch]
    cases hrun : host.run m ((job.worker.withVariable searchPathVariable text).command job.project
        job.entry (.terminate job.timeout job.grace)) with
    | error cause =>
      refine .inr ⟨fun t ⟨_, _, htext', hrun', _⟩ ↦ ?_, rfl⟩
      obtain rfl := Except.ok.inj (htext.symm.trans htext')
      rw [hrun] at hrun'
      simp at hrun'
    | ok run =>
      refine .inl ⟨run.tree, ⟨text, run, htext, hrun, rfl⟩, ?_⟩
      dsimp only
      cases interpret job.timeout run.exit run.stdout run.stderr <;> rfl

theorem bundleStage_snd (host : Host) (job : Job) (p : Progress) (analysis : Analysis) :
    (job.bundleStage host p analysis).2.machine = (job.makeBundle host p.machine).2 ∧
      (job.bundleStage host p analysis).2.stubs = p.stubs := by
  unfold bundleStage
  simp only [Progress.reach]
  cases hmake : job.makeBundle host p.machine with
  | mk outcome m =>
    cases outcome with
    | error e => exact ⟨rfl, rfl⟩
    | ok output =>
      simp only
      cases output.strip analysis.runtimeNames <;> exact ⟨rfl, rfl⟩

/-- Without an analysis no stubs are created, and with one the worker follows them. -/
theorem resolveStage_snd {p p' : Progress} (h : (job.resolveStage host p).2 = p') :
    ((∀ analysis, job.analyzeResolved p.machine ≠ .ok analysis) ∧ p'.machine = p.machine ∧
      p'.stubs = p.stubs) ∨
    ∃ analysis created m', job.analyzeResolved p.machine = .ok analysis ∧
      createAll p.machine p.stubs job.project analysis.runtimeNames = (created, m', p'.stubs) ∧
      p'.machine = (job.makeBundle host m').2 := by
  cases hanalysis : job.analyzeResolved p.machine with
  | error e =>
    obtain ⟨p₁, hp₁, hmachine, hstubs⟩ := resolveStage_of_error host hanalysis
    rw [hp₁] at h
    subst h
    exact .inl ⟨by simp, hmachine, hstubs⟩
  | ok analysis =>
    rw [resolveStage_of_ok hanalysis] at h
    subst h
    obtain ⟨hmachine, hstubs⟩ := bundleStage_snd host job
      (job.stubStage ((p.reach .resolving).warn analysis.warnings) analysis) analysis
    refine .inr ⟨analysis, (createAll p.machine p.stubs job.project analysis.runtimeNames).1, _,
      rfl, ?_, hmachine⟩
    rw [Prod.map_snd, id_eq, hstubs]
    rfl

/-- **However far a job comes**, its stubs are those created on what the syntax check has left, and
the worker, if it is launched, is launched on them. -/
theorem execute_snd {p : Progress} (h : (job.execute host m).2 = p) :
    ∃ modules created m',
      createAll (job.validate host m).2 .empty job.project modules = (created, m', p.stubs) ∧
      ((∃ t, job.Launches host m m' t ∧ p.machine = { m' with tree := t }) ∨
        ((∀ m'' t, ¬ job.Launches host m m'' t) ∧ p.machine = m')) := by
  obtain ⟨start, hstart, hmachine, hempty, -⟩ := exists_start job m
  simp only [execute, hstart, hmachine] at h
  split at h
  · -- the check has failed, and no stub was created: as many as for no module
    rename_i e m₁ hvalidate
    subst h
    refine ⟨[], [], m₁, ?_, .inr ⟨?_, rfl⟩⟩
    · rw [hvalidate]
      exact congrArg (([] : List Warning), m₁, ·) hempty.symm
    · rintro m'' t ⟨_, _, _, _, _, hvalidate', -⟩
      rw [hvalidate] at hvalidate'
      simp at hvalidate'
  · rename_i warnings m₁ hvalidate
    rw [hvalidate]
    rcases resolveStage_snd h with
      ⟨hnone, hmachine, hstubs⟩ | ⟨analysis, created, m', hanalyze, hstubs, hmachine⟩
    · -- the analysis has failed, or left something unresolved
      refine ⟨[], [], m₁, ?_, .inr ⟨?_, hmachine⟩⟩
      · rw [hstubs]
        exact congrArg (fun s ↦ ([], m₁, s)) hempty.symm
      · rintro m'' t ⟨_, _, analysis, _, _, hvalidate', hanalyze, -⟩
        obtain ⟨-, rfl⟩ := Prod.mk.inj (hvalidate.symm.trans hvalidate')
        exact hnone analysis hanalyze
    · have hcreated : createAll m₁ .empty job.project analysis.runtimeNames =
          (created, m', p.stubs) := hempty ▸ hstubs
      have hlaunch : ∀ {t}, job.WorkerLeaves host m' t → job.Launches host m m' t := fun ht ↦
        ⟨warnings, m₁, analysis, created, _, hvalidate, hanalyze, hcreated, ht⟩
      refine ⟨analysis.runtimeNames, created, m', hcreated, ?_⟩
      rw [hmachine]
      rcases makeBundle_machine host job m' with ⟨t, ht, htree⟩ | ⟨hnone, hsame⟩
      · exact .inl ⟨t, hlaunch ht, htree⟩
      · refine .inr ⟨?_, hsame⟩
        rintro m'' t ⟨_, _, _, _, _, hvalidate', hanalyze', hstubs', ht⟩
        obtain ⟨-, rfl⟩ := Prod.mk.inj (hvalidate.symm.trans hvalidate')
        obtain rfl := Except.ok.inj (hanalyze.symm.trans hanalyze')
        obtain ⟨-, rfl, -⟩ : _ ∧ _ ∧ _ := by simpa using hcreated.symm.trans hstubs'
        exact hnone t ht

end Job

/-! ### What is left -/

variable {host : Host} {job : Job} {m : Machine} {π : Place}

/-- **A job leaves no trace of its own.** However it ends and whichever creations the system turns
down, the files afterwards are those from before, those that the worker has added and the directories
these are in. -/
theorem Job.run_tree (hm : m.WellFormed) (hgrants : m.GrantsRemovals)
    (hproject : m.entryAt? job.project = .ok (π, .dir)) (hfree : m.tree.LinkFree π)
    (hcheck : (job.validate host m).2 = m)
    (hworker : ∀ m' t, job.Launches host m m' t → m'.tree.Grows t ∧ t.WellFormed)
    (q : Place) (node : Node) : (job.run host m).2.tree.get? q = some node ↔
      m.tree.get? q = some node ∨ job.WorkerAdds host m q node ∨
        (node = .dir ∧ ∃ y ys other, job.WorkerAdds host m (q ++ y :: ys) other) := by
  obtain ⟨p, hp⟩ : ∃ p, (job.execute host m).2 = p := ⟨_, rfl⟩
  have hrun : (job.run host m).2 = (p.stubs.cleanUp p.machine).2 := by
    rw [← hp]
    rfl
  obtain ⟨modules, created, m', hstubs, hcases⟩ := execute_snd hp
  rw [hcheck] at hstubs
  obtain ⟨files, dirs, hrecorded⟩ := recorded_createAll hm hstubs
  have hlink := not_linked_createAll hm hproject hfree hstubs
  rw [hrun]
  rcases hcases with ⟨t, hlaunch, hmachine⟩ | ⟨hnone, hmachine⟩
  · obtain ⟨hgrows, ht⟩ := hworker m' t hlaunch
    have hsame : m'.SameSystem { m' with tree := t } := ⟨rfl, rfl, rfl⟩
    simp only [hlaunch.workerAdds_iff]
    rw [hmachine]
    exact hrecorded.get?_cleanUp hm.tree hlink hsame
      (hgrants.sameSystem (hrecorded.sameSystem.trans hsame)) hgrows ht q node
  · have hadds : ∀ q node, ¬ job.WorkerAdds host m q node := fun q node ⟨m'', t, hlaunch, _⟩ ↦
      hnone m'' t hlaunch
    rw [hmachine, hrecorded.get?_cleanUp hm.tree hlink (.refl m')
      (hgrants.sameSystem hrecorded.sameSystem) (.refl _) hrecorded.wellFormed.tree]
    simp only [hadds, not_added_self]

/-! ### A worker that leaves a file next to a stub -/

/-- A host on which every program takes too long and leaves the file `/p/ui/made`. -/
def makingHost : Host where
  run m _ := .ok ⟨.timedOut, [], [], m.tree.set ["p", "ui", "made"] emptyFile⟩

/-- A project whose entry requires two runtime modules, one of them in a directory. -/
def projectOnTwo : Machine where
  tree := ⟨[(["p"], .dir), (["p", "Main.lua"], textFile "require('ui.button')\nrequire('net')\n"),
    (["rt"], .dir), (["rt", "net.lua"], emptyFile), (["rt", "ui"], .dir),
    (["rt", "ui", "button.lua"], emptyFile)]⟩
  cwd := []
  env := []

/-- Both stubs are gone, and the directory of one of them stays for what the worker left there. -/
theorem run_tree_of_timeout :
    let job := jobOnRuntime ["/p"]
    ∀ q node, (job.run makingHost projectOnTwo).2.tree.get? q = some node ↔
      projectOnTwo.tree.get? q = some node ∨ (q = ["p", "ui", "made"] ∧ node = emptyFile) ∨
        (node = .dir ∧ ∃ y ys, q ++ y :: ys = ["p", "ui", "made"]) := by
  intro job
  let stubbed := job.stubbed projectOnTwo ["ui.button", "net"]
  let made := stubbed.tree.set ["p", "ui", "made"] emptyFile
  have hm : projectOnTwo.WellFormed :=
    ⟨Tree.wellFormed_of_entries (by decide +kernel), by decide +kernel⟩
  have hanalysis : (job.analyzeResolved projectOnTwo).map (·.runtimeNames) =
      .ok ["ui.button", "net"] := by decide +kernel
  obtain ⟨analysis, hanalyze, hnames⟩ := Except.map_eq_ok_iff.1 hanalysis
  have htext : job.searchPath stubbed = .ok "./?.lua;./?/init.lua" := by decide +kernel
  have hstubs : createAll projectOnTwo .empty job.project analysis.runtimeNames =
      ((createAll projectOnTwo .empty job.project ["ui.button", "net"]).1, stubbed,
        job.stubsOf projectOnTwo ["ui.button", "net"]) := by
    rw [hnames]
    rfl
  have hlaunch : job.Launches makingHost projectOnTwo stubbed made :=
    ⟨[], projectOnTwo, analysis, _, _, rfl, hanalyze, hstubs, _, _, htext, rfl, rfl⟩
  have hvacant : stubbed.tree.get? ["p", "ui", "made"] = none := by decide +kernel
  have hworker : ∀ m' t, job.Launches makingHost projectOnTwo m' t →
      m'.tree.Grows t ∧ t.WellFormed := by
    intro m' t h
    obtain ⟨rfl, rfl⟩ := hlaunch.unique h
    exact ⟨Tree.grows_set hvacant _, Tree.wellFormed_of_entries (by decide +kernel)⟩
  have htree := Job.run_tree (π := ["p"]) hm (fun _ _ ↦ ⟨rfl, rfl⟩) (by decide +kernel)
    (Tree.linkFree_of_entries (by decide +kernel) _) rfl hworker
  have hadded : ∀ q node, job.WorkerAdds makingHost projectOnTwo q node ↔
      q = ["p", "ui", "made"] ∧ node = emptyFile := fun q node ↦
    hlaunch.workerAdds_iff.trans (added_set_iff hvacant (by simp))
  intro q node
  rw [htree]
  simp [hadded]

end LuaBundler
