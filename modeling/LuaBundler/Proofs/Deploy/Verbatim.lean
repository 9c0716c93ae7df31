import LuaBundler.Deploy
import LuaBundler.Proofs.Files.Temporary
import LuaBundler.Proofs.Text.Utf8

/-!
# Published bytes

An artifact describes the bytes that it was given, not those that are on disk in the end. The two
agree where the bundle, or the file that stands alone, and its copy are different files. A copy onto
the file it is made from empties it first: then the run succeeds, and what is reported is gone
(`Deploy.verbatim_iff`).

The output directory and the deploy directory may be one, or lead to one through links, and the
target of the copy may be a link itself; all that matters is which entries the two paths lead to.
-/

namespace LuaBundler.Deploy

open Text Files

variable {m m' : Machine}

/-- The steps of a write that succeeds. -/
theorem writeArtifact_of_ok {outputDir : Path} {name text : String} {artifact : Artifact}
    (h : writeArtifact m outputDir name text = (.ok artifact, m')) :
    artifact = .describe (outputDir.join ⟨name⟩) (encodeString text) ∧
      ∃ ma mb mc temp, m.createDirs outputDir = (.ok (), ma) ∧
        ma.createTemporary outputDir = (.ok temp, mb) ∧
        mb.fill temp (encodeString text) = (.ok (), mc) ∧
        mc.renameFile temp (outputDir.join ⟨name⟩) = (.ok (), m') := by
  unfold writeArtifact at h
  split at h
  · simp at h
  rename_i ma hdirs
  split at h
  · simp at h
  rename_i temp mb hcreate
  unfold finish at h
  split at h
  · simp at h
  rename_i mc hfill
  split at h
  · simp at h
  rename_i hrename
  obtain ⟨hartifact, rfl⟩ := Prod.mk.inj h
  exact ⟨(Except.ok.inj hartifact).symm, ma, mb, mc, temp, hdirs, hcreate, hfill, hrename⟩

/-- What a step that succeeds leaves of a written text. -/
theorem writeArtifact_spec {outputDir : Path} {name text : String} {artifact : Artifact}
    (hm : m.WellFormed) (h : writeArtifact m outputDir name text = (.ok artifact, m')) :
    artifact = .describe (outputDir.join ⟨name⟩) (encodeString text) ∧
      ∃ ma, m.Grows ma ∧ ma.Placed (outputDir.join ⟨name⟩) (encodeString text) m' := by
  obtain ⟨hartifact, ma, mb, mc, temp, hdirs, hcreate, hfill, hrename⟩ := writeArtifact_of_ok h
  obtain ⟨hma, hgrows, -⟩ := Machine.addsDirs_createDirs hm hdirs
  exact ⟨hartifact, ma, hgrows, Machine.placed_of_renameFile hma hcreate hfill hrename⟩

/-- The path of a file in a directory, under the name it has. -/
def IsNamesakeIn (source dir p : Path) : Prop :=
  ∃ name, source.fileName? = some name ∧ p = dir.join ⟨name⟩

/-- A file is copied under its own name once its directory is there. -/
theorem copyInto_spec {source dir path : Path} (hm : m.WellFormed)
    (h : copyInto m source dir = (.ok path, m')) :
    IsNamesakeIn source dir path ∧
      ∃ ma, m.Grows ma ∧ ma.WellFormed ∧ ma.copy source path = (.ok (), m') := by
  unfold copyInto at h
  split at h
  · simp at h
  rename_i name hname
  split at h
  · simp at h
  rename_i ma hdirs
  obtain ⟨hma, hgrows, -⟩ := Machine.addsDirs_createDirs hm hdirs
  dsimp only at h
  split at h
  · simp at h
  rename_i hcopy
  obtain ⟨hpath, rfl⟩ := Prod.mk.inj h
  obtain rfl := Except.ok.inj hpath
  exact ⟨⟨name, hname, rfl⟩, ma, hgrows, hma, hcopy⟩

/-- What a bundle that was published leaves: its file and the copy hold its text exactly if the copy
is a file of its own. The path of the bundle leads nowhere if it goes through the entry that the
bundle replaced. -/
theorem read_publish_iff {bundle : String} {target : Target} {published : Published}
    (hm : m.WellFormed) (h : publish m bundle target = (.ok published, m')) :
    published.artifact =
        .describe (target.outputDir.join ⟨target.outputName⟩) (encodeString bundle) ∧
      Option.Rel (IsNamesakeIn published.artifact.path) target.deployDir published.deployed ∧
      ((m'.read published.artifact.path = .ok (encodeString bundle) ∧
          ∀ p ∈ published.deployed, m'.read p = .ok (encodeString bundle)) ↔
        m'.exists published.artifact.path = true ∧
          ∀ p ∈ published.deployed, bundle = "" ∨ m'.Apart published.artifact.path p) := by
  unfold publish at h
  split at h
  · simp at h
  rename_i artifact ma hwrite
  obtain ⟨hartifact, mb, -, hplaced⟩ := writeArtifact_spec hm hwrite
  have hpath : artifact.path = target.outputDir.join ⟨target.outputName⟩ := by rw [hartifact]; rfl
  rw [← hpath] at hplaced
  split at h
  · -- the bundle was written only
    rename_i hdir
    obtain ⟨hpublished, rfl⟩ := Prod.mk.inj h
    obtain rfl := Except.ok.inj hpublished
    refine ⟨hartifact, by rw [hdir]; exact .none, ?_⟩
    simp only [Option.mem_def, reduceCtorEq, false_implies, implies_true, and_true]
    rw [Machine.exists_eq_true_iff]
    constructor
    · intro hread
      obtain ⟨q, node, hentry, -⟩ := Machine.read_eq_ok_iff.1 hread
      exact ⟨q, node, hentry⟩
    · rintro ⟨q, node, hentry⟩
      obtain rfl := hplaced.leads (.refl _) hplaced.wellFormed hentry
      exact Machine.read_of_isFile hentry
  · rename_i dir hdir
    split at h
    · simp at h
    rename_i path mc hcopied
    obtain ⟨hpublished, rfl⟩ := Prod.mk.inj h
    obtain rfl := Except.ok.inj hpublished
    obtain ⟨hnamesake, md, hgrows, hmd, hcopy⟩ := copyInto_spec hplaced.wellFormed hcopied
    refine ⟨hartifact, by rw [hdir]; exact .some hnamesake, ?_⟩
    -- what was copied is what the path leads to, the file that was put there
    have hread : md.read artifact.path = .ok (encodeString bundle) := by
      obtain ⟨q, bytes, executable, F, executable', hentry, -⟩ := Machine.copy_cases hcopy
      obtain ⟨rfl, -⟩ := Node.file.inj (hplaced.leads hgrows hmd hentry)
      exact Machine.read_of_isFile hentry
    obtain ⟨hexists, hiff⟩ := Machine.read_copy_iff hmd hcopy hread
    simpa [hexists] using hiff

/-- What a file that was deployed alone leaves: it and its copy hold what it held exactly if they
are two files. -/
theorem read_deploySingleFile_iff {source dir : Path} {artifact : Artifact} (hm : m.WellFormed)
    (h : deploySingleFile m source dir = (.ok artifact, m')) :
    IsNamesakeIn source dir artifact.path ∧
      ∃ bytes, m.read source = .ok bytes ∧ artifact = .describe artifact.path bytes ∧
      ((m'.read source = .ok bytes ∧ m'.read artifact.path = .ok bytes) ↔
        bytes = [] ∨ m'.Apart source artifact.path) := by
  unfold deploySingleFile at h
  split at h
  · simp at h
  rename_i bytes hread
  split at h
  · simp at h
  rename_i path ma hcopied
  obtain ⟨hartifact, rfl⟩ := Prod.mk.inj h
  obtain rfl := Except.ok.inj hartifact
  obtain ⟨hnamesake, mb, hgrows, hmb, hcopy⟩ := copyInto_spec hm hcopied
  have hkept : mb.read source = .ok bytes := by
    obtain ⟨q, node, hentry, hcontents⟩ := Machine.read_eq_ok_iff.1 hread
    exact Machine.read_eq_ok_iff.2
      ⟨q, node, Machine.entryAt?_of_grows hm hmb hgrows hentry, hcontents⟩
  exact ⟨hnamesake, bytes, hread, rfl, (Machine.read_copy_iff hmb hcopy hkept).2⟩

/-- **Publishing and deploying are verbatim** exactly if what is copied and its copy are different
files, or empty. What is reported are the bytes that the run began with, in either case. -/
theorem verbatim_iff (hm : m.WellFormed) :
    (∀ bundle target published m', publish m bundle target = (.ok published, m') →
      published.artifact =
          .describe (target.outputDir.join ⟨target.outputName⟩) (encodeString bundle) ∧
        Option.Rel (IsNamesakeIn published.artifact.path) target.deployDir published.deployed ∧
        ((m'.read published.artifact.path = .ok (encodeString bundle) ∧
            ∀ p ∈ published.deployed, m'.read p = .ok (encodeString bundle)) ↔
          m'.exists published.artifact.path = true ∧
            ∀ p ∈ published.deployed, bundle = "" ∨ m'.Apart published.artifact.path p)) ∧
    ∀ source dir artifact m', deploySingleFile m source dir = (.ok artifact, m') →
      IsNamesakeIn source dir artifact.path ∧
        ∃ bytes, m.read source = .ok bytes ∧ artifact = .describe artifact.path bytes ∧
          ((m'.read source = .ok bytes ∧ m'.read artifact.path = .ok bytes) ↔
            bytes = [] ∨ m'.Apart source artifact.path) :=
  ⟨fun _ _ _ _ h ↦ read_publish_iff hm h, fun _ _ _ _ h ↦ read_deploySingleFile_iff hm h⟩

/-! ### A directory behind a link -/

/-- A file that stands alone, and a link to a directory beside its own. -/
def linkedTool : Machine where
  tree := ⟨[(["src"], .dir), (["src", "tool.lua"], .file [0x78] false), (["run"], .dir),
    (["game"], .link "run")]⟩
  cwd := []
  env := []

/-- What is deployed through the link is what was written, and what stood alone. -/
theorem verbatim_linkedTool :
    linkedTool.WellFormed ∧
    (∃ published m',
      publish linkedTool "return 1\n" ⟨⟨"out"⟩, "main.lua", some ⟨"game"⟩⟩ = (.ok published, m') ∧
      published.deployed = some ⟨"game/main.lua"⟩ ∧
      m'.read ⟨"out/main.lua"⟩ = .ok (encodeString "return 1\n") ∧
      m'.read ⟨"game/main.lua"⟩ = .ok (encodeString "return 1\n")) ∧
    ∃ artifact m', deploySingleFile linkedTool ⟨"src/tool.lua"⟩ ⟨"game"⟩ = (.ok artifact, m') ∧
      artifact = .describe ⟨"game/tool.lua"⟩ [0x78] ∧
      m'.read ⟨"src/tool.lua"⟩ = .ok [0x78] ∧ m'.read ⟨"game/tool.lua"⟩ = .ok [0x78] := by
  have hm : linkedTool.WellFormed := ⟨Tree.wellFormed_of_entries (by decide +kernel), rfl⟩
  obtain ⟨hpublish, hdeploy⟩ := verbatim_iff hm
  refine ⟨hm, ?_, ?_⟩
  · obtain ⟨published, m', hrun, hpaths, hout, hgame⟩ : ∃ published m',
        publish linkedTool "return 1\n" ⟨⟨"out"⟩, "main.lua", some ⟨"game"⟩⟩ =
          (.ok published, m') ∧
        (published.artifact.path, published.deployed) =
          (⟨"out/main.lua"⟩, some ⟨"game/main.lua"⟩) ∧
        m'.entryAt? ⟨"out/main.lua"⟩ =
          .ok (["out", "main.lua"], .file (encodeString "return 1\n") false) ∧
        m'.entryAt? ⟨"game/main.lua"⟩ =
          .ok (["run", "main.lua"], .file (encodeString "return 1\n") false) :=
      Except.exists_of_run (by decide +kernel) (by decide +kernel)
    obtain ⟨hpath, hdeployed⟩ := Prod.mk.inj hpaths
    obtain ⟨-, -, hiff⟩ := hpublish _ _ published m' hrun
    rw [hpath, hdeployed] at hiff
    have happart : m'.Apart ⟨"out/main.lua"⟩ ⟨"game/main.lua"⟩ :=
      (Machine.apart_iff hout hgame).2 ⟨by decide, _, _, rfl⟩
    obtain ⟨hwritten, hcopied⟩ := hiff.2 ⟨Machine.exists_eq_true_iff.2 ⟨_, _, hout⟩,
      fun p hp ↦ .inr (Option.some.inj hp ▸ happart)⟩
    exact ⟨published, m', hrun, hdeployed, hwritten, hcopied _ rfl⟩
  · obtain ⟨artifact, m', hrun, hpath, hsrc, hgame⟩ : ∃ artifact m',
        deploySingleFile linkedTool ⟨"src/tool.lua"⟩ ⟨"game"⟩ = (.ok artifact, m') ∧
        artifact.path = ⟨"game/tool.lua"⟩ ∧
        m'.entryAt? ⟨"src/tool.lua"⟩ = .ok (["src", "tool.lua"], .file [0x78] false) ∧
        m'.entryAt? ⟨"game/tool.lua"⟩ = .ok (["run", "tool.lua"], .file [0x78] false) :=
      Except.exists_of_run (by decide +kernel) (by decide +kernel)
    obtain ⟨-, bytes, hread, hartifact, hiff⟩ := hdeploy _ _ artifact m' hrun
    have hbefore : linkedTool.read ⟨"src/tool.lua"⟩ = .ok [0x78] := by decide +kernel
    obtain rfl : [0x78] = bytes := Except.ok.inj (hbefore.symm.trans hread)
    rw [hpath] at hartifact hiff
    exact ⟨artifact, m', hrun, hartifact,
      hiff.2 (.inr ((Machine.apart_iff hsrc hgame).2 ⟨by decide, _, _, rfl⟩))⟩

/-- A bundle that is deployed into the directory it is written to is gone, and so is a file that is
deployed where it stands. -/
theorem emptied_linkedTool :
    (∃ published m',
      publish linkedTool "return 1\n" ⟨⟨"out"⟩, "Main.lua", some ⟨"out"⟩⟩ = (.ok published, m') ∧
      published.artifact.path = ⟨"out/Main.lua"⟩ ∧ m'.read ⟨"out/Main.lua"⟩ = .ok []) ∧
    ∃ artifact m', deploySingleFile linkedTool ⟨"src/tool.lua"⟩ ⟨"src"⟩ = (.ok artifact, m') ∧
      artifact.path = ⟨"src/tool.lua"⟩ ∧ m'.read ⟨"src/tool.lua"⟩ = .ok [] :=
  ⟨Except.exists_of_run (by decide +kernel) (by decide +kernel),
    Except.exists_of_run (by decide +kernel) (by decide +kernel)⟩

end LuaBundler.Deploy
