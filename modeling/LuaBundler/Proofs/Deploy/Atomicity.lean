import LuaBundler.Proofs.Deploy.Verbatim

/-!
# Writing all or nothing

A write asks the system for one change after another, and each of them may be refused: creating the
output directory and those above it, creating a temporary file, filling and flushing it, and
renaming it. Until the renaming only the temporary file has been touched, and letting go of it puts
the tree back (`get?_finish_of_error`); the renaming is one change of one entry. So the tree after a
write is the one before it, with directories of the output path and at most the artifact
(`writeArtifact_atomic`).
-/

namespace LuaBundler.Deploy

open Text Files Machine

variable {m m' ma : Machine} {dir path outputDir : Path} {temp : Place} {bytes : Bytes}
  {name text : String}

/-- A temporary file that is let go of leaves what was there before it. -/
theorem get?_finish_of_error {e : DeployError} (hcreate : m.createTemporary dir = (.ok temp, ma))
    (h : finish ma temp path bytes = (.error e, m')) :
    m.SameSystem m' ∧ ∀ q, m'.tree.get? q = m.tree.get? q := by
  unfold finish at h
  split at h
  · rename_i hfill
    obtain ⟨-, rfl⟩ := Prod.mk.inj h
    obtain ⟨hsame, hothers, -⟩ := fill_spec hfill
    exact get?_discard hcreate hsame hothers
  · rename_i mb hfill
    obtain ⟨hsame, hothers, -⟩ := fill_spec hfill
    split at h
    · rename_i mc hrename
      obtain ⟨-, rfl⟩ := Prod.mk.inj h
      have hkept := tree_attemptAt_of_error hrename
      exact get?_discard hcreate (hsame.trans (attemptAt_spec hrename).1) fun q hq ↦ by
        rw [hkept, hothers q hq]
    · simp at h

/-- **Writing an artifact that fails** adds directories of the output path at most. -/
theorem addsDirs_writeArtifact {e : DeployError} (hm : m.WellFormed)
    (h : writeArtifact m outputDir name text = (.error e, m')) :
    m.AddsDirs outputDir.ancestors m' := by
  unfold writeArtifact at h
  split at h
  · rename_i hdirs
    obtain ⟨-, rfl⟩ := Prod.mk.inj h
    exact addsDirs_createDirs hm hdirs
  rename_i ma hdirs
  have hadds := addsDirs_createDirs hm hdirs
  split at h
  · rename_i hcreate
    obtain ⟨-, rfl⟩ := Prod.mk.inj h
    obtain ⟨hsame, ⟨-, htree⟩ | ⟨temp, htemp, -⟩⟩ := createTemporary_spec hcreate
    · exact hadds.trans (.of_get? hadds.wellFormed hsame (fun q ↦ by rw [htree]) _)
    · simp at htemp
  · rename_i temp mb hcreate
    obtain ⟨hsame, htree⟩ := get?_finish_of_error hcreate h
    exact hadds.trans (.of_get? hadds.wellFormed hsame htree _)

/-- **Writing an artifact is all or nothing**, whatever the system refuses. If it fails, directories
of the output path may have been added, and nothing else has changed. If it succeeds, one more entry
has changed: what the path of the artifact has as its last name is a file of the text, also if it
was a link before. -/
theorem writeArtifact_atomic {result : Except DeployError Artifact} (hm : m.WellFormed)
    (h : writeArtifact m outputDir name text = (result, m')) :
    (∀ e, result = .error e → m.AddsDirs outputDir.ancestors m') ∧
      ∀ artifact, result = .ok artifact →
        artifact = .describe (outputDir.join ⟨name⟩) (encodeString text) ∧
        (∀ q node, m'.entryAt? artifact.path = .ok (q, node) →
          node = .file (encodeString text) false) ∧
        ∃ ma d x, m.AddsDirs outputDir.ancestors ma ∧ ma.LooksUp artifact.path d x ∧
          ma.tree.get? (d ++ [x]) ≠ some .dir ∧
          m'.tree.get? (d ++ [x]) = some (.file (encodeString text) false) ∧
          ∀ q ≠ d ++ [x], m'.tree.get? q = ma.tree.get? q := by
  refine ⟨fun e he ↦ addsDirs_writeArtifact hm (he ▸ h), fun artifact hartifact ↦ ?_⟩
  subst hartifact
  obtain ⟨rfl, ma, mb, mc, temp, hdirs, hcreate, hfill, hrename⟩ := writeArtifact_of_ok h
  have hadds := addsDirs_createDirs hm hdirs
  have hplaced := placed_of_renameFile hadds.wellFormed hcreate hfill hrename
  obtain ⟨d, x, hlooks, -, -, hold, hself, hothers⟩ := get?_of_renameFile hcreate hfill hrename
  exact ⟨rfl, fun q node hentry ↦ hplaced.leads (.refl m') hplaced.wellFormed hentry,
    ma, d, x, hadds, hlooks, hold, hself, hothers⟩

/-- A write whose renaming is refused leaves the directories that it made, and no file. -/
theorem writeArtifact_moveRefused : ∃ (m m' : Machine) (e : DeployError),
    writeArtifact m ⟨"/a/b"⟩ "x.lua" "return 1" = (.error e, m') ∧
      m'.tree.get? ["a", "b"] = some .dir ∧ m.AddsDirs (Path.ancestors ⟨"/a/b"⟩) m' := by
  let refuse (_ : Nat) (c : Change) : Option FileError :=
    match c with
    | .rename .. => some .permissionDenied
    | _ => none
  let m : Machine := { tree := ⟨[]⟩, cwd := [], env := [], refuse := refuse }
  have hm : m.WellFormed := ⟨Tree.wellFormed_of_entries (by decide +kernel), by decide +kernel⟩
  let made := writeArtifact m ⟨"/a/b"⟩ "x.lua" "return 1"
  have hrun : made = (made.1, made.2) := by rw [Prod.eta]
  have herror : made.1 = .error (.move ⟨"/a/b/x.lua"⟩ .permissionDenied) := by decide +kernel
  exact ⟨m, made.2, _, by rw [← herror], by decide +kernel,
    (writeArtifact_atomic hm hrun).1 _ herror⟩

end LuaBundler.Deploy
