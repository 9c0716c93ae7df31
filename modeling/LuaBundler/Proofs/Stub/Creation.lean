import LuaBundler.Proofs.Files.Growth
import LuaBundler.Proofs.Files.LookUp
import LuaBundler.Proofs.Search.Candidates
import LuaBundler.Stub
import Mathlib.Logic.Relation

/-!
# What creating stubs does to the files

Creating stubs is a run of steps of three kinds (`Stub.Step`): a change is refused, a directory is
put at a vacant name and recorded, or the file of a stub is. That a whole run consists of such steps
(`creates_createAll`) holds whatever the system refuses, and what is said of a run is said of one
step first.

So creating stubs only ever adds: directories, and files with the body of a stub, each of which the
path of a recorded stub leads to (`Stub.Created`). If no stub was skipped with a warning, every stub
path leads to something afterwards.

The one change that could overwrite a file is the write, and it does not: a path that led nowhere
before its missing directories were created leads nowhere after, because the last of them is empty
(`exists_eq_false_of_leadsToEmpty`).
-/

namespace LuaBundler.Stub

open Text Files Relation

/-- The file of a stub. -/
def file : Node := .file (encodeString body) false

variable {m₀ m m' : Machine} {s s' : Stubs} {project path dir : Path} {stem : Path}
  {module : String} {a b : Machine × Stubs}

/-! ### What each creation does -/

theorem createDirs_cons {rest : List Path} {r : Except String Unit}
    (hrun : createDirs m s (dir :: rest) = (r, m', s')) :
    (∃ e reason, m.createDir dir = (.error e, m') ∧ r = .error reason ∧ s' = s) ∨
      ∃ m₁, m.createDir dir = (.ok (), m₁) ∧ createDirs m₁ (s.addDir dir) rest = (r, m', s') := by
  unfold createDirs at hrun
  split at hrun
  · rename_i e m₁ hdir
    simp only [Prod.mk.injEq] at hrun
    obtain ⟨rfl, rfl, rfl⟩ := hrun
    exact .inl ⟨e, _, hdir, rfl, rfl⟩
  · rename_i m₁ hdir
    exact .inr ⟨m₁, hdir, hrun⟩

theorem writeFile_cases {r : Except String Unit}
    (hrun : writeFile m s module path = (r, m', s')) :
    (∃ e reason, m.write path (encodeString body) = (.error e, m') ∧ r = .error reason ∧ s' = s) ∨
      (m.write path (encodeString body) = (.ok (), m') ∧ r = .ok () ∧
        s' = s.addFile ⟨module, path⟩) := by
  unfold writeFile at hrun
  split at hrun
  all_goals
    rename_i hwrite
    simp only [Prod.mk.injEq] at hrun
    obtain ⟨rfl, rfl, rfl⟩ := hrun
  · exact .inl ⟨_, _, hwrite, rfl, rfl⟩
  · exact .inr ⟨hwrite, rfl, rfl⟩

/-- At a path that leads nowhere, the stub is written once its missing directories are there: none, if
the path has no parent. -/
theorem create_of_missing {path : Path} (hpath : path? project module = some path)
    (hnone : m.exists path = false) :
    create m s project module =
      match createDirs m s (path.parent?.elim [] (missingDirs m project)) with
      | (.error reason, m, s) => (.error reason, m, s)
      | (.ok (), m, s) => writeFile m s module path := by
  simp only [create, hpath, hnone, Bool.false_eq_true, if_false]
  cases path.parent? <;> rfl

/-- A stub is created only at a path that leads nowhere. -/
theorem create_cases {r : Except String Unit} (hrun : create m s project module = (r, m', s')) :
    (m' = m ∧ s' = s ∧
      (r = .ok () → ∃ path, path? project module = some path ∧ m.exists path = true)) ∨
    ∃ path r₁ m₁ s₁, path? project module = some path ∧ m.exists path = false ∧
      createDirs m s (path.parent?.elim [] (missingDirs m project)) = (r₁, m₁, s₁) ∧
      ((∃ reason, r = .error reason ∧ m' = m₁ ∧ s' = s₁) ∨
        (r₁ = .ok () ∧ writeFile m₁ s₁ module path = (r, m', s'))) := by
  cases hpath : path? project module with
  | none =>
    simp only [create, hpath, Prod.mk.injEq] at hrun
    obtain ⟨rfl, rfl, rfl⟩ := hrun
    exact .inl ⟨rfl, rfl, by simp⟩
  | some path =>
    cases hexists : m.exists path with
    | true =>
      simp only [create, hpath, hexists, if_true, Prod.mk.injEq] at hrun
      obtain ⟨rfl, rfl, rfl⟩ := hrun
      exact .inl ⟨rfl, rfl, fun _ ↦ ⟨path, rfl, hexists⟩⟩
    | false =>
      rw [create_of_missing hpath hexists] at hrun
      split at hrun
      · rename_i reason m₁ s₁ hdirs
        simp only [Prod.mk.injEq] at hrun
        obtain ⟨rfl, rfl, rfl⟩ := hrun
        exact .inr ⟨path, _, m₁, s₁, rfl, hexists, hdirs, .inl ⟨reason, rfl, rfl, rfl⟩⟩
      · rename_i m₁ s₁ hdirs
        exact .inr ⟨path, _, m₁, s₁, rfl, hexists, hdirs, .inr ⟨rfl, hrun⟩⟩

/-- One stub after the other: the others follow whether the first one was skipped or not. -/
theorem createAll_cons {rest : List String} {warnings : List Warning}
    (hrun : createAll m s project (module :: rest) = (warnings, m', s')) :
    ∃ r m₁ s₁ later, create m s project module = (r, m₁, s₁) ∧
      createAll m₁ s₁ project rest = (later, m', s') ∧
      ((r = .ok () ∧ warnings = later) ∨
        ∃ reason, r = .error reason ∧ warnings = .stubCreation module reason :: later) := by
  unfold createAll at hrun
  split at hrun
  · rename_i m₁ s₁ hcreate
    exact ⟨_, m₁, s₁, warnings, hcreate, hrun, .inl ⟨rfl, rfl⟩⟩
  · rename_i reason m₁ s₁ hcreate
    generalize hrest : createAll m₁ s₁ project rest = result at hrun
    obtain ⟨later, m₂, s₂⟩ := result
    simp only [Prod.mk.injEq] at hrun
    obtain ⟨rfl, rfl, rfl⟩ := hrun
    exact ⟨_, m₁, s₁, later, hcreate, hrest, .inr ⟨reason, rfl, rfl⟩⟩

/-! ### Steps -/

/-- One step of creating stubs, on the files and the record of what was created. -/
inductive Step : Machine × Stubs → Machine × Stubs → Prop
  /-- A change is not made. -/
  | refused {m m' : Machine} {s : Stubs} (hsame : m.SameSystem m') (htree : m'.tree = m.tree) :
      Step (m, s) (m', s)
  /-- A directory is created where its path, the last name no link, leads to a vacant name. -/
  | dir {m m' : Machine} {s : Stubs} {dir : Path} {d : Place} {name : String}
      (hself : Machine.unslashed dir = dir) (hvacant : m.locate false dir = .ok (.vacant d name))
      (hsame : m.SameSystem m') (htree : m'.tree = m.tree.set (d ++ [name]) .dir) :
      Step (m, s) (m', s.addDir dir)
  /-- A stub is written where its path, links followed, leads to a vacant name. -/
  | file {m m' : Machine} {s : Stubs} {module : String} {path : Path} {d : Place} {name : String}
      (hslash : Machine.endsInSlash path = false)
      (hvacant : m.locate true path = .ok (.vacant d name))
      (hsame : m.SameSystem m') (htree : m'.tree = m.tree.set (d ++ [name]) file) :
      Step (m, s) (m', s.addFile ⟨module, path⟩)

/-- A run of steps. -/
abbrev Creates : Machine × Stubs → Machine × Stubs → Prop := ReflTransGen Step

theorem Step.sameSystem (h : Step a b) : a.1.SameSystem b.1 := by
  cases h <;> assumption

theorem Creates.sameSystem (h : Creates a b) : a.1.SameSystem b.1 := by
  induction h with
  | refl => exact .refl _
  | tail _ hstep ih => exact ih.trans hstep.sameSystem

/-- **A step only adds entries.** -/
theorem Step.grows (h : Step a b) (hm : a.1.WellFormed) : a.1.Grows b.1 ∧ b.1.WellFormed := by
  cases h with
  | refused hsame htree =>
    refine ⟨.of_eq hsame.cwd hsame.env htree, htree ▸ hm.tree, ?_⟩
    rw [hsame.cwd, htree]
    exact hm.cwd
  | dir _ hvacant hsame htree =>
    obtain ⟨hgrows, hm', -⟩ :=
      (Machine.vacantAt_of_locate hm hvacant).put hm hsame (by simp) htree
    exact ⟨hgrows, hm'⟩
  | file _ hvacant hsame htree =>
    obtain ⟨hgrows, hm', -⟩ :=
      (Machine.vacantAt_of_locate hm hvacant).put hm hsame (by simp [Stub.file]) htree
    exact ⟨hgrows, hm'⟩

/-- **A run only adds entries.** -/
theorem Creates.grows (h : Creates a b) (hm : a.1.WellFormed) :
    a.1.Grows b.1 ∧ b.1.WellFormed := by
  induction h with
  | refl => exact ⟨.refl _, hm⟩
  | tail _ hstep ih =>
    obtain ⟨hgrows, hm'⟩ := ih
    obtain ⟨hgrows', hm''⟩ := hstep.grows hm'
    exact ⟨hgrows.trans hgrows', hm''⟩

/-! ### What was created -/

/-- What creating stubs has made of a machine: `s` records what was created since `m₀`. -/
structure Created (m₀ m : Machine) (s : Stubs) : Prop where
  grows : m₀.Grows m
  wellFormed : m.WellFormed
  /-- What was not there before is a directory or the file of a stub. -/
  fresh : ∀ q node, m.tree.get? q = some node →
    m₀.tree.get? q = some node ∨ node = .dir ∨ ∃ stub ∈ s.files, m.entryAt? stub.path = .ok (q, node)
  /-- A recorded stub leads to its file, which was not there before. -/
  stub : ∀ stub ∈ s.files, ∃ q, m₀.tree.get? q = none ∧ m.entryAt? stub.path = .ok (q, file)

theorem created_empty (hm : m.WellFormed) : Created m m .empty :=
  ⟨.refl m, hm, fun _ _ h ↦ .inl h, fun stub h ↦ by simp [Stubs.empty] at h⟩

/-- Putting a directory at a vacant name is no stub and no loss. -/
theorem Created.putDir (h : Created m₀ m s) {d : Place} {name : String}
    (hv : m.VacantAt dir d name) (hsame : m.SameSystem m')
    (htree : m'.tree = m.tree.set (d ++ [name]) .dir) : Created m₀ m' (s.addDir dir) := by
  obtain ⟨hgrows, hm', -⟩ := hv.put h.wellFormed hsame (by simp) htree
  refine ⟨h.grows.trans hgrows, hm', fun q node hq ↦ ?_, fun stub hstub ↦ ?_⟩
  · by_cases hplace : q = d ++ [name]
    · subst hplace
      rw [htree, Tree.get?_set_self _ _ (by simp), Option.some.injEq] at hq
      exact .inr (.inl hq.symm)
    · rw [htree, Tree.get?_set_of_ne _ _ hplace] at hq
      refine (h.fresh q node hq).imp_right (Or.imp_right fun ⟨stub, hstub, hentry⟩ ↦ ?_)
      exact ⟨stub, hstub, Machine.entryAt?_of_grows h.wellFormed hm' hgrows hentry⟩
  · obtain ⟨q, hq, hentry⟩ := h.stub stub hstub
    exact ⟨q, hq, Machine.entryAt?_of_grows h.wellFormed hm' hgrows hentry⟩

/-- Writing the file of a stub at a vacant name and recording it. -/
theorem Created.putFile (h : Created m₀ m s) {d : Place} {name : String}
    (hv : m.VacantAt path d name) (hsame : m.SameSystem m')
    (htree : m'.tree = m.tree.set (d ++ [name]) file) (module : String) :
    Created m₀ m' (s.addFile ⟨module, path⟩) := by
  obtain ⟨hgrows, hm', hentry⟩ := hv.put h.wellFormed hsame (by simp [file]) htree
  have hfresh : m₀.tree.get? (d ++ [name]) = none := h.grows.tree.get?_eq_none hv.vacant.fresh
  have hmem : ∀ stub, stub ∈ (s.addFile ⟨module, path⟩).files ↔
      stub ∈ s.files ∨ stub = ⟨module, path⟩ := fun stub ↦ by simp [Stubs.addFile]
  refine ⟨h.grows.trans hgrows, hm', fun q node hq ↦ ?_, fun stub hstub ↦ ?_⟩
  · by_cases hplace : q = d ++ [name]
    · subst hplace
      rw [htree, Tree.get?_set_self _ _ (by simp), Option.some.injEq] at hq
      subst hq
      exact .inr (.inr ⟨⟨module, path⟩, (hmem _).2 (.inr rfl), hentry⟩)
    · rw [htree, Tree.get?_set_of_ne _ _ hplace] at hq
      refine (h.fresh q node hq).imp_right (Or.imp_right fun ⟨stub, hstub, hentry⟩ ↦ ?_)
      exact ⟨stub, (hmem _).2 (.inl hstub),
        Machine.entryAt?_of_grows h.wellFormed hm' hgrows hentry⟩
  · rcases (hmem stub).1 hstub with hstub | rfl
    · obtain ⟨q, hq, hentry⟩ := h.stub stub hstub
      exact ⟨q, hq, Machine.entryAt?_of_grows h.wellFormed hm' hgrows hentry⟩
    · exact ⟨d ++ [name], hfresh, hentry⟩

/-- A refused change changes nothing. -/
theorem Created.of_eq (h : Created m₀ m s) (hsame : m.SameSystem m') (htree : m'.tree = m.tree) :
    Created m₀ m' s := by
  have hentry : ∀ p, m'.entryAt? p = m.entryAt? p := fun p ↦ by
    simp only [Machine.entryAt?, Machine.locate, hsame.cwd, htree]
  obtain ⟨hgrows, hm'⟩ := (Step.refused (s := s) hsame htree).grows h.wellFormed
  refine ⟨h.grows.trans hgrows, hm', fun q node hq ↦ ?_, fun stub hstub ↦ ?_⟩
  · rw [htree] at hq
    simpa only [hentry] using h.fresh q node hq
  · obtain ⟨q, hq, hstubs⟩ := h.stub stub hstub
    exact ⟨q, hq, (hentry _).trans hstubs⟩

/-- **What was created by a step** is what was recorded. -/
theorem Created.step (h : Created m₀ a.1 a.2) (hstep : Step a b) : Created m₀ b.1 b.2 := by
  cases hstep with
  | refused hsame htree => exact h.of_eq hsame htree
  | dir _ hvacant hsame htree =>
    exact h.putDir (Machine.vacantAt_of_locate h.wellFormed hvacant) hsame htree
  | file _ hvacant hsame htree =>
    exact h.putFile (Machine.vacantAt_of_locate h.wellFormed hvacant) hsame htree _

/-- **What was created by a run** is what was recorded. -/
theorem Created.creates (h : Created m₀ a.1 a.2) (hrun : Creates a b) : Created m₀ b.1 b.2 := by
  induction hrun with
  | refl => exact h
  | tail _ hstep ih => exact ih.step hstep

/-! ### Directories -/

/-- A path leads to an empty directory. -/
def LeadsToEmpty (m : Machine) (p : Path) : Prop :=
  ∃ E c, m.tree.Leads (origin m.cwd p.text) (bare (namesOf p.text)) c E ∧
    ∀ name, m.tree.get? (E ++ [name]) = none

/-- A directory that was put at a vacant name is empty. -/
theorem leadsToEmpty_of_put (hm : m.WellFormed) {p : Path} {d : Place} {name : String}
    (hv : m.VacantAt p d name) (hcwd : m'.cwd = m.cwd)
    (htree : m'.tree = m.tree.set (d ++ [name]) .dir) : LeadsToEmpty m' p := by
  have hgrows : m.tree.Grows m'.tree := htree ▸ Tree.grows_set hv.vacant.fresh .dir
  have hnode : m'.tree.get? (d ++ [name]) = some .dir := by
    rw [htree, Tree.get?_set_self _ _ (by simp)]
  obtain ⟨c, -, hleads⟩ := hv.vacant.leads hgrows hnode (by simp)
  have hbare := hleads.bare
  rw [bare_steps, ← hcwd] at hbare
  refine ⟨_, c, hbare, fun x ↦ ?_⟩
  rw [htree, Tree.get?_set_of_ne _ _ (by simp)]
  -- an entry in it would have made the vacant name a directory before
  exact hm.tree.get?_append_eq_none (by simp) (by simp [hv.vacant.fresh])

/-- **Creating directories** is a run of steps; if there was one to create, the last one is empty. -/
theorem creates_createDirs {dirs : List Path} {r : Except String Unit}
    (hdirs : ∀ dir ∈ dirs, Machine.unslashed dir = dir) (hm : m.WellFormed)
    (hrun : createDirs m s dirs = (r, m', s')) :
    Creates (m, s) (m', s') ∧ (r = .ok () → (dirs = [] ∧ m' = m) ∨
      ∃ last, dirs.getLast? = some last ∧ last.text ≠ "" ∧ LeadsToEmpty m' last) := by
  induction dirs generalizing m s with
  | nil =>
    simp only [createDirs, Prod.mk.injEq] at hrun
    obtain ⟨rfl, rfl, rfl⟩ := hrun
    exact ⟨.refl, fun _ ↦ .inl ⟨rfl, rfl⟩⟩
  | cons dir rest ih =>
    have hself := hdirs dir (List.mem_cons_self ..)
    rcases createDirs_cons hrun with ⟨e, reason, hdir, rfl, rfl⟩ | ⟨m₁, hdir, hrun⟩
    · obtain ⟨hsame, ⟨-, htree⟩ | ⟨hok, -⟩⟩ := Machine.createDir_spec hdir
      · exact ⟨.single (.refused hsame htree), by simp⟩
      · simp at hok
    · obtain ⟨hsame, ⟨⟨e, he⟩, -⟩ | ⟨-, d, name, hvacant, htree⟩⟩ := Machine.createDir_spec hdir
      · simp at he
      · rw [hself] at hvacant
        have hstep : Step (m, s) (m₁, s.addDir dir) := .dir hself hvacant hsame htree
        obtain ⟨hcreates, hlast⟩ :=
          ih (fun q hq ↦ hdirs q (List.mem_cons_of_mem _ hq)) (hstep.grows hm).2 hrun
        refine ⟨.head hstep hcreates, fun hr ↦ .inr ?_⟩
        rcases hlast hr with ⟨rfl, rfl⟩ | ⟨last, hlast, hempty⟩
        · have hv := Machine.vacantAt_of_locate hm hvacant
          exact ⟨dir, rfl, hv.ne_empty, leadsToEmpty_of_put hm hv hsame.cwd htree⟩
        · refine ⟨last, ?_, hempty⟩
          cases rest with
          | nil => simp at hlast
          | cons r rs => rw [List.getLast?_cons_cons, hlast]

theorem unslashed_of_mem_ancestorsWithin {n : Nat} {p q : Path} (h : Machine.unslashed p = p)
    (hq : q ∈ p.ancestorsWithin n) : Machine.unslashed q = q := by
  induction n generalizing p with
  | zero =>
    obtain rfl := List.mem_singleton.1 hq
    exact h
  | succ n ih =>
    unfold Path.ancestorsWithin at hq
    split at hq
    · rename_i above habove
      rcases List.mem_cons.1 hq with rfl | hq
      · exact h
      · exact ih (unslashed_parent habove) hq
    · obtain rfl := List.mem_singleton.1 hq
      exact h

/-- The missing directories do not end in slashes, and the last of them is the one that was asked
for. -/
theorem missingDirs_spec (m : Machine) (project : Path) (h : Machine.unslashed dir = dir) :
    (∀ p ∈ missingDirs m project dir, Machine.unslashed p = p) ∧
      ∀ last, (missingDirs m project dir).getLast? = some last → last = dir := by
  have hhead : dir.ancestors.head? = some dir := by
    unfold Path.ancestors Path.ancestorsWithin
    split <;> rfl
  refine ⟨fun p hp ↦ ?_, fun last hlast ↦ ?_⟩
  · exact unslashed_of_mem_ancestorsWithin h
      ((List.takeWhile_prefix _).mem (List.mem_reverse.1 hp))
  · rw [missingDirs, List.getLast?_reverse] at hlast
    cases hancestors : dir.ancestors with
    | nil => simp [hancestors] at hhead
    | cons p ps =>
      rw [hancestors, List.head?_cons, Option.some.injEq] at hhead
      rw [hancestors, List.takeWhile_cons] at hlast
      split at hlast
      · rw [List.head?_cons, Option.some.injEq] at hlast
        exact hlast.symm.trans hhead
      · simp at hlast

/-! ### One stub -/

/-- The path of a stub is a plain file in the project. -/
theorem path?_eq_some_iff :
    path? project module = some path ↔ ∃ stem, ModuleName.stem? module = some stem ∧
      IsPlain ⟨stem.text ++ ".lua"⟩ ∧ path = project.join ⟨stem.text ++ ".lua"⟩ := by
  unfold path?
  rw [Option.map_eq_some_iff]
  refine exists_congr fun stem ↦ and_congr_right fun hstem ↦ ?_
  have hcandidates := ModuleName.candidates_eq_map project hstem
  have hplain := ModuleName.isPlain_of_mem_filesOf hstem (f := ⟨stem.text ++ ".lua"⟩)
    (List.mem_cons_self ..)
  simp only [ModuleName.candidates, ModuleName.filesOf, List.map_cons, List.cons.injEq] at hcandidates
  rw [hcandidates.1]
  exact ⟨fun h ↦ ⟨hplain, h.symm⟩, fun h ↦ h.2.symm⟩

/-- **A path in an empty directory leads nowhere.** -/
theorem exists_eq_false_of_leadsToEmpty {f : Path} (hm : m.WellFormed) (hf : IsPlain f)
    (hdir : (project.join f).parent? = some dir) (hne : dir.text ≠ "") (h : LeadsToEmpty m dir) :
    m.exists (project.join f) = false := by
  have hplain : bare (namesOf (project.join f).text) =
      bare (namesOf project.text) ++ namesOf f.text := by
    rw [namesOf_join hf.relative, bare_append, hf.bare_namesOf]
  obtain ⟨x, hnames⟩ := bare_namesOf_parent (by simp [hplain, hf.names_ne_nil]) hdir
  have horigin : origin m.cwd (project.join f).text = origin m.cwd dir.text := by
    have habs := isAbsolute_parent hdir hne
    simp only [Path.isAbsolute, decide_eq_decide] at habs
    simp only [origin, habs]
  obtain ⟨E, c, hleads, hnone⟩ := h
  rw [← Bool.not_eq_true]
  intro hexists
  obtain ⟨q, node, hentry⟩ := Machine.exists_eq_true_iff.1 hexists
  obtain ⟨-, -, ⟨d, -, hleads'⟩, -⟩ := (Machine.entryAt?_eq_ok_iff hm.tree).1 hentry
  have hbare := hleads'.bare
  rw [bare_steps, hnames, horigin] at hbare
  obtain ⟨e, hlast, -⟩ := hleads.of_append hbare
  -- the last name of the path goes down, and there is nothing below the empty directory
  have hx : x ≠ "." ∧ x ≠ ".." := by
    rw [hplain, ← List.dropLast_concat_getLast hf.names_ne_nil, ← List.append_assoc] at hnames
    obtain ⟨-, hx⟩ := List.append_inj' hnames rfl
    rw [← List.singleton_inj.1 hx]
    exact hf.down _ (List.getLast_mem hf.names_ne_nil)
  rcases hlast.name_cases hx.1 hx.2 with ⟨node', hnode', -⟩ | ⟨target, _, hnode', -⟩
  · rw [hnone x] at hnode'
    simp at hnode'
  · rw [hnone x] at hnode'
    simp at hnode'

/-- A plain file does not end in a slash. -/
theorem endsInSlash_join_eq_false {f : Path} (hf : IsPlain f) :
    Machine.endsInSlash (project.join f) = false := by
  obtain ⟨before, hbefore⟩ := exists_text_join project
  obtain ⟨c, hc, hslash⟩ := hf.getLast?
  simp [Machine.endsInSlash, hbefore f hf.relative, List.getLast?_append, hc, hslash]

/-- The directories of a stub do not end in slashes, and the last of them is the parent of its path. -/
def IsWayTo (path : Path) (dirs : List Path) : Prop :=
  (∀ dir ∈ dirs, Machine.unslashed dir = dir) ∧
    ∀ last, dirs.getLast? = some last → path.parent? = some last

/-- Creating the directories of a stub is a run of steps, and its path leads nowhere yet. -/
theorem creates_way {f : Path} {dirs : List Path} {r : Except String Unit} (hf : IsPlain f)
    (hway : IsWayTo (project.join f) dirs) (hnone : m.exists (project.join f) = false)
    (hm : m.WellFormed) (hrun : createDirs m s dirs = (r, m', s')) :
    Creates (m, s) (m', s') ∧ (r = .ok () → m'.exists (project.join f) = false) := by
  obtain ⟨hcreates, hlast⟩ := creates_createDirs hway.1 hm hrun
  refine ⟨hcreates, fun hr ↦ ?_⟩
  rcases hlast hr with ⟨-, rfl⟩ | ⟨last, hlast, hne, hempty⟩
  · exact hnone
  · exact exists_eq_false_of_leadsToEmpty (hcreates.grows hm).2 hf (hway.2 last hlast) hne hempty

/-- **Writing a stub where nothing is** is a step. -/
theorem creates_writeFile {r : Except String Unit} (hslash : Machine.endsInSlash path = false)
    (hnone : m.exists path = false) (hm : m.WellFormed)
    (hrun : writeFile m s module path = (r, m', s')) :
    Creates (m, s) (m', s') ∧ (r = .ok () → m'.exists path = true) := by
  rcases writeFile_cases hrun with ⟨e, reason, hwrite, rfl, rfl⟩ | ⟨hwrite, rfl, rfl⟩
  · obtain ⟨hsame, ⟨-, htree⟩ | ⟨hok, -⟩⟩ := Machine.write_spec hm hslash hnone hwrite
    · exact ⟨.single (.refused hsame htree), by simp⟩
    · simp at hok
  · obtain ⟨hsame, ⟨⟨e, he⟩, -⟩ | ⟨-, d, name, hvacant, htree⟩⟩ :=
      Machine.write_spec hm hslash hnone hwrite
    · simp at he
    · obtain ⟨-, -, hentry⟩ :=
        (Machine.vacantAt_of_locate hm hvacant).put hm hsame (by simp) htree
      exact ⟨.single (.file hslash hvacant hsame htree),
        fun _ ↦ Machine.exists_eq_true_iff.2 ⟨_, _, hentry⟩⟩

/-- The directories missing on the way to a path, as `create` looks for them: none if the path has no
parent. -/
theorem isWayTo_missing (m : Machine) (project path : Path) :
    IsWayTo path (path.parent?.elim [] (missingDirs m project)) := by
  cases hparent : path.parent? with
  | none => exact ⟨by simp, by simp⟩
  | some dir =>
    obtain ⟨h1, h2⟩ := missingDirs_spec m project (unslashed_parent hparent)
    exact ⟨h1, fun last hlast ↦ h2 last hlast ▸ hparent⟩

/-- **Creating one stub** is a run of steps; if it succeeds, its path leads to something. -/
theorem creates_create {r : Except String Unit} (hm : m.WellFormed)
    (hrun : create m s project module = (r, m', s')) :
    Creates (m, s) (m', s') ∧
      (r = .ok () → ∃ path, path? project module = some path ∧ m'.exists path = true) := by
  rcases create_cases hrun with
    ⟨rfl, rfl, hexists⟩ | ⟨path, r₁, m₁, s₁, hpath, hnone, hdirs, hcases⟩
  · exact ⟨.refl, hexists⟩
  · obtain ⟨stem, -, hplain, rfl⟩ := path?_eq_some_iff.1 hpath
    obtain ⟨hway, hstill⟩ := creates_way hplain (isWayTo_missing m project _) hnone hm hdirs
    rcases hcases with ⟨reason, rfl, rfl, rfl⟩ | ⟨rfl, hwrite⟩
    · exact ⟨hway, by simp⟩
    · obtain ⟨hwritten, hwrites⟩ := creates_writeFile (endsInSlash_join_eq_false hplain)
        (hstill rfl) (hway.grows hm).2 hwrite
      exact ⟨hway.trans hwritten, fun hr ↦ ⟨_, hpath, hwrites hr⟩⟩

/-! ### All stubs -/

/-- **Creating stubs** is a run of steps. If no stub was skipped with a warning, each stub path leads
to something. -/
theorem creates_createAll {modules : List String} {warnings : List Warning} (hm : m.WellFormed)
    (hrun : createAll m s project modules = (warnings, m', s')) :
    Creates (m, s) (m', s') ∧ (warnings = [] → ∀ module ∈ modules,
      ∃ path, path? project module = some path ∧ m'.exists path = true) := by
  induction modules generalizing m s warnings with
  | nil =>
    simp only [createAll, Prod.mk.injEq] at hrun
    obtain ⟨rfl, rfl, rfl⟩ := hrun
    exact ⟨.refl, by simp⟩
  | cons module rest ih =>
    obtain ⟨r, m₁, s₁, later, hcreate, hlater, hwarnings⟩ := createAll_cons hrun
    obtain ⟨hcreates, hexists⟩ := creates_create hm hcreate
    obtain ⟨-, hm₁⟩ := hcreates.grows hm
    obtain ⟨hall, hrest⟩ := ih hm₁ hlater
    refine ⟨hcreates.trans hall, fun hnone other hother ↦ ?_⟩
    obtain ⟨hr, rfl⟩ | ⟨reason, -, rfl⟩ := hwarnings
    · rcases List.mem_cons.1 hother with rfl | hother
      · -- what the path leads to is still there when the other stubs have been created
        obtain ⟨path, hpath, hexists⟩ := hexists hr
        obtain ⟨hgrows, hm'⟩ := hall.grows hm₁
        exact ⟨path, hpath, Machine.exists_of_grows hm₁ hm' hgrows hexists⟩
      · exact hrest hnone other hother
    · simp at hnone

/-- **What creating stubs has created** is what it has recorded. -/
theorem created_createAll {modules : List String} {warnings : List Warning}
    (h : Created m₀ m s) (hrun : createAll m s project modules = (warnings, m', s')) :
    Created m₀ m' s' :=
  h.creates (creates_createAll h.wellFormed hrun).1

/-! ### Which stubs are recorded -/

/-- Creating directories records no stub. -/
theorem files_createDirs {dirs : List Path} {r : Except String Unit}
    (hrun : createDirs m s dirs = (r, m', s')) : s'.files = s.files := by
  induction dirs generalizing m s with
  | nil =>
    simp only [createDirs, Prod.mk.injEq] at hrun
    obtain ⟨-, -, rfl⟩ := hrun
    rfl
  | cons dir rest ih =>
    rcases createDirs_cons hrun with ⟨-, -, -, -, rfl⟩ | ⟨m₁, -, hrun⟩
    · rfl
    · rw [ih hrun]
      rfl

theorem mem_files_writeFile {r : Except String Unit} {stub : Stub}
    (hrun : writeFile m s module path = (r, m', s')) (hstub : stub ∈ s'.files) :
    stub ∈ s.files ∨ stub = ⟨module, path⟩ := by
  rcases writeFile_cases hrun with ⟨-, -, -, -, rfl⟩ | ⟨-, -, rfl⟩
  · exact .inl hstub
  · exact (List.mem_append.1 hstub).imp_right List.mem_singleton.1

theorem mem_files_create {r : Except String Unit} {stub : Stub}
    (hrun : create m s project module = (r, m', s')) (hstub : stub ∈ s'.files) :
    stub ∈ s.files ∨ (stub.module = module ∧ path? project module = some stub.path) := by
  rcases create_cases hrun with ⟨-, rfl, -⟩ | ⟨path, r₁, m₁, s₁, hpath, -, hdirs, hcases⟩
  · exact .inl hstub
  · rw [← files_createDirs hdirs]
    rcases hcases with ⟨-, -, -, rfl⟩ | ⟨-, hwrite⟩
    · exact .inl hstub
    · exact (mem_files_writeFile hwrite hstub).imp_right fun h ↦ by simp [h, hpath]

/-- A recorded stub stands for one of the modules, at its path. -/
theorem mem_files_createAll {modules : List String} {warnings : List Warning}
    (hrun : createAll m s project modules = (warnings, m', s')) :
    ∀ stub ∈ s'.files, stub ∈ s.files ∨
      (stub.module ∈ modules ∧ path? project stub.module = some stub.path) := by
  intro stub hstub
  induction modules generalizing m s warnings with
  | nil =>
    simp only [createAll, Prod.mk.injEq] at hrun
    obtain ⟨-, -, rfl⟩ := hrun
    exact .inl hstub
  | cons module rest ih =>
    obtain ⟨r, m₁, s₁, later, hcreate, hlater, -⟩ := createAll_cons hrun
    rcases ih hlater with hstub | ⟨hmodule, hpath⟩
    · exact (mem_files_create hcreate hstub).imp_right fun ⟨hmodule, hpath⟩ ↦
        ⟨by simp [hmodule], hmodule ▸ hpath⟩
    · exact .inr ⟨List.mem_cons_of_mem _ hmodule, hpath⟩

end LuaBundler.Stub
