import LuaBundler.Proofs.Files.Removal
import LuaBundler.Proofs.Stub.Creation
import Mathlib.Data.List.Nodup

/-!
# Creating stubs and cleaning up

Cleaning up takes back what creating stubs has put into the tree. The record says by which paths: to
each of them belongs the place that was filled (`Recorded`), and a path finds its place again as
long as the directories and links on its way are there (`Machine.LooksUp`). Files are on nobody's
way, so they can go in any order; a directory may be on the way to one that was created later, so
the last one goes first (`Made`).

Meanwhile others may have put entries into the tree. A created directory is then kept if one of
these is below it, and everything else is as it was (`get?_cleanUp`). If nobody has, the tree is what
it was before, but for one case: a stub was written through a link to nothing. The link is removed
then, and what it was written to stays (`get?_cleanUp_eq_iff`).
-/

namespace LuaBundler.Stub

open Text Files

variable {m₀ m m' : Machine} {s s' : Stubs} {project path dir : Path} {module : String}
  {a b : Machine × Stubs} {p q : Place} {d : Place} {x : String} {node : Node}
  {files dirs : List Place} {paths : List Path}

/-! ### What the record says -/

/-- Directories were created at places, in this order, in a tree that had none of them. Each path
looks its place up in any tree with the ways of that tree and the directories before it. -/
inductive Made (m₀ : Machine) : List Path → List Place → Prop
  | nil : Made m₀ [] []
  | snoc {paths : List Path} {dirs : List Place} {dir : Path} {d : Place} {x : String}
      (h : Made m₀ paths dirs) (hself : Machine.unslashed dir = dir)
      (hfresh : m₀.tree.get? (d ++ [x]) = none) (hlast : ∀ p ∈ dirs, ¬ d ++ [x] <+: p)
      (hlooks : ∀ m : Machine, m.cwd = m₀.cwd → m₀.tree.KeepsWays m.tree →
        (∀ p ∈ dirs, m.tree.get? p = some .dir) → m.LooksUp dir d x) :
      Made m₀ (paths ++ [dir]) (dirs ++ [d ++ [x]])

/-- A stub was written to a place: that of the last name of its path, unless that one is a link. -/
def Written (m : Machine) (path : Path) (q : Place) : Prop :=
  Machine.endsInSlash path = false ∧ ∃ d x, m.LooksUp path d x ∧
    (q = d ++ [x] ∨ ∃ target, m.tree.get? (d ++ [x]) = some (.link target))

/-- What creating stubs has made of a machine: the record `s` goes with the places of the files and
the directories that were created since `m₀`. -/
structure Recorded (m₀ m : Machine) (s : Stubs) (files dirs : List Place) : Prop where
  sameSystem : m₀.SameSystem m
  grows : m₀.tree.Grows m.tree
  wellFormed : m.WellFormed
  /-- What was not there before was created. -/
  fresh : ∀ q node, m.tree.get? q = some node → m₀.tree.get? q = some node ∨
    (q ∈ files ∧ node = file) ∨ (q ∈ dirs ∧ node = .dir)
  file : ∀ q ∈ files, m₀.tree.get? q = none ∧ m.tree.get? q = some file
  dir : ∀ q ∈ dirs, m₀.tree.get? q = none ∧ m.tree.get? q = some .dir
  nodup : files.Nodup
  written : List.Forall₂ (Written m) (s.files.map (·.path)) files
  made : Made m₀ s.dirs dirs

theorem recorded_empty (hm : m.WellFormed) : Recorded m m .empty [] [] :=
  ⟨.refl m, .refl _, hm, fun _ _ h ↦ .inl h, by simp, by simp, .nil, .nil, .nil⟩

/-- A path finds its place again as long as the directories and links are there. -/
theorem Written.keepsWays (h : Written m path q) (hcwd : m'.cwd = m.cwd)
    (hways : m.tree.KeepsWays m'.tree) : Written m' path q := by
  obtain ⟨hslash, d, x, hlooks, hq⟩ := h
  refine ⟨hslash, d, x, hlooks.keepsWays hcwd hways, hq.imp_right ?_⟩
  rintro ⟨target, hlink⟩
  exact ⟨target, hways.link _ _ hlink⟩

namespace Recorded

theorem not_mem (h : Recorded m₀ m s files dirs) (hq : m.tree.get? q = none) :
    q ∉ files ∧ q ∉ dirs := by
  refine ⟨fun hmem ↦ ?_, fun hmem ↦ ?_⟩
  · rw [(h.file q hmem).2] at hq
    simp at hq
  · rw [(h.dir q hmem).2] at hq
    simp at hq

theorem refused (h : Recorded m₀ m s files dirs) (hsame : m.SameSystem m')
    (htree : m'.tree = m.tree) : Recorded m₀ m' s files dirs := by
  have hgrows : m.tree.Grows m'.tree := htree ▸ .refl _
  refine ⟨h.sameSystem.trans hsame, h.grows.trans hgrows,
    ((Step.refused (s := s) hsame htree).grows h.wellFormed).2, ?_, ?_, ?_, h.nodup,
    h.written.imp fun _ _ hw ↦ hw.keepsWays hsame.cwd hgrows.keepsWays, h.made⟩
  · rw [htree]
    exact h.fresh
  · rw [htree]
    exact h.file
  · rw [htree]
    exact h.dir

/-- The ways of the tree are those that were there and the directories that were created. -/
theorem keepsWays (h : Recorded m₀ m s files dirs) (hways : m₀.tree.KeepsWays m'.tree)
    (hdirs : ∀ p ∈ dirs, m'.tree.get? p = some .dir) : m.tree.KeepsWays m'.tree := by
  refine ⟨fun p hp ↦ ?_, fun p target hp ↦ ?_⟩
  · rcases h.fresh p _ hp with hold | ⟨-, hnode⟩ | ⟨hmem, -⟩
    · exact hways.dir p hold
    · simp [Stub.file] at hnode
    · exact hdirs p hmem
  · rcases h.fresh p _ hp with hold | ⟨-, hnode⟩ | ⟨-, hnode⟩
    · exact hways.link p target hold
    · simp [Stub.file] at hnode
    · simp at hnode

/-- Nothing stands at or below a vacant name. -/
theorem not_prefix (h : Recorded m₀ m s files dirs) (hq : m.tree.get? q = none) :
    ∀ p, (m.tree.get? p).isSome → ¬ q <+: p := by
  rintro p hp ⟨xs, rfl⟩
  by_cases hxs : xs = []
  · simp [hxs, hq] at hp
  · simp [h.wellFormed.tree.get?_append_eq_none (p := q) hxs (by simp [hq])] at hp

theorem putDir (h : Recorded m₀ m s files dirs) (hself : Machine.unslashed dir = dir)
    (hvacant : m.locate false dir = .ok (.vacant d x)) (hsame : m.SameSystem m')
    (htree : m'.tree = m.tree.set (d ++ [x]) .dir) :
    Recorded m₀ m' (s.addDir dir) files (dirs ++ [d ++ [x]]) := by
  obtain ⟨d', x', hlooks, ⟨hnone, hd, hx⟩ | ⟨hfollow, -⟩⟩ := Machine.looksUp_of_locate hvacant
  case inr => simp at hfollow
  subst d' x'
  obtain ⟨hgrows, hm'⟩ := (Step.dir (s := s) hself hvacant hsame htree).grows h.wellFormed
  have hold : ∀ q, q ≠ d ++ [x] → m'.tree.get? q = m.tree.get? q := fun q hq ↦ by
    rw [htree, Tree.get?_set_of_ne _ _ hq]
  have hnew : m'.tree.get? (d ++ [x]) = some .dir := by
    rw [htree, Tree.get?_set_self _ _ (by simp)]
  refine ⟨h.sameSystem.trans hsame, h.grows.trans hgrows.tree, hm', fun q node hq ↦ ?_,
    fun q hq ↦ ⟨(h.file q hq).1, hgrows.tree (h.file q hq).2⟩, fun q hq ↦ ?_, h.nodup,
    h.written.imp fun _ _ hw ↦ hw.keepsWays hgrows.cwd hgrows.tree.keepsWays,
    .snoc h.made hself (h.grows.get?_eq_none hnone) (fun p hp ↦ ?_) fun n hcwd hways hdirs ↦ ?_⟩
  · by_cases hplace : q = d ++ [x]
    · rw [hplace, hnew, Option.some.injEq] at hq
      exact .inr (.inr ⟨by simp [hplace], hq.symm⟩)
    · rw [hold q hplace] at hq
      exact (h.fresh q node hq).imp_right (Or.imp_right fun ⟨hmem, hnode⟩ ↦
        ⟨List.mem_append_left _ hmem, hnode⟩)
  · rcases List.mem_append.1 hq with hq | hq
    · exact ⟨(h.dir q hq).1, hgrows.tree (h.dir q hq).2⟩
    · obtain rfl := List.mem_singleton.1 hq
      exact ⟨h.grows.get?_eq_none hnone, hnew⟩
  · exact h.not_prefix hnone p (Option.isSome_of_eq_some (h.dir p hp).2)
  · exact hlooks.keepsWays (hcwd.trans h.sameSystem.cwd.symm) (h.keepsWays hways hdirs)

theorem putFile (h : Recorded m₀ m s files dirs) (hslash : Machine.endsInSlash path = false)
    (hvacant : m.locate true path = .ok (.vacant d x)) (hsame : m.SameSystem m')
    (htree : m'.tree = m.tree.set (d ++ [x]) Stub.file) (module : String) :
    Recorded m₀ m' (s.addFile ⟨module, path⟩) (files ++ [d ++ [x]]) dirs := by
  have hstep : Step (m, s) (m', s.addFile ⟨module, path⟩) := .file hslash hvacant hsame htree
  obtain ⟨hgrows, hm'⟩ := hstep.grows h.wellFormed
  have hnone := (Machine.vacantAt_of_locate h.wellFormed hvacant).vacant.fresh
  have hold : ∀ q, q ≠ d ++ [x] → m'.tree.get? q = m.tree.get? q := fun q hq ↦ by
    rw [htree, Tree.get?_set_of_ne _ _ hq]
  have hnew : m'.tree.get? (d ++ [x]) = some Stub.file := by
    rw [htree, Tree.get?_set_self _ _ (by simp)]
  have hwritten : Written m' path (d ++ [x]) := by
    obtain ⟨e, y, hlooks, hspot⟩ := Machine.looksUp_of_locate hvacant
    refine ⟨hslash, e, y, hlooks.keepsWays hgrows.cwd hgrows.tree.keepsWays, ?_⟩
    rcases hspot with ⟨-, rfl, rfl⟩ | ⟨-, target, hlink⟩
    · exact .inl rfl
    · exact .inr ⟨target, hgrows.tree hlink⟩
  refine ⟨h.sameSystem.trans hsame, h.grows.trans hgrows.tree, hm', fun q node hq ↦ ?_,
    fun q hq ↦ ?_, fun q hq ↦ ⟨(h.dir q hq).1, hgrows.tree (h.dir q hq).2⟩, ?_, ?_, h.made⟩
  · by_cases hplace : q = d ++ [x]
    · rw [hplace, hnew, Option.some.injEq] at hq
      exact .inr (.inl ⟨by simp [hplace], hq.symm⟩)
    · rw [hold q hplace] at hq
      exact (h.fresh q node hq).imp_right (Or.imp_left fun ⟨hmem, hnode⟩ ↦
        ⟨List.mem_append_left _ hmem, hnode⟩)
  · rcases List.mem_append.1 hq with hq | hq
    · exact ⟨(h.file q hq).1, hgrows.tree (h.file q hq).2⟩
    · obtain rfl := List.mem_singleton.1 hq
      exact ⟨h.grows.get?_eq_none hnone, hnew⟩
  · rw [← List.concat_eq_append]
    exact List.Nodup.concat (h.not_mem hnone).1 h.nodup
  · rw [Stubs.addFile, List.map_append]
    exact List.rel_append (h.written.imp fun _ _ hw ↦ hw.keepsWays hgrows.cwd hgrows.tree.keepsWays)
      (.cons hwritten .nil)

end Recorded

/-- **Every step of creating stubs records the place that it fills.** -/
theorem Recorded.step (h : Recorded m₀ a.1 a.2 files dirs) (hstep : Step a b) :
    ∃ files dirs, Recorded m₀ b.1 b.2 files dirs := by
  cases hstep with
  | refused hsame htree => exact ⟨_, _, h.refused hsame htree⟩
  | dir hself hvacant hsame htree => exact ⟨_, _, h.putDir hself hvacant hsame htree⟩
  | file hslash hvacant hsame htree => exact ⟨_, _, h.putFile hslash hvacant hsame htree _⟩

theorem Recorded.creates (h : Recorded m₀ a.1 a.2 files dirs) (hrun : Creates a b) :
    ∃ files dirs, Recorded m₀ b.1 b.2 files dirs := by
  induction hrun with
  | refl => exact ⟨_, _, h⟩
  | tail _ hstep ih =>
    obtain ⟨files, dirs, hrecorded⟩ := ih
    exact hrecorded.step hstep

/-- **Creating stubs records all that it creates.** -/
theorem recorded_createAll {modules : List String} {warnings : List Warning} (hm : m.WellFormed)
    (hrun : createAll m .empty project modules = (warnings, m', s)) :
    ∃ files dirs, Recorded m m' s files dirs :=
  (recorded_empty hm).creates (creates_createAll hm hrun).1

/-! ### Removing files -/

theorem exists_written (h : List.Forall₂ (Written m) paths files) (hmem : path ∈ paths) :
    ∃ q ∈ files, Written m path q := by
  induction h with
  | nil => simp at hmem
  | @cons other q _ _ hwritten _ ih =>
    rcases List.mem_cons.1 hmem with rfl | hmem
    · exact ⟨q, List.mem_cons_self .., hwritten⟩
    · obtain ⟨q, hq, hwritten⟩ := ih hmem
      exact ⟨q, List.mem_cons_of_mem _ hq, hwritten⟩

theorem removal_snd (path : Path) (answer : Machine.Answer Unit) :
    (removal path answer).2 = answer.2 := by
  unfold removal
  split <;> rfl

theorem shrinks_removeFile (m : Machine) (path : Path) : m.Shrinks (removeFile m path).2 := by
  rw [removeFile, removal_snd]
  exact m.shrinks_removeFile path

theorem shrinks_removeEach {remove : Machine → Path → List Warning × Machine}
    (h : ∀ (m : Machine) path, m.Shrinks (remove m path).2) (m : Machine) (paths : List Path) :
    m.Shrinks (removeEach remove m paths).2 := by
  induction paths generalizing m with
  | nil => exact .refl m
  | cons path rest ih => exact (h m path).trans (ih _)

/-- The last name of a path is a link. -/
def Linked (m : Machine) (path : Path) : Prop :=
  ∃ q target, m.locate false path = .ok (.found q (.link target))

instance (m : Machine) (path : Path) : Decidable (Linked m path) :=
  match h : m.locate false path with
  | .ok (.found q (.link target)) => isTrue ⟨q, target, h⟩
  | .ok (.found _ .dir) => isFalse (by simp [Linked, h])
  | .ok (.found _ (.file ..)) => isFalse (by simp [Linked, h])
  | .ok (.found _ (.device _)) => isFalse (by simp [Linked, h])
  | .ok (.vacant ..) => isFalse (by simp [Linked, h])
  | .error _ => isFalse (by simp [Linked, h])

theorem linked_iff (h : m.LooksUp path d x) :
    Linked m path ↔ ∃ target, m.tree.get? (d ++ [x]) = some (.link target) := by
  rw [Linked, h.locate_false]
  cases m.tree.get? (d ++ [x]) with
  | none => simp
  | some node => simp

/-- Taking out a file leaves all ways. -/
theorem keepsWays_erase (hfile : m.tree.get? q = some file) (htree : m'.tree = m.tree.erase q) :
    m.tree.KeepsWays m'.tree := by
  have hne : ∀ p node, m.tree.get? p = some node → node ≠ file → m'.tree.get? p = some node := by
    intro p node hp hnode
    rw [htree, Tree.get?_erase_of_ne _ _, hp]
    rintro rfl
    rw [hfile, Option.some.injEq] at hp
    exact hnode hp.symm
  exact ⟨fun p hp ↦ hne p _ hp (by simp [file]), fun p target hp ↦ hne p _ hp (by simp [file])⟩

/-- **A stub that was not written through a link is removed.** -/
theorem removeFile_of_written (hgrants : m.GrantsRemovals) (h : Written m path q)
    (hlink : ¬ Linked m path) (hfile : m.tree.get? q = some file) :
    (removeFile m path).2.tree = m.tree.erase q := by
  obtain ⟨hslash, d, x, hlooks, rfl | htarget⟩ := h
  · rw [removeFile, removal_snd]
    exact Machine.removeFile_of_looksUp hgrants hlooks hslash hfile (by simp [file])
  · exact absurd ((linked_iff hlooks).2 htarget) hlink

/-- **Removing a stub that was written through a link** removes the link. -/
theorem removeFile_of_linked (hgrants : m.GrantsRemovals) (h : Written m path q)
    (hlink : Linked m path) :
    ∃ p target, m.tree.get? p = some (.link target) ∧ (removeFile m path).2.tree.get? p = none := by
  obtain ⟨hslash, d, x, hlooks, -⟩ := h
  obtain ⟨target, htarget⟩ := (linked_iff hlooks).1 hlink
  refine ⟨d ++ [x], target, htarget, ?_⟩
  rw [removeFile, removal_snd,
    Machine.removeFile_of_looksUp hgrants hlooks hslash htarget (by simp),
    Tree.get?_erase_self _ (by simp)]

/-- The files that stubs were written to are there, each of them once. -/
structure Standing (m : Machine) (paths : List Path) (files : List Place) : Prop where
  written : List.Forall₂ (Written m) paths files
  file : ∀ q ∈ files, m.tree.get? q = some Stub.file
  nodup : files.Nodup

/-- **Removing a stub that was not written through a link** takes out its file. The others stand, and
each of them was written through a link if it was before. -/
theorem Standing.removeFile (h : Standing m (path :: paths) (q :: files))
    (hgrants : m.GrantsRemovals) (hlink : ¬ Linked m path) :
    (removeFile m path).2.tree = m.tree.erase q ∧ Standing (removeFile m path).2 paths files ∧
      ∀ other ∈ paths, Linked (removeFile m path).2 other ↔ Linked m other := by
  obtain ⟨hwritten, hrest⟩ := List.forall₂_cons.1 h.written
  obtain ⟨hq, hnodup⟩ := List.nodup_cons.1 h.nodup
  have hqfile := h.file q (List.mem_cons_self ..)
  have htree := removeFile_of_written hgrants hwritten hlink hqfile
  have hshrinks := shrinks_removeFile m path
  have hcwd := hshrinks.sameSystem.cwd
  have hways := keepsWays_erase hqfile htree
  refine ⟨htree, ⟨hrest.imp fun _ _ hw ↦ hw.keepsWays hcwd hways, fun p hp ↦ ?_, hnodup⟩,
    fun other hother ↦ ?_⟩
  · rw [htree, Tree.get?_erase_of_ne _ (ne_of_mem_of_not_mem hp hq)]
    exact h.file p (List.mem_cons_of_mem _ hp)
  · -- whether a path ends in a link is settled by the links, and these are the ones from before
    obtain ⟨_, -, -, d, x, hlooks, -⟩ := exists_written hrest hother
    rw [linked_iff hlooks, linked_iff (hlooks.keepsWays hcwd hways)]
    exact exists_congr fun target ↦ ⟨fun h ↦ hshrinks.tree h, hways.link _ _⟩

/-- **Removing files** takes out those that were written, if none was written through a link. -/
theorem get?_removeFiles (h : Standing m paths files) (hgrants : m.GrantsRemovals)
    (hm : m.tree.WellFormed) (hlink : ∀ path ∈ paths, ¬ Linked m path) :
    (removeEach removeFile m paths).2.tree.WellFormed ∧
      ∀ q, (removeEach removeFile m paths).2.tree.get? q =
        if q ∈ files then none else m.tree.get? q := by
  induction paths generalizing m files with
  | nil =>
    cases h.written
    exact ⟨hm, by simp [removeEach]⟩
  | cons path paths ih =>
    obtain ⟨q, files, -, -, rfl⟩ := List.forall₂_cons_left_iff.1 h.written
    have hfile := h.file q (List.mem_cons_self ..)
    have hne : q ≠ [] := by
      rintro rfl
      simp [file] at hfile
    obtain ⟨htree, hrest, hlinks⟩ := h.removeFile hgrants (hlink path (List.mem_cons_self ..))
    have hm' : (removeFile m path).2.tree.WellFormed := htree ▸ Tree.wellFormed_erase hm fun x ↦
      hm.get?_append_eq_none (by simp) (by simp [hfile, file])
    obtain ⟨hwell, hget⟩ := ih hrest (hgrants.sameSystem (shrinks_removeFile m path).sameSystem) hm'
      fun other hother ↦ (hlinks other hother).not.2 (hlink other (List.mem_cons_of_mem _ hother))
    refine ⟨hwell, fun p ↦ (hget p).trans ?_⟩
    by_cases hp : p = q
    · subst hp
      simp [htree, Tree.get?_erase_self _ hne]
    · simp [htree, Tree.get?_erase_of_ne _ hp, hp]

/-- **If a stub was written through a link**, removing files takes out a link. -/
theorem exists_link_removeFiles (h : Standing m paths files) (hgrants : m.GrantsRemovals)
    (hlink : ∃ path ∈ paths, Linked m path) :
    ∃ p target, m.tree.get? p = some (.link target) ∧
      (removeEach removeFile m paths).2.tree.get? p = none := by
  induction paths generalizing m files with
  | nil => simp at hlink
  | cons path paths ih =>
    obtain ⟨q, files, hwritten, -, rfl⟩ := List.forall₂_cons_left_iff.1 h.written
    have hshrinks := shrinks_removeFile m path
    by_cases hpath : Linked m path
    · -- what is removed later does not put the link back
      obtain ⟨p, target, hp, hnone⟩ := removeFile_of_linked hgrants hwritten hpath
      exact ⟨p, target, hp,
        Tree.Grows.get?_eq_none (shrinks_removeEach shrinks_removeFile _ paths).tree hnone⟩
    · obtain ⟨-, hrest, hlinks⟩ := h.removeFile hgrants hpath
      obtain ⟨other, hother, hlinked⟩ := hlink
      have hmem : other ∈ paths :=
        (List.mem_cons.1 hother).resolve_left fun heq ↦ hpath (heq ▸ hlinked)
      obtain ⟨p, target, hp, hnone⟩ := ih hrest (hgrants.sameSystem hshrinks.sameSystem)
        ⟨other, hmem, (hlinks other hmem).2 hlinked⟩
      exact ⟨p, target, hshrinks.tree hp, hnone⟩

/-! ### Removing directories -/

theorem removeDir_snd_of_empty (h : m.names path = .ok []) :
    (removeDir m path).2 = (m.removeDir path).2 := by
  unfold removeDir
  simp only [h]
  split <;> rename_i hanswer <;> rw [hanswer]

theorem removeDir_snd_of_ne (h : m.names path ≠ .ok []) : (removeDir m path).2 = m := by
  unfold removeDir
  split
  · exact absurd ‹_› h
  · rfl
  · exact removal_snd path _

theorem shrinks_removeDir (m : Machine) (path : Path) : m.Shrinks (removeDir m path).2 := by
  by_cases hempty : m.names path = .ok []
  · rw [removeDir_snd_of_empty hempty]
    exact m.shrinks_removeDir path
  · rw [removeDir_snd_of_ne hempty]
    exact .refl m

/-- **Removing a created directory** takes it out if it is empty. -/
theorem removeDir_of_looksUp (hgrants : m.GrantsRemovals) (hself : Machine.unslashed dir = dir)
    (h : m.LooksUp dir d x) (hdir : m.tree.get? (d ++ [x]) = some .dir) :
    (removeDir m dir).2.tree =
      if m.tree.names (d ++ [x]) = [] then m.tree.erase (d ++ [x]) else m.tree := by
  have hnames := Machine.names_of_looksUp h hdir
  split
  · rename_i hempty
    rw [removeDir_snd_of_empty (hnames.trans (congrArg _ hempty)),
      Machine.removeDir_of_looksUp hgrants h hself hdir hempty]
  · rename_i hne
    rw [removeDir_snd_of_ne (by simpa [hnames] using hne)]

/-- All that stands at a place or below it is among the given places. -/
def HoldsOnly (t : Tree) (p : Place) (dirs : List Place) : Prop :=
  ∀ q, p <+: q → (t.get? q).isSome → q ∈ dirs

/-- Nothing but itself stands at or below an empty directory. -/
theorem eq_of_prefix_of_leaf {t : Tree} (ht : t.WellFormed) (hleaf : ∀ x, t.get? (p ++ [x]) = none)
    (hpq : p <+: q) (hq : (t.get? q).isSome) : q = p := by
  obtain ⟨xs, rfl⟩ := hpq
  cases xs with
  | nil => simp
  | cons y ys =>
    rw [List.append_cons] at hq
    have hchild := hleaf y
    by_cases hys : ys = []
    · simp [hys, hchild] at hq
    · rw [ht.get?_append_eq_none hys (by simp [hchild])] at hq
      simp at hq

/-- Taking out the last directory, which is empty, leaves the question to the others. -/
theorem holdsOnly_erase {D : Place} (hne : D ≠ []) (t : Tree) (hq : q ≠ D) (hlast : D ∉ dirs) :
    (q ∈ dirs ++ [D] ∧ HoldsOnly t q (dirs ++ [D])) ↔
      (q ∈ dirs ∧ HoldsOnly (t.erase D) q dirs) := by
  have hmem : ∀ p, p ≠ D → (p ∈ dirs ++ [D] ↔ p ∈ dirs) := fun p hp ↦ by simp [hp]
  rw [hmem q hq]
  refine and_congr_right fun _ ↦ ⟨fun h p hqp hp ↦ ?_, fun h p hqp hp ↦ ?_⟩
  · have hpD : p ≠ D := by
      rintro rfl
      simp [Tree.get?_erase_self t hne] at hp
    rw [Tree.get?_erase_of_ne t hpD] at hp
    exact (hmem p hpD).1 (h p hqp hp)
  · by_cases hpD : p = D
    · simp [hpD]
    · rw [← Tree.get?_erase_of_ne t hpD] at hp
      exact (hmem p hpD).2 (h p hqp hp)

/-- A directory that has an entry not to be removed stays, and so do those it is in. -/
theorem holdsOnly_concat {t : Tree} {D : Place} {y : String} (hy : (t.get? (D ++ [y])).isSome)
    (hlast : ∀ p ∈ dirs, ¬ D <+: p) :
    (q ∈ dirs ++ [D] ∧ HoldsOnly t q (dirs ++ [D])) ↔ (q ∈ dirs ∧ HoldsOnly t q dirs) := by
  -- the entry keeps whatever it stands in
  have hkept : ∀ p, p <+: D → ¬ HoldsOnly t p (dirs ++ [D]) := by
    intro p hp h
    rcases List.mem_append.1 (h (D ++ [y]) (hp.trans (List.prefix_append ..)) hy) with hmem | hmem
    · exact hlast _ hmem (List.prefix_append ..)
    · simp at hmem
  constructor
  · rintro ⟨hmem, h⟩
    refine ⟨(List.mem_append.1 hmem).resolve_right fun hD ↦ ?_, fun p hqp hp ↦
      (List.mem_append.1 (h p hqp hp)).resolve_right fun hD ↦ ?_⟩
    · exact hkept q (List.mem_singleton.1 hD ▸ List.prefix_rfl) h
    · exact hkept q (List.mem_singleton.1 hD ▸ hqp) h
  · rintro ⟨hmem, h⟩
    exact ⟨List.mem_append_left _ hmem, fun p hqp hp ↦ List.mem_append_left _ (h p hqp hp)⟩

/-- **Removing directories**, the last one first, takes out those that hold nothing else. -/
theorem get?_removeDirs (h : Made m₀ paths dirs) (hgrants : m.GrantsRemovals)
    (hcwd : m.cwd = m₀.cwd) (hm : m.tree.WellFormed) (hways : m₀.tree.KeepsWays m.tree)
    (hdirs : ∀ p ∈ dirs, m.tree.get? p = some .dir) (q : Place) (node : Node) :
    (removeEach removeDir m paths.reverse).2.tree.get? q = some node ↔
      m.tree.get? q = some node ∧ ¬ (q ∈ dirs ∧ HoldsOnly m.tree q dirs) := by
  -- the directory created last goes first: it is on the way to none of the others
  induction h generalizing m with
  | nil => simp [removeEach]
  | @snoc paths dirs dir d x hmade hself hfresh hlast hlooks ih =>
    have hearlier : ∀ p ∈ dirs, m.tree.get? p = some .dir := fun p hp ↦
      hdirs p (List.mem_append_left _ hp)
    have hdir := hdirs (d ++ [x]) (by simp)
    have htree := removeDir_of_looksUp hgrants hself (hlooks m hcwd hways hearlier) hdir
    have hsame := (shrinks_removeDir m dir).sameSystem
    have hrun : removeEach removeDir m (paths ++ [dir]).reverse =
        ((removeDir m dir).1 ++ (removeEach removeDir (removeDir m dir).2 paths.reverse).1,
          (removeEach removeDir (removeDir m dir).2 paths.reverse).2) := by
      rw [List.reverse_append]
      rfl
    rw [hrun]
    by_cases hnames : m.tree.names (d ++ [x]) = []
    · -- it is taken out, and the others lose an entry that was among the created ones
      rw [if_pos hnames] at htree
      have hleaf := Tree.names_eq_nil_iff.1 hnames
      have hother : ∀ p, p ≠ d ++ [x] → (removeDir m dir).2.tree.get? p = m.tree.get? p :=
        fun p hp ↦ by rw [htree, Tree.get?_erase_of_ne _ hp]
      have hold : ∀ p node, m₀.tree.get? p = some node → p ≠ d ++ [x] := by
        rintro p node hp rfl
        rw [hfresh] at hp
        simp at hp
      have hkept : d ++ [x] ∉ dirs := fun hmem ↦ hlast _ hmem List.prefix_rfl
      rw [ih (hgrants.sameSystem hsame) (hsame.cwd.trans hcwd)
        (htree ▸ Tree.wellFormed_erase hm hleaf)
        ⟨fun p hp ↦ (hother p (hold p _ hp)).trans (hways.dir p hp),
          fun p target hp ↦ (hother p (hold p _ hp)).trans (hways.link p target hp)⟩
        fun p hp ↦ (hother p (ne_of_mem_of_not_mem hp hkept)).trans (hearlier p hp)]
      by_cases hq : q = d ++ [x]
      · subst hq
        have hempty : HoldsOnly m.tree (d ++ [x]) (dirs ++ [d ++ [x]]) := fun p hp hsome ↦ by
          simp [eq_of_prefix_of_leaf hm hleaf hp hsome]
        simp [htree, Tree.get?_erase_self, hempty]
      · rw [hother q hq, htree, holdsOnly_erase (by simp) m.tree hq hkept]
    · -- it stays, and with it all that it is in
      rw [if_neg hnames] at htree
      obtain ⟨y, hy⟩ : ∃ y, m.tree.get? (d ++ [x] ++ [y]) ≠ none := by
        simpa [Tree.names_eq_nil_iff] using hnames
      rw [ih (hgrants.sameSystem hsame) (hsame.cwd.trans hcwd) (htree ▸ hm) (htree ▸ hways)
        (htree ▸ hearlier), htree, holdsOnly_concat (Option.isSome_iff_ne_none.2 hy) hlast]

/-! ### Cleaning up -/

/-- An entry that others have put into the tree. -/
def Added (t t' : Tree) (q : Place) (node : Node) : Prop :=
  t.get? q = none ∧ t'.get? q = some node

theorem not_added_self (t : Tree) (q : Place) (node : Node) : ¬ Added t t q node := by
  rintro ⟨hnone, hsome⟩
  rw [hnone] at hsome
  simp at hsome

theorem added_set_iff {t : Tree} {new : Node} (hp : t.get? p = none) (hne : p ≠ []) :
    Added t (t.set p new) q node ↔ q = p ∧ node = new := by
  by_cases hq : q = p
  · subst hq
    simp [Added, hp, Tree.get?_set_self t new hne, eq_comm]
  · simp +contextual [Added, Tree.get?_set_of_ne t new hq, hq]

/-- Others do not turn a stub into a link. -/
theorem not_linked_of_grows (h : Written m path q) (hfile : m.tree.get? q = some file)
    (hlink : ¬ Linked m path) (hcwd : m'.cwd = m.cwd) (hgrows : m.tree.Grows m'.tree) :
    ¬ Linked m' path := by
  obtain ⟨-, d, x, hlooks, rfl | htarget⟩ := h
  · rw [linked_iff (hlooks.keepsWays hcwd hgrows.keepsWays), hgrows hfile]
    simp [file]
  · exact absurd ((linked_iff hlooks).2 htarget) hlink

namespace Recorded

/-- Cleaning up takes out the files that were created, and of the directories those that hold nothing
else. -/
theorem get?_cleanUp_iff (h : Recorded m₀ m s files dirs)
    (hlink : ∀ stub ∈ s.files, ¬ Linked m stub.path) (hsame : m.SameSystem m')
    (hgrants : m'.GrantsRemovals) (hgrows : m.tree.Grows m'.tree) (hm' : m'.tree.WellFormed)
    (q : Place) (node : Node) : (s.cleanUp m').2.tree.get? q = some node ↔
      m'.tree.get? q = some node ∧ q ∉ files ∧
        ¬ (q ∈ dirs ∧ HoldsOnly m'.tree q (files ++ dirs)) := by
  have hstanding : Standing m' (s.files.map (·.path)) files :=
    ⟨h.written.imp fun _ _ hw ↦ hw.keepsWays hsame.cwd hgrows.keepsWays,
      fun p hp ↦ hgrows (h.file p hp).2, h.nodup⟩
  have hunlinked : ∀ path ∈ s.files.map (·.path), ¬ Linked m' path := by
    intro path hpath
    obtain ⟨p, hp, hw⟩ := exists_written h.written hpath
    obtain ⟨stub, hstub, rfl⟩ := List.mem_map.1 hpath
    exact not_linked_of_grows hw (h.file p hp).2 (hlink stub hstub) hsame.cwd hgrows
  obtain ⟨hwell, hfiles⟩ := get?_removeFiles hstanding hgrants hm' hunlinked
  set m₁ := (removeEach removeFile m' (s.files.map (·.path))).2 with hm₁
  have hsame₁ : m'.SameSystem m₁ := (shrinks_removeEach shrinks_removeFile _ _).sameSystem
  have hold : ∀ p node, m₀.tree.get? p = some node → m₁.tree.get? p = some node := by
    intro p node hp
    have hfile : p ∉ files := fun hmem ↦ by simp [(h.file p hmem).1] at hp
    rw [hfiles, if_neg hfile]
    exact hgrows (h.grows hp)
  have hdirs : ∀ p ∈ dirs, m₁.tree.get? p = some .dir := by
    intro p hp
    have hfile : p ∉ files := fun hmem ↦ by
      simpa [Stub.file, (h.dir p hp).2] using (h.file p hmem).2
    rw [hfiles, if_neg hfile]
    exact hgrows (h.dir p hp).2
  -- the files are gone by the time that directories are looked into
  have hholds : HoldsOnly m₁.tree q dirs ↔ HoldsOnly m'.tree q (files ++ dirs) := by
    refine forall_congr' fun p ↦ ?_
    by_cases hp : p ∈ files <;> simp [hfiles, hp]
  have hrun : (s.cleanUp m').2 = (removeEach removeDir m₁ s.dirs.reverse).2 := rfl
  rw [hrun, get?_removeDirs h.made (hgrants.sameSystem hsame₁)
    ((hsame₁.cwd.trans hsame.cwd).trans h.sameSystem.cwd) hwell
    ⟨fun p hp ↦ hold p _ hp, fun p target hp ↦ hold p _ hp⟩ hdirs, hholds, hfiles]
  by_cases hq : q ∈ files <;> simp [hq]

/-- A created directory holds nothing but what was created if and only if others have put nothing
into it. -/
theorem holdsOnly_iff (h : Recorded m₀ m s files dirs) (hm₀ : m₀.tree.WellFormed) {t : Tree}
    (hq : q ∈ dirs) :
    HoldsOnly t q (files ++ dirs) ↔ ∀ y ys other, ¬ Added m.tree t (q ++ y :: ys) other := by
  constructor
  · rintro hholds y ys other ⟨hnone, hother⟩
    have hcreated := hholds _ (List.prefix_append ..) (Option.isSome_of_eq_some hother)
    obtain ⟨hfile, hdir⟩ := h.not_mem hnone
    exact (List.mem_append.1 hcreated).elim hfile hdir
  · rintro hnone p ⟨xs, rfl⟩ hp
    obtain ⟨node, hnode⟩ := Option.isSome_iff_exists.1 hp
    obtain ⟨hfresh, hdir⟩ := h.dir q hq
    cases xs with
    | nil => simp [hq]
    | cons y ys =>
      obtain ⟨old, hold⟩ : ∃ old, m.tree.get? (q ++ y :: ys) = some old := by
        by_contra hnew
        exact hnone y ys node ⟨by simpa [Option.eq_none_iff_forall_ne_some] using hnew, hnode⟩
      rcases h.fresh _ old hold with hbefore | ⟨hmem, -⟩ | ⟨hmem, -⟩
      · -- nothing stood below a directory that was not there
        rw [hm₀.get?_append_eq_none (List.cons_ne_nil y ys) (by simp [hfresh])] at hbefore
        simp at hbefore
      · exact List.mem_append_left _ hmem
      · exact List.mem_append_right _ hmem

/-- **What cleaning up leaves** are the entries that were there before stubs were created, those that
others have added since, and the directories these are in. -/
theorem get?_cleanUp (h : Recorded m₀ m s files dirs) (hm₀ : m₀.tree.WellFormed)
    (hlink : ∀ stub ∈ s.files, ¬ Linked m stub.path) (hsame : m.SameSystem m')
    (hgrants : m'.GrantsRemovals) (hgrows : m.tree.Grows m'.tree) (hm' : m'.tree.WellFormed)
    (q : Place) (node : Node) : (s.cleanUp m').2.tree.get? q = some node ↔
      m₀.tree.get? q = some node ∨ Added m.tree m'.tree q node ∨
        (node = .dir ∧ ∃ y ys other, Added m.tree m'.tree (q ++ y :: ys) other) := by
  rw [h.get?_cleanUp_iff hlink hsame hgrants hgrows hm']
  constructor
  · rintro ⟨hnode, hfile, hdir⟩
    cases hq : m.tree.get? q with
    | none => exact .inr (.inl ⟨hq, hnode⟩)
    | some old =>
      obtain rfl : old = node := by simpa [hgrows hq] using hnode
      rcases h.fresh q old hq with hbefore | ⟨hmem, -⟩ | ⟨hmem, rfl⟩
      · exact .inl hbefore
      · exact absurd hmem hfile
      · rw [h.holdsOnly_iff hm₀ hmem] at hdir
        exact .inr (.inr ⟨rfl, by simpa [hmem] using hdir⟩)
  · rintro (hq | hadded | ⟨rfl, y, ys, other, hadded⟩)
    · refine ⟨hgrows (h.grows hq), fun hmem ↦ ?_, fun ⟨hmem, _⟩ ↦ ?_⟩
      · simp [(h.file q hmem).1] at hq
      · simp [(h.dir q hmem).1] at hq
    · obtain ⟨hfile, hdir⟩ := h.not_mem hadded.1
      exact ⟨hadded.2, hfile, fun hmem ↦ hdir hmem.1⟩
    · have hq : m'.tree.get? q = some .dir :=
        hm'.dir_of_append (List.cons_ne_nil y ys) (Option.isSome_of_eq_some hadded.2)
      refine ⟨hq, fun hmem ↦ ?_, fun ⟨hmem, hholds⟩ ↦
        (h.holdsOnly_iff hm₀ hmem).1 hholds y ys other hadded⟩
      rw [hgrows (h.file q hmem).2] at hq
      simp [Stub.file] at hq

/-- If a stub was written through a link, cleaning up removes a link that was there before. -/
theorem exists_link_cleanUp (h : Recorded m₀ m s files dirs) (hgrants : m.GrantsRemovals)
    (hlink : ∃ stub ∈ s.files, Linked m stub.path) :
    ∃ p target, m₀.tree.get? p = some (.link target) ∧ (s.cleanUp m).2.tree.get? p = none := by
  obtain ⟨stub, hstub, hlinked⟩ := hlink
  obtain ⟨p, target, hp, hnone⟩ := exists_link_removeFiles
    ⟨h.written, fun q hq ↦ (h.file q hq).2, h.nodup⟩ hgrants ⟨_, List.mem_map_of_mem hstub, hlinked⟩
  refine ⟨p, target, ?_,
    Tree.Grows.get?_eq_none (shrinks_removeEach shrinks_removeDir _ _).tree hnone⟩
  rcases h.fresh p _ hp with hp₀ | ⟨-, hnode⟩ | ⟨-, hnode⟩
  · exact hp₀
  · simp [Stub.file] at hnode
  · simp at hnode

end Recorded

/-- **Creating stubs and cleaning up leaves the files as they were if and only if no stub was written
through a link.** The system may turn down any creation. -/
theorem get?_cleanUp_eq_iff {modules : List String} {warnings : List Warning} (hm : m.WellFormed)
    (hgrants : m.GrantsRemovals)
    (hrun : createAll m .empty project modules = (warnings, m', s)) :
    (s.cleanUp m').2.tree.get? = m.tree.get? ↔ ∀ stub ∈ s.files, ¬ Linked m' stub.path := by
  obtain ⟨files, dirs, hrecorded⟩ := recorded_createAll hm hrun
  have hgrants' := hgrants.sameSystem hrecorded.sameSystem
  constructor
  · intro heq
    -- the link that is removed was in the tree before
    by_contra hlink
    obtain ⟨p, target, hp, hnone⟩ := hrecorded.exists_link_cleanUp hgrants' (by simpa using hlink)
    rw [heq, hp] at hnone
    simp at hnone
  · intro hlink
    refine funext fun q ↦ Option.ext fun node ↦ ?_
    rw [hrecorded.get?_cleanUp hm.tree hlink (.refl m') hgrants' (.refl _)
      hrecorded.wellFormed.tree]
    simp [not_added_self]

/-- A file, a link to nothing in a missing directory and runtime modules in directories of their own:
the file and the link are left alone, and the directories go. -/
theorem get?_cleanUp_of_links :
    ∃ m m' : Machine, ∃ s warnings, m.tree.entries.length = 4 ∧
      createAll m .empty ⟨"/p"⟩ ["net", "log", "ui.button", "ui.label"] = (warnings, m', s) ∧
      s.files.length = 2 ∧ s.dirs.length = 1 ∧ (s.cleanUp m').2.tree.get? = m.tree.get? := by
  let m : Machine := { tree := ⟨[(["p"], .dir), (["p", "net.lua"], .file [] false),
    (["p", "log.lua"], .link "/q/log.lua"), (["r"], .link "/p")]⟩, cwd := [], env := [] }
  have hm : m.WellFormed := ⟨Tree.wellFormed_of_entries (by decide +kernel), by decide +kernel⟩
  let made := createAll m .empty ⟨"/p"⟩ ["net", "log", "ui.button", "ui.label"]
  have hrun : made = (made.1, made.2.1, made.2.2) := by rw [Prod.eta]
  have hlink : ∀ stub ∈ made.2.2.files, ¬ Linked made.2.1 stub.path := by decide +kernel
  exact ⟨m, made.2.1, made.2.2, made.1, rfl, hrun, by decide +kernel, by decide +kernel,
    (get?_cleanUp_eq_iff hm (fun _ _ ↦ ⟨rfl, rfl⟩) hrun).2 hlink⟩

/-- **A stub that was written through a link is not taken back**: the link is removed instead. -/
theorem not_get?_cleanUp_of_dangling_link :
    ¬∀ (m m' : Machine) (s : Stubs) (project : Path) (modules : List String)
      (warnings : List Warning), m.WellFormed → m.GrantsRemovals →
      createAll m .empty project modules = (warnings, m', s) →
      (s.cleanUp m').2.tree.get? = m.tree.get? := by
  intro h
  let m : Machine := { tree := ⟨[(["p"], .dir), (["out"], .dir),
    (["p", "net.lua"], .link "../out/net.lua")]⟩, cwd := [], env := [] }
  have hm : m.WellFormed := ⟨Tree.wellFormed_of_entries (by decide +kernel), by decide +kernel⟩
  let made := createAll m .empty ⟨"/p"⟩ ["net"]
  have hrun : made = (made.1, made.2.1, made.2.2) := by rw [Prod.eta]
  have hsame := h m made.2.1 made.2.2 ⟨"/p"⟩ ["net"] made.1 hm (fun _ _ ↦ ⟨rfl, rfl⟩) hrun
  have hlost : (made.2.2.cleanUp made.2.1).2.tree.get? ["p", "net.lua"] = none := by
    decide +kernel
  rw [hsame] at hlost
  exact absurd hlost (by decide +kernel)

end LuaBundler.Stub
