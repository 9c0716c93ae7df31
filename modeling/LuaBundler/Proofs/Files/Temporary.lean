import LuaBundler.Files.Temporary
import LuaBundler.Proofs.Files.Overwriting
import LuaBundler.Proofs.Files.Removal

/-!
# Moving a temporary file into place

A temporary file is created, filled and renamed onto a path, or let go of, which leaves the tree
from before it (`Machine.get?_discard`). Only the last name of the path matters to the renaming: the
file is put there, whatever the name had been, a link to somewhere else included
(`Machine.renameFile_spec`). So the tree that is left is the one before with that one entry put into
it, and the path leads to the file unless its way went through the entry that was replaced
(`Machine.placed_of_renameFile`).
-/

namespace LuaBundler.Files

open Text

namespace Machine

variable {m m' : Machine} {p : Path} {temp d : Place} {x : String} {bytes : Bytes}

/-- A temporary file is new in its directory; one that cannot be created leaves the tree as it is. -/
theorem createTemporary_spec {r : Except FileError Place} (h : m.createTemporary p = (r, m')) :
    m.SameSystem m' ∧ (((∃ e, r = .error e) ∧ m'.tree = m.tree) ∨
      ∃ temp, r = .ok temp ∧ temp ≠ [] ∧ m.tree.get? temp = none ∧
        m'.tree = m.tree.set temp (.file [] false)) := by
  unfold createTemporary at h
  split at h
  · obtain ⟨rfl, rfl⟩ := Prod.mk.inj h
    exact ⟨.refl m, .inl ⟨⟨_, rfl⟩, rfl⟩⟩
  · rename_i place _
    have hfresh : m.tree.get? (place ++ [freshName (m.tree.names place)]) = none := by
      have hnot := freshName_not_mem (m.tree.names place)
      rw [Tree.mem_names_iff] at hnot
      simpa using hnot
    dsimp only at h
    split at h <;> rename_i hattempt <;> obtain ⟨rfl, rfl⟩ := Prod.mk.inj h
    · obtain ⟨hsame, ⟨⟨e, he⟩, -⟩ | ⟨-, htree⟩⟩ := attempt_spec hattempt
      · simp at he
      · exact ⟨hsame, .inr ⟨_, rfl, by simp, hfresh, htree⟩⟩
    · exact ⟨(attempt_spec hattempt).1, .inl ⟨⟨_, rfl⟩, tree_attempt_of_error hattempt⟩⟩

theorem createTemporary_of_ok (h : m.createTemporary p = (.ok temp, m')) :
    m.SameSystem m' ∧ temp ≠ [] ∧ m.tree.get? temp = none ∧
      m'.tree = m.tree.set temp (.file [] false) := by
  obtain ⟨hsame, ⟨⟨e, he⟩, -⟩ | ⟨temp', htemp, hcreated⟩⟩ := createTemporary_spec h
  · simp at he
  · obtain rfl := Except.ok.inj htemp
    exact ⟨hsame, hcreated⟩

/-- Filling a file touches nothing else; if it succeeds, the file holds the bytes. -/
theorem fill_spec {r : Except FileError Unit} (h : m.fill temp bytes = (r, m')) :
    m.SameSystem m' ∧ (∀ q ≠ temp, m'.tree.get? q = m.tree.get? q) ∧
      (r = .ok () → m'.tree = m.tree.set temp (.file bytes false)) := by
  unfold fill at h
  split at h
  · rename_i hwrite
    obtain ⟨rfl, rfl⟩ := Prod.mk.inj h
    exact ⟨(attempt_spec hwrite).1, fun q _ ↦ by rw [tree_attempt_of_error hwrite], by simp⟩
  · rename_i first hwrite
    obtain ⟨hsame, ⟨⟨e, he⟩, -⟩ | ⟨-, htree⟩⟩ := attempt_spec hwrite
    · simp at he
    · obtain ⟨hsame', hflush⟩ := attempt_spec h
      -- flushing changes no tree, also if it succeeds
      have htree' : m'.tree = first.tree := by
        rcases hflush with ⟨-, hflush⟩ | ⟨-, hflush⟩ <;> exact hflush
      exact ⟨hsame.trans hsame', fun q hq ↦ by rw [htree', htree, Tree.get?_set_of_ne _ _ hq],
        fun _ ↦ htree'.trans htree⟩

/-- Letting go of a temporary file leaves the tree from before it, if nothing else was touched. -/
theorem get?_discard {m'' : Machine} (hcreate : m.createTemporary p = (.ok temp, m'))
    (hsame : m'.SameSystem m'') (hothers : ∀ q ≠ temp, m''.tree.get? q = m'.tree.get? q) :
    m.SameSystem (m''.discard temp) ∧ ∀ q, (m''.discard temp).tree.get? q = m.tree.get? q := by
  obtain ⟨hsame', htemp, hfresh, htree⟩ := createTemporary_of_ok hcreate
  have hlast : m''.SameSystem (m''.discard temp) := ⟨rfl, rfl, rfl⟩
  refine ⟨(hsame'.trans hsame).trans hlast, fun q ↦ ?_⟩
  by_cases hq : q = temp
  · rw [hq, hfresh, discard, Tree.get?_erase_self _ htemp]
  · rw [discard, Tree.get?_erase_of_ne _ hq, hothers q hq, htree, Tree.get?_set_of_ne _ _ hq]

/-- The name that a path looks up is one of an entry. -/
theorem LooksUp.isName (h : m.LooksUp p d x) : IsName x := by
  obtain ⟨ys, c, hsteps, -⟩ := h.leads
  have hpart := isPart_of_mem_steps h.no_nul x (by simp [hsteps])
  exact ⟨hpart.ne_empty, h.goesDown.1, h.goesDown.2.1, hpart.no_slash, hpart.no_nul,
    h.goesDown.2.2⟩

/-- **What a renaming asks for** is the node at the last name of the path, unless a directory is
there. -/
theorem renameFile_of_looksUp (h : m.LooksUp p d x) (hslash : endsInSlash p = false) :
    m.renameFile temp p = m.attemptAt
      (match m.tree.get? (d ++ [x]), m.tree.get? temp with
      | some .dir, _ => .error .isDirectory
      | _, some node => .ok (.rename temp (d ++ [x]), (m.tree.erase temp).set (d ++ [x]) node)
      | _, none => .error .notFound) := by
  have hself := unslashed_eq_self hslash
  have hlast := h.lastStep hself
  unfold renameFile
  rw [hself, h.locate_false]
  cases m.tree.get? (d ++ [x]) with
  | none => cases m.tree.get? temp <;>
      simp [bind, Except.bind, h.no_nul, hlast, hslash, h.goesDown.1, h.goesDown.2.1]
  | some node => cases node <;> cases m.tree.get? temp <;>
      simp [bind, Except.bind, h.no_nul, hlast, hslash, h.goesDown.1, h.goesDown.2.1]

/-- A path that a file is renamed onto looks up its last name. -/
theorem exists_looksUp_of_renameFile (h : m.renameFile temp p = (.ok (), m')) :
    endsInSlash p = false ∧ ∃ d x, m.LooksUp p d x := by
  unfold renameFile at h
  obtain ⟨-, ⟨⟨e, he⟩, -⟩ | ⟨-, c, next, hfound, -⟩⟩ := attemptAt_spec h
  · simp at he
  dsimp only at hfound
  by_cases hnul : '\x00' ∈ p.text.toList
  · simp [hnul, bind, Except.bind] at hfound
  rw [if_neg hnul] at hfound
  obtain ⟨spot, hspot, hfound⟩ := Except.bind_eq_ok_iff.1 hfound
  split at hfound
  · simp at hfound
  rename_i hlast
  split at hfound
  · simp at hfound
  rename_i hslash
  push Not at hlast
  obtain ⟨x, hx⟩ := Option.ne_none_iff_exists'.1 hlast.1
  have hself := unslashed_eq_self (p := p) (by simpa using hslash)
  rw [hself] at hspot
  obtain ⟨d, hlooks⟩ := exists_looksUp_of_lastStep hself hx (by rintro rfl; exact hlast.2.1 hx)
    (by rintro rfl; exact hlast.2.2 hx) hspot
  exact ⟨by simpa using hslash, d, x, hlooks⟩

/-- A renaming puts a node at the last name of a path, where no directory is. -/
theorem renameFile_spec (h : m.renameFile temp p = (.ok (), m')) :
    m.SameSystem m' ∧ ∃ d x node, m.LooksUp p d x ∧ m.tree.get? (d ++ [x]) ≠ some .dir ∧
      m.tree.get? temp = some node ∧ m'.tree = (m.tree.erase temp).set (d ++ [x]) node := by
  obtain ⟨hslash, d, x, hlooks⟩ := exists_looksUp_of_renameFile h
  rw [renameFile_of_looksUp hlooks hslash] at h
  obtain ⟨hsame, ⟨⟨e, he⟩, -⟩ | ⟨-, c, next, hfound, htree⟩⟩ := attemptAt_spec h
  · simp at he
  refine ⟨hsame, d, x, ?_⟩
  split at hfound
  · simp at hfound
  · rename_i node hnode hdir
    obtain ⟨-, rfl⟩ := Prod.mk.inj (Except.ok.inj hfound)
    exact ⟨node, hlooks, hdir, hnode, htree⟩
  · simp at hfound

/-- What is where once a temporary file was filled and renamed: the file at the last name of the
path, and all else as before the temporary file. The way to that name was looked up while it was
there, and is the one from before. -/
theorem get?_of_renameFile {dir : Path} {ma mb : Machine}
    (hcreate : m.createTemporary dir = (.ok temp, ma)) (hfill : ma.fill temp bytes = (.ok (), mb))
    (hrename : mb.renameFile temp p = (.ok (), m')) :
    ∃ d x, m.LooksUp p d x ∧ mb.LooksUp p d x ∧ mb.tree.Blocks m'.tree ∧
      m.tree.get? (d ++ [x]) ≠ some .dir ∧ m'.tree.get? (d ++ [x]) = some (.file bytes false) ∧
      ∀ q ≠ d ++ [x], m'.tree.get? q = m.tree.get? q := by
  obtain ⟨hsame, htemp, hfresh, hma⟩ := createTemporary_of_ok hcreate
  obtain ⟨hsame', -, hmb⟩ := fill_spec hfill
  obtain ⟨-, d, x, node, hlooks, hold, hnode, hm'⟩ := renameFile_spec hrename
  have hfile : mb.tree.get? temp = some (.file bytes false) := by
    rw [hmb rfl, Tree.get?_set_self _ _ htemp]
  obtain rfl : .file bytes false = node := Option.some.inj (hfile.symm.trans hnode)
  have hbefore : ∀ q ≠ temp, mb.tree.get? q = m.tree.get? q := fun q hq ↦ by
    rw [hmb rfl, Tree.get?_set_of_ne _ _ hq, hma, Tree.get?_set_of_ne _ _ hq]
  have hself : m'.tree.get? (d ++ [x]) = some (.file bytes false) := by
    rw [hm', Tree.get?_set_self _ _ (by simp)]
  have hafter : ∀ q ≠ temp, q ≠ d ++ [x] → m'.tree.get? q = mb.tree.get? q := fun q ht hq ↦ by
    rw [hm', Tree.get?_set_of_ne _ _ hq, Tree.get?_erase_of_ne _ ht]
  -- the temporary file is no step on the way to a directory
  have hways : mb.tree.KeepsWays m.tree :=
    ⟨fun q hq ↦ by rwa [← hbefore q (by rintro rfl; simp [hfile] at hq)],
      fun q target hq ↦ by rwa [← hbefore q (by rintro rfl; simp [hfile] at hq)]⟩
  refine ⟨d, x, hlooks.keepsWays (hsame.trans hsame').cwd.symm hways, hlooks,
    ⟨fun q hq ↦ ?_, fun q target hq ↦ ?_⟩, ?_, hself, fun q hq ↦ ?_⟩
  · rwa [hafter q (by rintro rfl; simp [hfile] at hq) (by rintro rfl; exact hold hq)]
  · by_cases hgoal : q = d ++ [x]
    · exact .inr ⟨bytes, false, hgoal ▸ hself⟩
    · exact .inl (by rwa [hafter q (by rintro rfl; simp [hfile] at hq) hgoal])
  · by_cases hgoal : d ++ [x] = temp
    · simp [hgoal, hfresh]
    · rwa [← hbefore _ hgoal]
  · by_cases hgone : q = temp
    · rw [hm', Tree.get?_set_of_ne _ _ hq, hgone, Tree.get?_erase_self _ htemp, hfresh]
    · rw [hafter q hgone hq, hbefore q hgone]

/-- What moving a file of some bytes onto a path leaves. -/
structure Placed (m : Machine) (p : Path) (bytes : Bytes) (m' : Machine) : Prop where
  wellFormed : m'.WellFormed
  sameSystem : m.SameSystem m'
  /-- Also when entries are added, the path leads to the file if it leads anywhere. -/
  leads : ∀ ⦃m''⦄, m'.Grows m'' → m''.WellFormed → ∀ ⦃q node⦄,
    m''.entryAt? p = .ok (q, node) → node = .file bytes false

/-- **A path that a filled temporary file was renamed onto** leads to its bytes or nowhere. -/
theorem placed_of_renameFile {dir : Path} {ma mb : Machine} (hm : m.WellFormed)
    (hcreate : m.createTemporary dir = (.ok temp, ma)) (hfill : ma.fill temp bytes = (.ok (), mb))
    (hrename : mb.renameFile temp p = (.ok (), m')) : m.Placed p bytes m' := by
  have hlast := (renameFile_spec hrename).1
  have hsame := ((createTemporary_spec hcreate).1.trans (fill_spec hfill).1).trans hlast
  obtain ⟨d, x, hbefore, hlooks, hblocks, hold, hself, hothers⟩ :=
    get?_of_renameFile hcreate hfill hrename
  refine ⟨⟨?_, ?_⟩, hsame, fun m'' hgrows hm'' q node hentry ↦ ?_⟩
  · -- the tree is the one before with the file put into it
    have hput : (m.tree.set (d ++ [x]) (.file bytes false)).WellFormed :=
      Tree.wellFormed_put hm.tree hbefore.dir hlooks.isName hold (by simp)
    refine hput.congr fun q ↦ ?_
    by_cases hq : q = d ++ [x]
    · rw [hq, hself, Tree.get?_set_self _ _ (by simp)]
    · rw [hothers q hq, Tree.get?_set_of_ne _ _ hq]
  · rw [hsame.cwd, hothers _ (by rintro hcwd; exact hold (hcwd ▸ hm.cwd))]
    exact hm.cwd
  · exact hlooks.entryAt?_of_blocks hm'' (hgrows.cwd.trans hlast.cwd)
      (hblocks.trans_grows hgrows.tree) (hgrows.tree hself) (by simp) hentry

end Machine

end LuaBundler.Files
