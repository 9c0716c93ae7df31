import LuaBundler.Proofs.Files.Growth
import LuaBundler.Proofs.Files.LookUp
import LuaBundler.Proofs.Outcome

/-!
# Removing entries

Removing a file or a directory takes one entry out of the tree. A directory is removed only if it
has no names, so the tree stays well formed (`wellFormed_erase`). What the last name of a path is
decides what is removed (`removeFile_of_looksUp`, `removeDir_of_looksUp`); links are not followed
there.
-/

namespace LuaBundler.Files

open Text

namespace Tree

variable {t : Tree} {p q : Place} {node : Node}

/-- What is there without an entry was there with it. -/
theorem get?_of_erase (h : (t.erase p).get? q = some node) : t.get? q = some node := by
  by_cases hq : q = p
  · subst hq
    by_cases hroot : q = []
    · subst hroot
      simpa using h
    · rw [get?_erase_self t hroot] at h
      simp at h
  · rwa [get?_erase_of_ne t hq] at h

/-- The last name of a place is a name in a directory if the directory holds the place. -/
theorem name_eq_some_iff {x : String} :
    (if q ≠ [] ∧ q.dropLast = p then q.getLast? else none) = some x ↔ q = p ++ [x] := by
  constructor
  · intro h
    split at h
    · rename_i hplace
      obtain ⟨hne, hdir⟩ := hplace
      rw [← hdir, List.dropLast_append_getLast? x h]
    · simp at h
  · intro h
    simp [h]

/-- The names of a directory are those of its entries. -/
theorem mem_names_iff {x : String} : x ∈ t.names p ↔ (t.get? (p ++ [x])).isSome := by
  have hget : t.get? (p ++ [x]) = (t.entries.find? fun e ↦ e.1 == p ++ [x]).map (·.2) := by
    simp [get?]
  rw [hget, Option.isSome_map, List.find?_isSome, names, List.mem_filterMap]
  refine exists_congr fun e ↦ and_congr_right fun _ ↦ ?_
  rw [beq_iff_eq, name_eq_some_iff]

/-- A directory has no names if there is nothing in it. -/
theorem names_eq_nil_iff : t.names p = [] ↔ ∀ x, t.get? (p ++ [x]) = none := by
  rw [List.eq_nil_iff_forall_not_mem]
  simp only [mem_names_iff, Bool.not_eq_true, Option.isSome_eq_false_iff, Option.isNone_iff_eq_none]

/-- **Taking out an entry that holds none** leaves a tree well formed. -/
theorem wellFormed_erase (ht : t.WellFormed) (hleaf : ∀ x, t.get? (p ++ [x]) = none) :
    (t.erase p).WellFormed := by
  have hold : ∀ q, ((t.erase p).get? q).isSome → (t.get? q).isSome := fun q h ↦ by
    obtain ⟨node, hnode⟩ := Option.isSome_iff_exists.1 h
    exact Option.isSome_of_eq_some (get?_of_erase hnode)
  refine ⟨fun q x h ↦ ht.isName q x (hold _ h), fun q x h ↦ ?_,
    fun q target h ↦ ht.target q target (get?_of_erase h)⟩
  have hq : q ≠ p := by
    rintro rfl
    have := hold _ h
    rw [hleaf] at this
    simp at this
  rw [get?_erase_of_ne t hq]
  exact ht.parent q x (hold _ h)

end Tree

namespace Machine

variable {m m' : Machine} {p : Path} {d : Place} {x : String} {node : Node}

/-- A machine whose system turns down no removal. -/
def GrantsRemovals (m : Machine) : Prop :=
  ∀ n place, m.refuse n (.removeFile place) = none ∧ m.refuse n (.removeDir place) = none

theorem GrantsRemovals.sameSystem (h : m.GrantsRemovals) (hsame : m.SameSystem m') :
    m'.GrantsRemovals := by
  rw [GrantsRemovals, hsame.refuse]
  exact h

/-- What a removal leaves was there before. -/
structure Shrinks (m m' : Machine) : Prop where
  sameSystem : m.SameSystem m'
  tree : ∀ ⦃q node⦄, m'.tree.get? q = some node → m.tree.get? q = some node

theorem Shrinks.refl (m : Machine) : m.Shrinks m := ⟨.refl m, fun _ _ h ↦ h⟩

theorem Shrinks.trans {m'' : Machine} (h : m.Shrinks m') (h' : m'.Shrinks m'') : m.Shrinks m'' :=
  ⟨h.sameSystem.trans h'.sameSystem, fun _ _ hq ↦ h.tree (h'.tree hq)⟩

theorem shrinks_attemptAt {found : Except FileError (Change × Tree)}
    (h : ∀ c next, found = .ok (c, next) → ∃ q, next = m.tree.erase q) :
    m.Shrinks (m.attemptAt found).2 := by
  generalize hanswer : m.attemptAt found = answer
  obtain ⟨r, m'⟩ := answer
  obtain ⟨hsame, ⟨-, htree⟩ | ⟨-, c, next, hfound, htree⟩⟩ := attemptAt_spec hanswer
  · exact ⟨hsame, fun q node hq ↦ by rwa [htree] at hq⟩
  · obtain ⟨p, rfl⟩ := h c next hfound
    exact ⟨hsame, fun q node hq ↦ by
      rw [htree] at hq
      exact Tree.get?_of_erase hq⟩

theorem shrinks_removeFile (m : Machine) (p : Path) : m.Shrinks (m.removeFile p).2 := by
  refine shrinks_attemptAt fun c next h ↦ ?_
  obtain ⟨spot, hspot, h⟩ := Except.bind_eq_ok_iff.1 h
  split at h
  · simp at h
  · split at h
    · simp at h
    · simp only [Except.ok.injEq, Prod.mk.injEq] at h
      exact ⟨_, h.2.symm⟩
  · simp at h

theorem shrinks_removeDir (m : Machine) (p : Path) : m.Shrinks (m.removeDir p).2 := by
  refine shrinks_attemptAt fun c next h ↦ ?_
  obtain ⟨spot, hspot, h⟩ := Except.bind_eq_ok_iff.1 h
  split at h
  · split_ifs at h
    simp only [Except.ok.injEq, Prod.mk.injEq] at h
    exact ⟨_, h.2.symm⟩
  · simp at h
  · simp at h

/-- A change that is granted is made. -/
theorem tree_attemptAt_of_granted {c : Change} {next : Tree} (h : m.refuse m.changes c = none) :
    (m.attemptAt (.ok (c, next))).2.tree = next := by
  simp [attemptAt, attempt, h]

/-- **Removing a file** takes out the entry of the last name, a link or not. -/
theorem removeFile_of_looksUp (hgrants : m.GrantsRemovals) (h : m.LooksUp p d x)
    (hslash : endsInSlash p = false) (hnode : m.tree.get? (d ++ [x]) = some node)
    (hdir : node ≠ .dir) : (m.removeFile p).2.tree = m.tree.erase (d ++ [x]) := by
  have hlocate := h.locate_false
  rw [hnode] at hlocate
  have hrun : m.removeFile p =
      m.attemptAt (.ok (.removeFile (d ++ [x]), m.tree.erase (d ++ [x]))) := by
    unfold removeFile
    rw [unslashed_eq_self hslash, hlocate]
    cases node with
    | dir => exact absurd rfl hdir
    | file => simp [bind, Except.bind, hslash]
    | link => simp [bind, Except.bind, hslash]
    | device => simp [bind, Except.bind, hslash]
  rw [hrun, tree_attemptAt_of_granted (hgrants m.changes (d ++ [x])).1]

/-- **Removing an empty directory** takes it out. -/
theorem removeDir_of_looksUp (hgrants : m.GrantsRemovals) (h : m.LooksUp p d x)
    (hself : unslashed p = p) (hdir : m.tree.get? (d ++ [x]) = some .dir)
    (hnames : m.tree.names (d ++ [x]) = []) :
    (m.removeDir p).2.tree = m.tree.erase (d ++ [x]) := by
  have hlocate := h.locate_false
  rw [hdir] at hlocate
  have hlast := h.lastStep hself
  have hrun : m.removeDir p =
      m.attemptAt (.ok (.removeDir (d ++ [x]), m.tree.erase (d ++ [x]))) := by
    unfold removeDir
    rw [hself, hlocate]
    simp [bind, Except.bind, hlast, hnames, h.goesDown.1, h.goesDown.2.1]
  rw [hrun, tree_attemptAt_of_granted (hgrants m.changes (d ++ [x])).2]

/-- The names in the directory that is the last name of a path. -/
theorem names_of_looksUp (h : m.LooksUp p d x) (hdir : m.tree.get? (d ++ [x]) = some .dir) :
    m.names p = .ok (m.tree.names (d ++ [x])) := by
  have hlocate := h.locate_of_not_link hdir (by simp) true
  simp [names, entryAt?, hlocate]

end Machine

end LuaBundler.Files
