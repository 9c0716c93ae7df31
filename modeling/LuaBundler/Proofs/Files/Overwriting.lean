import LuaBundler.Proofs.Files.Growth
import LuaBundler.Proofs.Files.LookUp
import LuaBundler.Proofs.Outcome

/-!
# Overwriting files

Filling a file keeps directories and links, so a path leads where it led, to what is there now
(`Machine.entryAt?_of_keepsWays`). What a copy leaves is said of its source and its target alike
(`Machine.read_copy_iff`): if both lead to the same file, it ends up empty.

An entry that is put in the place of a link takes the ways through that link away. A path whose last
name was looked up before then leads to that name, or nowhere (`Machine.LooksUp.entryAt?_of_blocks`).
-/

namespace LuaBundler.Files

open Text

namespace Tree

variable {t t' t'' : Tree} {p q q' : Place} {xs : List String} {c d : Nat} {bytes : Bytes}
  {executable : Bool}

/-- Every directory of one tree is one of the other, and every link is one or gave way to a file. -/
structure Blocks (t t' : Tree) : Prop where
  dir : ∀ p, t.get? p = some .dir → t'.get? p = some .dir
  link : ∀ p target, t.get? p = some (.link target) →
    t'.get? p = some (.link target) ∨ ∃ bytes executable, t'.get? p = some (.file bytes executable)

theorem Blocks.trans_grows (h : t.Blocks t') (hgrows : t'.Grows t'') : t.Blocks t'' :=
  ⟨fun p hp ↦ hgrows (h.dir p hp), fun p target hp ↦
    (h.link p target hp).imp (fun hlink ↦ hgrows hlink) fun ⟨bytes, executable, hfile⟩ ↦
      ⟨bytes, executable, hgrows hfile⟩⟩

/-- Names that led to a directory lead to no other one where links gave way to files. -/
theorem Leads.eq_of_blocks (hblocks : t.Blocks t') (hdir : t.get? q = some .dir)
    (hdir' : t'.get? q' = some .dir) (h : t.Leads p xs c q) (h' : t'.Leads p xs d q') : q' = q := by
  induction h generalizing d with
  | done p =>
    cases h'
    rfl
  | dot _ _ ih => exact ih hdir h'.of_dot
  | up _ _ ih => exact ih hdir h'.of_up
  | @down p q name xs c node _ hname hnode hlink h ih =>
    rcases h'.name_cases hname.1 hname.2.1 with ⟨-, -, -, h'⟩ | ⟨target, _, hnode', -⟩
    · exact ih hdir h'
    · have hpassed : t.get? (p ++ [name]) = some .dir := by
        cases h with
        | done => exact hdir
        | _ => assumption
      rw [hblocks.dir _ hpassed] at hnode'
      simp at hnode'
  | @link p q name target xs c _ hname hnode _ ih =>
    rcases hblocks.link _ _ hnode with hkept | ⟨bytes, executable, hfile⟩
    · rcases h'.name_cases hname.1 hname.2.1 with ⟨node, hnode', hlink, -⟩ |
        ⟨target', _, hnode', -, h'⟩
      · rw [hkept, Option.some.injEq] at hnode'
        exact absurd hnode'.symm (hlink _)
      · rw [hkept, Option.some.injEq, Node.link.injEq] at hnode'
        subst hnode'
        exact ih hdir h'
    · -- the link gave way to a file, which can only be the end
      rcases h'.name_cases hname.1 hname.2.1 with ⟨-, -, -, h'⟩ | ⟨target', _, hnode', -⟩
      · cases xs with
        | nil =>
          cases h'
          rw [hfile] at hdir'
          simp at hdir'
        | cons y ys =>
          rw [h'.dir_of_cons] at hfile
          simp at hfile
      · rw [hfile] at hnode'
        simp at hnode'

end Tree

namespace Machine

variable {m m' : Machine} {p : Path} {q d : Place} {x : String} {node node' : Node}

/-- **What a path leads to** if directories and links are kept: the entry that is there now. -/
theorem entryAt?_of_keepsWays (hm : m.WellFormed) (hm' : m'.WellFormed) (hcwd : m'.cwd = m.cwd)
    (hways : m.tree.KeepsWays m'.tree) (h : m.entryAt? p = .ok (q, node))
    (hnode : m'.tree.get? q = some node') (hlink : ∀ target, node' ≠ .link target) :
    m'.entryAt? p = .ok (q, node') := by
  obtain ⟨hne, hlen, ⟨c, hc, hleads⟩, -⟩ := (entryAt?_eq_ok_iff hm.tree).1 h
  refine (entryAt?_eq_ok_iff hm'.tree).2 ⟨hne, hlen, ⟨c, hc, ?_⟩, hnode⟩
  rw [hcwd]
  exact hleads.of_keepsWays_of_isLive hways ⟨node', hnode, hlink⟩

/-- **A path that looked a name up leads to it or nowhere**, once links have given way to files. -/
theorem LooksUp.entryAt?_of_blocks (h : m.LooksUp p d x) (hm' : m'.WellFormed)
    (hcwd : m'.cwd = m.cwd) (hblocks : m.tree.Blocks m'.tree)
    (hnode : m'.tree.get? (d ++ [x]) = some node) (hlink : ∀ target, node ≠ .link target)
    (hentry : m'.entryAt? p = .ok (q, node')) : node' = node := by
  obtain ⟨ys, c, hsteps, -, hleads⟩ := h.leads
  obtain ⟨-, -, ⟨e, -, hleads'⟩, hnode'⟩ := (entryAt?_eq_ok_iff hm'.tree).1 hentry
  rw [hsteps, hcwd] at hleads'
  obtain ⟨d', c₁, c₂, hway, hlast, -⟩ := hleads'.split
  obtain rfl : d' = d := hleads.eq_of_blocks hblocks h.dir hlast.dir_of_cons hway
  have hdown : m'.tree.Leads d' [x] 0 (d' ++ [x]) :=
    .down hlast.dir_of_cons h.goesDown hnode hlink (.done _)
  obtain ⟨-, rfl⟩ := hlast.unique hdown
  exact Option.some.inj (hnode'.symm.trans hnode)

/-! ### Filling a file -/

/-- Where a path may be written to: at a file or a device that it leads to, or at a vacant name. -/
theorem writable_cases {executable : Bool} (h : m.writable p = .ok (q, executable)) :
    (∃ node, m.entryAt? p = .ok (q, node) ∧
      ((∃ bytes executable, node = .file bytes executable) ∨ ∃ kind, node = .device kind)) ∨
    ∃ d x, m.locate true p = .ok (.vacant d x) ∧ q = d ++ [x] := by
  unfold writable at h
  obtain ⟨spot, hspot, h⟩ := Except.bind_eq_ok_iff.1 h
  have hslash : endsInSlash p = false := by
    cases hslash : endsInSlash p
    · rfl
    · split at h <;> simp [hslash] at h
  rw [unslashed_eq_self hslash] at hspot
  split at h
  · rename_i place bytes executable'
    simp only [hslash, Bool.false_eq_true, if_false, Except.ok.injEq, Prod.mk.injEq] at h
    obtain ⟨rfl, -⟩ := h
    exact .inl ⟨_, by simp [entryAt?, hspot], .inl ⟨bytes, executable', rfl⟩⟩
  · rename_i place kind
    split_ifs at h
    simp only [Except.ok.injEq, Prod.mk.injEq] at h
    obtain ⟨rfl, -⟩ := h
    exact .inl ⟨_, by simp [entryAt?, hspot], .inr ⟨kind, rfl⟩⟩
  · simp at h
  · rename_i d x
    simp only [hslash, Bool.false_eq_true, if_false, Except.ok.injEq, Prod.mk.injEq] at h
    exact .inr ⟨d, x, hspot, h.1.symm⟩

/-- What filling a file at a place leaves: the entries elsewhere, and what paths led to. -/
structure Filled (m : Machine) (q : Place) (bytes : Bytes) (m' : Machine) : Prop where
  wellFormed : m'.WellFormed
  cwd : m'.cwd = m.cwd
  ways : m.tree.KeepsWays m'.tree
  others : ∀ e ≠ q, m'.tree.get? e = m.tree.get? e
  /-- At the place there is the file now, or a device that takes its bytes and keeps none. -/
  node : ∃ node, m'.tree.get? q = some node ∧ ((∃ kind, node = .device kind) ∨
    ∃ executable, node = .file bytes executable)

/-- A file that is put where no directory and no link is. -/
theorem filled_of_set {executable : Bool} {bytes : Bytes} (hm : m.WellFormed)
    (hsame : m.SameSystem m') (hdir : m.tree.get? d = some .dir) (hname : IsName x)
    (hold : m.tree.get? (d ++ [x]) ≠ some .dir)
    (hlink : ∀ target, m.tree.get? (d ++ [x]) ≠ some (.link target))
    (htree : m'.tree = m.tree.set (d ++ [x]) (.file bytes executable)) :
    m.Filled (d ++ [x]) bytes m' := by
  have hothers : ∀ e ≠ d ++ [x], m'.tree.get? e = m.tree.get? e := by
    intro e he
    rw [htree, Tree.get?_set_of_ne _ _ he]
  have hways : m.tree.KeepsWays m'.tree := by
    refine ⟨fun e he ↦ ?_, fun e target he ↦ ?_⟩
    · rwa [hothers e (by rintro rfl; exact hold he)]
    · rwa [hothers e (by rintro rfl; exact hlink target he)]
  refine ⟨⟨?_, ?_⟩, hsame.cwd, hways, hothers, _, ?_, .inr ⟨executable, rfl⟩⟩
  · rw [htree]
    exact Tree.wellFormed_put hm.tree hdir hname hold (by simp)
  · rw [hsame.cwd]
    exact hways.dir _ hm.cwd
  · rw [htree, Tree.get?_set_self _ _ (by simp)]

/-- **Filling the file that a path may be written to**, the path leads to what is there then. -/
theorem filled_of_writable {executable executable' : Bool} {bytes : Bytes} (hm : m.WellFormed)
    (hsame : m.SameSystem m') (h : m.writable p = .ok (q, executable))
    (htree : m'.tree = m.tree.fill q bytes executable') :
    m.Filled q bytes m' ∧ ∃ node, m'.entryAt? p = .ok (q, node) := by
  rcases writable_cases h with ⟨node, hentry, hnode⟩ | ⟨d, x, hvacant, rfl⟩
  · have hget := get?_of_entryAt? hentry
    have hfilled : m.Filled q bytes m' := by
      rcases hnode with ⟨old, executable, rfl⟩ | ⟨kind, rfl⟩
      · -- a file stands in a directory
        rcases q.eq_nil_or_concat with rfl | ⟨d, x, rfl⟩
        · simp at hget
        · rw [List.concat_eq_append] at hget htree ⊢
          have hsome := Option.isSome_of_eq_some hget
          rw [Tree.fill, hget] at htree
          exact filled_of_set hm hsame (hm.tree.parent d x hsome) (hm.tree.isName d x hsome)
            (by simp [hget]) (by simp [hget]) htree
      · rw [Tree.fill, hget] at htree
        refine ⟨⟨htree ▸ hm.tree, ?_⟩, hsame.cwd, htree ▸ (Tree.Grows.refl _).keepsWays,
          fun _ _ ↦ by rw [htree], _, by rw [htree, hget], .inl ⟨kind, rfl⟩⟩
        rw [hsame.cwd, htree]
        exact hm.cwd
    obtain ⟨node', hnode', hkind⟩ := hfilled.node
    refine ⟨hfilled, node', entryAt?_of_keepsWays hm hfilled.wellFormed hfilled.cwd hfilled.ways
      hentry hnode' ?_⟩
    rcases hkind with ⟨kind, rfl⟩ | ⟨executable, rfl⟩ <;> simp
  · have hv := vacantAt_of_locate hm hvacant
    rw [Tree.fill, hv.vacant.fresh] at htree
    obtain ⟨-, -, hentry⟩ := hv.put hm hsame (by simp) htree
    exact ⟨filled_of_set hm hsame hv.vacant.dir hv.vacant.isName (by simp [hv.vacant.fresh])
      (by simp [hv.vacant.fresh]) htree, _, hentry⟩

/-! ### Copying a file -/

/-- Two paths lead to different entries, the second one to a file. -/
def Apart (m : Machine) (p q : Path) : Prop :=
  ∃ E F node bytes executable, m.entryAt? p = .ok (E, node) ∧
    m.entryAt? q = .ok (F, .file bytes executable) ∧ E ≠ F

/-- What a copy does: the place that its target may be written to gets the bytes of its source, or
none if it is the place of the source. -/
theorem copy_cases {source target : Path} (h : m.copy source target = (.ok (), m')) :
    ∃ E bytes executable F executable', m.entryAt? source = .ok (E, .file bytes executable) ∧
      m.writable target = .ok (F, executable') ∧ m.SameSystem m' ∧
      m'.tree = m.tree.fill F (if F = E then [] else bytes) executable := by
  unfold copy at h
  obtain ⟨hsame, ⟨⟨e, he⟩, -⟩ | ⟨-, c, next, hfound, htree⟩⟩ := attemptAt_spec h
  · simp at he
  · obtain ⟨⟨E, node⟩, hentry, hfound⟩ := Except.bind_eq_ok_iff.1 hfound
    split at hfound
    · rename_i place bytes executable heq
      obtain ⟨rfl, rfl⟩ := Prod.mk.inj heq
      obtain ⟨⟨F, executable'⟩, hwritable, hfound⟩ := Except.bind_eq_ok_iff.1 hfound
      simp only [Except.ok.injEq, Prod.mk.injEq] at hfound
      exact ⟨E, bytes, executable, F, executable', hentry, hwritable, hsame,
        htree.trans hfound.2.symm⟩
    · simp at hfound

theorem apart_iff {p q : Path} {E F : Place} (hp : m.entryAt? p = .ok (E, node))
    (hq : m.entryAt? q = .ok (F, node')) :
    m.Apart p q ↔ E ≠ F ∧ ∃ bytes executable, node' = .file bytes executable := by
  constructor
  · rintro ⟨E', F', _, bytes, executable, hp', hq', hne⟩
    obtain ⟨rfl, -⟩ := Prod.mk.inj (Except.ok.inj (hp.symm.trans hp'))
    obtain ⟨rfl, rfl⟩ := Prod.mk.inj (Except.ok.inj (hq.symm.trans hq'))
    exact ⟨hne, bytes, executable, rfl⟩
  · rintro ⟨hne, bytes, executable, rfl⟩
    exact ⟨E, F, node, bytes, executable, hp, hq, hne⟩

/-- **When a copy is faithful**: exactly if there was nothing to copy, or the target is a file other
than the source. -/
theorem read_copy_iff {source target : Path} {bytes : Bytes} (hm : m.WellFormed)
    (h : m.copy source target = (.ok (), m')) (hread : m.read source = .ok bytes) :
    m'.exists source = true ∧ ((m'.read source = .ok bytes ∧ m'.read target = .ok bytes) ↔
      bytes = [] ∨ m'.Apart source target) := by
  obtain ⟨E, bytes', executable, F, executable', hsource, hwritable, hsame, htree⟩ := copy_cases h
  obtain rfl : bytes = bytes' := Except.ok.inj (hread.symm.trans (read_of_isFile hsource))
  obtain ⟨hfilled, node, htarget⟩ := filled_of_writable hm hsame hwritable htree
  have hlead : ∀ node', m'.tree.get? E = some node' → (∀ target, node' ≠ .link target) →
      m'.entryAt? source = .ok (E, node') := fun node' hnode' hlink ↦
    entryAt?_of_keepsWays hm hfilled.wellFormed hfilled.cwd hfilled.ways hsource hnode' hlink
  obtain ⟨node', hnode, hkind⟩ := hfilled.node
  obtain rfl : node = node' := Option.some.inj ((get?_of_entryAt? htarget).symm.trans hnode)
  by_cases hplace : F = E
  · -- the file was emptied before it was read
    subst hplace
    rw [if_pos rfl] at hkind
    have hlink : ∀ target, node ≠ .link target := by
      rcases hkind with ⟨kind, rfl⟩ | ⟨executable, rfl⟩ <;> simp
    have hcontents : node.contents? = some [] := by
      rcases hkind with ⟨kind, rfl⟩ | ⟨executable, rfl⟩ <;> rfl
    have hentry := hlead node hnode hlink
    rw [apart_iff hentry htarget, read_eq_ok_iff.2 ⟨F, node, hentry, hcontents⟩,
      read_eq_ok_iff.2 ⟨F, node, htarget, hcontents⟩]
    exact ⟨exists_eq_true_iff.2 ⟨F, node, hentry⟩, by simp [eq_comm]⟩
  · have hkept := hfilled.others E (Ne.symm hplace)
    rw [get?_of_entryAt? hsource] at hkept
    have hentry := hlead _ hkept (by simp)
    refine ⟨exists_eq_true_iff.2 ⟨E, _, hentry⟩, ?_⟩
    rw [if_neg hplace] at hkind
    rw [apart_iff hentry htarget, read_of_isFile hentry]
    rcases hkind with ⟨kind, rfl⟩ | ⟨executable, rfl⟩
    · rw [read_eq_ok_iff.2 ⟨F, _, htarget, rfl⟩]
      simp [eq_comm]
    · rw [read_of_isFile htarget]
      simp [Ne.symm hplace]

end Machine

end LuaBundler.Files
