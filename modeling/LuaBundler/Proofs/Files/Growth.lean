import LuaBundler.Proofs.Files.Components
import LuaBundler.Proofs.Files.WellFormed

/-!
# Growing trees

Creating a directory and writing a file that is not there put one entry into a tree, at a place that
a walk found vacant. The tree stays well formed (`wellFormed_set`), what led somewhere leads there
still (`entryAt?_of_grows`), and the path that the walk went along leads to the new entry
(`Vacant.leads`), also where it ended in a link to nothing.

So whatever has names can be put into a tree: the directories of a place (`exists_dir`), and files
in a directory (`exists_files`). Creating a directory and those above it adds directories on the way
to it, and changes nothing else (`addsDirs_createDirs`).
-/

namespace LuaBundler.Files

open Text

/-- A piece of a path text that may become a name. -/
structure IsPart (x : String) : Prop where
  ne_empty : x ≠ ""
  no_slash : '/' ∉ x.toList
  no_nul : '\x00' ∉ x.toList

theorem isPart_of_mem_steps {text : String} (hnul : '\x00' ∉ text.toList) :
    ∀ x ∈ steps text, IsPart x := by
  intro x hx
  rw [steps_eq, List.mem_append] at hx
  rcases hx with hx | hx
  · refine ⟨by simpa using (List.mem_filter.1 hx).2, not_mem_of_mem_namesOf hx, fun hmem ↦ hnul ?_⟩
    simp only [namesOf, pieces, List.mem_filter, List.mem_map] at hx
    obtain ⟨⟨piece, hpiece, rfl⟩, -⟩ := hx
    exact (mem_iff_exists_mem_splitOn (by decide) _).2 ⟨piece, hpiece, by simpa using hmem⟩
  · split at hx
    · obtain rfl := List.mem_singleton.1 hx
      exact ⟨by decide, by decide, by decide⟩
    · simp at hx

namespace Tree

variable {t t' : Tree} {p d : Place} {name : String} {xs : List String} {k : Nat} {follow : Bool}
  {node : Node}

/-- A walk from `p` along `xs` that may pass `k` links ends at the name `name`, which the directory
`d` does not have. -/
structure Vacant (t : Tree) (k : Nat) (p : Place) (xs : List String) (d : Place) (name : String) :
    Prop where
  dir : t.get? d = some .dir
  fresh : t.get? (d ++ [name]) = none
  isName : IsName name
  /-- Once there is an entry of that name, the walk leads to it. -/
  leads : ∀ ⦃t' : Tree⦄ ⦃node : Node⦄, t.Grows t' → t'.get? (d ++ [name]) = some node →
    (∀ target, node ≠ .link target) → ∃ c ≤ k, t'.Leads p xs c (d ++ [name])

/-- A step on the way to a vacant name, which leads there as well once there is an entry. -/
theorem Vacant.of_step {j : Nat} {p' : Place} {xs' : List String} (h : t.Vacant j p' xs' d name)
    (hstep : ∀ {t' : Tree} {q : Place} {c : Nat}, t.Grows t' → c ≤ j → t'.Leads p' xs' c q →
      ∃ c' ≤ k, t'.Leads p xs c' q) : t.Vacant k p xs d name := by
  refine ⟨h.dir, h.fresh, h.isName, fun t' node hgrows hnode hlink ↦ ?_⟩
  obtain ⟨c, hc, hleads⟩ := h.leads hgrows hnode hlink
  exact hstep hgrows hc hleads

/-- **A walk that finds no entry ends at a name for one.** -/
theorem vacant_of_walk (ht : t.WellFormed) (hxs : ∀ x ∈ xs, IsPart x)
    (h : t.walk follow k p xs = .ok (.vacant d name)) : t.Vacant k p xs d name := by
  have hwalks := walks_of_walk h
  clear h
  generalize hspot : Spot.vacant d name = spot at hwalks
  induction hwalks with
  | found => simp at hspot
  | dot hdir _ ih =>
    exact (ih (List.forall_mem_cons.1 hxs).2 hspot).of_step fun hgrows hc hleads ↦
      ⟨_, hc, .dot (hgrows hdir) hleads⟩
  | up hdir _ ih =>
    exact (ih (List.forall_mem_cons.1 hxs).2 hspot).of_step fun hgrows hc hleads ↦
      ⟨_, hc, .up (hgrows hdir) hleads⟩
  | down hdir hname hnode hlink _ ih =>
    exact (ih (List.forall_mem_cons.1 hxs).2 hspot).of_step fun hgrows hc hleads ↦
      ⟨_, hc, .down (hgrows hdir) hname (hgrows hnode) hlink hleads⟩
  | @link k p name' target xs spot hdir hname hnode _ _ ih =>
    -- the walk goes on along the target and the rest, with one link less to pass
    have hparts : ∀ x ∈ steps target ++ xs, IsPart x := fun x hx ↦
      (List.mem_append.1 hx).elim (isPart_of_mem_steps (ht.target _ _ hnode) x)
        ((List.forall_mem_cons.1 hxs).2 x)
    exact (ih hparts hspot).of_step fun hgrows hc hleads ↦
      ⟨_, Nat.succ_le_succ hc, .link (hgrows hdir) hname (hgrows hnode) hleads⟩
  | last => simp at hspot
  | vacant hdir hname hnone =>
    obtain ⟨rfl, rfl⟩ := Spot.vacant.inj hspot
    have hpart := hxs _ (List.mem_cons_self ..)
    exact ⟨hdir, hnone, ⟨hpart.ne_empty, hname.1, hname.2.1, hpart.no_slash, hpart.no_nul,
      hname.2.2⟩, fun t' node hgrows hnode hlink ↦
      ⟨0, Nat.zero_le _, .down (hgrows hdir) hname hnode hlink (.done _)⟩⟩

/-- Whether a tree is well formed is a matter of what is at each place. -/
theorem WellFormed.congr (ht : t.WellFormed) (h : ∀ p, t'.get? p = t.get? p) : t'.WellFormed :=
  ⟨fun p x hsome ↦ ht.isName p x (by rwa [h] at hsome),
    fun p x hsome ↦ by rw [h] at hsome ⊢; exact ht.parent p x hsome,
    fun p target hp ↦ ht.target p target (by rwa [h] at hp)⟩

/-- A new entry leaves the others as they are. -/
theorem grows_set (h : t.get? p = none) (node : Node) : t.Grows (t.set p node) := by
  intro q other hq
  rw [get?_set_of_ne t node (by rintro rfl; simp [h] at hq)]
  exact hq

/-- An entry in a directory leaves a tree well formed, whatever it replaces but a directory. -/
theorem wellFormed_put (ht : t.WellFormed) (hdir : t.get? d = some .dir) (hname : IsName name)
    (hold : t.get? (d ++ [name]) ≠ some .dir) (hlink : ∀ target, node ≠ .link target) :
    (t.set (d ++ [name]) node).WellFormed := by
  have hne : d ++ [name] ≠ [] := by simp
  have hkeep : ∀ q, q ≠ d ++ [name] → (t.set (d ++ [name]) node).get? q = t.get? q :=
    fun q hq ↦ get?_set_of_ne t node hq
  have hkeepdir : ∀ q, t.get? q = some .dir → (t.set (d ++ [name]) node).get? q = some .dir := by
    intro q hq
    rwa [hkeep q (by rintro rfl; exact hold hq)]
  refine ⟨fun q x hsome ↦ ?_, fun q x hsome ↦ ?_, fun q target hq ↦ ?_⟩
  · by_cases hq : q ++ [x] = d ++ [name]
    · obtain ⟨-, hx⟩ := List.append_inj' hq rfl
      rw [List.singleton_inj.1 hx]
      exact hname
    · rw [hkeep _ hq] at hsome
      exact ht.isName q x hsome
  · by_cases hq : q ++ [x] = d ++ [name]
    · obtain ⟨rfl, -⟩ := List.append_inj' hq rfl
      exact hkeepdir _ hdir
    · rw [hkeep _ hq] at hsome
      exact hkeepdir _ (ht.parent q x hsome)
  · by_cases hq' : q = d ++ [name]
    · rw [hq', get?_set_self t node hne, Option.some.injEq] at hq
      exact absurd hq (hlink target)
    · rw [hkeep _ hq'] at hq
      exact ht.target q target hq

/-- A new entry in a directory leaves a tree well formed. -/
theorem wellFormed_set (ht : t.WellFormed) (hdir : t.get? d = some .dir) (hname : IsName name)
    (hfresh : t.get? (d ++ [name]) = none) (hlink : ∀ target, node ≠ .link target) :
    (t.set (d ++ [name]) node).WellFormed :=
  wellFormed_put ht hdir hname (by simp [hfresh]) hlink

/-- The directories of a place can be put into a tree that has nothing of the first name. -/
theorem exists_dir (ht : t.WellFormed) (hp : ∀ x ∈ p, IsName x)
    (hhead : ∀ x, p.head? = some x → t.get? [x] = none) :
    ∃ t', t.Grows t' ∧ t'.WellFormed ∧ t'.get? p = some .dir ∧
      ∀ q node, t'.get? q = some node → t.get? q = some node ∨ (q <+: p ∧ node = .dir) := by
  -- from the root down: the last clause says that the next name is still free
  induction p using List.reverseRecOn with
  | nil => exact ⟨t, .refl t, ht, get?_nil t, fun _ _ h ↦ .inl h⟩
  | append_singleton p x ih =>
    obtain ⟨t', hgrows, ht', hdir, hnew⟩ := ih (fun y hy ↦ hp y (by simp [hy]))
      fun y hy ↦ hhead y (by simp [hy])
    have hfresh : t'.get? (p ++ [x]) = none := by
      refine Option.eq_none_iff_forall_ne_some.2 fun node hnode ↦ ?_
      rcases hnew _ _ hnode with hold | ⟨hfront, -⟩
      · -- the first name would be there
        cases p with
        | nil =>
          rw [List.nil_append, hhead x rfl] at hold
          simp at hold
        | cons y ys =>
          have hnone : t.get? (y :: ys ++ [x]) = none :=
            ht.get?_append_eq_none (p := [y]) (by simp) (by simp [hhead y rfl])
          rw [hnone] at hold
          simp at hold
      · exact absurd hfront.length_le (by simp)
    refine ⟨t'.set (p ++ [x]) .dir, hgrows.trans (grows_set hfresh _),
      wellFormed_set ht' hdir (hp x (by simp)) hfresh (by simp), get?_set_self _ _ (by simp),
      fun q node hq ↦ ?_⟩
    by_cases hplace : q = p ++ [x]
    · rw [hplace, get?_set_self _ _ (by simp), Option.some.injEq] at hq
      exact .inr ⟨hplace ▸ List.prefix_rfl, hq.symm⟩
    · rw [get?_set_of_ne _ _ hplace] at hq
      exact (hnew q node hq).imp_right fun h ↦ ⟨h.1.trans (List.prefix_append ..), h.2⟩

/-- Files with different names can be put into a directory that has none of them. -/
theorem exists_files {files : List (String × Bytes)} (ht : t.WellFormed)
    (hdir : t.get? p = some .dir) (hnames : ∀ f ∈ files, IsName f.1)
    (hvacant : ∀ f ∈ files, t.get? (p ++ [f.1]) = none) (hnodup : (files.map (·.1)).Nodup) :
    ∃ t', t.Grows t' ∧ t'.WellFormed ∧
      (∀ f ∈ files, t'.get? (p ++ [f.1]) = some (.file f.2 false)) ∧
      ∀ q node, t'.get? q = some node → t.get? q = some node ∨
        ∃ f ∈ files, q = p ++ [f.1] ∧ node = .file f.2 false := by
  induction files with
  | nil => exact ⟨t, .refl t, ht, by simp, fun _ _ h ↦ .inl h⟩
  | cons f files ih =>
    obtain ⟨hf, hnodup⟩ := List.nodup_cons.1 hnodup
    obtain ⟨t', hgrows, ht', hfiles, hnew⟩ := ih (fun g hg ↦ hnames g (List.mem_cons_of_mem _ hg))
      (fun g hg ↦ hvacant g (List.mem_cons_of_mem _ hg)) hnodup
    have hfresh : t'.get? (p ++ [f.1]) = none := by
      refine Option.eq_none_iff_forall_ne_some.2 fun node hnode ↦ ?_
      rcases hnew _ _ hnode with hold | ⟨g, hg, heq, -⟩
      · rw [hvacant f (List.mem_cons_self ..)] at hold
        simp at hold
      · exact hf (List.mem_map.2 ⟨g, hg, by simpa using heq.symm⟩)
    have hput := grows_set hfresh (.file f.2 false)
    refine ⟨_, hgrows.trans hput, wellFormed_set ht' (hgrows hdir)
      (hnames f (List.mem_cons_self ..)) hfresh (by simp), fun g hg ↦ ?_, fun q node hq ↦ ?_⟩
    · rcases List.mem_cons.1 hg with rfl | hg
      · exact get?_set_self _ _ (by simp)
      · exact hput (hfiles g hg)
    · by_cases hplace : q = p ++ [f.1]
      · rw [hplace, get?_set_self _ _ (by simp), Option.some.injEq] at hq
        exact .inr ⟨f, List.mem_cons_self .., hplace, hq.symm⟩
      · rw [get?_set_of_ne _ _ hplace] at hq
        exact (hnew q node hq).imp_right fun ⟨g, hg, h⟩ ↦ ⟨g, List.mem_cons_of_mem _ hg, h⟩

end Tree

namespace Machine

variable {m m' : Machine} {p : Path} {q : Place} {node : Node} {r : Except FileError Unit}

/-- A machine with more entries, the same otherwise. -/
structure Grows (m m' : Machine) : Prop where
  tree : m.tree.Grows m'.tree
  cwd : m'.cwd = m.cwd
  env : m'.env = m.env

theorem Grows.refl (m : Machine) : m.Grows m := ⟨.refl _, rfl, rfl⟩

theorem Grows.trans {m'' : Machine} (h : m.Grows m') (h' : m'.Grows m'') : m.Grows m'' :=
  ⟨h.tree.trans h'.tree, h'.cwd.trans h.cwd, h'.env.trans h.env⟩

theorem Grows.of_eq (hcwd : m'.cwd = m.cwd) (henv : m'.env = m.env) (htree : m'.tree = m.tree) :
    m.Grows m' :=
  ⟨htree ▸ .refl _, hcwd, henv⟩

/-- **What a path leads to it leads to with more entries as well.** -/
theorem entryAt?_of_grows (hm : m.WellFormed) (hm' : m'.WellFormed) (hgrows : m.Grows m')
    (h : m.entryAt? p = .ok (q, node)) : m'.entryAt? p = .ok (q, node) := by
  obtain ⟨hne, hlen, ⟨c, hc, hleads⟩, hnode⟩ := (entryAt?_eq_ok_iff hm.tree).1 h
  refine (entryAt?_eq_ok_iff hm'.tree).2 ⟨hne, hlen, ⟨c, hc, ?_⟩, hgrows.tree hnode⟩
  rw [hgrows.cwd]
  exact hleads.mono hgrows.tree

theorem isFile_of_grows (hm : m.WellFormed) (hm' : m'.WellFormed) (hgrows : m.Grows m')
    (h : m.isFile p = true) : m'.isFile p = true := by
  obtain ⟨q, bytes, executable, hentry⟩ := isFile_eq_true_iff.1 h
  exact isFile_eq_true_iff.2 ⟨q, bytes, executable, entryAt?_of_grows hm hm' hgrows hentry⟩

theorem exists_of_grows (hm : m.WellFormed) (hm' : m'.WellFormed) (hgrows : m.Grows m')
    (h : m.exists p = true) : m'.exists p = true := by
  obtain ⟨q, node, hentry⟩ := exists_eq_true_iff.1 h
  exact exists_eq_true_iff.2 ⟨q, node, entryAt?_of_grows hm hm' hgrows hentry⟩

/-- A path that leads somewhere with fewer entries leads there only. -/
theorem entryAt?_of_exists (hm : m.WellFormed) (hm' : m'.WellFormed) (hgrows : m.Grows m')
    (h : m.exists p = true) (h' : m'.entryAt? p = .ok (q, node)) :
    m.entryAt? p = .ok (q, node) := by
  obtain ⟨q', node', hentry⟩ := exists_eq_true_iff.1 h
  rw [entryAt?_of_grows hm hm' hgrows hentry] at h'
  rw [hentry, h']

/-- Machines that differ in their files alone, and in how many changes were asked for. -/
structure SameSystem (m m' : Machine) : Prop where
  cwd : m'.cwd = m.cwd
  env : m'.env = m.env
  refuse : m'.refuse = m.refuse

theorem SameSystem.refl (m : Machine) : m.SameSystem m := ⟨rfl, rfl, rfl⟩

theorem SameSystem.trans {m'' : Machine} (h : m.SameSystem m') (h' : m'.SameSystem m'') :
    m.SameSystem m'' :=
  ⟨h'.cwd.trans h.cwd, h'.env.trans h.env, h'.refuse.trans h.refuse⟩

/-- What a request for a change does: it is refused, or the tree becomes the next one. -/
theorem attempt_spec {c : Change} {next : Tree} (h : m.attempt c next = (r, m')) :
    m.SameSystem m' ∧
      (((∃ e, r = .error e) ∧ m'.tree = m.tree) ∨ (r = .ok () ∧ m'.tree = next)) := by
  unfold attempt at h
  split at h <;> simp only [Prod.mk.injEq] at h <;> obtain ⟨rfl, rfl⟩ := h
  · exact ⟨⟨rfl, rfl, rfl⟩, .inl ⟨⟨_, rfl⟩, rfl⟩⟩
  · exact ⟨⟨rfl, rfl, rfl⟩, .inr ⟨rfl, rfl⟩⟩

theorem attemptAt_spec {found : Except FileError (Change × Tree)}
    (h : m.attemptAt found = (r, m')) :
    m.SameSystem m' ∧
      (((∃ e, r = .error e) ∧ m'.tree = m.tree) ∨
        (r = .ok () ∧ ∃ c next, found = .ok (c, next) ∧ m'.tree = next)) := by
  unfold attemptAt at h
  split at h
  · obtain ⟨hsame, hcases⟩ := attempt_spec h
    exact ⟨hsame, hcases.imp_right fun ⟨hr, hnext⟩ ↦ ⟨hr, _, _, rfl, hnext⟩⟩
  · simp only [Prod.mk.injEq] at h
    obtain ⟨rfl, rfl⟩ := h
    exact ⟨.refl m, .inl ⟨⟨_, rfl⟩, rfl⟩⟩

/-- A path that the system walks to a vacant name. -/
structure VacantAt (m : Machine) (p : Path) (d : Place) (name : String) : Prop where
  ne_empty : p.text ≠ ""
  length_le : byteLength p.text.toList ≤ maxPath
  vacant : m.tree.Vacant maxLinks (origin m.cwd p.text) (steps p.text) d name

theorem vacantAt_of_locate (hm : m.WellFormed) {follow : Bool} {d : Place} {name : String}
    (h : m.locate follow p = .ok (.vacant d name)) : m.VacantAt p d name := by
  obtain ⟨hne, hnul, hlen, hwalk⟩ := locate_eq_ok_iff.1 h
  exact ⟨hne, hlen, Tree.vacant_of_walk hm.tree (isPart_of_mem_steps hnul) hwalk⟩

/-- A new entry at a vacant name is what the path leads to. -/
theorem VacantAt.entryAt? {d : Place} {name : String} (h : m.VacantAt p d name)
    (hm' : m'.WellFormed) (hcwd : m'.cwd = m.cwd) (hgrows : m.tree.Grows m'.tree)
    (hnode : m'.tree.get? (d ++ [name]) = some node) (hlink : ∀ target, node ≠ .link target) :
    m'.entryAt? p = .ok (d ++ [name], node) := by
  obtain ⟨c, hc, hleads⟩ := h.vacant.leads hgrows hnode hlink
  refine (entryAt?_eq_ok_iff hm'.tree).2 ⟨h.ne_empty, h.length_le, ⟨c, hc, ?_⟩, hnode⟩
  rw [hcwd]
  exact hleads

/-- What putting an entry at a vacant name leaves. -/
theorem VacantAt.put {d : Place} {name : String} (h : m.VacantAt p d name) (hm : m.WellFormed)
    (hsame : m.SameSystem m') (hlink : ∀ target, node ≠ .link target)
    (htree : m'.tree = m.tree.set (d ++ [name]) node) :
    m.Grows m' ∧ m'.WellFormed ∧ m'.entryAt? p = .ok (d ++ [name], node) := by
  have hgrows : m.tree.Grows m'.tree := htree ▸ Tree.grows_set h.vacant.fresh node
  have hm' : m'.WellFormed := by
    refine ⟨?_, ?_⟩
    · rw [htree]
      exact Tree.wellFormed_set hm.tree h.vacant.dir h.vacant.isName h.vacant.fresh hlink
    · rw [hsame.cwd]
      exact hgrows hm.cwd
  have hnode : m'.tree.get? (d ++ [name]) = some node := by
    rw [htree, Tree.get?_set_self _ _ (by simp)]
  exact ⟨⟨hgrows, hsame.cwd, hsame.env⟩, hm', h.entryAt? hm' hsame.cwd hgrows hnode hlink⟩

/-- **Creating a directory** fails, or puts a directory at a vacant name. -/
theorem createDir_spec (h : m.createDir p = (r, m')) :
    m.SameSystem m' ∧
      (((∃ e, r = .error e) ∧ m'.tree = m.tree) ∨
        (r = .ok () ∧ ∃ d name, m.locate false (unslashed p) = .ok (.vacant d name) ∧
          m'.tree = m.tree.set (d ++ [name]) .dir)) := by
  unfold createDir at h
  obtain ⟨hsame, hcases⟩ := attemptAt_spec h
  refine ⟨hsame, hcases.imp_right fun ⟨hr, c, next, hfound, hnext⟩ ↦ ⟨hr, ?_⟩⟩
  cases hspot : m.locate false (unslashed p) with
  | error e => simp [hspot, bind, Except.bind] at hfound
  | ok spot =>
    cases spot with
    | found place node => simp [hspot, bind, Except.bind] at hfound
    | vacant d name =>
      simp only [hspot, bind, Except.bind, Except.ok.injEq, Prod.mk.injEq] at hfound
      exact ⟨d, name, rfl, by rw [hnext, ← hfound.2]⟩

/-- Machines that differ by directories on the way along some paths: what was there is there still,
and what is new is a directory that one of the paths leads to, slashes at its end left out. -/
structure AddsDirs (m : Machine) (paths : List Path) (m' : Machine) : Prop where
  wellFormed : m'.WellFormed
  grows : m.Grows m'
  new : ∀ q node, m'.tree.get? q = some node → m.tree.get? q = some node ∨
    (node = .dir ∧ ∃ p ∈ paths, m'.entryAt? (unslashed p) = .ok (q, .dir))

theorem AddsDirs.of_get? (hm : m.WellFormed) (hsame : m.SameSystem m')
    (h : ∀ q, m'.tree.get? q = m.tree.get? q) (paths : List Path) : m.AddsDirs paths m' := by
  refine ⟨⟨hm.tree.congr h, ?_⟩, ⟨fun q node hq ↦ by rwa [h], hsame.cwd, hsame.env⟩,
    fun q node hq ↦ .inl (by rwa [← h])⟩
  rw [hsame.cwd, h]
  exact hm.cwd

theorem AddsDirs.refl (hm : m.WellFormed) (paths : List Path) : m.AddsDirs paths m :=
  .of_get? hm (.refl m) (fun _ ↦ rfl) paths

theorem AddsDirs.trans {m'' : Machine} {paths : List Path} (h : m.AddsDirs paths m')
    (h' : m'.AddsDirs paths m'') : m.AddsDirs paths m'' := by
  refine ⟨h'.wellFormed, h.grows.trans h'.grows, fun q node hq ↦ ?_⟩
  rcases h'.new q node hq with hq | hnew
  · -- a directory that was added first is still led to
    refine (h.new q node hq).imp_right fun ⟨hdir, p, hp, hentry⟩ ↦ ⟨hdir, p, hp, ?_⟩
    exact entryAt?_of_grows h.wellFormed h'.wellFormed h'.grows hentry
  · exact .inr hnew

theorem AddsDirs.mono {paths paths' : List Path} (h : m.AddsDirs paths m')
    (hsub : paths ⊆ paths') : m.AddsDirs paths' m' :=
  ⟨h.wellFormed, h.grows, fun q node hq ↦ (h.new q node hq).imp_right
    fun ⟨hdir, p, hp, hentry⟩ ↦ ⟨hdir, p, hsub hp, hentry⟩⟩

/-- Creating a directory adds that directory at most. -/
theorem addsDirs_createDir (hm : m.WellFormed) (h : m.createDir p = (r, m')) :
    m.AddsDirs [p] m' := by
  obtain ⟨hsame, ⟨-, htree⟩ | ⟨-, d, name, hvacant, htree⟩⟩ := createDir_spec h
  · exact .of_get? hm hsame (fun q ↦ by rw [htree]) _
  · obtain ⟨hgrows, hm', hentry⟩ := (vacantAt_of_locate hm hvacant).put hm hsame (by simp) htree
    refine ⟨hm', hgrows, fun q node hq ↦ ?_⟩
    by_cases hplace : q = d ++ [name]
    · subst hplace
      rw [htree, Tree.get?_set_self _ _ (by simp), Option.some.injEq] at hq
      exact .inr ⟨hq.symm, p, by simp, hentry⟩
    · rw [htree, Tree.get?_set_of_ne _ _ hplace] at hq
      exact .inl hq

theorem addsDirs_createDirsWithin {steps : Nat} (hm : m.WellFormed)
    (h : createDirsWithin steps m p = (r, m')) : m.AddsDirs (p.ancestorsWithin steps) m' := by
  induction steps generalizing m m' p r with
  | zero =>
    unfold createDirsWithin at h
    split at h
    · obtain ⟨-, rfl⟩ := Prod.mk.inj h
      exact .refl hm _
    · split at h <;>
      · obtain ⟨-, rfl⟩ := Prod.mk.inj h
        exact addsDirs_createDir hm ‹_›
  | succ steps ih =>
    have hself : [p] ⊆ p.ancestorsWithin (steps + 1) := by
      unfold Path.ancestorsWithin
      split <;> simp
    unfold createDirsWithin at h
    split at h
    · obtain ⟨-, rfl⟩ := Prod.mk.inj h
      exact .refl hm _
    split at h
    · obtain ⟨-, rfl⟩ := Prod.mk.inj h
      exact (addsDirs_createDir hm ‹_›).mono hself
    · rename_i first hfirst
      have hadds := (addsDirs_createDir hm hfirst).mono hself
      split at h
      · rename_i above hsteps habove
        cases hsteps
        have habove' : above.ancestorsWithin steps ⊆ p.ancestorsWithin (steps + 1) := by
          simp [Path.ancestorsWithin, habove]
        split at h
        · rename_i e second hsecond
          obtain ⟨-, rfl⟩ := Prod.mk.inj h
          exact hadds.trans ((ih hadds.wellFormed hsecond).mono habove')
        · rename_i second hsecond
          have hadds' := hadds.trans ((ih hadds.wellFormed hsecond).mono habove')
          split at h <;>
          · rename_i hlast
            obtain ⟨-, rfl⟩ := Prod.mk.inj h
            exact hadds'.trans ((addsDirs_createDir hadds'.wellFormed hlast).mono hself)
      · obtain ⟨-, rfl⟩ := Prod.mk.inj h
        exact hadds
    · obtain ⟨-, rfl⟩ := Prod.mk.inj h
      exact (addsDirs_createDir hm ‹_›).mono hself

/-- **Creating a directory and those above it** adds directories on the way to it, and nothing else
changes, also if it fails. -/
theorem addsDirs_createDirs (hm : m.WellFormed) (h : m.createDirs p = (r, m')) :
    m.AddsDirs p.ancestors m' :=
  addsDirs_createDirsWithin hm h

/-- **Writing to a path that leads nowhere** fails, or puts the file at a vacant name. -/
theorem write_spec (hm : m.WellFormed) {bytes : Bytes} (hslash : endsInSlash p = false)
    (hnone : m.exists p = false) (h : m.write p bytes = (r, m')) :
    m.SameSystem m' ∧
      (((∃ e, r = .error e) ∧ m'.tree = m.tree) ∨
        (r = .ok () ∧ ∃ d name, m.locate true p = .ok (.vacant d name) ∧
          m'.tree = m.tree.set (d ++ [name]) (.file bytes false))) := by
  unfold write at h
  obtain ⟨hsame, hcases⟩ := attemptAt_spec h
  refine ⟨hsame, hcases.imp_right fun ⟨hr, c, next, hfound, hnext⟩ ↦ ⟨hr, ?_⟩⟩
  unfold writable at hfound
  rw [unslashed_eq_self hslash] at hfound
  cases hspot : m.locate true p with
  | error e => simp [hspot, bind, Except.bind, Except.map] at hfound
  | ok spot =>
    cases spot with
    | found place node =>
      have : m.exists p = true := exists_eq_true_iff.2 ⟨place, node, by simp [entryAt?, hspot]⟩
      rw [hnone] at this
      simp at this
    | vacant d name =>
      simp only [hspot, bind, Except.bind, Except.map, hslash, Bool.false_eq_true, if_false,
        Except.ok.injEq, Prod.mk.injEq] at hfound
      refine ⟨d, name, rfl, ?_⟩
      rw [hnext, ← hfound.2, Tree.fill, (vacantAt_of_locate hm hspot).vacant.fresh]

end Machine

end LuaBundler.Files
