import LuaBundler.Proofs.Files.Leads
import Mathlib.Data.List.Induction

/-!
# Well-formed trees

The trees of a file system are well formed: names are names, and what holds an entry is a directory.
In such a tree a place without a link is led to by its own names (`leads_self`), and nothing else is
needed of a path text to lead somewhere than that it is short enough (`entryAt?_eq_ok_iff`): that it
holds no NUL character follows from the names it passes.
-/

namespace LuaBundler.Files

open Text

/-- A name that a file system takes. -/
structure IsName (name : String) : Prop where
  ne_empty : name ≠ ""
  ne_dot : name ≠ "."
  ne_dots : name ≠ ".."
  no_slash : '/' ∉ name.toList
  no_nul : '\x00' ∉ name.toList
  length_le : byteLength name.toList ≤ maxName

instance (name : String) : Decidable (IsName name) :=
  decidable_of_iff (name ≠ "" ∧ name ≠ "." ∧ name ≠ ".." ∧ '/' ∉ name.toList ∧
      '\x00' ∉ name.toList ∧ byteLength name.toList ≤ maxName)
    ⟨fun ⟨h1, h2, h3, h4, h5, h6⟩ ↦ ⟨h1, h2, h3, h4, h5, h6⟩,
      fun ⟨h1, h2, h3, h4, h5, h6⟩ ↦ ⟨h1, h2, h3, h4, h5, h6⟩⟩

theorem IsName.goesDown {name : String} (h : IsName name) : Tree.GoesDown name :=
  ⟨h.ne_dot, h.ne_dots, h.length_le⟩

namespace Tree

/-- A tree as file systems keep them. -/
structure WellFormed (t : Tree) : Prop where
  /-- Whatever has an entry has a name. -/
  isName : ∀ (p : Place) (name : String), (t.get? (p ++ [name])).isSome → IsName name
  /-- Whatever holds an entry is a directory. -/
  parent : ∀ (p : Place) (name : String), (t.get? (p ++ [name])).isSome → t.get? p = some .dir
  /-- No link has a NUL character in its target. -/
  target : ∀ (p : Place) (target : String), t.get? p = some (.link target) →
    '\x00' ∉ target.toList

/-- The target of a link. -/
def target? : Node → Option String
  | .link target => some target
  | _ => none

/-- What stands at a place other than the root is one of the entries. -/
theorem mem_entries_of_get? {t : Tree} {p : Place} {node : Node} (hne : p ≠ [])
    (h : t.get? p = some node) : (p, node) ∈ t.entries := by
  unfold get? at h
  rw [if_neg hne, Option.map_eq_some_iff] at h
  obtain ⟨⟨q, _⟩, he, rfl⟩ := h
  obtain rfl : q = p := by simpa using List.find?_some he
  exact List.mem_of_find?_eq_some he

/-- A tree is well formed if each of its entries has a name and stands in a directory, and no target
of a link has a NUL character. -/
theorem wellFormed_of_entries {t : Tree}
    (h : ∀ e ∈ t.entries, (∀ name ∈ e.1.getLast?, IsName name ∧ t.get? e.1.dropLast = some .dir) ∧
      ∀ target ∈ target? e.2, '\x00' ∉ target.toList) : t.WellFormed := by
  have key : ∀ (p : Place) (node : Node), p ≠ [] → t.get? p = some node →
      (∀ name ∈ p.getLast?, IsName name ∧ t.get? p.dropLast = some .dir) ∧
        ∀ target ∈ target? node, '\x00' ∉ target.toList :=
    fun p node hne hnode ↦ h (p, node) (mem_entries_of_get? hne hnode)
  have hname : ∀ (p : Place) (name : String), (t.get? (p ++ [name])).isSome →
      IsName name ∧ t.get? p = some .dir := by
    intro p name hsome
    obtain ⟨node, hnode⟩ := Option.isSome_iff_exists.1 hsome
    simpa using (key (p ++ [name]) node (by simp) hnode).1 name (by simp)
  refine ⟨fun p name hsome ↦ (hname p name hsome).1, fun p name hsome ↦ (hname p name hsome).2,
    fun p target hnode ↦ ?_⟩
  have hne : p ≠ [] := by
    rintro rfl
    simp at hnode
  exact (key p _ hne hnode).2 target rfl

variable {t : Tree} {p q : Place} {xs : List String} {c : Nat} {node : Node}

/-- A place that holds an entry other than a link. -/
def IsLive (t : Tree) (p : Place) : Prop :=
  ∃ node, t.get? p = some node ∧ ∀ target, node ≠ .link target

theorem isLive_of_dir (h : t.get? p = some .dir) : t.IsLive p :=
  ⟨.dir, h, by simp⟩

theorem isLive_root (t : Tree) : t.IsLive [] :=
  isLive_of_dir (get?_nil t)

namespace WellFormed

/-- The places above an entry are directories. -/
theorem dir_of_append (ht : t.WellFormed) (hne : xs ≠ []) (h : (t.get? (p ++ xs)).isSome) :
    t.get? p = some .dir := by
  induction xs using List.reverseRecOn with
  | nil => exact absurd rfl hne
  | append_singleton xs x ih =>
    rw [← List.append_assoc] at h
    have hdir := ht.parent _ _ h
    cases xs with
    | nil => simpa using hdir
    | cons y ys => exact ih (by simp) (by simp [hdir])

/-- Nothing stands below what is no directory. -/
theorem get?_append_eq_none (ht : t.WellFormed) (hne : xs ≠ []) (h : t.get? p ≠ some .dir) :
    t.get? (p ++ xs) = none := by
  by_contra hsome
  exact h (ht.dir_of_append hne (Option.isSome_iff_ne_none.2 hsome))

/-- The names of an entry's place are names. -/
theorem isName_of_mem (ht : t.WellFormed) (h : (t.get? p).isSome) : ∀ x ∈ p, IsName x := by
  intro x hx
  obtain ⟨as, bs, rfl⟩ := List.append_of_mem hx
  have hsome : (t.get? (as ++ [x])).isSome := by
    cases bs with
    | nil => exact h
    | cons b bs =>
      rw [List.append_cons] at h
      exact Option.isSome_of_eq_some (ht.dir_of_append (List.cons_ne_nil b bs) h)
  exact ht.isName as x hsome

theorem bare_eq_self (ht : t.WellFormed) (h : (t.get? p).isSome) : bare p = p := by
  refine List.filter_eq_self.2 fun x hx ↦ ?_
  simpa using (ht.isName_of_mem h x hx).ne_dot

theorem dropLast (ht : t.WellFormed) (h : t.get? p = some .dir) :
    t.get? p.dropLast = some .dir := by
  induction p using List.reverseRecOn with
  | nil => exact h
  | append_singleton p x _ => simpa using ht.parent p x (by simp [h])

/-- Below a directory the names of a place without a link lead there. -/
theorem leads_below (ht : t.WellFormed) (h : t.IsLive (p ++ xs)) : t.Leads p xs 0 (p ++ xs) := by
  induction xs generalizing p with
  | nil => simpa using Leads.done (t := t) p
  | cons x xs ih =>
    rw [List.append_cons] at h
    obtain ⟨node, hnode, hlink⟩ := h
    have hx : t.IsLive (p ++ [x]) := by
      cases xs with
      | nil => exact ⟨node, by simpa using hnode, hlink⟩
      | cons y ys =>
        exact isLive_of_dir
          (ht.dir_of_append (List.cons_ne_nil y ys) (Option.isSome_of_eq_some hnode))
    obtain ⟨xnode, hxnode, hxlink⟩ := hx
    have hsome : (t.get? (p ++ [x])).isSome := by simp [hxnode]
    have hrest := ih ⟨node, hnode, hlink⟩
    rw [← List.append_cons] at hrest
    exact .down (ht.parent p x hsome) (ht.isName p x hsome).goesDown hxnode hxlink hrest

/-- The names of a place without a link lead there from the root. -/
theorem leads_self (ht : t.WellFormed) (h : t.IsLive p) : t.Leads [] p 0 p :=
  ht.leads_below (p := []) h

/-- Names lead to a place without a link. -/
theorem isLive_of_leads (ht : t.WellFormed) (hp : t.IsLive p) (h : t.Leads p xs c q) :
    t.IsLive q := by
  induction h with
  | done p => exact hp
  | dot _ _ ih => exact ih hp
  | up hdir _ ih => exact ih (isLive_of_dir (ht.dropLast hdir))
  | down _ _ hnode hlink _ ih => exact ih ⟨_, hnode, hlink⟩
  | link hdir _ _ _ ih =>
    refine ih ?_
    unfold origin
    split
    · exact isLive_root _
    · exact isLive_of_dir hdir

/-- Names that lead somewhere hold no NUL character. -/
theorem no_nul_of_leads (ht : t.WellFormed) (h : t.Leads p xs c q) :
    ∀ x ∈ xs, '\x00' ∉ x.toList := by
  induction h with
  | done p => simp
  | dot _ _ ih => simpa using ih
  | up _ _ ih => simpa using ih
  | down _ _ hnode _ _ ih =>
    have := (ht.isName _ _ (Option.isSome_of_eq_some hnode)).no_nul
    simpa [this] using ih
  | link _ _ hnode _ ih =>
    have := (ht.isName _ _ (Option.isSome_of_eq_some hnode)).no_nul
    intro x hx
    rcases List.mem_cons.1 hx with rfl | hx
    · exact this
    · exact ih x (List.mem_append_right _ hx)

end WellFormed

end Tree

/-! ### Machines -/

/-- The bytes that reading an entry gives. -/
def Node.contents? : Node → Option Bytes
  | .file bytes _ => some bytes
  | .device _ => some []
  | _ => none

namespace Machine

/-- A machine whose tree is well formed and whose working directory is there. -/
structure WellFormed (m : Machine) : Prop where
  tree : m.tree.WellFormed
  cwd : m.tree.get? m.cwd = some .dir

variable {m : Machine} {p : Path} {q : Place} {node : Node}

theorem WellFormed.origin (hm : m.WellFormed) (text : String) :
    m.tree.get? (origin m.cwd text) = some .dir := by
  unfold Files.origin
  split
  · exact Tree.get?_nil _
  · exact hm.cwd

/-- A character of a path text other than a slash stands in a name. -/
theorem mem_namesOf_of_mem {text : String} {c : Char} (h : c ∈ text.toList) (hc : c ≠ '/') :
    ∃ x ∈ namesOf text, c ∈ x.toList := by
  obtain ⟨piece, hpiece, hmem⟩ := (mem_iff_exists_mem_splitOn hc _).1 h
  refine ⟨String.ofList piece, ?_, by simpa using hmem⟩
  simp only [namesOf, pieces, List.mem_filter, List.mem_map, decide_eq_true_eq, Ne]
  refine ⟨⟨piece, hpiece, rfl⟩, ?_⟩
  rw [← String.toList_inj]
  rintro hnil
  simp_all

/-- **What a path leads to**: its text is not too long, and its names lead there by no more links
than a walk may pass. -/
theorem entryAt?_eq_ok_iff (hm : m.tree.WellFormed) :
    m.entryAt? p = .ok (q, node) ↔
      p.text ≠ "" ∧ byteLength p.text.toList ≤ maxPath ∧
      (∃ c ≤ maxLinks, m.tree.Leads (origin m.cwd p.text) (steps p.text) c q) ∧
      m.tree.get? q = some node := by
  constructor
  · intro h
    obtain ⟨hne, -, hlen, hwalk⟩ := locate_eq_ok_iff.1 (entryAt?_eq_ok_iff_locate.1 h)
    exact ⟨hne, hlen, Tree.leads_of_walk hwalk, get?_of_entryAt? h⟩
  · rintro ⟨hne, hlen, ⟨c, hc, hleads⟩, hnode⟩
    have hnul : '\x00' ∉ p.text.toList := by
      intro h
      obtain ⟨x, hx, hmem⟩ := mem_namesOf_of_mem h (by decide)
      exact hm.no_nul_of_leads hleads x (by rw [steps_eq]; exact List.mem_append_left _ hx) hmem
    have hwalk : m.tree.walk true maxLinks (origin m.cwd p.text) (steps p.text) =
        .ok (.found q node) := by
      have h : m.tree.walk true (c + (maxLinks - c)) (origin m.cwd p.text) (steps p.text ++ []) =
          m.tree.walk true (maxLinks - c) q [] := Tree.walk_append_of_leads hleads (.inl rfl)
      rw [Nat.add_sub_cancel' hc, List.append_nil] at h
      rw [h, Tree.walk_eq_walkWith, Tree.walkWith, hnode]
    exact entryAt?_eq_ok_iff_locate.2 (locate_eq_ok_iff.2 ⟨hne, hnul, hlen, hwalk⟩)

/-- A path whose names lead somewhere is found, or has too long a text or too many links. -/
theorem entryAt?_of_leads (hm : m.tree.WellFormed) {c : Nat} (hne : p.text ≠ "")
    (hlen : byteLength p.text.toList ≤ maxPath)
    (hleads : m.tree.Leads (origin m.cwd p.text) (steps p.text) c q)
    (hnode : m.tree.get? q = some node) :
    m.entryAt? p = .ok (q, node) ∨ (m.entryAt? p = .error .tooManyLinks ∧ maxLinks < c) := by
  by_cases hc : c ≤ maxLinks
  · exact .inl ((entryAt?_eq_ok_iff hm).2 ⟨hne, hlen, ⟨c, hc, hleads⟩, hnode⟩)
  · right
    have hnul : '\x00' ∉ p.text.toList := by
      intro h
      obtain ⟨x, hx, hmem⟩ := mem_namesOf_of_mem h (by decide)
      exact hm.no_nul_of_leads hleads x (by rw [steps_eq]; exact List.mem_append_left _ hx) hmem
    have hwalk : m.tree.walk true maxLinks (origin m.cwd p.text) (steps p.text ++ []) =
        .error .tooManyLinks := Tree.walk_append_of_lt hleads (Nat.not_le.1 hc) (.inl rfl)
    rw [List.append_nil] at hwalk
    refine ⟨?_, Nat.not_le.1 hc⟩
    simp only [entryAt?, locate, Tree.locate, hne, hnul, Nat.not_lt.2 hlen, if_false, hwalk]

theorem isDir_eq_true_iff : m.isDir p = true ↔ ∃ q, m.entryAt? p = .ok (q, .dir) := by
  unfold isDir
  split
  · rename_i node heq
    cases node <;> simp_all [Node.isDir]
  · simp_all

theorem isFile_eq_true_iff :
    m.isFile p = true ↔ ∃ q bytes executable, m.entryAt? p = .ok (q, .file bytes executable) := by
  unfold isFile
  split
  · rename_i node heq
    cases node <;> simp_all [Node.isFile]
  · simp_all

/-- A path that is too long leads to no file. -/
theorem isFile_eq_false_of_lt (hm : m.tree.WellFormed)
    (hlen : maxPath < byteLength p.text.toList) : m.isFile p = false := by
  rw [← Bool.not_eq_true]
  intro hfile
  obtain ⟨q, bytes, executable, hentry⟩ := isFile_eq_true_iff.1 hfile
  exact absurd ((entryAt?_eq_ok_iff hm).1 hentry).2.1 (Nat.not_le.2 hlen)

theorem exists_eq_true_iff : m.exists p = true ↔ ∃ q node, m.entryAt? p = .ok (q, node) := by
  unfold «exists»
  split
  · rename_i e heq
    exact ⟨fun _ ↦ ⟨_, _, heq⟩, fun _ ↦ rfl⟩
  · simp_all

/-- A path is read as the contents of the entry that it leads to. -/
theorem read_eq_ok_iff {bytes : Bytes} :
    m.read p = .ok bytes ↔ ∃ q node, m.entryAt? p = .ok (q, node) ∧ node.contents? = some bytes := by
  unfold read
  split
  · rename_i heq
    simp [heq, Node.contents?]
  · rename_i heq
    simp [heq, Node.contents?, eq_comm]
  · rename_i entry hfile hdevice heq
    obtain ⟨q, node⟩ := entry
    cases node with
    | file bytes executable => exact absurd rfl (hfile q bytes executable)
    | device kind => exact absurd rfl (hdevice q kind)
    | dir => simp [heq, Node.contents?]
    | link target => simp [heq, Node.contents?]
  · rename_i heq
    simp [heq]

theorem read_of_isFile {bytes : Bytes} {executable : Bool}
    (h : m.entryAt? p = .ok (q, .file bytes executable)) : m.read p = .ok bytes :=
  read_eq_ok_iff.2 ⟨q, _, h, rfl⟩

/-- The empty path cannot be read. -/
theorem text_ne_of_read {bytes : Bytes} (hm : m.tree.WellFormed) (h : m.read p = .ok bytes) :
    p.text ≠ "" := by
  obtain ⟨q, node, hentry, -⟩ := read_eq_ok_iff.1 h
  exact ((entryAt?_eq_ok_iff hm).1 hentry).1

end Machine

end LuaBundler.Files
