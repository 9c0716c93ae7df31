import LuaBundler.Files.Machine

/-!
# What reading yields

Whatever a read yields is the contents of a file of the tree (`mem_contents_of_read`). Traversals
that read file after file are bounded by it.
-/

namespace LuaBundler.Files

open LuaBundler.Text

/-- The contents of the files of a tree, and of its devices, which are read as empty. -/
def Tree.contents (t : Tree) : List Bytes :=
  t.entries.filterMap fun e =>
    match e.2 with
    | .file bytes _ => some bytes
    | .device _ => some []
    | _ => none

/-- The number of bytes that the files of a tree hold. -/
def Tree.byteCount (t : Tree) : Nat :=
  t.contents.foldr (fun bytes n => bytes.length + n) 0

theorem Tree.get?_of_walkWith {t : Tree} {follow : Bool}
    {pass : Place → List String → Except FileError Spot} {here : Place} {todo : List String}
    {place : Place} {node : Node}
    (hpass : ∀ start names, pass start names = .ok (.found place node) →
      t.get? place = some node)
    (h : t.walkWith follow pass here todo = .ok (.found place node)) :
    t.get? place = some node := by
  fun_induction Tree.walkWith t follow pass here todo
  case case10 => exact hpass _ _ h
  all_goals simp_all

/-- A walk that finds an entry finds the node at its place. -/
theorem Tree.get?_of_walk {t : Tree} {follow : Bool} {links : Nat} {here : Place}
    {todo : List String} {place : Place} {node : Node}
    (h : t.walk follow links here todo = .ok (.found place node)) : t.get? place = some node := by
  induction links generalizing here todo with
  | zero => exact get?_of_walkWith (by simp) h
  | succ links ih => exact get?_of_walkWith (fun _ _ => ih) h

/-- A place that holds a file holds contents of the tree. -/
theorem Tree.mem_contents_of_get? {t : Tree} {place : Place} {bytes : Bytes} {executable : Bool}
    (h : t.get? place = some (.file bytes executable)) : bytes ∈ t.contents := by
  unfold Tree.get? at h
  split at h
  · simp at h
  · simp only [Option.map_eq_some_iff] at h
    obtain ⟨e, he, hnode⟩ := h
    simp only [Tree.contents, List.mem_filterMap]
    exact ⟨e, List.mem_of_find?_eq_some he, by simp [hnode]⟩

/-- A place that holds a device is read as empty contents of the tree. -/
theorem Tree.nil_mem_contents_of_get? {t : Tree} {place : Place} {kind : Device}
    (h : t.get? place = some (.device kind)) : [] ∈ t.contents := by
  unfold Tree.get? at h
  split at h
  · simp at h
  · simp only [Option.map_eq_some_iff] at h
    obtain ⟨e, he, hnode⟩ := h
    simp only [Tree.contents, List.mem_filterMap]
    exact ⟨e, List.mem_of_find?_eq_some he, by simp [hnode]⟩

namespace Machine

/-- A path whose text the system takes is located where the walk along its names ends. -/
theorem locate_eq_ok_iff {m : Machine} {follow : Bool} {p : Path} {spot : Spot} :
    m.locate follow p = .ok spot ↔
      p.text ≠ "" ∧ '\x00' ∉ p.text.toList ∧ byteLength p.text.toList ≤ maxPath ∧
        m.tree.walk follow maxLinks (origin m.cwd p.text) (steps p.text) = .ok spot := by
  unfold locate Tree.locate
  split
  · simp [*]
  split
  · simp [*]
  split
  · simp [Nat.not_le.2 ‹_›]
  · simp [*, Nat.not_lt.1 ‹_›]

theorem entryAt?_eq_ok_iff_locate {m : Machine} {p : Path} {place : Place} {node : Node} :
    m.entryAt? p = .ok (place, node) ↔ m.locate true p = .ok (.found place node) := by
  unfold entryAt?
  split <;> simp [*]

theorem get?_of_entryAt? {m : Machine} {p : Path} {place : Place} {node : Node}
    (h : m.entryAt? p = .ok (place, node)) : m.tree.get? place = some node := by
  obtain ⟨-, -, -, hwalk⟩ := locate_eq_ok_iff.1 (entryAt?_eq_ok_iff_locate.1 h)
  exact Tree.get?_of_walk hwalk

/-- What a read yields is the contents of a file of the tree. -/
theorem mem_contents_of_read {m : Machine} {p : Path} {bytes : Bytes}
    (h : m.read p = .ok bytes) : bytes ∈ m.tree.contents := by
  unfold read at h
  split at h
  · rename_i he
    simp only [Except.ok.injEq] at h
    subst h
    exact Tree.mem_contents_of_get? (get?_of_entryAt? he)
  · rename_i he
    simp only [Except.ok.injEq] at h
    subst h
    exact Tree.nil_mem_contents_of_get? (get?_of_entryAt? he)
  · simp at h
  · simp at h

end Machine

end LuaBundler.Files
