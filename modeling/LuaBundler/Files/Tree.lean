import LuaBundler.Path
import LuaBundler.Text.Utf8

/-!
# File trees

A file tree maps places to nodes. A place is the list of names from the root down; a node is a
directory, a file with its bytes, a symbolic link with its target, or a device, which keeps nothing
of what is written to it. The root is always a directory.

A tree is kept as a list of entries. Its view is `get?`, and the lemmas say what `set` and `erase`
do to it.
-/

namespace LuaBundler.Files

open LuaBundler.Text

/-- The names from the root down to an entry. -/
abbrev Place := List String

/-- What a device does: reading one yields nothing or zeros without end, writing to one is ignored,
or fails for want of space. -/
inductive Device where
  | null
  | zero
  | full
  deriving Repr, DecidableEq

/-- What an entry of a tree is. -/
inductive Node where
  | dir
  | file (bytes : Bytes) (executable : Bool)
  | link (target : String)
  | device (kind : Device)
  deriving Repr, DecidableEq

namespace Node

/-- Whether a node is a directory. -/
def isDir : Node → Bool
  | dir => true
  | _ => false

/-- Whether a node is a file. -/
def isFile : Node → Bool
  | file .. => true
  | _ => false

end Node

/-- A file tree. -/
structure Tree where
  entries : List (Place × Node)
  deriving Repr, DecidableEq

namespace Tree

/-- The tree of the root alone. -/
def empty : Tree := ⟨[]⟩

/-- The node at a place. -/
def get? (t : Tree) (p : Place) : Option Node :=
  if p = [] then some .dir else (t.entries.find? fun e => e.1 == p).map (·.2)

/-- The tree without the entry at a place. -/
def erase (t : Tree) (p : Place) : Tree :=
  ⟨t.entries.filter fun e => e.1 != p⟩

/-- The tree with a node put at a place. -/
def set (t : Tree) (p : Place) (n : Node) : Tree :=
  ⟨(t.erase p).entries ++ [(p, n)]⟩

/-- The tree with the contents of a file replaced; a device stays as it is. -/
def fill (t : Tree) (p : Place) (bytes : Bytes) (executable : Bool) : Tree :=
  match t.get? p with
  | some (.device _) => t
  | _ => t.set p (.file bytes executable)

/-- The names in a directory. -/
def names (t : Tree) (dir : Place) : List String :=
  t.entries.filterMap fun e =>
    if e.1 ≠ [] ∧ e.1.dropLast = dir then e.1.getLast? else none

/-- The tree without a place and all below it. -/
def prune (t : Tree) (p : Place) : Tree :=
  ⟨t.entries.filter fun e => !p.isPrefixOf e.1⟩

/-- The entries below a place, each with its place relative to it. -/
def below (t : Tree) (p : Place) : List (Place × Node) :=
  t.entries.filterMap fun e =>
    if p.isPrefixOf e.1 ∧ e.1 ≠ p then some (e.1.drop p.length, e.2) else none

/-! ### The view of each operation -/

@[simp] theorem get?_nil (t : Tree) : t.get? [] = some .dir := by
  simp [get?]

theorem get?_erase_self (t : Tree) {p : Place} (h : p ≠ []) : (t.erase p).get? p = none := by
  simp [get?, erase, h, List.find?_filter]

theorem get?_erase_of_ne (t : Tree) {p q : Place} (h : q ≠ p) :
    (t.erase p).get? q = t.get? q := by
  unfold get? erase
  split
  · rfl
  · rw [List.find?_filter]
    congr 2
    funext e
    by_cases he : e.1 = q
    · simp [he, h]
    · simp [he]

theorem get?_set_self (t : Tree) {p : Place} (n : Node) (h : p ≠ []) :
    (t.set p n).get? p = some n := by
  have hnone : ((t.erase p).entries.find? fun e => e.1 == p) = none := by simp [erase]
  simp [get?, set, h, List.find?_append, hnone]

theorem get?_set_of_ne (t : Tree) {p q : Place} (n : Node) (h : q ≠ p) :
    (t.set p n).get? q = t.get? q := by
  rw [← get?_erase_of_ne t h]
  unfold get? set
  split
  · rfl
  · have hp : ¬p = q := fun hpq => h hpq.symm
    simp [List.find?_append, hp]

end Tree

end LuaBundler.Files
