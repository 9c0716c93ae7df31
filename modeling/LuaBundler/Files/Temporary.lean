import LuaBundler.Files.Machine

/-!
# Temporary files

A temporary file is created under a name that its directory does not have (`freshName_not_mem`),
filled, and then either renamed to where it belongs or discarded. Creating and filling it are asked
of the system; discarding it is always granted.
-/

namespace LuaBundler.Files

/-- The length of the longest of some names. -/
def longest (names : List String) : Nat :=
  names.foldr (fun name n => max name.length n) 0

/-- A name that is longer than each of the names. -/
def freshName (names : List String) : String :=
  ".tmp" ++ String.ofList (List.replicate (longest names) '0')

theorem length_le_longest {names : List String} {name : String} (h : name ∈ names) :
    name.length ≤ longest names := by
  induction names with
  | nil => simp at h
  | cons other names ih =>
    rcases List.mem_cons.1 h with rfl | h
    · exact Nat.le_max_left ..
    · exact Nat.le_trans (ih h) (Nat.le_max_right ..)

theorem longest_lt_length_freshName (names : List String) :
    longest names < (freshName names).length := by
  have h : ".tmp".length = 4 := by decide
  simp [freshName, String.length_append, h]

/-- A fresh name is none of the names. -/
theorem freshName_not_mem (names : List String) : freshName names ∉ names := by
  intro h
  have h1 := length_le_longest h
  have h2 := longest_lt_length_freshName names
  omega

namespace Machine

/-- The place of a directory; the empty path stands for the working directory. -/
def dirPlace (m : Machine) (dir : Path) : Except FileError Place :=
  match m.entryAt? ((Place.path m.cwd).join dir) with
  | .ok (place, .dir) => .ok place
  | .ok _ => .error .notDirectory
  | .error e => .error e

/-- Creates an empty file under a fresh name in a directory. -/
def createTemporary (m : Machine) (dir : Path) : Answer Place :=
  match m.dirPlace dir with
  | .error e => (.error e, m)
  | .ok place =>
    let temp := place ++ [freshName (m.tree.names place)]
    match m.attempt (.createFile temp) (m.tree.set temp (.file [] false)) with
    | (.ok (), m) => (.ok temp, m)
    | (.error e, m) => (.error e, m)

/-- Fills a file with bytes. -/
def fill (m : Machine) (place : Place) (bytes : Text.Bytes) : Answer Unit :=
  match m.attempt (.writeFile place) (m.tree.set place (.file bytes false)) with
  | (.error e, m) => (.error e, m)
  | (.ok (), m) => m.attempt (.flushFile place) m.tree

/-- Lets go of a temporary file. -/
def discard (m : Machine) (place : Place) : Machine :=
  { m with tree := m.tree.erase place }

end Machine

end LuaBundler.Files
