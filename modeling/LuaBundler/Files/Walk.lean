import LuaBundler.Files.Error
import LuaBundler.Files.Tree

/-!
# Where a path leads

A path is walked name by name from the root or a given directory. `.` stays, `..` goes up, and a
symbolic link is replaced by the names of its target; at the end of a path it is replaced only if
the walk follows links there. A walk passes at most forty links.

It ends at an entry (`Spot.found`), or at a name that a directory does not have yet
(`Spot.vacant`).
-/

namespace LuaBundler.Files

open LuaBundler.Text

/-- Where a walk ends. -/
inductive Spot where
  | found (place : Place) (node : Node)
  | vacant (dir : Place) (name : String)
  deriving Repr, DecidableEq

/-- The names of a path from left to right; a slash at the end asks for a directory, as `.` does. -/
def steps (text : String) : List String :=
  let named := (pieces '/' text).filter (· ≠ "")
  if text.toList.getLast? = some '/' then named ++ ["."] else named

/-- Where a path text starts: at the root, or at the directory it is relative to. -/
def origin (here : Place) (text : String) : Place :=
  if text.toList.head? = some '/' then [] else here

/-- The number of links a walk may pass. -/
def maxLinks : Nat := 40

/-- The number of bytes a name may have. -/
def maxName : Nat := 255

/-- The number of bytes a path may have. -/
def maxPath : Nat := 4095

/-- Walks names from a directory. A link that has to be replaced is left to `pass`, which gets the
directory that its target is seen from and the names to walk from there. -/
def Tree.walkWith (t : Tree) (follow : Bool) (pass : Place → List String → Except FileError Spot)
    (here : Place) (todo : List String) : Except FileError Spot :=
  match todo with
  | [] =>
    match t.get? here with
    | some node => .ok (.found here node)
    | none => .error .notFound
  | name :: rest =>
    if t.get? here ≠ some .dir then .error .notDirectory
    else if name = "." then t.walkWith follow pass here rest
    else if name = ".." then t.walkWith follow pass here.dropLast rest
    else if maxName < byteLength name.toList then .error .nameTooLong
    else match t.get? (here ++ [name]) with
      | none => if rest = [] then .ok (.vacant here name) else .error .notFound
      | some (.link target) =>
        if rest = [] ∧ follow = false then .ok (.found (here ++ [name]) (.link target))
        else pass (origin here target) (steps target ++ rest)
      | some _ => t.walkWith follow pass (here ++ [name]) rest

/-- Walks names from a directory, passing at most so many links. -/
def Tree.walk (t : Tree) (follow : Bool) : Nat → Place → List String → Except FileError Spot
  | 0 => t.walkWith follow fun _ _ => .error .tooManyLinks
  | links + 1 => t.walkWith follow (t.walk follow links)

/-- Walks a path from a directory. -/
def Tree.locate (t : Tree) (cwd : Place) (follow : Bool) (p : Path) : Except FileError Spot :=
  if p.text = "" then .error .notFound
  else if '\x00' ∈ p.text.toList then .error .nulInPath
  else if maxPath < byteLength p.text.toList then .error .nameTooLong
  else t.walk follow maxLinks (origin cwd p.text) (steps p.text)

/-- The absolute path of a place. -/
def Place.path (p : Place) : Path :=
  ⟨"/" ++ String.intercalate "/" p⟩

end LuaBundler.Files
