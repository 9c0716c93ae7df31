import LuaBundler.Files.Machine
import LuaBundler.ModuleName

/-!
# Resolution of module names

A name is looked for under the project's search roots in their order, then in the runtime directory.
Where it is found decides what becomes of it: a project module is bundled, a runtime module is left
to the host, and anything else is unresolved.

A resolver keeps its answers. `resolve_known` says that a name asked for again gets the answer it
got, whatever happened to the files since.
-/

namespace LuaBundler

open Files

/-- Where a required module was found. -/
inductive Resolution where
  /-- Under a search root; the path is normalized. -/
  | project (path : Path)
  /-- Only in the runtime directory. -/
  | runtime (path : Path)
  | unresolved
  deriving Repr, DecidableEq

namespace Resolution

/-- The name of the kind of a resolution. -/
def kindName : Resolution → String
  | project _ => "local"
  | runtime _ => "global"
  | unresolved => "unresolved"

/-- The project file of a resolution. -/
def projectPath? : Resolution → Option Path
  | project path => some path
  | _ => none

/-- Whether a module is left to the host. -/
def isRuntime : Resolution → Bool
  | runtime _ => true
  | _ => false

/-- Whether a module was found nowhere. -/
def isUnresolved : Resolution → Bool
  | unresolved => true
  | _ => false

theorem projectPath?_eq_some_iff {r : Resolution} {p : Path} :
    r.projectPath? = some p ↔ r = .project p := by
  cases r <;> simp [projectPath?]

end Resolution

/-- Search roots in order of preference, the runtime directory, and the answers given so far. -/
structure Resolver where
  roots : List Path
  runtime : Option Path
  known : List (String × Resolution) := []
  deriving Repr

/-- The first file of a stem under a root. -/
def findInRoot (m : Machine) (stem root : Path) : Option Path :=
  (ModuleName.candidates root stem).find? m.isFile

/-- The first file of a stem under any of the roots. -/
def findInRoots (m : Machine) (stem : Path) (roots : List Path) : Option Path :=
  roots.findSome? (findInRoot m stem)

namespace Resolver

/-- The resolution of a name on the files as they are. -/
def lookUp (r : Resolver) (m : Machine) (name : String) : Resolution :=
  match ModuleName.stem? name with
  | none => .unresolved
  | some stem =>
    match findInRoots m stem r.roots with
    | some found => .project (m.normalize found)
    | none =>
      match r.runtime.bind (findInRoot m stem) with
      | some found => .runtime found
      | none => .unresolved

/-- The answer to a name, and the resolver that knows it. -/
def resolve (r : Resolver) (m : Machine) (name : String) : Resolution × Resolver :=
  match r.known.lookup name with
  | some answer => (answer, r)
  | none =>
    let answer := r.lookUp m name
    (answer, { r with known := (name, answer) :: r.known })

/-- What kind of module a name denotes, and the resolver that knows the answer. -/
def classify (r : Resolver) (m : Machine) (name : String) : String × Resolver :=
  ((r.resolve m name).1.kindName, (r.resolve m name).2)

/-- After a name was asked for, its answer is known. -/
theorem lookup_resolve (r : Resolver) (m : Machine) (name : String) :
    (r.resolve m name).2.known.lookup name = some (r.resolve m name).1 := by
  unfold resolve
  split
  · assumption
  · simp

/-- A name that is known gets its answer, whatever the files are now. -/
theorem resolve_known {r : Resolver} {name : String} {answer : Resolution}
    (h : r.known.lookup name = some answer) (m : Machine) : r.resolve m name = (answer, r) := by
  simp [resolve, h]

/-- A name that is not known is looked up. -/
theorem resolve_new {r : Resolver} {name : String} (h : r.known.lookup name = none)
    (m : Machine) : (r.resolve m name).1 = r.lookUp m name := by
  simp [resolve, h]

end Resolver

end LuaBundler
