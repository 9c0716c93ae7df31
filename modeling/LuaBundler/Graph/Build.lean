import LuaBundler.Files.Contents
import LuaBundler.Graph.Basic
import LuaBundler.Source.Require

/-!
# Building the graph

The graph is built depth first from the entry. A visit normalizes its path; if that module is still
being read the require leads back, which is recorded; if it was read before nothing is left to do.
Otherwise a node is put in the graph, the file is read, each literal require is resolved in source
order and project modules are visited, and then the node gets its dependencies.

A visit inside another one is of a module that some file requires and that was not in the graph. A
file has no more literal requires than bytes, so the bytes of the tree bound how deep visits nest.
-/

namespace LuaBundler

open Files Source

/-- A require of an expression, and the module it stands in. -/
structure DynamicSite where
  path : Path
  require : DynamicRequire
  deriving Repr, DecidableEq

/-- Why a graph cannot be built. -/
inductive GraphError where
  | read (path : Path) (cause : FileError)
  /-- Visits nest deeper than the files can require. -/
  | tooDeep (path : Path)
  deriving Repr, DecidableEq

/-- The message of each cause, and what caused it. -/
def GraphError.chain : GraphError → List String
  | read path cause => ["Failed to read module " ++ path.text, cause.message]
  | tooDeep path => ["Too many nested modules at " ++ path.text]

/-- A graph under construction. -/
structure Traversal where
  resolver : Resolver
  graph : Graph
  /-- The modules being read. -/
  active : List Path := []
  dynamic : List DynamicSite := []

namespace Traversal

/-- Starts to read a module: its node is there from now on, without dependencies. -/
def enter (t : Traversal) (p : Path) : Traversal :=
  { t with graph := t.graph.insert p ⟨p, []⟩, active := p :: t.active }

/-- Records the dynamic requires of a module. -/
def record (t : Traversal) (p : Path) (found : List DynamicRequire) : Traversal :=
  { t with dynamic := t.dynamic ++ found.map (DynamicSite.mk p) }

/-- Ends reading a module: its node gets its dependencies. -/
def leave (t : Traversal) (p : Path) (dependencies : List Dependency) : Traversal :=
  { t with
    graph := t.graph.insert p ⟨p, dependencies⟩
    active := t.active.filter fun q => !q.same p }

/-- Resolves references in order and visits those that lead to project modules. -/
def followAll (m : Machine) (visit : Traversal → Path → Except GraphError Traversal) :
    Traversal → List Reference → Except GraphError (Traversal × List Dependency)
  | t, [] => .ok (t, [])
  | t, reference :: rest => do
    let (resolution, resolver) := t.resolver.resolve m reference.name
    let t := { t with resolver }
    let t ← match resolution with
      | .project target => visit t target
      | _ => .ok t
    let (t, dependencies) ← followAll m visit t rest
    return (t, ⟨reference.name, resolution⟩ :: dependencies)

/-- Visits a module, nesting at most `depth` deep. -/
def visit (m : Machine) : Nat → Traversal → Path → Except GraphError Traversal
  | depth, t, target =>
    let path := m.normalize target
    if t.active.any (·.same path) then .ok { t with graph := t.graph.addCycle path }
    else if t.graph.contains path then .ok t
    else match depth with
      | 0 => .error (.tooDeep path)
      | depth + 1 =>
        match m.read path with
        | .error cause => .error (.read path cause)
        | .ok bytes => do
          let found := discover (Text.lossyString bytes)
          let t := (t.enter path).record path found.dynamic
          let (t, dependencies) ← followAll m (visit m depth) t found.literal
          return t.leave path dependencies

end Traversal

/-- A graph and the dynamic requires found on the way. -/
structure BuiltGraph where
  graph : Graph
  dynamic : List DynamicSite

/-- Builds the graph of an entry. -/
def Graph.build (m : Machine) (resolver : Resolver) (entry : Path) :
    Except GraphError BuiltGraph := do
  let entry := m.normalize entry
  let t ← Traversal.visit m (m.tree.byteCount + 1) ⟨resolver, .start entry, [], []⟩ entry
  return ⟨t.graph, t.dynamic⟩

end LuaBundler
