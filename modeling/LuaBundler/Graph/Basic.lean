import LuaBundler.Resolution

/-!
# Dependency graphs

The nodes of a dependency graph are the module files of a project, keyed by path and kept in the
order they were discovered in; each has its requires in source order with their resolutions. A graph
also records the paths at which a require led back to a module still being read.

Keys are compared as paths. Adding a node under a key that is there keeps the position and the key
and replaces the node.

Two modules are in one cycle group if each leads to the other by one or more requires of project
modules. Nodes are numbered in discovery order; from each number, what it leads to is found layer by
layer, and a group is listed at its first member.
-/

namespace LuaBundler

/-- One require of a module, and where it leads. -/
structure Dependency where
  name : String
  resolution : Resolution
  deriving Repr, DecidableEq

/-- A module and its requires in source order. -/
structure ModuleNode where
  path : Path
  dependencies : List Dependency
  deriving Repr, DecidableEq

/-- A require that leads nowhere, and the module it stands in. -/
structure UnresolvedRequire where
  source : Path
  name : String
  deriving Repr, DecidableEq

/-- How an unresolved require is reported. -/
def UnresolvedRequire.message (u : UnresolvedRequire) : String :=
  "require('" ++ u.name ++ "') from " ++ u.source.text

/-- The dependency graph of a project. -/
structure Graph where
  entry : Path
  nodes : List (Path × ModuleNode)
  /-- Where a require led back to a module still being read. -/
  cycles : List Path
  deriving Repr

namespace Graph

/-- The graph of an entry before anything is read. -/
def start (entry : Path) : Graph := ⟨entry, [], []⟩

/-- The keys of the nodes, in order of discovery. -/
def keys (g : Graph) : List Path :=
  g.nodes.map (·.1)

/-- Whether some key is the given path. -/
def contains (g : Graph) (p : Path) : Bool :=
  g.nodes.any fun n => n.1.same p

/-- The node of a path. -/
def find? (g : Graph) (p : Path) : Option ModuleNode :=
  (g.nodes.find? fun n => n.1.same p).map (·.2)

/-- Puts a node under a path. -/
def insert (g : Graph) (p : Path) (node : ModuleNode) : Graph :=
  if g.contains p then
    { g with nodes := g.nodes.map fun n => if n.1.same p then (n.1, node) else n }
  else { g with nodes := g.nodes ++ [(p, node)] }

/-- Records a path at which a require led back. -/
def addCycle (g : Graph) (p : Path) : Graph :=
  if g.cycles.any (·.same p) then g else { g with cycles := g.cycles ++ [p] }

/-- Every require of the graph with its node, in node order and then source order. -/
def references (g : Graph) : List (ModuleNode × Dependency) :=
  g.nodes.flatMap fun n => n.2.dependencies.map fun d => (n.2, d)

/-- The names of the runtime modules, each once, in order of first reference. -/
def runtimeNames (g : Graph) : List String :=
  ((g.references.filter fun r => r.2.resolution.isRuntime).map (·.2.name)).eraseDups

/-- The requires that lead nowhere. -/
def unresolved (g : Graph) : List UnresolvedRequire :=
  (g.references.filter fun r => r.2.resolution.isUnresolved).map fun r => ⟨r.1.path, r.2.name⟩

/-! ### Paths that differ by case -/

/-- A path text with its ASCII letters in lower case. -/
def foldCase (p : Path) : String :=
  p.text.map Char.toLower

/-- Pairs each path with the first earlier one that it equals when ASCII case is ignored; `seen`
holds the earlier paths that had no such partner. -/
def collisionsFrom (seen : List Path) : List Path → List (Path × Path)
  | [] => []
  | p :: rest =>
    match seen.find? fun q => foldCase q == foldCase p with
    | some first => (first, p) :: collisionsFrom seen rest
    | none => collisionsFrom (seen ++ [p]) rest

/-- The pairs of keys that are equal when ASCII case is ignored. -/
def caseCollisions (g : Graph) : List (Path × Path) :=
  collisionsFrom [] g.keys

/-! ### The view of each operation -/

theorem nodup_eraseDups {α : Type} [BEq α] [LawfulBEq α] (xs : List α) : xs.eraseDups.Nodup := by
  match xs with
  | [] => simp
  | x :: rest =>
    rw [List.eraseDups_cons, List.nodup_cons]
    exact ⟨by simp [List.mem_eraseDups], nodup_eraseDups _⟩
termination_by xs.length
decreasing_by
  exact Nat.lt_succ_of_le (List.length_filter_le _ _)

theorem keys_insert_of_not_contains {g : Graph} {p : Path} (node : ModuleNode)
    (h : g.contains p = false) : (g.insert p node).keys = g.keys ++ [p] := by
  simp [insert, h, keys]

theorem mem_runtimeNames {g : Graph} {name : String} :
    name ∈ g.runtimeNames ↔
      ∃ r ∈ g.references, r.2.resolution.isRuntime = true ∧ r.2.name = name := by
  simp [runtimeNames, List.mem_eraseDups, and_assoc]

end Graph

end LuaBundler

namespace LuaBundler.Graph

/-! ### What a number leads to -/

/-- Adds layer after layer of what the last layer leads to, until a layer brings nothing new. -/
def layersWithin (next : Nat → List Nat) : Nat → List Nat → List Nat → List Nat
  | 0, known, _ => known
  | rounds + 1, known, layer =>
    match ((layer.flatMap next).filter fun i => !known.contains i).eraseDups with
    | [] => known
    | fresh => layersWithin next rounds (known ++ fresh) fresh

/-- The numbers that one or more steps lead to, among `count` numbers. -/
def reachable (next : Nat → List Nat) (count i : Nat) : List Nat :=
  let first := (next i).eraseDups
  layersWithin next count first first

/-! ### Cycle groups -/

/-- The number of the node of a path. -/
def indexOf? (g : Graph) (p : Path) : Option Nat :=
  g.nodes.findIdx? fun n => n.1.same p

/-- The numbers of the nodes that the requires of a node lead to. -/
def successors (g : Graph) (i : Nat) : List Nat :=
  match g.nodes[i]? with
  | some n => n.2.dependencies.filterMap fun d => d.resolution.projectPath?.bind g.indexOf?
  | none => []

/-- The successors of each node. -/
def successorTable (g : Graph) : List (List Nat) :=
  (List.range g.nodes.length).map g.successors

/-- What each number leads to by a table of successors. -/
def closure (table : List (List Nat)) : List (List Nat) :=
  (List.range table.length).map (reachable (fun i => table.getD i []) table.length)

/-- Whether a table lets one number lead to another. -/
def leadsTo (table : List (List Nat)) (i j : Nat) : Bool :=
  (table.getD i []).contains j

/-- The numbers that a number leads to and that lead to it. -/
def groupOf (table : List (List Nat)) (i : Nat) : List Nat :=
  (List.range table.length).filter fun j => leadsTo table i j && leadsTo table j i

/-- The groups of numbers, each at its first member. -/
def groupsOf (table : List (List Nat)) : List (List Nat) :=
  ((List.range table.length).filter fun i => (groupOf table i).head? = some i).map (groupOf table)

/-- The groups of modules that lead to each other, a module that leads to itself alone included. -/
def cycleGroups (g : Graph) : List (List Path) :=
  (groupsOf (closure g.successorTable)).map fun group => group.filterMap fun i => g.keys[i]?

end LuaBundler.Graph
