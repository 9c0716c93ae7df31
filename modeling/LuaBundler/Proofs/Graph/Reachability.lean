import LuaBundler.Proofs.Graph.Traversal

/-!
# What a graph is made of

A graph has a node for each module that the entry leads to (`Resolver.Reaches`) and for no other
file, and each node has the requires of its file with their resolutions on the files as they are
(`Graph.Holds`, `Graph.holds_build`). A resolver that knows nothing yet answers with what it looks
up, so all this is read off the search that a build does (`Traversal.searches_visit`).
-/

namespace LuaBundler

open Text Files Source Relation

/-- The names that a module requires by literals, in source order. -/
def requiresOf (bytes : Bytes) : List String :=
  (discover (lossyString bytes)).literal.map (·.name)

namespace Resolver

/-- The requires of a module with their resolutions on the files as they are. -/
def dependencies (r : Resolver) (m : Machine) (bytes : Bytes) : List Dependency :=
  (requiresOf bytes).map fun name ↦ ⟨name, r.lookUp m name⟩

/-- The modules that an entry leads to, by their normalized paths. -/
inductive Reaches (r : Resolver) (m : Machine) (entry : Path) : Path → Prop
  | entry : Reaches r m entry (m.normalize entry)
  | require {p target : Path} {bytes : Bytes} {name : String} (h : Reaches r m entry p)
      (hread : m.read p = .ok bytes) (hname : name ∈ requiresOf bytes)
      (htarget : r.lookUp m name = .project target) : Reaches r m entry (m.normalize target)

variable {m : Machine} {roots : List Path} {runtime : Option Path} {entry p : Path} {bytes : Bytes}

/-- A resolver that knows nothing answers with what it looks up. -/
theorem answer_new (m : Machine) (name : String) :
    answer ⟨roots, runtime, []⟩ m name = lookUp ⟨roots, runtime, []⟩ m name :=
  resolve_new rfl m

/-- The answers to the requires of a module that is read are what is looked up. -/
theorem dependenciesAt_new (hread : m.read p = .ok bytes) :
    dependenciesAt ⟨roots, runtime, []⟩ m p = dependencies ⟨roots, runtime, []⟩ m bytes := by
  rw [dependenciesAt, dependencies, requiresOf, Machine.requires_of_read hread, List.map_map]
  refine List.map_congr_left fun reference _ ↦ ?_
  rw [dependency, answer_new]
  rfl

/-- What the entry leads to by answers it leads to by what is looked up. -/
theorem reaches_of_leadsTo
    (h : LeadsTo ⟨roots, runtime, []⟩ m (m.normalize entry) p) :
    Reaches ⟨roots, runtime, []⟩ m entry p := by
  induction h with
  | refl => exact .entry
  | @tail p q _ hq ih =>
    obtain ⟨d, hd, target, hproject, rfl⟩ := mem_successors_iff.1 hq
    cases hread : m.read p with
    | error cause => simp [dependenciesAt, Machine.requires, hread] at hd
    | ok bytes =>
      rw [dependenciesAt_new hread, dependencies] at hd
      obtain ⟨name, hname, rfl⟩ := List.mem_map.1 hd
      exact .require ih hread hname hproject

end Resolver

namespace Graph

variable {r : Resolver} {m : Machine} {entry : Path} {g : Graph} {node : ModuleNode}

/-- A node has the requires of its file, and the project modules among them are in the graph. -/
structure IsRead (r : Resolver) (m : Machine) (g : Graph) (node : ModuleNode) : Prop where
  dependencies : ∃ bytes, m.read node.path = .ok bytes ∧ node.dependencies = r.dependencies m bytes
  targets : ∀ d ∈ node.dependencies, ∀ target, d.resolution = .project target →
    g.contains (m.normalize target) = true

/-- A graph has the modules that an entry leads to, each with its requires. -/
structure Holds (r : Resolver) (m : Machine) (entry : Path) (g : Graph) : Prop where
  contains_entry : g.contains (m.normalize entry) = true
  path : ∀ n ∈ g.nodes, n.2.path.components = n.1.components
  reaches : ∀ n ∈ g.nodes, r.Reaches m entry n.2.path
  read : ∀ n ∈ g.nodes, IsRead r m g n.2

/-- **The graph of an entry has the modules that the entry leads to, each with its requires.** -/
theorem holds_build {roots : List Path} {runtime : Option Path} {built : BuiltGraph}
    (h : build m ⟨roots, runtime, []⟩ entry = .ok built) :
    Holds ⟨roots, runtime, []⟩ m (m.normalize entry) built.graph := by
  obtain ⟨t, ht, h⟩ := Except.bind_eq_ok_iff.1 h
  obtain rfl := Except.ok.inj h
  obtain ⟨order, back, hsearch, hdone⟩ := Traversal.searches_visit
    (t := ⟨⟨roots, runtime, []⟩, .start (m.normalize entry), [], []⟩) (fun _ ↦ rfl) ht
  have hnodes : t.graph.nodes = order.map (Resolver.nodeAt ⟨roots, runtime, []⟩ m) := hdone.nodes
  have hkeys : t.graph.keys = order := hdone.keys
  -- what is searched is entered, and what modules entered require is searched
  have hcovered := hsearch.covered (by simp)
  have hcontains : ∀ p, p.components ∈ order.map Path.components → t.graph.contains p = true :=
    fun p hp ↦ contains_eq_true_iff_mem.2 (hkeys ▸ hp)
  have hnode : ∀ n ∈ t.graph.nodes, ∃ p ∈ order, n = Resolver.nodeAt ⟨roots, runtime, []⟩ m p := by
    intro n hn
    rw [hnodes] at hn
    obtain ⟨p, hp, rfl⟩ := List.mem_map.1 hn
    exact ⟨p, hp, rfl⟩
  refine ⟨hcontains _ (hcovered.1 _ (List.mem_singleton_self _)), fun n hn ↦ ?_, fun n hn ↦ ?_,
    fun n hn ↦ ?_⟩
  all_goals obtain ⟨p, hp, rfl⟩ := hnode n hn
  · rfl
  · obtain ⟨v, hv, hlead⟩ := hsearch.exists_reflTransGen hp
    obtain rfl := List.mem_singleton.1 hv
    exact Resolver.reaches_of_leadsTo hlead
  · obtain ⟨bytes, hread⟩ := hdone.read p hp
    exact ⟨⟨bytes, hread, Resolver.dependenciesAt_new hread⟩, fun d hd target htarget ↦
      hcontains _ (hcovered.2 p hp _ (Resolver.mem_successors_iff.2 ⟨d, hd, target, htarget, rfl⟩))⟩

end Graph

end LuaBundler
