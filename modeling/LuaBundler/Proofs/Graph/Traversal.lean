import LuaBundler.Bundle.Collect
import LuaBundler.Graph.Build
import LuaBundler.Proofs.Graph.DepthFirst
import LuaBundler.Proofs.Outcome
import LuaBundler.Proofs.Source.Discovery
import LuaBundler.Proofs.Text.Utf8
import Mathlib.Algebra.Order.BigOperators.Group.List
import Mathlib.Algebra.Order.Group.Nat

/-!
# The graph as a depth-first search

Building a graph is a depth-first search of the modules that the entry leads to, by the answers of
any resolver (`Graph.build_spec`). The nodes are the modules in the order they are entered in, each
with what its file requires; the cycles are where the search met a way back; and the build ends: it
fails only at a module of the graph that cannot be read.

Two facts carry this. What a visit that succeeds adds to the graph is what a search of its path
enters (`Traversal.Searched`). And a visit that nests deeper enters a module that a literal require
of some file leads to, so that with each level fewer such modules are left (`remaining`).
-/

namespace LuaBundler

open Text Files Source Relation

/-! ### What a module requires -/

/-- The requires of a module; none if it cannot be read. -/
def Files.Machine.requires (m : Machine) (p : Path) : Requires :=
  match m.read p with
  | .ok bytes => discover (lossyString bytes)
  | .error _ => ⟨[], []⟩

theorem Files.Machine.requires_of_read {m : Machine} {p : Path} {bytes : Bytes}
    (h : m.read p = .ok bytes) : m.requires p = discover (lossyString bytes) := by
  rw [requires, h]

/-- The dynamic requires of a module. -/
def Files.Machine.dynamicSites (m : Machine) (p : Path) : List DynamicSite :=
  (m.requires p).dynamic.map (DynamicSite.mk p)

namespace Resolver

/-- The answer to a name. -/
def answer (r : Resolver) (m : Machine) (name : String) : Resolution :=
  (r.resolve m name).1

/-- A literal require with the answer to its name. -/
def dependency (r : Resolver) (m : Machine) (reference : Reference) : Dependency :=
  ⟨reference.name, r.answer m reference.name⟩

/-- The project module that a require leads to, normalized. -/
def target? (m : Machine) (d : Dependency) : Option Path :=
  d.resolution.projectPath?.map m.normalize

/-- The literal requires of a module, in source order, with the answers to their names. -/
def dependenciesAt (r : Resolver) (m : Machine) (p : Path) : List Dependency :=
  (m.requires p).literal.map (r.dependency m)

/-- The project modules that a module requires, in source order. -/
def successors (r : Resolver) (m : Machine) (p : Path) : List Path :=
  (r.dependenciesAt m p).filterMap (target? m)

/-- The node of a module. -/
def nodeAt (r : Resolver) (m : Machine) (p : Path) : Path × ModuleNode :=
  (p, ⟨p, r.dependenciesAt m p⟩)

/-- Whether one module leads to another by requires of project modules. -/
def LeadsTo (r : Resolver) (m : Machine) : Path → Path → Prop :=
  ReflTransGen fun p q ↦ q ∈ r.successors m p

/-- Two resolvers give the same answers. -/
def Agrees (r : Resolver) (m : Machine) (r' : Resolver) : Prop :=
  ∀ name, r'.answer m name = r.answer m name

variable {r r' : Resolver} {m : Machine}

/-- A successor is the normalized path of a project module that is required. -/
theorem mem_successors_iff {p q : Path} : q ∈ r.successors m p ↔
    ∃ d ∈ r.dependenciesAt m p, ∃ target, d.resolution = .project target ∧
      m.normalize target = q := by
  simp only [successors, List.mem_filterMap, target?, Option.map_eq_some_iff,
    Resolution.projectPath?_eq_some_iff]

/-- A resolver that was asked gives the same answers as before. -/
theorem answer_resolve (r : Resolver) (m : Machine) (name other : String) :
    (r.resolve m name).2.answer m other = r.answer m other := by
  cases hknown : r.known.lookup name with
  | some answer => rw [resolve_known hknown]
  | none =>
    have hresolve : (r.resolve m name).2 =
        { r with known := (name, r.lookUp m name) :: r.known } := by
      simp [resolve, hknown]
    by_cases hname : other = name
    · subst hname
      have hlookup : (r.resolve m other).2.known.lookup other = some (r.answer m other) :=
        lookup_resolve r m other
      rw [answer, resolve_known hlookup]
    · have hlookup : List.lookup other ((name, r.lookUp m name) :: r.known) =
          r.known.lookup other := by
        rw [List.lookup_cons, beq_false_of_ne hname]
      rw [hresolve, answer, answer, resolve, resolve, hlookup]
      cases r.known.lookup other <;> rfl

theorem Agrees.resolve (h : r.Agrees m r') (name : String) :
    r.Agrees m (r'.resolve m name).2 :=
  fun other ↦ (answer_resolve r' m name other).trans (h other)

theorem Agrees.resolve_eq (h : r.Agrees m r') (name : String) :
    r'.resolve m name = (r.answer m name, (r'.resolve m name).2) :=
  Prod.ext (h name) rfl

/-! ### Modules that may be entered -/

/-- The project modules that the literal requires of all files lead to. -/
def targets (r : Resolver) (m : Machine) : List Path :=
  (Bundle.requiredNames m.tree).filterMap fun name ↦
    (r.answer m name).projectPath?.map m.normalize

/-- How many of them are left when some modules have been entered. -/
def remaining (r : Resolver) (m : Machine) (seen : List Path) : Nat :=
  ((r.targets m).filter fun p ↦ p.components ∉ seen.map Path.components).length

theorem mem_targets {p target : Path} {bytes : Bytes} {reference : Reference}
    (hread : m.read p = .ok bytes) (href : reference ∈ (discover (lossyString bytes)).literal)
    (htarget : r.answer m reference.name = .project target) : m.normalize target ∈ r.targets m := by
  refine List.mem_filterMap.2 ⟨reference.name, ?_, by rw [htarget]; rfl⟩
  exact List.mem_flatMap.2
    ⟨bytes, Machine.mem_contents_of_read hread, List.mem_map_of_mem href⟩

theorem remaining_append_le (seen new : List Path) :
    r.remaining m (seen ++ new) ≤ r.remaining m seen := by
  refine List.Sublist.length_le (List.monotone_filter_right _ fun p hp ↦ ?_)
  simp only [decide_eq_true_eq, List.map_append, List.mem_append, not_or] at hp ⊢
  exact hp.1

/-- Entering one of them leaves fewer. -/
theorem remaining_append_lt {seen : List Path} {p : Path} (hp : p ∈ r.targets m)
    (hseen : p.components ∉ seen.map Path.components) :
    r.remaining m (seen ++ [p]) < r.remaining m seen := by
  have hsplit : (r.targets m).filter (fun q ↦ q.components ∉ (seen ++ [p]).map Path.components) =
      ((r.targets m).filter fun q ↦ q.components ∉ seen.map Path.components).filter
        fun q ↦ q.components ≠ p.components := by
    rw [List.filter_filter]
    refine List.filter_congr fun q _ ↦ ?_
    simp [and_comm]
  rw [remaining, remaining, hsplit]
  refine List.length_filter_lt_length_iff_exists.2 ⟨p, ?_, by simp⟩
  exact List.mem_filter.2 ⟨hp, by simpa using hseen⟩

/-- Files have no more literal requires than bytes. -/
theorem remaining_le (seen : List Path) : r.remaining m seen ≤ m.tree.byteCount := by
  have hnames : (r.targets m).length ≤ (Bundle.requiredNames m.tree).length :=
    List.length_filterMap_le ..
  have hbytes : (Bundle.requiredNames m.tree).length ≤ m.tree.byteCount := by
    have hsum : m.tree.byteCount = (m.tree.contents.map List.length).sum := by
      rw [List.sum_eq_foldr, List.foldr_map]
      rfl
    rw [Bundle.requiredNames, List.length_flatMap, hsum]
    refine List.sum_le_sum fun bytes _ ↦ ?_
    rw [List.length_map]
    exact Nat.le_trans (length_literal_discover_le _) (by simpa using length_lossyString_le bytes)
  exact Nat.le_trans (List.length_filter_le ..) (Nat.le_trans hnames hbytes)

end Resolver

/-! ### What a visit does -/

namespace Graph

variable {g : Graph} {p : Path} {node : ModuleNode}

theorem contains_eq_true_iff :
    g.contains p = true ↔ ∃ n ∈ g.nodes, n.1.components = p.components := by
  simp [contains, Path.same_iff]

theorem contains_eq_true_iff_mem :
    g.contains p = true ↔ p.components ∈ g.keys.map Path.components := by
  simp [contains_eq_true_iff, keys]

theorem contains_eq_false_iff_not_mem :
    g.contains p = false ↔ p.components ∉ g.keys.map Path.components := by
  rw [← contains_eq_true_iff_mem, Bool.not_eq_true]

/-- What is in a graph after a node was put under a path. -/
theorem mem_nodes_insert {n : Path × ModuleNode} (h : n ∈ (g.insert p node).nodes) :
    (n ∈ g.nodes ∧ n.1.components ≠ p.components) ∨
      (n.2 = node ∧ n.1.components = p.components) := by
  unfold insert at h
  split at h
  · obtain ⟨n', hn', rfl⟩ := List.mem_map.1 h
    split
    · rename_i hsame
      exact .inr ⟨rfl, (Path.same_iff ..).1 hsame⟩
    · rename_i hsame
      exact .inl ⟨hn', fun heq ↦ hsame ((Path.same_iff ..).2 heq)⟩
  · rename_i hnot
    rcases List.mem_append.1 h with h | h
    · exact .inl ⟨h, fun heq ↦ hnot (contains_eq_true_iff.2 ⟨n, h, heq⟩)⟩
    · obtain rfl := List.mem_singleton.1 h
      exact .inr ⟨rfl, rfl⟩

/-- The paths at which a way back was met, after one more. -/
def noteCycle (cycles : List Path) (p : Path) : List Path :=
  if cycles.any (·.same p) then cycles else cycles ++ [p]

theorem cycles_addCycle (g : Graph) (p : Path) : (g.addCycle p).cycles = noteCycle g.cycles p := by
  unfold addCycle noteCycle
  split <;> rfl

theorem nodes_addCycle : (g.addCycle p).nodes = g.nodes := by
  unfold addCycle
  split <;> rfl

theorem entry_addCycle (g : Graph) (p : Path) : (g.addCycle p).entry = g.entry := by
  unfold addCycle
  split <;> rfl

theorem entry_insert : (g.insert p node).entry = g.entry := by
  unfold insert
  split <;> rfl

theorem cycles_insert : (g.insert p node).cycles = g.cycles := by
  unfold insert
  split <;> rfl

theorem nodes_insert_of_not_contains (h : g.contains p = false) :
    (g.insert p node).nodes = g.nodes ++ [(p, node)] := by
  simp [insert, h]

/-- Putting a node where one is replaces it, and no other. -/
theorem nodes_insert_of_nodes {before after : List (Path × ModuleNode)} {old : ModuleNode}
    (h : g.nodes = before ++ (p, old) :: after)
    (hbefore : ∀ n ∈ before, n.1.components ≠ p.components)
    (hafter : ∀ n ∈ after, n.1.components ≠ p.components) :
    (g.insert p node).nodes = before ++ (p, node) :: after := by
  have hcontains : g.contains p = true := contains_eq_true_iff.2 ⟨(p, old), by simp [h], rfl⟩
  have hkeep : ∀ ns : List (Path × ModuleNode), (∀ n ∈ ns, n.1.components ≠ p.components) →
      ns.map (fun n ↦ if n.1.same p then (n.1, node) else n) = ns := by
    intro ns hns
    refine (List.map_congr_left fun n hn ↦ ?_).trans (List.map_id ns)
    rw [if_neg fun hsame ↦ hns n hn ((Path.same_iff ..).1 hsame)]
    rfl
  simp [insert, hcontains, h, hkeep before hbefore, hkeep after hafter]

end Graph

namespace Traversal

open LuaBundler.Graph

variable {r : Resolver} {m : Machine} {t t' t'' : Traversal} {order order' back back' : List Path}

/-- What following references does with the first of them. -/
theorem followAll_cons {visit : Traversal → Path → Except GraphError Traversal} {ref : Reference}
    {rest : List Reference} {dependencies : List Dependency} {answer : Resolution}
    {resolver : Resolver} (hanswer : t.resolver.resolve m ref.name = (answer, resolver))
    (h : followAll m visit t (ref :: rest) = .ok (t', dependencies)) :
    ∃ next others,
      (match answer with
        | .project target => visit { t with resolver } target
        | _ => .ok { t with resolver }) = .ok next ∧
      followAll m visit next rest = .ok (t', others) ∧
      dependencies = ⟨ref.name, answer⟩ :: others := by
  simp only [followAll, hanswer] at h
  cases answer <;>
  · obtain ⟨next, hnext, h⟩ := Except.bind_eq_ok_iff.1 h
    obtain ⟨⟨last, others⟩, hothers, h⟩ := Except.bind_eq_ok_iff.1 h
    simp only [pure, Except.pure, Except.ok.injEq, Prod.mk.injEq] at h
    obtain ⟨rfl, rfl⟩ := h
    exact ⟨next, others, hnext, hothers, rfl⟩

/-- What a visit that succeeds does: it finds its module active, or in the graph, or reads it. -/
theorem visit_cases {depth : Nat} {target : Path} (h : visit m depth t target = .ok t') :
    ((∃ p ∈ t.active, p.components = (m.normalize target).components) ∧
      t' = { t with graph := t.graph.addCycle (m.normalize target) }) ∨
    (t.active.any (·.same (m.normalize target)) = false ∧
      t.graph.contains (m.normalize target) = true ∧ t' = t) ∨
    (t.active.any (·.same (m.normalize target)) = false ∧
      t.graph.contains (m.normalize target) = false ∧
      ∃ below bytes last dependencies, depth = below + 1 ∧
        m.read (m.normalize target) = .ok bytes ∧
        followAll m (visit m below)
          ((t.enter (m.normalize target)).record (m.normalize target)
            (discover (lossyString bytes)).dynamic)
          (discover (lossyString bytes)).literal = .ok (last, dependencies) ∧
        t' = last.leave (m.normalize target) dependencies) := by
  by_cases hactive : t.active.any (·.same (m.normalize target)) = true
  · refine .inl ⟨by simpa [Path.same_iff] using hactive, ?_⟩
    cases depth <;> simpa [visit, hactive, eq_comm] using h
  · by_cases hcontains : t.graph.contains (m.normalize target) = true
    · refine .inr (.inl ⟨by simpa using hactive, hcontains, ?_⟩)
      cases depth <;> simpa [visit, hactive, hcontains, eq_comm] using h
    · refine .inr (.inr ⟨by simpa using hactive, by simpa using hcontains, ?_⟩)
      cases depth with
      | zero => simp [visit, hactive, hcontains] at h
      | succ below =>
        cases hread : m.read (m.normalize target) with
        | error cause => simp [visit, hactive, hcontains, hread] at h
        | ok bytes =>
          simp only [visit, hactive, hcontains, hread] at h
          obtain ⟨⟨last, dependencies⟩, hlast, h⟩ := Except.bind_eq_ok_iff.1 h
          simp only [pure, Except.pure, Except.ok.injEq] at h
          exact ⟨below, bytes, last, dependencies, rfl, rfl, hlast, h.symm⟩

/-- Why a visit fails: its module, neither active nor in the graph, lies too deep, or cannot be read,
or following its requires fails. -/
theorem visit_error_cases {depth : Nat} {target : Path} {e : GraphError}
    (h : visit m depth t target = .error e) :
    t.graph.contains (m.normalize target) = false ∧
      (depth = 0 ∨
        (∃ cause, m.read (m.normalize target) = .error cause ∧
          e = .read (m.normalize target) cause) ∨
        ∃ below bytes, depth = below + 1 ∧ m.read (m.normalize target) = .ok bytes ∧
          followAll m (visit m below)
            ((t.enter (m.normalize target)).record (m.normalize target)
              (discover (lossyString bytes)).dynamic)
            (discover (lossyString bytes)).literal = .error e) := by
  by_cases hactive : t.active.any (·.same (m.normalize target)) = true
  · cases depth <;> simp [visit, hactive] at h
  by_cases hcontains : t.graph.contains (m.normalize target) = true
  · cases depth <;> simp [visit, hactive, hcontains] at h
  refine ⟨by simpa using hcontains, ?_⟩
  cases depth with
  | zero => exact .inl rfl
  | succ below =>
    cases hread : m.read (m.normalize target) with
    | error cause =>
      simp only [visit, hactive, hcontains, hread, Bool.false_eq_true, if_false,
        Except.error.injEq] at h
      exact .inr (.inl ⟨cause, rfl, h.symm⟩)
    | ok bytes =>
      simp only [visit, hactive, hcontains, hread, Bool.false_eq_true, if_false] at h
      rcases Except.bind_eq_error_iff.1 h with hfollow | ⟨_, -, hpure⟩
      · exact .inr (.inr ⟨below, bytes, rfl, rfl, hfollow⟩)
      · simp [pure, Except.pure] at hpure

/-- What a search that enters `order` and meets `back` makes of a traversal. -/
structure Searched (r : Resolver) (m : Machine) (t : Traversal) (order back : List Path)
    (t' : Traversal) : Prop where
  resolver : r.Agrees m t'.resolver
  active : t'.active = t.active
  entry : t'.graph.entry = t.graph.entry
  nodes : t'.graph.nodes = t.graph.nodes ++ order.map (r.nodeAt m)
  cycles : t'.graph.cycles = back.foldl noteCycle t.graph.cycles
  dynamic : t'.dynamic = t.dynamic ++ order.flatMap m.dynamicSites
  read : ∀ p ∈ order, ∃ bytes, m.read p = .ok bytes

theorem Searched.refl (h : r.Agrees m t.resolver) : Searched r m t [] [] t :=
  ⟨h, rfl, rfl, by simp, rfl, by simp, by simp⟩

theorem Searched.keys (h : Searched r m t order back t') :
    t'.graph.keys = t.graph.keys ++ order := by
  rw [Graph.keys, h.nodes, List.map_append, List.map_map]
  exact congrArg _ (List.map_id order)

/-- Two searches, one after the other. -/
theorem Searched.trans (h : Searched r m t order back t')
    (h' : Searched r m t' order' back' t'') :
    Searched r m t (order ++ order') (back ++ back') t'' where
  resolver := h'.resolver
  active := h'.active.trans h.active
  entry := h'.entry.trans h.entry
  nodes := by rw [h'.nodes, h.nodes, List.map_append, List.append_assoc]
  cycles := by rw [h'.cycles, h.cycles, List.foldl_append]
  dynamic := by rw [h'.dynamic, h.dynamic, List.flatMap_append, List.append_assoc]
  read := fun p hp ↦ (List.mem_append.1 hp).elim (h.read p) (h'.read p)

/-- A traversal does what a depth-first search of some paths does. -/
def Searches (r : Resolver) (m : Machine) (t : Traversal) (todo : List Path) (t' : Traversal) :
    Prop :=
  ∃ order back, DepthFirst Path.components (r.successors m) t.active t.graph.keys todo order back ∧
    Searched r m t order back t'

theorem Searches.refl (h : r.Agrees m t.resolver) : Searches r m t [] t :=
  ⟨[], [], .done _ _, .refl h⟩

theorem Searches.agrees {todo : List Path} (h : Searches r m t todo t') :
    r.Agrees m t'.resolver := by
  obtain ⟨order, back, -, hdone⟩ := h
  exact hdone.resolver

theorem Searches.append {todo later : List Path} (h : Searches r m t todo t')
    (h' : Searches r m t' later t'') : Searches r m t (todo ++ later) t'' := by
  obtain ⟨order, back, hsearch, hdone⟩ := h
  obtain ⟨order', back', hsearch', hdone'⟩ := h'
  rw [hdone.active, hdone.keys] at hsearch'
  exact ⟨_, _, hsearch.append hsearch', hdone.trans hdone'⟩

/-- What a search does to a traversal is not about the resolver that it starts with. -/
theorem Searches.of_resolver {resolver : Resolver} {todo : List Path}
    (h : Searches r m { t with resolver } todo t') : Searches r m t todo t' := by
  obtain ⟨order, back, hsearch, hdone⟩ := h
  exact ⟨order, back, hsearch, hdone.resolver, hdone.active, hdone.entry, hdone.nodes, hdone.cycles,
    hdone.dynamic, hdone.read⟩

/-- Following one reference searches the project module that it leads to, if it is one. -/
theorem searches_follow {visit : Traversal → Path → Except GraphError Traversal}
    (hvisit : ∀ t target t', visit t target = .ok t' → r.Agrees m t.resolver →
      Searches r m t [m.normalize target] t') {ref : Reference} (hr : r.Agrees m t.resolver)
    (h : (match r.answer m ref.name with
      | .project target => visit t target
      | _ => .ok t) = .ok t') :
    Searches r m t (Resolver.target? m (r.dependency m ref)).toList t' := by
  rw [Resolver.target?, Resolver.dependency]
  cases hanswer : r.answer m ref.name with
  | project target =>
    rw [hanswer] at h
    exact hvisit t target t' h hr
  | runtime path =>
    rw [hanswer] at h
    obtain rfl : t = t' := Except.ok.inj h
    exact .refl hr
  | unresolved =>
    rw [hanswer] at h
    obtain rfl : t = t' := Except.ok.inj h
    exact .refl hr

/-- Following references searches the project modules that they lead to. -/
theorem searches_followAll {visit : Traversal → Path → Except GraphError Traversal}
    (hvisit : ∀ t target t', visit t target = .ok t' → r.Agrees m t.resolver →
      Searches r m t [m.normalize target] t')
    {references : List Reference} {dependencies : List Dependency} (hr : r.Agrees m t.resolver)
    (h : followAll m visit t references = .ok (t', dependencies)) :
    Searches r m t ((references.map (r.dependency m)).filterMap (Resolver.target? m)) t' ∧
      dependencies = references.map (r.dependency m) := by
  induction references generalizing t dependencies with
  | nil =>
    simp only [followAll, Except.ok.injEq, Prod.mk.injEq] at h
    obtain ⟨rfl, rfl⟩ := h
    exact ⟨.refl hr, rfl⟩
  | cons ref rest ih =>
    obtain ⟨next, others, hnext, hothers, rfl⟩ := followAll_cons (hr.resolve_eq ref.name) h
    have hfirst := searches_follow hvisit (hr.resolve ref.name) hnext
    obtain ⟨hrest, rfl⟩ := ih hfirst.agrees hothers
    refine ⟨?_, rfl⟩
    have hall := (hfirst.append hrest).of_resolver
    rw [List.map_cons, List.filterMap_cons]
    cases htarget : Resolver.target? m (r.dependency m ref) <;>
      simpa only [htarget, Option.toList_none, Option.toList_some, List.nil_append,
        List.singleton_append] using hall

/-- Entering a module, searching what it requires and leaving it again is a search of its path. -/
theorem Searches.visit {path : Path} {bytes : Bytes} {last : Traversal}
    (hactive : t.active.any (·.same path) = false) (hnew : t.graph.contains path = false)
    (hread : m.read path = .ok bytes)
    (h : Searches r m ((t.enter path).record path (discover (lossyString bytes)).dynamic)
      (r.successors m path) last) :
    Searches r m t [path] (last.leave path (r.dependenciesAt m path)) := by
  obtain ⟨order, back, hsearch, hdone⟩ := h
  have hfresh : path.components ∉ t.graph.keys.map Path.components :=
    contains_eq_false_iff_not_mem.1 hnew
  have hidle : path.components ∉ t.active.map Path.components := by
    simpa [Path.same_iff] using hactive
  have hkeys : (t.graph.insert path ⟨path, []⟩).keys = t.graph.keys ++ [path] :=
    keys_insert_of_not_contains _ hnew
  have hnodes : last.graph.nodes =
      t.graph.nodes ++ (path, ⟨path, []⟩) :: order.map (r.nodeAt m) := by
    have := hdone.nodes
    rw [show ((t.enter path).record path (discover (lossyString bytes)).dynamic).graph =
      t.graph.insert path ⟨path, []⟩ from rfl, nodes_insert_of_not_contains hnew] at this
    simpa only [List.append_assoc, List.singleton_append] using this
  have hinner : DepthFirst Path.components (r.successors m) (path :: t.active)
      (t.graph.keys ++ [path]) (r.successors m path) order back := hkeys ▸ hsearch
  have hlater : ∀ n ∈ order.map (r.nodeAt m), n.1.components ≠ path.components := by
    intro n hn heq
    obtain ⟨p, hp, rfl⟩ := List.mem_map.1 hn
    exact hinner.key_not_mem hp (by simp [show p.components = path.components from heq])
  have hbefore : ∀ n ∈ t.graph.nodes, n.1.components ≠ path.components := fun n hn heq ↦
    hfresh (heq ▸ List.mem_map_of_mem (List.mem_map_of_mem hn))
  have hsearched := DepthFirst.enter hidle hfresh hinner (.done _ _)
  rw [List.append_nil, List.append_nil] at hsearched
  refine ⟨path :: order, back, hsearched, hdone.resolver, ?_, ?_, ?_, ?_, ?_, ?_⟩
  · rw [leave, hdone.active]
    simpa [enter, record, List.filter_cons, List.filter_eq_self] using hactive
  · rw [leave, entry_insert, hdone.entry]
    exact entry_insert
  · exact nodes_insert_of_nodes hnodes hbefore hlater
  · rw [leave, cycles_insert, hdone.cycles, record, enter, cycles_insert]
  · rw [leave, hdone.dynamic, List.flatMap_cons, ← List.append_assoc, Machine.dynamicSites,
      Machine.requires_of_read hread]
    rfl
  · intro p hp
    rcases List.mem_cons.1 hp with rfl | hp
    · exact ⟨bytes, hread⟩
    · exact hdone.read p hp

/-- **A visit that succeeds searches its path.** -/
theorem searches_visit {depth : Nat} {target : Path} (hr : r.Agrees m t.resolver)
    (h : visit m depth t target = .ok t') : Searches r m t [m.normalize target] t' := by
  induction depth using Nat.strongRecOn generalizing t t' target with
  | ind depth ih =>
  rcases visit_cases h with ⟨⟨p, hp, heq⟩, rfl⟩ | ⟨hactive, hcontains, rfl⟩ |
    ⟨hactive, hnew, below, bytes, last, dependencies, rfl, hread, hfollow, rfl⟩
  · refine ⟨[], [m.normalize target], .wayBack ?_ (.done _ _), hr, rfl, entry_addCycle .., ?_,
      cycles_addCycle .., by simp, by simp⟩
    · exact heq ▸ List.mem_map_of_mem hp
    · simp [nodes_addCycle]
  · refine ⟨[], [], .passOver ?_ (contains_eq_true_iff_mem.1 hcontains) (.done _ _), .refl hr⟩
    simpa [Path.same_iff] using hactive
  · obtain ⟨hsearch, hdeps⟩ := searches_followAll
      (fun t target t' hvisit hr ↦ ih below (Nat.lt_succ_self below) hr hvisit)
      (t := (t.enter (m.normalize target)).record (m.normalize target) _) hr hfollow
    have hat : r.dependenciesAt m (m.normalize target) = dependencies := by
      rw [Resolver.dependenciesAt, Machine.requires_of_read hread, hdeps]
    rw [← hdeps, ← hat] at hsearch
    rw [← hat]
    exact .visit hactive hnew hread hsearch

/-! ### Why a visit fails -/

/-- A module that cannot be read, and the error that says so. -/
def Unreadable (r : Resolver) (m : Machine) (start : Path) (e : GraphError) : Prop :=
  ∃ p cause, e = .read p cause ∧ r.LeadsTo m start p ∧ m.read p = .error cause

/-- What following references does when it fails. -/
theorem followAll_cons_error {visit : Traversal → Path → Except GraphError Traversal}
    {ref : Reference} {rest : List Reference} {answer : Resolution} {resolver : Resolver}
    {e : GraphError} (hanswer : t.resolver.resolve m ref.name = (answer, resolver))
    (h : followAll m visit t (ref :: rest) = .error e) :
    (∃ target, answer = .project target ∧ visit { t with resolver } target = .error e) ∨
      ∃ next, (match answer with
        | .project target => visit { t with resolver } target
        | _ => .ok { t with resolver }) = .ok next ∧ followAll m visit next rest = .error e := by
  simp only [followAll, hanswer] at h
  have hrest : ∀ next, (do
      let found ← followAll m visit next rest
      pure (found.1, (⟨ref.name, answer⟩ : Dependency) :: found.2)) = Except.error e →
      followAll m visit next rest = .error e := by
    intro next hnext
    rcases Except.bind_eq_error_iff.1 hnext with hrest | ⟨_, -, hpure⟩
    · exact hrest
    · simp [pure, Except.pure] at hpure
  cases answer with
  | project target =>
    rcases Except.bind_eq_error_iff.1 h with hfirst | ⟨next, hnext, h⟩
    · exact .inl ⟨target, rfl, hfirst⟩
    · exact .inr ⟨next, hnext, hrest next h⟩
  | runtime path => exact .inr ⟨_, rfl, hrest _ h⟩
  | unresolved => exact .inr ⟨_, rfl, hrest _ h⟩

/-- If following references fails, one of them leads to a module that cannot be read, provided that
this is why a visit fails. -/
theorem unreadable_of_followAll {visit : Traversal → Path → Except GraphError Traversal} {n : Nat}
    (hvisit : ∀ t target t', visit t target = .ok t' → r.Agrees m t.resolver →
      Searches r m t [m.normalize target] t')
    (herror : ∀ t target e, visit t target = .error e → r.Agrees m t.resolver →
      r.remaining m t.graph.keys ≤ n → m.normalize target ∈ r.targets m →
      Unreadable r m (m.normalize target) e)
    {references : List Reference} {e : GraphError}
    (hmem : ∀ ref ∈ references, ∀ target, r.answer m ref.name = .project target →
      m.normalize target ∈ r.targets m)
    (hr : r.Agrees m t.resolver) (hn : r.remaining m t.graph.keys ≤ n)
    (h : followAll m visit t references = .error e) :
    ∃ ref ∈ references, ∃ target, r.answer m ref.name = .project target ∧
      Unreadable r m (m.normalize target) e := by
  induction references generalizing t with
  | nil => simp [followAll] at h
  | cons ref rest ih =>
    have hasked := hr.resolve ref.name
    rcases followAll_cons_error (hr.resolve_eq ref.name) h with ⟨target, htarget, hfirst⟩ |
      ⟨next, hnext, hrest⟩
    · have href := List.mem_cons_self (a := ref) (l := rest)
      exact ⟨ref, href, target, htarget,
        herror _ target e hfirst hasked hn (hmem ref href target htarget)⟩
    · obtain ⟨order, back, -, hdone⟩ := searches_follow hvisit hasked hnext
      have hn' : r.remaining m next.graph.keys ≤ n := by
        rw [hdone.keys]
        exact Nat.le_trans (Resolver.remaining_append_le _ _) hn
      obtain ⟨ref', href', hfound⟩ := ih (fun ref' href' ↦ hmem ref' (List.mem_cons_of_mem _ href'))
        hdone.resolver hn' hrest
      exact ⟨ref', List.mem_cons_of_mem _ href', hfound⟩

/-- **A visit fails only at a module that cannot be read**, if it may nest deeper than there are
modules left that files require. -/
theorem unreadable_of_visit {depth : Nat} {target : Path} {e : GraphError}
    (hr : r.Agrees m t.resolver)
    (hdepth : (m.normalize target).components ∉ t.graph.keys.map Path.components →
      r.remaining m (t.graph.keys ++ [m.normalize target]) < depth)
    (h : visit m depth t target = .error e) : Unreadable r m (m.normalize target) e := by
  induction depth using Nat.strongRecOn generalizing t target e with
  | ind depth ih =>
  obtain ⟨hcontains, hcases⟩ := visit_error_cases h
  have hleft := hdepth (contains_eq_false_iff_not_mem.1 hcontains)
  rcases hcases with rfl | ⟨cause, hread, rfl⟩ | ⟨below, bytes, rfl, hread, hfollow⟩
  · exact absurd hleft (Nat.not_lt_zero _)
  · exact ⟨_, cause, rfl, .refl, hread⟩
  · let entered : Traversal := (t.enter (m.normalize target)).record (m.normalize target)
      (discover (lossyString bytes)).dynamic
    have hkeys : entered.graph.keys = t.graph.keys ++ [m.normalize target] :=
      keys_insert_of_not_contains _ hcontains
    obtain ⟨ref, href, next, hnext, p, cause, rfl, hlead, hcause⟩ :=
      unreadable_of_followAll (fun t target t' hvisit hr ↦ searches_visit hr hvisit)
        (fun t target e hvisit hr hn hmem ↦ ih below (Nat.lt_succ_self below) hr (fun hnew ↦
          Nat.lt_of_lt_of_le (Resolver.remaining_append_lt hmem hnew) hn) hvisit)
        (fun ref href target htarget ↦ Resolver.mem_targets hread href htarget)
        (t := entered) hr (hkeys ▸ Nat.le_of_lt_succ hleft) hfollow
    refine ⟨p, cause, rfl, .head ?_ hlead, hcause⟩
    refine Resolver.mem_successors_iff.2 ⟨r.dependency m ref, ?_, next, hnext, rfl⟩
    rw [Resolver.dependenciesAt, Machine.requires_of_read hread]
    exact List.mem_map_of_mem href

end Traversal

end LuaBundler
