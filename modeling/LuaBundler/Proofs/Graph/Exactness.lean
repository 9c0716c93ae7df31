import LuaBundler.Proofs.Graph.Contents

/-!
# The graph is the reachable project

A graph that was built has the modules that its entry leads to and no others, in the order in which
a depth-first search enters them (`BuiltGraph.Exact`, `Graph.build_spec`). This holds of every
resolver, also of one that knows answers already. If no graph is built, then because one of these
modules cannot be read.

Modules are told apart by the components of their normalized paths. Two such paths may have different
texts; they are read as the same bytes (`Files.Machine.read_congr`), and so lead to the same modules.
-/

namespace LuaBundler

open Text Files Relation

namespace Files.Machine

variable {m : Machine} {p q : Path} {bytes other : Bytes}

/-- A normalized path that can be read is absolute. -/
theorem isAbsolute_of_read_normalize (hm : m.WellFormed) (h : m.read (m.normalize p) = .ok bytes) :
    (m.normalize p).isAbsolute = true := by
  by_cases hne : p.text = ""
  · obtain rfl : p = ⟨""⟩ := congrArg Path.mk hne
    have hempty : m.entryAt? ⟨""⟩ = .error .notFound := rfl
    have hnormal : m.normalize ⟨""⟩ = ⟨""⟩ := rfl
    rw [hnormal, read, hempty] at h
    simp at h
  · exact normalize_isAbsolute hm hne

/-- Absolute paths with the same components are read as the same bytes. -/
theorem read_congr (hm : m.WellFormed) (hp : p.isAbsolute = true) (hq : q.isAbsolute = true)
    (h : p.components = q.components) (hread : m.read p = .ok bytes)
    (hread' : m.read q = .ok other) : other = bytes := by
  have hlead : m.LeadsToBytes q bytes := by
    obtain ⟨E, node, c, hleads, hnode, hcontents⟩ := leadsToBytes_of_read hm.tree hread
    rw [origin_of_isAbsolute hp, bare_namesOf, h, ← bare_namesOf] at hleads
    exact ⟨E, node, c, by rwa [origin_of_isAbsolute hq], hnode, hcontents⟩
  exact hlead.unique (leadsToBytes_of_read hm.tree hread')

end Files.Machine

/-- A graph and its dynamic requires are those of what an entry leads to. -/
structure BuiltGraph.Exact (r : Resolver) (m : Machine) (entry : Path) (built : BuiltGraph) :
    Prop where
  /-- The graph is that of the normalized entry. -/
  entry_eq : built.graph.entry = m.normalize entry
  /-- The entry comes first. -/
  head? : built.graph.keys.head? = some (m.normalize built.graph.entry)
  /-- An entry that can be read has one normal form. -/
  same_entry : (∃ bytes, m.read entry = .ok bytes) →
    (m.normalize built.graph.entry).same built.graph.entry = true
  /-- The modules are in the order in which a depth-first search enters them. -/
  search : ∃ back, DepthFirst Path.components (r.successors m) [] []
    [m.normalize built.graph.entry] built.graph.keys back ∧
    built.graph.cycles = back.foldl Graph.noteCycle []
  /-- Each module is there once. -/
  nodup : (built.graph.keys.map Path.components).Nodup
  /-- The modules are those that the entry leads to. -/
  contains_iff : ∀ p, built.graph.contains p = true ↔
    ∃ q, r.LeadsTo m (m.normalize built.graph.entry) q ∧ q.same p = true
  leadsTo : ∀ p ∈ built.graph.keys, r.LeadsTo m (m.normalize built.graph.entry) p
  read : ∀ p ∈ built.graph.keys, ∃ bytes, m.read p = .ok bytes
  /-- Each has its own path, and the literal requires of its file with the answers to them. -/
  nodes : built.graph.nodes = built.graph.keys.map (r.nodeAt m)
  dynamic : built.dynamic = built.graph.keys.flatMap m.dynamicSites

namespace Graph

variable {r : Resolver} {m : Machine} {entry p : Path}

/-- Normalizing the path of something that can be read twice is normalizing it once. -/
theorem same_normalize_normalize (hm : m.WellFormed) {bytes : Bytes}
    (h : m.read entry = .ok bytes) :
    (m.normalize (m.normalize entry)).same (m.normalize entry) = true := by
  obtain ⟨E, node, hentry, -⟩ := Machine.read_eq_ok_iff.1 h
  rw [Machine.normalize_of_entryAt? hentry]
  exact Machine.same_normalize_path hm (Machine.isLive_of_entryAt? hm hentry)

/-- What a module leads to is a normalized path. -/
theorem exists_normalize_of_leadsTo {start : Path} (h : r.LeadsTo m (m.normalize start) p) :
    ∃ q, p = m.normalize q := by
  rcases ReflTransGen.cases_tail h with heq | ⟨p', -, hp⟩
  · exact ⟨start, heq⟩
  · obtain ⟨_, -, target, -, rfl⟩ := Resolver.mem_successors_iff.1 hp
    exact ⟨target, rfl⟩

/-- Modules that the entry leads to are among those that a search enters. -/
theorem mem_keys_of_leadsTo (hm : m.WellFormed) {start : Path} {order back : List Path}
    (hsearch : DepthFirst Path.components (r.successors m) [] [] [m.normalize start] order back)
    (hread : ∀ p ∈ order, ∃ bytes, m.read p = .ok bytes) (h : r.LeadsTo m (m.normalize start) p) :
    p.components ∈ order.map Path.components := by
  obtain ⟨hstart, hnext⟩ := hsearch.covered (by simp)
  rw [List.nil_append] at hstart hnext
  have hnormal : ∀ q ∈ order, ∃ q', q = m.normalize q' := by
    intro q hq
    obtain ⟨v, hv, hlead⟩ := hsearch.exists_reflTransGen hq
    obtain rfl := List.mem_singleton.1 hv
    exact exists_normalize_of_leadsTo hlead
  induction h with
  | refl => exact hstart _ (List.mem_singleton_self _)
  | @tail p q hlead hq ih =>
    obtain ⟨k, hk, hkey⟩ := List.mem_map.1 ih
    obtain ⟨bytes, hbytes⟩ := hread k hk
    obtain ⟨k', rfl⟩ := hnormal k hk
    obtain ⟨p', rfl⟩ := exists_normalize_of_leadsTo hlead
    -- the module entered for `p` is read as `p` is, so it requires the same
    have hrequires : m.requires (m.normalize p') = m.requires (m.normalize k') := by
      cases hp : m.read (m.normalize p') with
      | error cause => simp [Resolver.successors, Resolver.dependenciesAt, Machine.requires, hp] at hq
      | ok other =>
        obtain rfl := Machine.read_congr hm (Machine.isAbsolute_of_read_normalize hm hbytes)
          (Machine.isAbsolute_of_read_normalize hm hp) hkey hbytes hp
        rw [Machine.requires_of_read hp, Machine.requires_of_read hbytes]
    rw [Resolver.successors, Resolver.dependenciesAt, hrequires] at hq
    exact hnext _ hk q hq

/-- **Building a graph ends, with exactly what the entry leads to** or at a module that the entry
leads to and that cannot be read. -/
theorem build_spec (hm : m.WellFormed) (r : Resolver) (entry : Path) :
    (∀ built, build m r entry = .ok built → built.Exact r m entry) ∧
      ∀ e, build m r entry = .error e → ∃ p cause, e = .read p cause ∧
        r.LeadsTo m (m.normalize (m.normalize entry)) p ∧ m.read p = .error cause := by
  have hagrees : r.Agrees m r := fun _ ↦ rfl
  constructor
  · intro built h
    obtain ⟨t, ht, h⟩ := Except.bind_eq_ok_iff.1 h
    simp only [pure, Except.pure, Except.ok.injEq] at h
    subst h
    obtain ⟨order, back, hsearch, hdone⟩ :=
      Traversal.searches_visit (t := ⟨r, .start (m.normalize entry), [], []⟩) hagrees ht
    have hkeys : t.graph.keys = order := hdone.keys
    have hentry : t.graph.entry = m.normalize entry := hdone.entry
    have hnodes : t.graph.nodes = order.map (r.nodeAt m) := hdone.nodes
    have hdynamic : t.dynamic = order.flatMap m.dynamicSites := hdone.dynamic
    have hsearch' : DepthFirst Path.components (r.successors m) [] []
        [m.normalize t.graph.entry] order back := by rwa [hentry]
    have hleads : ∀ p ∈ order, r.LeadsTo m (m.normalize t.graph.entry) p := by
      intro p hp
      obtain ⟨v, hv, hlead⟩ := hsearch'.exists_reflTransGen hp
      rwa [List.mem_singleton.1 hv] at hlead
    refine ⟨hentry, ?_, ?_, ⟨back, hkeys ▸ hsearch', hdone.cycles⟩, ?_, fun p ↦ ?_, hkeys ▸ hleads,
      hkeys ▸ hdone.read, hkeys ▸ hnodes, hkeys ▸ hdynamic⟩
    · rw [hkeys]
      exact hsearch'.head?_order (by simp) (by simp)
    · rintro ⟨bytes, hread⟩
      rw [hentry]
      exact same_normalize_normalize hm hread
    · rw [hkeys]
      exact hsearch'.nodup
    · rw [contains_eq_true_iff_mem, hkeys]
      constructor
      · intro hp
        obtain ⟨q, hq, hsame⟩ := List.mem_map.1 hp
        exact ⟨q, hleads q hq, (Path.same_iff ..).2 hsame⟩
      · rintro ⟨q, hq, hsame⟩
        rw [← (Path.same_iff ..).1 hsame]
        exact mem_keys_of_leadsTo hm hsearch' hdone.read hq
  · intro e h
    rcases Except.bind_eq_error_iff.1 h with h | ⟨_, -, h⟩
    · exact Traversal.unreadable_of_visit
        (t := ⟨r, .start (m.normalize entry), [], []⟩) hagrees
        (fun _ ↦ Nat.lt_succ_of_le (Resolver.remaining_le _)) h
    · simp [pure, Except.pure] at h

/-! ### A project with a link and a cycle -/

/-- A project whose entry requires a module under two names, one of them a link, and is required by
it. -/
def linkedProject : Machine where
  tree := ⟨[(["p"], .dir),
    (["p", "Main.lua"], .file (encodeString "require'a'require'b'") false),
    (["p", "a.lua"], .file (encodeString "require'Main'") false),
    (["p", "b.lua"], .link "a.lua")]⟩
  cwd := ["p"]
  env := []

theorem wellFormed_linkedProject : linkedProject.WellFormed :=
  ⟨Tree.wellFormed_of_entries (by decide +kernel), by decide +kernel⟩

/-- Its graph has the two files, and the entry as a way back. -/
theorem exists_build_linkedProject :
    ∃ built, build linkedProject ⟨[⟨"."⟩], none, []⟩ ⟨"Main.lua"⟩ = .ok built ∧
      built.graph.keys = [⟨"/p/Main.lua"⟩, ⟨"/p/a.lua"⟩] ∧
      built.graph.cycles = [⟨"/p/Main.lua"⟩] := by
  have hgraph : (build linkedProject ⟨[⟨"."⟩], none, []⟩ ⟨"Main.lua"⟩).toOption.map
      (fun built ↦ (built.graph.keys, built.graph.cycles)) =
        some ([⟨"/p/Main.lua"⟩, ⟨"/p/a.lua"⟩], [⟨"/p/Main.lua"⟩]) := by
    decide +kernel
  obtain ⟨built, hbuild, hgraph⟩ := Except.exists_of_toOption_map hgraph
  obtain ⟨hkeys, hcycles⟩ := Prod.mk.inj hgraph
  exact ⟨built, hbuild, hkeys, hcycles⟩

/-- It is exactly what the entry leads to. -/
theorem exact_build_linkedProject :
    linkedProject.WellFormed ∧ ∃ built,
      build linkedProject ⟨[⟨"."⟩], none, []⟩ ⟨"Main.lua"⟩ = .ok built ∧
      built.graph.keys = [⟨"/p/Main.lua"⟩, ⟨"/p/a.lua"⟩] ∧
      built.Exact ⟨[⟨"."⟩], none, []⟩ linkedProject ⟨"Main.lua"⟩ := by
  obtain ⟨built, hbuild, hkeys, -⟩ := exists_build_linkedProject
  exact ⟨wellFormed_linkedProject, built, hbuild, hkeys,
    (build_spec wellFormed_linkedProject _ _).1 built hbuild⟩

end Graph

end LuaBundler
