import LuaBundler.Job.Analysis
import LuaBundler.Proofs.Graph.Reachability
import LuaBundler.Proofs.Search.Agreement

/-!
# The files of a graph

The nodes of a graph are kept under normalized paths, and a search finds files under others. Both
are read as the same bytes: where the names of a normalized path lead, those of the path lead as
well (`Graph.Holds.exists_node`).

So the requires of a project module are references of the graph wherever its file was found
(`Graph.Holds.requires_of_lookUp`), and those of the entry are wherever it is read from
(`Graph.Holds.requires_of_entry`).
-/

namespace LuaBundler

open Text Files

theorem Files.text_join_project_ne (π : Place) (file : String) :
    ((Place.path π).join ⟨file⟩).text ≠ "" := by
  by_cases hfile : (⟨file⟩ : Path).isAbsolute = true
  · rw [Path.join, if_pos hfile]
    exact text_ne_of_isAbsolute hfile
  · refine text_ne_of_isAbsolute ?_
    rw [isAbsolute_join (text_ne_of_isAbsolute (Place.isAbsolute_path π)) (by simpa using hfile),
      Place.isAbsolute_path]

/-- A file named from the project directory is the one that its name leads to from there. -/
theorem Files.Machine.leads_join_project {m : Machine} {π E : Place} {file : String} {c : Nat}
    (hm : m.WellFormed) (hπ : m.tree.get? π = some .dir) :
    m.tree.Leads (origin m.cwd ((Place.path π).join ⟨file⟩).text)
        (bare (namesOf ((Place.path π).join ⟨file⟩).text)) c E ↔
      m.tree.Leads (origin π (Path.join ⟨"."⟩ ⟨file⟩).text)
        (bare (namesOf (Path.join ⟨"."⟩ ⟨file⟩).text)) c E := by
  by_cases hfile : (⟨file⟩ : Path).isAbsolute = true
  · rw [Path.join, Path.join, if_pos hfile, if_pos hfile, origin_of_isAbsolute hfile,
      origin_of_isAbsolute hfile]
  · have hrel : (⟨file⟩ : Path).isAbsolute = false := by simpa using hfile
    have hsome : (m.tree.get? π).isSome := Option.isSome_of_eq_some hπ
    rw [origin_join (text_ne_of_isAbsolute (Place.isAbsolute_path π)) hrel,
      origin_join (by decide) hrel, namesOf_join hrel, namesOf_join hrel,
      origin_of_isAbsolute (Place.isAbsolute_path π), origin_of_not_isAbsolute (by decide),
      Place.namesOf_path (hm.tree.isName_of_mem hsome), bare_append, bare_append,
      hm.tree.bare_eq_self hsome, leads_root_append hm.tree hπ,
      show bare (namesOf ".") = [] by decide, List.nil_append]

namespace Files.Machine

variable {m m' : Machine} {p q : Path} {π : Place} {bytes other : Bytes}

/-- The names of a path lead to an entry with some bytes, however many links they pass. -/
def LeadsToBytes (m : Machine) (p : Path) (bytes : Bytes) : Prop :=
  ∃ E node c, m.tree.Leads (origin m.cwd p.text) (bare (namesOf p.text)) c E ∧
    m.tree.get? E = some node ∧ node.contents? = some bytes

theorem LeadsToBytes.unique (h : m.LeadsToBytes p bytes) (h' : m.LeadsToBytes p other) :
    other = bytes := by
  obtain ⟨E, node, c, hleads, hnode, hcontents⟩ := h
  obtain ⟨E', node', d, hleads', hnode', hcontents'⟩ := h'
  obtain rfl := (hleads.unique hleads').2
  obtain rfl : node = node' := by simpa [hnode] using hnode'
  simpa [hcontents'] using hcontents

/-- A path that can be read leads to what is read. -/
theorem leadsToBytes_of_read (hm : m.tree.WellFormed) (h : m.read p = .ok bytes) :
    m.LeadsToBytes p bytes := by
  obtain ⟨E, node, hentry, hcontents⟩ := read_eq_ok_iff.1 h
  obtain ⟨-, -, ⟨c, -, hleads⟩, hnode⟩ := (entryAt?_eq_ok_iff hm).1 hentry
  have hbare := hleads.bare
  rw [bare_steps] at hbare
  exact ⟨E, node, c, hbare, hnode, hcontents⟩

/-- **What is read at a path that was normalized twice is what the path leads to.** -/
theorem leadsToBytes_of_normalize (hm : m.WellFormed) (hne : p.text ≠ "")
    (hq : q.components = (m.normalize (m.normalize p)).components) (h : m.read q = .ok bytes) :
    m.LeadsToBytes p bytes := by
  have hnormal := normalize_isAbsolute hm hne
  have htwice := normalize_isAbsolute hm (text_ne_of_isAbsolute hnormal)
  have habs : q.isAbsolute = true := by
    rwa [isAbsolute_iff_head?, hq, ← isAbsolute_iff_head?]
  obtain ⟨E, node, c, hleads, hnode, hcontents⟩ := leadsToBytes_of_read hm.tree h
  -- from `q` back to the path normalized once, and from there to `p`
  rw [origin_of_isAbsolute habs, bare_namesOf, hq, ← bare_namesOf] at hleads
  obtain ⟨d, hd⟩ := leads_of_leads_normalize hm (text_ne_of_isAbsolute hnormal) hleads
  rw [origin_of_isAbsolute hnormal] at hd
  obtain ⟨e, he⟩ := leads_of_leads_normalize hm hne hd
  exact ⟨E, node, e, he, hnode, hcontents⟩

/-- A file that is read from the project directory is the one that its path leads to, also when the
tree has got more entries. -/
theorem read_entry_unique {file : String} (hm : m.WellFormed) (hm' : m'.WellFormed)
    (hgrows : m.tree.Grows m'.tree) (hπ : m.tree.get? π = some .dir)
    (h : m.LeadsToBytes ((Place.path π).join ⟨file⟩) bytes)
    (hread : read { m' with cwd := π } (Path.join ⟨"."⟩ ⟨file⟩) = .ok other) : other = bytes := by
  obtain ⟨E, node, c, hleads, hnode, hcontents⟩ := h
  rw [leads_join_project hm hπ] at hleads
  have hgrown : LeadsToBytes { m' with cwd := π } (Path.join ⟨"."⟩ ⟨file⟩) bytes :=
    ⟨E, node, c, hleads.mono hgrows, hgrows hnode, hcontents⟩
  exact hgrown.unique (leadsToBytes_of_read (m := { m' with cwd := π }) hm'.tree hread)

end Files.Machine

namespace Graph

/-- The names that the modules of a graph require. -/
def referenced (g : Graph) : List String :=
  g.references.map (·.2.name)

variable {g : Graph} {r : Resolver} {m here : Machine} {entry p : Path} {name : String}
  {bytes : Bytes} {E π : Place}

theorem mem_referenced : name ∈ g.referenced ↔
    ∃ n ∈ g.nodes, ∃ d ∈ n.2.dependencies, d.name = name := by
  simp only [referenced, references, List.map_flatMap, List.map_map, List.mem_flatMap, List.mem_map,
    Function.comp_apply]

namespace Holds

/-- The requires of a module of a graph are among its references. -/
theorem requires_subset (h : Holds r m entry g) {n : Path × ModuleNode} (hn : n ∈ g.nodes)
    (hread : m.read n.2.path = .ok bytes) : requiresOf bytes ⊆ g.referenced := by
  intro name hname
  obtain ⟨bytes', hread', hdeps⟩ := (h.read n hn).dependencies
  obtain rfl : bytes = bytes' := by simpa [hread] using hread'
  refine mem_referenced.2 ⟨n, hn, ⟨name, r.lookUp m name⟩, ?_, rfl⟩
  rw [hdeps]
  exact List.mem_map_of_mem hname

/-- Each reference of a graph has the resolution of its name. -/
theorem resolution_eq (h : Holds r m entry g) {n : Path × ModuleNode} (hn : n ∈ g.nodes)
    {d : Dependency} (hd : d ∈ n.2.dependencies) : d.resolution = r.lookUp m d.name := by
  obtain ⟨bytes, -, hdeps⟩ := (h.read n hn).dependencies
  rw [hdeps, Resolver.dependencies] at hd
  obtain ⟨name, -, rfl⟩ := List.mem_map.1 hd
  rfl

/-- A project module that is referenced has a node. -/
theorem contains_of_referenced (h : Holds r m entry g) (hname : name ∈ g.referenced)
    (htarget : r.lookUp m name = .project p) : g.contains (m.normalize p) = true := by
  obtain ⟨n, hn, d, hd, rfl⟩ := mem_referenced.1 hname
  exact (h.read n hn).targets d hd p ((h.resolution_eq hn hd).trans htarget)

/-- The node of a path that was normalized twice is read as what the path leads to. -/
theorem exists_node (h : Holds r m entry g) (hm : m.WellFormed) (hne : p.text ≠ "")
    (hp : g.contains (m.normalize (m.normalize p)) = true) :
    ∃ n ∈ g.nodes, n.1.components = (m.normalize (m.normalize p)).components ∧
      ∃ bytes, m.read n.2.path = .ok bytes ∧ m.LeadsToBytes p bytes := by
  obtain ⟨n, hn, hkey⟩ := contains_eq_true_iff.1 hp
  obtain ⟨bytes, hread, -⟩ := (h.read n hn).dependencies
  exact ⟨n, hn, hkey, bytes, hread,
    Machine.leadsToBytes_of_normalize hm hne ((h.path n hn).trans hkey) hread⟩

/-- **What a project module requires is referenced, wherever its file is found.** -/
theorem requires_of_lookUp (h : Holds r m entry g) (hm : m.WellFormed) (hne : p.text ≠ "")
    (hname : name ∈ g.referenced) (hlook : r.lookUp m name = .project (m.normalize p))
    (hread : m.read p = .ok bytes) : requiresOf bytes ⊆ g.referenced := by
  obtain ⟨n, hn, -, bytes', hread', hleads⟩ :=
    h.exists_node hm hne (h.contains_of_referenced hname hlook)
  obtain rfl := hleads.unique (Machine.leadsToBytes_of_read hm.tree hread)
  exact h.requires_subset hn hread'

/-- The entry is a module of the graph. -/
theorem exists_entry {file : String}
    (h : Holds r m (m.normalize ((Place.path π).join ⟨file⟩)) g) (hm : m.WellFormed) :
    ∃ n ∈ g.nodes,
      n.1.components = (m.normalize (m.normalize ((Place.path π).join ⟨file⟩))).components ∧
      ∃ bytes, m.read n.2.path = .ok bytes ∧ m.LeadsToBytes ((Place.path π).join ⟨file⟩) bytes :=
  h.exists_node hm (Files.text_join_project_ne π file) h.contains_entry

/-- **What the entry requires is referenced**, when it is read from the project directory and the
tree has got more entries. -/
theorem requires_of_entry {m' : Machine} {file : String}
    (h : Holds r m (m.normalize ((Place.path π).join ⟨file⟩)) g) (hm : m.WellFormed)
    (hm' : m'.WellFormed) (hgrows : m.tree.Grows m'.tree) (hπ : m.tree.get? π = some .dir)
    (hread : Machine.read { m' with cwd := π } (Path.join ⟨"."⟩ ⟨file⟩) = .ok bytes) :
    requiresOf bytes ⊆ g.referenced := by
  obtain ⟨n, hn, -, bytes', hread', hleads⟩ := h.exists_entry hm
  obtain rfl := Machine.read_entry_unique hm hm' hgrows hπ hleads hread
  exact h.requires_subset hn hread'

end Holds

end Graph

end LuaBundler
