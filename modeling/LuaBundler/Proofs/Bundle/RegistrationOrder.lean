import LuaBundler.Proofs.Bundle.Reachability
import LuaBundler.Proofs.Graph.Exactness
import LuaBundler.Proofs.Graph.Precedence
import Mathlib.Data.List.Nodup

/-!
# The order of registrations

A graph has its modules in the order in which a depth-first search enters them; a bundle registers
modules as its work list goes through them. On a project where both find the same files
(`Bundle.Mirrors`) these are the same modules, the entry first (`Bundle.registration_order`).

The orders are not always the same. The work list marks a name when it is seen first, and so settles
where its module will be registered; the search enters a module below the last module that requires
it before it is entered. Where a module requires another one that a module required earlier requires
as well, the two may differ (`Bundle.not_registration_order`). They do not if no module is required by
two that come before it in the graph.
-/

namespace LuaBundler

open Text Files Source

/-- The module that a require leads to. Modules are told by the components of their paths. -/
def Dependency.key? (d : Dependency) : Option (List Component) :=
  d.resolution.projectPath?.map Path.components

/-- The modules that a module of a graph requires, in source order. -/
def Graph.requiredBy (g : Graph) (a : List Component) : List (List Component) :=
  (g.nodes.find? fun n ↦ n.1.components = a).elim [] fun n ↦
    n.2.dependencies.filterMap Dependency.key?

/-- The entry is registered under a name of its own, the other modules under those by which they are
required. -/
def Graph.IsName (g : Graph) (name : String) : Prop :=
  name = Bundle.rootName ∨ name ∈ g.referenced

namespace Bundle

section

variable (m : Machine) (dir : Path) (templates : List String) (file : String)

/-- The file that is registered under a name. -/
def fileOf (name : String) : Option Path :=
  if name = rootName then some (dir.join ⟨file⟩) else SearchPath.locate m dir templates name

/-- The module of that file. -/
def fileKey? (name : String) : Option (List Component) :=
  (fileOf m dir templates file name).map fun f ↦ (m.normalize f).components

/-- What a name is told by. -/
def fileKey (name : String) : List Component :=
  (fileKey? m dir templates file name).getD []

/-- A search path that leads to the files that a graph has: each require is one of a project module
and found in its file, each file is required under one name, and the entry under none. -/
structure Mirrors (g : Graph) : Prop where
  isFile_entry : m.isFile (dir.join ⟨file⟩) = true
  entry_eq : g.entry = m.normalize (dir.join ⟨file⟩)
  /-- The engine finds the file that the resolver found. -/
  located : ∀ x ∈ g.references, (SearchPath.locate m dir templates x.2.name).map
    (fun f ↦ Resolution.project (m.normalize f)) = some x.2.resolution
  /-- No file is required under two names. -/
  one_name : ∀ x ∈ g.references, ∀ y ∈ g.references, x.2.key? = y.2.key? → x.2.name = y.2.name
  /-- The entry is not required by name. -/
  ne_entry : ∀ x ∈ g.references, x.2.key? ≠ some g.entry.components
  /-- The name of the entry is not used for another module. -/
  ne_root : ∀ x ∈ g.references, x.2.name ≠ rootName

end

variable {r : Resolver} {m : Machine} {entry dir f k : Path} {templates seen seen' : List String}
  {file name other display searched : String} {built : BuiltGraph} {g : Graph}
  {x : ModuleNode × Dependency} {bytes : Bytes}

/-! ### Files -/

/-- A file can be read, and its path is normalized once and for all. -/
theorem read_of_isFile (hm : m.WellFormed) (h : m.isFile f = true) : ∃ bytes, m.read f = .ok bytes ∧
    (m.normalize (m.normalize f)).components = (m.normalize f).components := by
  obtain ⟨E, bytes, executable, hentry⟩ := Machine.isFile_eq_true_iff.1 h
  have hread := Machine.read_of_isFile hentry
  exact ⟨bytes, hread, (Path.same_iff ..).1 (Graph.same_normalize_normalize hm hread)⟩

namespace Mirrors

/-- Where a require of the graph is located. -/
theorem exists_file (h : Mirrors m dir templates file g) (hx : x ∈ g.references) :
    ∃ f, fileOf m dir templates file x.2.name = some f ∧ m.isFile f = true ∧
      x.2.resolution = .project (m.normalize f) := by
  obtain ⟨f, hf, hresolution⟩ := Option.map_eq_some_iff.1 (h.located x hx)
  exact ⟨f, by rw [fileOf, if_neg (h.ne_root x hx), hf], List.find?_some hf, hresolution.symm⟩

/-- The file that is registered under a required name is the one that the graph has for it. -/
theorem fileKey?_eq (h : Mirrors m dir templates file g) (hx : x ∈ g.references) :
    fileKey? m dir templates file x.2.name = x.2.key? := by
  obtain ⟨f, hf, -, hresolution⟩ := h.exists_file hx
  rw [fileKey?, hf, Dependency.key?, hresolution]
  rfl

theorem fileKey?_rootName (h : Mirrors m dir templates file g) :
    fileKey? m dir templates file rootName = some g.entry.components := by
  rw [fileKey?, fileOf, if_pos rfl, h.entry_eq]
  rfl

/-- **A file is registered under one name.** -/
theorem eq_of_fileKey?_eq (h : Mirrors m dir templates file g)
    (hname : g.IsName name) (hother : g.IsName other)
    (heq : fileKey? m dir templates file name = fileKey? m dir templates file other) :
    name = other := by
  rcases hname with rfl | hname <;> rcases hother with rfl | hother
  · rfl
  · obtain ⟨x, hx, rfl⟩ := List.mem_map.1 hother
    rw [h.fileKey?_rootName, h.fileKey?_eq hx] at heq
    exact absurd heq.symm (h.ne_entry x hx)
  · obtain ⟨x, hx, rfl⟩ := List.mem_map.1 hname
    rw [h.fileKey?_rootName, h.fileKey?_eq hx] at heq
    exact absurd heq (h.ne_entry x hx)
  · obtain ⟨x, hx, rfl⟩ := List.mem_map.1 hname
    obtain ⟨y, hy, rfl⟩ := List.mem_map.1 hother
    rw [h.fileKey?_eq hx, h.fileKey?_eq hy] at heq
    exact h.one_name x hx y hy heq

end Mirrors

/-! ### The modules of a graph -/

/-- The requires of a module of an exact graph are references. -/
theorem mem_references_of_exact (hg : built.Exact r m entry) (hk : k ∈ built.graph.keys)
    {d : Dependency} (hd : d ∈ r.dependenciesAt m k) :
    (⟨k, r.dependenciesAt m k⟩, d) ∈ built.graph.references := by
  rw [Graph.references, List.mem_flatMap]
  refine ⟨r.nodeAt m k, ?_, List.mem_map_of_mem hd⟩
  rw [hg.nodes]
  exact List.mem_map_of_mem hk

theorem exists_of_mem_references (hg : built.Exact r m entry) (hx : x ∈ built.graph.references) :
    ∃ k ∈ built.graph.keys, x.2 ∈ r.dependenciesAt m k := by
  obtain ⟨n, hn, hx⟩ := List.mem_flatMap.1 hx
  rw [hg.nodes] at hn
  obtain ⟨k, hk, rfl⟩ := List.mem_map.1 hn
  obtain ⟨d, hd, rfl⟩ := List.mem_map.1 hx
  exact ⟨k, hk, hd⟩

/-- What the graph has for a module that is required. -/
theorem requiredBy_eq (hg : built.Exact r m entry) (hk : k ∈ built.graph.keys) :
    built.graph.requiredBy k.components = (r.dependenciesAt m k).filterMap Dependency.key? := by
  have hfind : built.graph.nodes.find? (fun n ↦ n.1.components = k.components) =
      some (r.nodeAt m k) := by
    have hnode : r.nodeAt m k ∈ built.graph.nodes := by
      rw [hg.nodes]
      exact List.mem_map_of_mem hk
    cases hfind : built.graph.nodes.find? fun n ↦ n.1.components = k.components with
    | none => exact absurd (by simp [Resolver.nodeAt]) (List.find?_eq_none.1 hfind _ hnode)
    | some n =>
      have hsame := List.find?_some hfind
      have hn := List.mem_of_find?_eq_some hfind
      rw [hg.nodes] at hn
      obtain ⟨q, hq, rfl⟩ := List.mem_map.1 hn
      rw [List.inj_on_of_nodup_map hg.nodup hq hk (of_decide_eq_true hsame)]
  rw [Graph.requiredBy, hfind]
  rfl

namespace Mirrors

/-- The successors of a module are what the graph has for it. -/
theorem map_successors (hm : m.WellFormed) (hg : built.Exact r m entry)
    (h : Mirrors m dir templates file built.graph) (hk : k ∈ built.graph.keys) :
    (r.successors m k).map Path.components = built.graph.requiredBy k.components := by
  rw [requiredBy_eq hg hk, Resolver.successors, List.map_filterMap]
  refine List.filterMap_congr fun d hd ↦ ?_
  obtain ⟨f, -, hfile, hresolution⟩ := h.exists_file (mem_references_of_exact hg hk hd)
  obtain ⟨bytes, -, hnormal⟩ := read_of_isFile hm hfile
  simp only at hresolution
  simp [Resolver.target?, Dependency.key?, hresolution, Resolution.projectPath?, hnormal]

/-- A file that is registered has a node in the graph, where it is read as the same bytes. -/
theorem exists_key (hm : m.WellFormed) (hg : built.Exact r m entry)
    (h : Mirrors m dir templates file built.graph)
    (hname : built.graph.IsName name) :
    ∃ f k bytes, fileOf m dir templates file name = some f ∧ k ∈ built.graph.keys ∧
      k.components = (m.normalize f).components ∧ m.read f = .ok bytes ∧ m.read k = .ok bytes := by
  obtain ⟨f, hf, hfile, hcontains⟩ : ∃ f, fileOf m dir templates file name = some f ∧
      m.isFile f = true ∧ built.graph.contains (m.normalize (m.normalize f)) = true := by
    rcases hname with rfl | hname
    · refine ⟨dir.join ⟨file⟩, by rw [fileOf, if_pos rfl], h.isFile_entry, ?_⟩
      rw [← h.entry_eq]
      exact (hg.contains_iff _).2 ⟨_, .refl, Path.same_refl _⟩
    · obtain ⟨x, hx, rfl⟩ := List.mem_map.1 hname
      obtain ⟨f, hf, hfile, hresolution⟩ := h.exists_file hx
      obtain ⟨k, hk, hd⟩ := exists_of_mem_references hg hx
      refine ⟨f, hf, hfile, (hg.contains_iff _).2 ⟨_, (hg.leadsTo k hk).tail ?_, Path.same_refl _⟩⟩
      exact List.mem_filterMap.2 ⟨x.2, hd, by rw [Resolver.target?, hresolution]; rfl⟩
  obtain ⟨bytes, hread, hnormal⟩ := read_of_isFile hm hfile
  rw [Graph.contains_eq_true_iff_mem] at hcontains
  obtain ⟨k, hk, hkey⟩ := List.mem_map.1 hcontains
  obtain ⟨other, hother⟩ := hg.read k hk
  have hleads := Machine.leadsToBytes_of_normalize hm (Machine.text_ne_of_read hm.tree hread) hkey hother
  obtain rfl := hleads.unique (Machine.leadsToBytes_of_read hm.tree hread)
  exact ⟨f, k, bytes, hf, hk, hkey.trans hnormal, hread, hother⟩

theorem fileKey?_eq_some (hm : m.WellFormed) (hg : built.Exact r m entry)
    (h : Mirrors m dir templates file built.graph) (hname : built.graph.IsName name) :
    fileKey? m dir templates file name = some (fileKey m dir templates file name) := by
  obtain ⟨f, k, bytes, hf, -⟩ := h.exists_key hm hg hname
  rw [fileKey, fileKey?, hf]
  rfl

/-- Names are told by their modules. -/
theorem eq_of_fileKey_eq (hm : m.WellFormed) (hg : built.Exact r m entry)
    (h : Mirrors m dir templates file built.graph) (hname : built.graph.IsName name)
    (hother : built.graph.IsName other)
    (heq : fileKey m dir templates file name = fileKey m dir templates file other) :
    name = other := by
  refine h.eq_of_fileKey?_eq hname hother ?_
  rw [h.fileKey?_eq_some hm hg hname, h.fileKey?_eq_some hm hg hother, heq]

/-- A required name is that of a file on the search path. -/
theorem fileOf_eq_locate (h : Mirrors m dir templates file g) (hname : name ∈ g.referenced) :
    fileOf m dir templates file name = SearchPath.locate m dir templates name := by
  obtain ⟨x, hx, rfl⟩ := List.mem_map.1 hname
  rw [fileOf, if_neg (h.ne_root x hx)]

/-- **What a file that is registered requires** is what the graph has for it. -/
theorem requires_spec (hm : m.WellFormed) (hg : built.Exact r m entry)
    (h : Mirrors m dir templates file built.graph) (hname : built.graph.IsName name)
    (hf : fileOf m dir templates file name = some f) :
    ∃ bytes, m.read f = .ok bytes ∧ requiresOf bytes ⊆ built.graph.referenced ∧
      built.graph.requiredBy (fileKey m dir templates file name) =
        (requiresOf bytes).map (fileKey m dir templates file) := by
  obtain ⟨f', k, bytes, hf', hk, hkey, hread, hother⟩ := h.exists_key hm hg hname
  obtain rfl : f' = f := Option.some.inj (hf'.symm.trans hf)
  have hrequires : (r.dependenciesAt m k).map (·.name) = requiresOf bytes := by
    rw [Resolver.dependenciesAt, Machine.requires_of_read hother, List.map_map]
    rfl
  have hfileKey : fileKey m dir templates file name = k.components := by
    rw [fileKey, fileKey?, hf, hkey]
    rfl
  refine ⟨bytes, hread, fun required hrequired ↦ ?_, ?_⟩
  · rw [← hrequires] at hrequired
    obtain ⟨d, hd, rfl⟩ := List.mem_map.1 hrequired
    exact List.mem_map_of_mem (mem_references_of_exact hg hk hd)
  · rw [hfileKey, requiredBy_eq hg hk, ← hrequires, List.map_map,
      List.filterMap_eq_map_iff_forall_eq_some]
    intro d hd
    have hx := mem_references_of_exact hg hk hd
    exact (h.fileKey?_eq hx).symm.trans (h.fileKey?_eq_some hm hg (.inr (List.mem_map_of_mem hx)))

end Mirrors

/-! ### The work list -/

/-- New names are located in the order in which they are required. -/
theorem map_name_of_locateNew {locate : String → Option Path} {references : List Reference}
    {found : List Pending}
    (h : locateNew locate display searched seen references = .ok (found, seen')) :
    found.map (·.name) = Walk.fresh seen (references.map (·.name)) := by
  induction references generalizing seen found with
  | nil =>
    simp only [locateNew, Except.ok.injEq, Prod.mk.injEq] at h
    rw [← h.1]
    rfl
  | cons ref rest ih =>
    rw [List.map_cons, Walk.fresh]
    rcases locateNew_cons_ok h with ⟨hseen, hrest⟩ | ⟨hseen, path, others, -, hrest, rfl⟩
    · rw [if_pos hseen, ih hrest]
    · rw [if_neg hseen, List.map_cons, ih hrest]

/-- A module to read that is registered under a name of the graph, with its file. -/
def Pending.IsOf (m : Machine) (dir : Path) (templates : List String) (file : String) (g : Graph)
    (p : Pending) : Prop :=
  g.IsName p.name ∧ fileOf m dir templates file p.name = some p.path

variable {next : Pending} {work : List Pending}

namespace Mirrors

/-- A module of the graph is read: its file can be, and all that it requires is located. -/
theorem exists_ok_readModule (hm : m.WellFormed) (hg : built.Exact r m entry)
    (h : Mirrors m dir templates file built.graph)
    (hnext : next.IsOf m dir templates file built.graph) (seen : List String) :
    ∃ step, readModule m dir templates seen next = .ok step := by
  obtain ⟨bytes, hread, hsub, -⟩ := h.requires_spec hm hg hnext.1 hnext.2
  cases hstep : readModule m dir templates seen next with
  | ok step => exact ⟨step, rfl⟩
  | error e =>
    rcases readModule_eq_error hstep with ⟨cause, hfail, -⟩ | ⟨other, name, hread', hname, -, hnone, -⟩
    · simp [hread] at hfail
    · obtain rfl := Except.ok.inj (hread.symm.trans hread')
      obtain ⟨f, -, -, hf, -⟩ := h.exists_key hm hg (.inr (hsub hname))
      rw [h.fileOf_eq_locate (hsub hname), hnone] at hf
      simp at hf

/-- **Reading a module** of the graph leads to those that it requires, in source order. -/
theorem exists_readModule (hm : m.WellFormed) (hg : built.Exact r m entry)
    (h : Mirrors m dir templates file built.graph)
    (hnext : next.IsOf m dir templates file built.graph)
    (hseen : ∀ name ∈ seen, built.graph.IsName name) :
    ∃ step, readModule m dir templates seen next = .ok step ∧ step.module.name = next.name ∧
      (∀ p ∈ step.found, p.IsOf m dir templates file built.graph) ∧
      (∀ name ∈ step.seen, built.graph.IsName name) ∧
      step.found.map (fun p ↦ fileKey m dir templates file p.name) =
        Walk.fresh (seen.map (fileKey m dir templates file))
          (built.graph.requiredBy (fileKey m dir templates file next.name)) ∧
      ∀ a, a ∈ step.seen.map (fileKey m dir templates file) ↔
        a ∈ seen.map (fileKey m dir templates file) ∨
          a ∈ built.graph.requiredBy (fileKey m dir templates file next.name) := by
  obtain ⟨bytes, hread, hsub, hrequired⟩ := h.requires_spec hm hg hnext.1 hnext.2
  obtain ⟨step, hstep⟩ := h.exists_ok_readModule hm hg hnext seen
  obtain ⟨bytes', hread', hmodule, hnew⟩ := readModule_eq_ok hstep
  obtain rfl : bytes = bytes' := Except.ok.inj (hread.symm.trans hread')
  have hlocated := located_of_locateNew hnew
  have hmem : ∀ name, name ∈ step.seen ↔ name ∈ seen ∨ name ∈ requiresOf bytes := fun _ ↦
    hlocated.mem_seen_iff
  have hall : ∀ a ∈ seen ++ requiresOf bytes, built.graph.IsName a := fun a ha ↦
    (List.mem_append.1 ha).elim (hseen a) fun ha ↦ .inr (hsub ha)
  have hinj : ∀ a ∈ seen ++ requiresOf bytes, ∀ b ∈ seen ++ requiresOf bytes,
      fileKey m dir templates file a = fileKey m dir templates file b → a = b :=
    fun a ha b hb ↦ h.eq_of_fileKey_eq hm hg (hall a ha) (hall b hb)
  refine ⟨step, hstep, by rw [hmodule], fun p hp ↦ ?_,
    fun name hname ↦ hall name (List.mem_append.2 ((hmem name).1 hname)), ?_, fun a ↦ ?_⟩
  · obtain ⟨hname, hf⟩ := hlocated.located p hp
    exact ⟨.inr (hsub hname), (h.fileOf_eq_locate (hsub hname)).trans hf⟩
  · rw [hrequired, ← Walk.map_fresh hinj, requiresOf, ← map_name_of_locateNew hnew, List.map_map]
    rfl
  · rw [hrequired]
    simp only [List.mem_map, hmem, or_and_right, exists_or]

/-- **A work list goes through the graph by first sight**, and nothing fails. -/
theorem exists_collectFrom (hm : m.WellFormed) (hg : built.Exact r m entry)
    (h : Mirrors m dir templates file built.graph)
    (hwork : ∀ p ∈ work, p.IsOf m dir templates file built.graph)
    (hseen : ∀ name ∈ seen, built.graph.IsName name) :
    ∃ modules, collectFrom m dir templates work seen = .ok modules ∧
      (∀ x ∈ modules, built.graph.IsName x.name) ∧
      Walk.FirstSight built.graph.requiredBy (seen.map (fileKey m dir templates file))
        (work.map fun p ↦ fileKey m dir templates file p.name)
        (modules.map fun x ↦ fileKey m dir templates file x.name) := by
  induction work, seen using collectFrom.induct m dir templates with
  -- nothing is left, the next module fails, or it is registered and the rest follows
  | case1 seen => exact ⟨[], by rw [collectFrom], by simp, .done _⟩
  | case2 seen next rest e heq =>
    obtain ⟨step, hstep, -⟩ := h.exists_readModule hm hg (hwork next (List.mem_cons_self ..)) hseen
    simp [heq] at hstep
  | case3 seen next rest step heq _ ih =>
    have hnext := hwork next (List.mem_cons_self ..)
    obtain ⟨step', hstep, hname, hfound, hseen', hfresh, hmem⟩ :=
      h.exists_readModule hm hg hnext hseen
    obtain rfl : step = step' := Except.ok.inj (heq.symm.trans hstep)
    obtain ⟨modules, hmodules, hnames, hsight⟩ := ih (fun p hp ↦ (List.mem_append.1 hp).elim
      (hfound p) fun hp ↦ hwork p (List.mem_cons_of_mem _ hp)) hseen'
    refine ⟨step.module :: modules, ?_, fun x hx ↦ ?_, ?_⟩
    · rw [collectFrom_cons heq, hmodules]
      rfl
    · rcases List.mem_cons.1 hx with rfl | hx
      · exact hname ▸ hnext.1
      · exact hnames x hx
    · rw [List.map_append, hfresh] at hsight
      rw [List.map_cons, List.map_cons, hname]
      exact .take hmem hsight

end Mirrors

/-! ### The two orders -/

/-- **In which order modules are registered.** On a project where the search path leads to the files
of the graph, collecting a bundle succeeds. It registers the files of the graph, each once and the
entry first, always one that is seen first, where the graph has always one that is seen last. So the
orders are the same exactly if that of the graph keeps to the rule of first sight; and they are if no
module is required by two that come before it in the graph. -/
theorem registration_order (hm : m.WellFormed) (hbuild : Graph.build m r entry = .ok built)
    (h : Mirrors m dir templates file built.graph) :
    ∃ d order, collect m dir templates file = .ok d ∧
      d.names.map (fileKey? m dir templates file) = order.map some ∧
      order.head? = some built.graph.entry.components ∧
      order.Perm (built.graph.keys.map Path.components) ∧
      Walk.Chooses built.graph.requiredBy (Walk.SeenFirst built.graph.requiredBy) [] order ∧
      Walk.Chooses built.graph.requiredBy (Walk.SeenLast built.graph.requiredBy) []
        (built.graph.keys.map Path.components) ∧
      (order = built.graph.keys.map Path.components ↔
        Walk.Chooses built.graph.requiredBy (Walk.SeenFirst built.graph.requiredBy) []
          (built.graph.keys.map Path.components)) ∧
      (Walk.RequiredOnce built.graph.requiredBy [] (built.graph.keys.map Path.components) →
        order = built.graph.keys.map Path.components) := by
  have hg := (Graph.build_spec hm r entry).1 built hbuild
  have hroot : fileKey m dir templates file rootName = built.graph.entry.components :=
    Option.some.inj ((h.fileKey?_eq_some hm hg (.inl rfl)).symm.trans h.fileKey?_rootName)
  -- the engine begins with the entry, which is seen under the name of the root
  have hwork : ∀ p ∈ [(⟨rootName, dir.join ⟨file⟩, file⟩ : Pending)],
      p.IsOf m dir templates file built.graph := by
    simp [Pending.IsOf, Graph.IsName, fileOf]
  have hseen : ∀ name ∈ [rootName], built.graph.IsName name := by simp [Graph.IsName]
  obtain ⟨modules, hmodules, hnames, hsight⟩ := h.exists_collectFrom hm hg hwork hseen
  obtain ⟨back, hsearch, -⟩ := hg.search
  have hstart : (m.normalize built.graph.entry).components = built.graph.entry.components := by
    obtain ⟨bytes, -, hnormal⟩ := read_of_isFile hm h.isFile_entry
    rwa [← h.entry_eq] at hnormal
  have hkeys := Walk.depthFirst_map hsearch fun k hk ↦ h.map_successors hm hg hk
  simp only [List.map_cons, List.map_nil, hroot, hstart] at hsight hkeys
  refine ⟨{ Document.empty with modules }, _, by rw [collect, hmodules]; rfl, ?_,
    hsight.order_spec hkeys⟩
  rw [Document.names, List.map_map, List.map_map]
  exact List.map_congr_left fun x hx ↦ h.fileKey?_eq_some hm hg (hnames x hx)

instance (m : Machine) (dir : Path) (templates : List String) (file : String) (g : Graph) :
    Decidable (Mirrors m dir templates file g) :=
  decidable_of_iff (m.isFile (dir.join ⟨file⟩) = true ∧ g.entry = m.normalize (dir.join ⟨file⟩) ∧
      (∀ x ∈ g.references, (SearchPath.locate m dir templates x.2.name).map
        (fun f ↦ Resolution.project (m.normalize f)) = some x.2.resolution) ∧
      (∀ x ∈ g.references, ∀ y ∈ g.references, x.2.key? = y.2.key? → x.2.name = y.2.name) ∧
      (∀ x ∈ g.references, x.2.key? ≠ some g.entry.components) ∧
      ∀ x ∈ g.references, x.2.name ≠ rootName)
    ⟨fun ⟨h₁, h₂, h₃, h₄, h₅, h₆⟩ ↦ ⟨h₁, h₂, h₃, h₄, h₅, h₆⟩,
      fun h ↦ ⟨h.isFile_entry, h.entry_eq, h.located, h.one_name, h.ne_entry, h.ne_root⟩⟩

/-- A project whose modules are required once before they come in the graph, and again after it. -/
def nestedProject : Machine where
  tree := ⟨[(["p"], .dir),
    (["p", "Main.lua"], .file (encodeString "require'a'require'pkg'") false),
    (["p", "a.lua"], .file (encodeString "require'a.inner'") false),
    (["p", "a"], .dir), (["p", "a", "inner.lua"], .file [] false),
    (["p", "pkg"], .dir), (["p", "pkg", "init.lua"], .file (encodeString "require'a'") false)]⟩
  cwd := ["p"]
  env := []

/-- Its modules are registered in the order of the graph. -/
theorem registration_order_nestedProject :
    nestedProject.WellFormed ∧ ∃ built d order,
      Graph.build nestedProject ⟨[⟨"."⟩], none, []⟩ ⟨"Main.lua"⟩ = .ok built ∧
      Mirrors nestedProject ⟨"."⟩ SearchPath.defaultTemplates "Main.lua" built.graph ∧
      Walk.RequiredOnce built.graph.requiredBy [] (built.graph.keys.map Path.components) ∧
      built.graph.keys = [⟨"/p/Main.lua"⟩, ⟨"/p/a.lua"⟩, ⟨"/p/a/inner.lua"⟩, ⟨"/p/pkg/init.lua"⟩] ∧
      collect nestedProject ⟨"."⟩ SearchPath.defaultTemplates "Main.lua" = .ok d ∧
      d.names.map (fileKey? nestedProject ⟨"."⟩ SearchPath.defaultTemplates "Main.lua") =
        order.map some ∧
      order = built.graph.keys.map Path.components := by
  have hm : nestedProject.WellFormed :=
    ⟨Tree.wellFormed_of_entries (by decide +kernel), by decide +kernel⟩
  have hgraph : (Graph.build nestedProject ⟨[⟨"."⟩], none, []⟩ ⟨"Main.lua"⟩).toOption.map
      (fun built ↦ (decide (Mirrors nestedProject ⟨"."⟩ SearchPath.defaultTemplates "Main.lua"
        built.graph), decide (Walk.RequiredOnce built.graph.requiredBy []
          (built.graph.keys.map Path.components)), built.graph.keys)) =
        some (true, true,
          [⟨"/p/Main.lua"⟩, ⟨"/p/a.lua"⟩, ⟨"/p/a/inner.lua"⟩, ⟨"/p/pkg/init.lua"⟩]) := by
    decide +kernel
  obtain ⟨built, hbuild, hgraph⟩ := Except.exists_of_toOption_map hgraph
  simp only [Prod.mk.injEq, decide_eq_true_eq] at hgraph
  obtain ⟨hmirrors, honce, hkeys⟩ := hgraph
  obtain ⟨d, order, hd, hfiles, -, -, -, -, -, horder⟩ := registration_order hm hbuild hmirrors
  exact ⟨hm, built, d, order, hbuild, hmirrors, honce, hkeys, hd, hfiles, horder honce⟩

/-- A project whose entry requires a module that the first one requires as well, and another one
before it. -/
def forkedProject : Machine where
  tree := ⟨[(["p"], .dir),
    (["p", "Main.lua"], .file (encodeString "require'a'require'b'require'c'") false),
    (["p", "a.lua"], .file (encodeString "require'c'") false),
    (["p", "b.lua"], .file [] false), (["p", "c.lua"], .file [] false)]⟩
  cwd := ["p"]
  env := []

/-- **Modules need not be registered in the order of the graph**, though the search path leads to the
files of the graph: the last module is entered below the first one, and registered where it was seen
first. -/
theorem not_registration_order :
    forkedProject.WellFormed ∧ ∃ built d,
      Graph.build forkedProject ⟨[⟨"."⟩], none, []⟩ ⟨"Main.lua"⟩ = .ok built ∧
      Mirrors forkedProject ⟨"."⟩ SearchPath.defaultTemplates "Main.lua" built.graph ∧
      collect forkedProject ⟨"."⟩ SearchPath.defaultTemplates "Main.lua" = .ok d ∧
      built.graph.keys = [⟨"/p/Main.lua"⟩, ⟨"/p/a.lua"⟩, ⟨"/p/c.lua"⟩, ⟨"/p/b.lua"⟩] ∧
      d.names = [rootName, "a", "b", "c"] ∧
      d.names.map (fileKey? forkedProject ⟨"."⟩ SearchPath.defaultTemplates "Main.lua") ≠
        built.graph.keys.map (some ∘ Path.components) := by
  have hm : forkedProject.WellFormed :=
    ⟨Tree.wellFormed_of_entries (by decide +kernel), by decide +kernel⟩
  have hgraph : (Graph.build forkedProject ⟨[⟨"."⟩], none, []⟩ ⟨"Main.lua"⟩).toOption.map
      (fun built ↦ (decide (Mirrors forkedProject ⟨"."⟩ SearchPath.defaultTemplates "Main.lua"
        built.graph), built.graph.keys)) =
        some (true, [⟨"/p/Main.lua"⟩, ⟨"/p/a.lua"⟩, ⟨"/p/c.lua"⟩, ⟨"/p/b.lua"⟩]) := by
    decide +kernel
  have hnames : (collect forkedProject ⟨"."⟩ SearchPath.defaultTemplates "Main.lua").toOption.map
      Document.names = some [rootName, "a", "b", "c"] := by
    decide +kernel
  obtain ⟨built, hbuild, hgraph⟩ := Except.exists_of_toOption_map hgraph
  obtain ⟨d, hd, hnames⟩ := Except.exists_of_toOption_map hnames
  simp only [Prod.mk.injEq, decide_eq_true_eq] at hgraph
  obtain ⟨hmirrors, hkeys⟩ := hgraph
  refine ⟨hm, built, d, hbuild, hmirrors, hd, hkeys, hnames, ?_⟩
  rw [hnames, hkeys]
  decide +kernel

end Bundle

end LuaBundler
