import LuaBundler.Proofs.Bundle.Reachability
import LuaBundler.Proofs.Graph.Contents
import LuaBundler.Proofs.Search.Shadowing

/-!
# The worker misses no module

An analysis that leaves nothing unresolved finds every module that is required; the worker searches
again, in the tree with the stubs. It misses none (`collect_ne_moduleNotFound`): what the worker
finds for a name that the graph references requires, in turn, only such names
(`exists_locate_of_referenced`), so it never looks for another one.

What a search finds is the project module, as before, or a stub, which requires nothing — unless
something that is no stub stands where a stub should be, or has come to light while stubs were
created. A stub path that leads to something is left alone without a warning, so for these the claim
has to be assumed (`Stub.Settled`): a directory there is never found, and a file there is read by the
worker but not by the analysis (`not_collect_of_directory`, `not_collect_of_file`).
-/

namespace LuaBundler

open Text Files Stub

/-! ### Searches -/

/-- The first hit among more hits that is a hit among fewer is the first of these. -/
theorem find?_of_imp {α : Type} {p q : α → Bool} {xs : List α} {x : α}
    (hpq : ∀ y, p y = true → q y = true) (h : xs.find? q = some x) (hx : p x = true) :
    xs.find? p = some x := by
  obtain ⟨-, before, after, hsplit, hbefore⟩ := List.find?_eq_some_iff_append.1 h
  refine List.find?_eq_some_iff_append.2 ⟨hx, before, after, hsplit, fun y hy ↦ ?_⟩
  have hnot : q y = false := by simpa using hbefore y hy
  rw [Bool.not_eq_true', ← Bool.not_eq_true]
  intro hp
  simp [hpq y hp] at hnot

namespace Resolver

variable {r : Resolver} {m : Machine} {name : String} {stem : Path}

/-- A name with a resolution has a stem. -/
theorem exists_stem (h : r.lookUp m name ≠ .unresolved) :
    ∃ stem, ModuleName.stem? name = some stem := by
  cases hstem : ModuleName.stem? name with
  | none => simp [lookUp, hstem] at h
  | some stem => exact ⟨stem, rfl⟩

/-- A name that no root contains is a runtime module or unresolved. -/
theorem isRuntime_lookUp (hstem : ModuleName.stem? name = some stem)
    (h : findInRoots m stem r.roots = none) (hresolved : r.lookUp m name ≠ .unresolved) :
    (r.lookUp m name).isRuntime = true := by
  simp only [lookUp, hstem, h] at hresolved ⊢
  split at hresolved
  · rfl
  · exact absurd rfl hresolved

end Resolver

/-! ### Stubs -/

namespace Stub

variable {m m' : Machine} {s : Stubs} {p : Path}

/-- A stub requires nothing. -/
theorem requiresOf_body : requiresOf (encodeString body) = [] := by decide +kernel

theorem Created.read_of_leadsToStub (h : Created m m' s) (hp : LeadsToStub m' s p) :
    m'.read p = .ok (encodeString body) := by
  obtain ⟨stub, hstub, -, heq⟩ := hp
  obtain ⟨q, -, hentry⟩ := h.stub stub hstub
  exact Machine.read_of_isFile (heq.trans hentry)

/-- What the stub paths of modules lead to are stubs, or files that were there before and require
known names only. -/
structure Settled (m m' : Machine) (s : Stubs) (project : Path) (modules known : List String) :
    Prop where
  old : ∀ module ∈ modules, ∀ p, path? project module = some p → m.exists p = true →
    m.isFile p = true ∧ ∀ bytes, m.read p = .ok bytes → requiresOf bytes ⊆ known
  new : ∀ module ∈ modules, ∀ p, path? project module = some p → m.exists p = false →
    m'.exists p = true → LeadsToStub m' s p

/-- A settled stub path leads to a file that requires known names only. -/
theorem Settled.isFile {project : Path} {modules known : List String} {module : String}
    (h : Settled m m' s project modules known) (hcreated : Created m m' s) (hm : m.WellFormed)
    (hmodule : module ∈ modules) (hp : path? project module = some p)
    (hnow : m'.exists p = true) :
    ∃ bytes, m'.isFile p = true ∧ m'.read p = .ok bytes ∧ requiresOf bytes ⊆ known := by
  cases hexists : m.exists p with
  | true =>
    obtain ⟨hfile, hknown⟩ := h.old module hmodule p hp hexists
    obtain ⟨E, bytes, executable, hentry⟩ := Machine.isFile_eq_true_iff.1 hfile
    have hgrown := Machine.entryAt?_of_grows hm hcreated.wellFormed hcreated.grows hentry
    exact ⟨bytes, Machine.isFile_eq_true_iff.2 ⟨E, bytes, executable, hgrown⟩,
      Machine.read_of_isFile hgrown, hknown bytes (Machine.read_of_isFile hentry)⟩
  | false =>
    have hstub := h.new module hmodule p hp hexists hnow
    exact ⟨_, hcreated.isFile_of_leadsToStub hstub, hcreated.read_of_leadsToStub hstub,
      by simp [requiresOf_body]⟩

end Stub

/-! ### Jobs -/

namespace Job

variable {job : Job} {m m' start here : Machine} {analysis : Analysis} {s : Stubs} {text : String}
  {warnings : List Warning} {name : String}

/-- A job on the way to its worker: the analysis has left nothing unresolved, stubs have made `m'` of
`m`, and the worker is given the search path and starts in the project directory. -/
structure Prepared (job : Job) (m : Machine) (analysis : Analysis) (warnings : List Warning)
    (m' : Machine) (s : Stubs) (here : Machine) (text : String) : Prop where
  wellFormed : m.WellFormed
  project : m.normalize job.project = job.project
  isDir : m.isDir job.project = true
  analyze : job.analyze m = .ok analysis
  resolved : ensureResolved analysis.graph = .ok ()
  stubs : createAll m .empty job.project analysis.runtimeNames = (warnings, m', s)
  enter : m'.enter job.project = .ok here
  searchPath : job.searchPath m' = .ok text

/-- The roots of a job are such that the worker searches them as they are. -/
structure Searchable (job : Job) (m : Machine) (text : String) (names : List String) : Prop where
  expressible : ∀ root ∈ job.roots, Expressible m job.project root
  takes : ∀ name ∈ names, ∀ stem, ModuleName.stem? name = some stem → ∀ root ∈ job.roots,
    ∀ c ∈ ModuleName.candidates root stem, m.Takes c
  length_le : ∀ name ∈ names, ∀ t ∈ SearchPath.templatesOf text,
    byteLength (SearchPath.candidate ⟨"."⟩ name t).text.toList ≤ maxPath

theorem graph_holds (h : job.analyze m = .ok analysis) :
    Graph.Holds ⟨job.roots, job.runtime, []⟩ m (m.normalize job.entryPath) analysis.graph ∧
      analysis.runtimeNames = analysis.graph.runtimeNames := by
  obtain ⟨built, hbuilt, rfl⟩ := analyze_eq_ok_iff.1 h
  exact ⟨Graph.holds_build hbuilt, rfl⟩

end Job

namespace Graph.Holds

variable {g : Graph} {r : Resolver} {m : Machine} {entry : Path} {name : String}

/-- In a graph that passes, every reference has a resolution. -/
theorem lookUp_ne_unresolved (h : Holds r m entry g) (hresolved : Job.ensureResolved g = .ok ())
    (hname : name ∈ g.referenced) : r.lookUp m name ≠ .unresolved := by
  obtain ⟨n, hn, d, hd, rfl⟩ := mem_referenced.1 hname
  have hnone : g.unresolved = [] := Job.ensureResolved_eq_ok_iff.1 hresolved
  rw [unresolved, List.map_eq_nil_iff, List.filter_eq_nil_iff] at hnone
  intro hlook
  refine hnone (n.2, d) (List.mem_flatMap.2 ⟨n, hn, List.mem_map_of_mem hd⟩) ?_
  rw [h.resolution_eq hn hd, hlook]
  rfl

/-- A reference to a runtime module is one of the runtime names. -/
theorem mem_runtimeNames_of_lookUp (h : Holds r m entry g) (hname : name ∈ g.referenced)
    (hruntime : (r.lookUp m name).isRuntime = true) : name ∈ g.runtimeNames := by
  obtain ⟨n, hn, d, hd, rfl⟩ := mem_referenced.1 hname
  refine mem_runtimeNames.2 ⟨(n.2, d), List.mem_flatMap.2 ⟨n, hn, List.mem_map_of_mem hd⟩, ?_, rfl⟩
  rwa [h.resolution_eq hn hd]

/-- A runtime name is looked up as a runtime module. -/
theorem isRuntime_of_mem_runtimeNames (h : Holds r m entry g) (hname : name ∈ g.runtimeNames) :
    name ∈ g.referenced ∧ (r.lookUp m name).isRuntime = true := by
  obtain ⟨⟨source, d⟩, href, hruntime, rfl⟩ := mem_runtimeNames.1 hname
  obtain ⟨n, hn, hd⟩ := List.mem_flatMap.1 href
  obtain ⟨d', hd', heq⟩ := List.mem_map.1 hd
  obtain ⟨-, rfl⟩ := Prod.mk.inj heq
  exact ⟨mem_referenced.2 ⟨n, hn, d', hd', rfl⟩, h.resolution_eq hn hd' ▸ hruntime⟩

end Graph.Holds

namespace Job.Prepared

variable {job : Job} {m m' here : Machine} {analysis : Analysis} {warnings : List Warning}
  {s : Stubs} {text name : String} {stem : Path}

/-- Where the worker starts, and what stubbing has done. -/
theorem place (h : Prepared job m analysis warnings m' s here text) :
    ∃ π, m.tree.get? π = some .dir ∧ job.project = Place.path π ∧ here = { m' with cwd := π } ∧
      m'.normalize job.project = job.project ∧ Created m m' s := by
  obtain ⟨π, hentry⟩ := Machine.isDir_eq_true_iff.1 h.isDir
  have hpath : job.project = Place.path π := by
    rw [← h.project, Machine.normalize_of_entryAt? hentry]
  have hcreated := created_createAll (created_empty h.wellFormed) h.stubs
  have hgrown :=
    Machine.entryAt?_of_grows h.wellFormed hcreated.wellFormed hcreated.grows hentry
  obtain ⟨π', hentry', rfl⟩ := Machine.enter_eq_ok_iff.1 h.enter
  obtain rfl : π = π' := by simpa [hgrown] using hentry'
  exact ⟨π, Machine.get?_of_entryAt? hentry, hpath, rfl,
    by rw [Machine.normalize_of_entryAt? hgrown, hpath], hcreated⟩

/-- Without a warning, the stub path of a runtime module leads to something. -/
theorem exists_stub (h : Prepared job m analysis [] m' s here text)
    (hname : name ∈ analysis.runtimeNames) {p : Path} (hp : path? job.project name = some p) :
    m'.exists p = true := by
  obtain ⟨-, hexists⟩ := creates_createAll h.wellFormed h.stubs
  obtain ⟨q, hq, hexists⟩ := hexists rfl name hname
  obtain rfl : p = q := by simpa [hp] using hq
  exact hexists

/-- The project's own template gives the stub path of a name. -/
theorem sameEntry_stub (h : Prepared job m analysis warnings m' s here text) {p : Path}
    (hp : path? job.project name = some p)
    (hlen : ∀ t ∈ SearchPath.templatesOf text,
      byteLength (SearchPath.candidate ⟨"."⟩ name t).text.toList ≤ maxPath)
    (hfile : m'.isFile p = true) :
    Machine.SameEntry m' here p (SearchPath.candidate ⟨"."⟩ name "./?.lua") := by
  obtain ⟨π, -, hpath, -, hproject, hcreated⟩ := h.place
  obtain ⟨stem, hstem, hplain, rfl⟩ := path?_eq_some_iff.1 hp
  have habs : job.project.isAbsolute = true := by rw [hpath, Place.isAbsolute_path]
  obtain ⟨rest, hrest, hempty⟩ := relativeTo?_self habs
  have hroot : Job.Expressible m' job.project job.project := by
    refine ⟨text_ne_of_isAbsolute habs, ?_⟩
    simp [hproject, Path.relativeTo, hrest, hempty]
  have hbase : Job.baseOf job.project (m'.normalize job.project) = .ok "." := by
    rw [hproject, Job.baseOf_self habs]
  have htemplates := SearchPath.map_candidate_templatesOf ⟨"."⟩ (Job.not_mem_baseOf hbase).2 hstem
  simp only [Job.templatesOf, ModuleName.filesOf, List.map_cons, List.cons.injEq] at htemplates
  have hlen' := hlen _ (Job.project_mem_templates (Job.templatesOf_searchPath h.searchPath))
  obtain ⟨E, bytes, executable, hentry⟩ := Machine.isFile_eq_true_iff.1 hfile
  obtain ⟨hne, hlength, -⟩ := (Machine.entryAt?_eq_ok_iff hcreated.wellFormed.tree).1 hentry
  have htakes := Machine.takes_of_entryAt?_ne hcreated.wellFormed hne hlength (by simp [hentry])
  rw [show "./?.lua" = "." ++ "/?.lua" by rfl, htemplates.1] at hlen' ⊢
  exact Machine.sameEntry_candidate hcreated.wellFormed hproject h.enter hroot hbase hplain htakes
    hlen'

/-- The file that the roots have for a referenced name after stubbing requires only such names: it was
there before, or it is a stub. -/
theorem requires_of_root (h : Prepared job m analysis warnings m' s here text)
    (hname : name ∈ analysis.graph.referenced) (hstem : ModuleName.stem? name = some stem) {x : Path}
    (hx : (job.roots.flatMap fun root ↦ ModuleName.candidates root stem).find? m'.isFile = some x)
    (hcover : ¬Uncovered m m' s x) :
    ∃ bytes, m'.read x = .ok bytes ∧ requiresOf bytes ⊆ analysis.graph.referenced := by
  obtain ⟨-, -, -, -, -, hcreated⟩ := h.place
  cases hold : m.isFile x with
  | true =>
    obtain ⟨E, bytes, executable, hentry⟩ := Machine.isFile_eq_true_iff.1 hold
    have hgrown :=
      Machine.entryAt?_of_grows h.wellFormed hcreated.wellFormed hcreated.grows hentry
    -- the analysis has found it as well, since nothing before it was a file then
    have hfound : findInRoots m stem job.roots = some x := by
      rw [findInRoots_eq_find?]
      exact find?_of_imp
        (fun c ↦ Machine.isFile_of_grows h.wellFormed hcreated.wellFormed hcreated.grows) hx hold
    have hlook := (Resolver.lookUp_eq_project_iff (r := ⟨job.roots, job.runtime, []⟩) hstem).2
      ⟨x, hfound, rfl⟩
    exact ⟨bytes, Machine.read_of_isFile hgrown,
      (Job.graph_holds h.analyze).1.requires_of_lookUp h.wellFormed
        ((Machine.entryAt?_eq_ok_iff h.wellFormed.tree).1 hentry).1 hname hlook
        (Machine.read_of_isFile hentry)⟩
  | false =>
    have hstub := (hcreated.leadsToStub_of_isFile h.wellFormed hold (List.find?_some hx) hcover).2
    exact ⟨_, hcreated.read_of_leadsToStub hstub, by simp [requiresOf_body]⟩

/-- A referenced name that no root has is that of a runtime module, and its stub path leads to a file
that requires only referenced names. -/
theorem requires_of_stub_path (h : Prepared job m analysis [] m' s here text)
    (hsettled : Settled m m' s job.project analysis.runtimeNames analysis.graph.referenced)
    (hname : name ∈ analysis.graph.referenced) (hstem : ModuleName.stem? name = some stem)
    (hnone : findInRoots m' stem job.roots = none) :
    ∃ p bytes, path? job.project name = some p ∧ m'.isFile p = true ∧ m'.read p = .ok bytes ∧
      requiresOf bytes ⊆ analysis.graph.referenced := by
  obtain ⟨-, -, -, -, -, hcreated⟩ := h.place
  obtain ⟨hgraph, hruntimes⟩ := Job.graph_holds h.analyze
  have hold : findInRoots m stem job.roots = none := by
    rw [findInRoots_eq_find?, List.find?_eq_none] at *
    exact fun c hc hfile ↦ hnone c hc
      (Machine.isFile_of_grows h.wellFormed hcreated.wellFormed hcreated.grows hfile)
  have hruntime : name ∈ analysis.runtimeNames := by
    rw [hruntimes]
    exact hgraph.mem_runtimeNames_of_lookUp hname (Resolver.isRuntime_lookUp hstem hold
      (hgraph.lookUp_ne_unresolved h.resolved hname))
  obtain ⟨p, hp⟩ : ∃ p, path? job.project name = some p := by simp [path?, hstem]
  obtain ⟨bytes, hfile, hbytes, hknown⟩ :=
    hsettled.isFile hcreated h.wellFormed hruntime hp (h.exists_stub hruntime hp)
  exact ⟨p, bytes, hp, hfile, hbytes, hknown⟩

/-- **What the worker finds for a name that the graph references requires only such names.** -/
theorem exists_locate_of_referenced (h : Prepared job m analysis [] m' s here text)
    (hsearch : Searchable job m' text analysis.graph.referenced)
    (hsettled : Settled m m' s job.project analysis.runtimeNames analysis.graph.referenced)
    (hcover : ∀ name ∈ analysis.graph.referenced, ∀ stem, ModuleName.stem? name = some stem →
      ∀ root ∈ job.roots, ∀ c ∈ ModuleName.candidates root stem, ¬Uncovered m m' s c)
    (hname : name ∈ analysis.graph.referenced) :
    ∃ f bytes, SearchPath.locate here ⟨"."⟩ (SearchPath.templatesOf text) name = some f ∧
      here.read f = .ok bytes ∧ requiresOf bytes ⊆ analysis.graph.referenced := by
  obtain ⟨-, -, -, -, hproject, hcreated⟩ := h.place
  obtain ⟨stem, hstem⟩ := Resolver.exists_stem
    ((Job.graph_holds h.analyze).1.lookUp_ne_unresolved h.resolved hname)
  have htemplates := Job.templatesOf_searchPath h.searchPath
  obtain ⟨bases, hbases, heq⟩ := Job.templates_eq_ok_iff.1 htemplates
  have hall := Except.forall₂_of_mapM hbases
  rw [List.forall₂_map_left_iff] at hall
  have hsame := forall₂_sameEntry hcreated.wellFormed hproject h.enter hstem hall
    hsearch.expressible (hsearch.takes name hname stem hstem) (fun base hbase t ht ↦
      hsearch.length_le name hname t (by
        rw [heq]
        exact List.mem_append_left _ (List.mem_flatMap.2 ⟨base, hbase, ht⟩)))
  rcases find?_of_forall₂ (p := m'.isFile) (q := here.isFile) (fun p q h ↦ h.isFile_eq) hsame with
    ⟨hnone, hnone'⟩ | ⟨x, y, hx, hy, hxy⟩
  · -- no template of a root finds it, so one of the project does
    rw [← findInRoots_eq_find?] at hnone
    obtain ⟨p, bytes, hp, hfile, hbytes, hknown⟩ :=
      h.requires_of_stub_path hsettled hname hstem hnone
    have hstub := h.sameEntry_stub hp (hsearch.length_le name hname) hfile
    have hcandidate : here.isFile (SearchPath.candidate ⟨"."⟩ name "./?.lua") = true := by
      rw [← hstub.isFile_eq, hfile]
    refine ⟨_, bytes, ?_, hstub.read_eq_ok hbytes, hknown⟩
    have hmem := Job.project_mem_templates htemplates
    rw [SearchPath.locate, heq, List.map_append, List.find?_append, hnone', Option.none_or]
    rw [heq] at hmem
    rcases List.mem_append.1 hmem with hmem | hmem
    · exact absurd hcandidate (List.find?_eq_none.1 hnone' _ (List.mem_map_of_mem hmem))
    · split at hmem
      · simp at hmem
      · rename_i hcovers
        rw [if_neg hcovers]
        simp [SearchPath.defaultTemplates, hcandidate]
  · obtain ⟨root, hroot, hc⟩ := List.mem_flatMap.1 (List.mem_of_find?_eq_some hx)
    obtain ⟨bytes, hbytes, hknown⟩ :=
      h.requires_of_root hname hstem hx (hcover name hname stem hstem root hroot x hc)
    refine ⟨y, bytes, ?_, hxy.read_eq_ok hbytes, hknown⟩
    rw [SearchPath.locate, heq, List.map_append, List.find?_append, hy]
    rfl

end Job.Prepared

variable {job : Job} {m m' here : Machine} {analysis : Analysis} {s : Stubs} {text : String}

/-- **A clean analysis means that the worker cannot miss a module**, as long as stub paths lead to
stubs or to files that require referenced names only, and stubbing uncovers no candidate. -/
theorem collect_ne_moduleNotFound (h : Job.Prepared job m analysis [] m' s here text)
    (hsearch : Job.Searchable job m' text analysis.graph.referenced)
    (hsettled : Settled m m' s job.project analysis.runtimeNames analysis.graph.referenced)
    (hcover : ∀ name ∈ analysis.graph.referenced, ∀ stem, ModuleName.stem? name = some stem →
      ∀ root ∈ job.roots, ∀ c ∈ ModuleName.candidates root stem, ¬Uncovered m m' s c)
    (name requiredBy searched : String) :
    Bundle.collect here ⟨"."⟩ (SearchPath.templatesOf text) job.entry ≠
      .error (.moduleNotFound name requiredBy searched) := by
  intro hcollect
  obtain ⟨source, p, bytes, hreach, hread, hname, -, hnone⟩ := Bundle.collect_notFound hcollect
  -- what a file that the entry leads to requires is referenced
  have hknown : ∀ bytes, here.read p = .ok bytes → requiresOf bytes ⊆ analysis.graph.referenced := by
    clear hread hname
    induction hreach with
    | entry =>
      intro bytes hread
      obtain ⟨π, hπ, hpath, rfl, -, hcreated⟩ := h.place
      have hgraph := (Job.graph_holds h.analyze).1
      rw [Job.entryPath, hpath] at hgraph
      exact hgraph.requires_of_entry h.wellFormed hcreated.wellFormed hcreated.grows.tree hπ hread
    | require _ hread hname _ hlocate ih =>
      intro bytes' hread'
      obtain ⟨f, bytes, hf, hbytes, hknown⟩ :=
        h.exists_locate_of_referenced hsearch hsettled hcover (ih _ hread hname)
      obtain rfl := Option.some.inj (hlocate.symm.trans hf)
      rw [hread', Except.ok.injEq] at hbytes
      rwa [hbytes]
  obtain ⟨f, -, hf, -⟩ :=
    h.exists_locate_of_referenced hsearch hsettled hcover (hknown bytes hread hname)
  rw [hnone] at hf
  simp at hf

/-! ### What stands at a stub path -/

/-- The machine after stubs of modules were created. -/
def Job.stubbed (job : Job) (m : Machine) (modules : List String) : Machine :=
  (createAll m .empty job.project modules).2.1

/-- The stubs of modules. -/
def Job.stubsOf (job : Job) (m : Machine) (modules : List String) : Stubs :=
  (createAll m .empty job.project modules).2.2

/-- A job on its way to the worker, by what its analysis says. -/
theorem Job.exists_prepared {modules names : List String} (hm : m.WellFormed)
    (hproject : m.normalize job.project = job.project) (hdir : m.isDir job.project = true)
    (hanalysis : (job.analyze m).map (fun a ↦
      (ensureResolved a.graph, a.runtimeNames, a.graph.referenced)) = .ok (.ok (), modules, names))
    (hstubs : (createAll m .empty job.project modules).1 = [])
    (henter : (job.stubbed m modules).enter job.project = .ok here)
    (htext : job.searchPath (job.stubbed m modules) = .ok text) :
    ∃ analysis, Prepared job m analysis [] (job.stubbed m modules) (job.stubsOf m modules) here
      text ∧ analysis.runtimeNames = modules ∧ analysis.graph.referenced = names := by
  obtain ⟨analysis, hanalyze, heq⟩ := Except.map_eq_ok_iff.1 hanalysis
  simp only [Prod.mk.injEq] at heq
  obtain ⟨hresolved, rfl, hnames⟩ := heq
  exact ⟨analysis, ⟨hm, hproject, hdir, hanalyze, hresolved, Prod.ext hstubs rfl, henter, htext⟩,
    rfl, hnames⟩

/-- A project whose entry requires the runtime module `net`, with more entries. -/
def projectAndRuntime (entries : List (Place × Node)) : Machine where
  tree := ⟨[(["p"], .dir), (["p", "Main.lua"], textFile "require('net')\n"), (["rt"], .dir),
    (["rt", "net.lua"], textFile "return \x7b\x7d\n")] ++ entries⟩
  cwd := []
  env := []

/-- A job on the project `/p` with the given roots and the runtime directory `/rt`. -/
def jobOnRuntime (roots : List String) : Job :=
  { jobOnLibrary with roots := roots.map .mk, runtime := some ⟨"/rt"⟩ }

/-- A runtime module whose stub is created is found as its stub. -/
theorem collect_ne_moduleNotFound_of_stub :
    let job := jobOnRuntime ["/p"]
    let stubbed := job.stubbed (projectAndRuntime []) ["net"]
    (job.stubsOf (projectAndRuntime []) ["net"]).files = [⟨"net", ⟨"/p/net.lua"⟩⟩] ∧
      ∀ name requiredBy searched, Bundle.collect { stubbed with cwd := ["p"] } ⟨"."⟩
        (SearchPath.templatesOf "./?.lua;./?/init.lua") job.entry ≠
        .error (.moduleNotFound name requiredBy searched) := by
  intro job stubbed
  have hm : (projectAndRuntime []).WellFormed :=
    ⟨Tree.wellFormed_of_entries (by decide +kernel), by decide +kernel⟩
  have hm' : stubbed.WellFormed :=
    ⟨Tree.wellFormed_of_entries (by decide +kernel), by decide +kernel⟩
  have hanalysis : (job.analyze (projectAndRuntime [])).map (fun a ↦
      (Job.ensureResolved a.graph, a.runtimeNames, a.graph.referenced)) =
      .ok (.ok (), ["net"], ["net"]) := by decide +kernel
  have henter : stubbed.enter job.project = .ok { stubbed with cwd := ["p"] } :=
    Machine.enter_eq_ok_iff.2 ⟨["p"], by decide +kernel, rfl⟩
  have htext : job.searchPath stubbed = .ok "./?.lua;./?/init.lua" := by decide +kernel
  have hpath : path? ⟨"/p"⟩ "net" = some ⟨"/p/net.lua"⟩ := by decide +kernel
  have hstem : ModuleName.stem? "net" = some ⟨"net"⟩ := by decide +kernel
  have hcandidates : ∀ c ∈ ModuleName.candidates ⟨"/p"⟩ ⟨"net"⟩, c.text ≠ "" ∧
      byteLength c.text.toList ≤ maxPath ∧ stubbed.entryAt? c ≠ .error .tooManyLinks ∧
      ¬Uncovered (projectAndRuntime []) stubbed (job.stubsOf (projectAndRuntime []) ["net"]) c := by
    decide +kernel
  obtain ⟨analysis, hprepared, hmodules, hnames⟩ := Job.exists_prepared hm (by decide +kernel)
    (by decide +kernel) hanalysis (by decide +kernel) henter htext
  refine ⟨by decide +kernel, collect_ne_moduleNotFound hprepared ⟨?_, ?_, ?_⟩ ⟨?_, ?_⟩ ?_⟩
  · simp only [job, jobOnRuntime, List.map_cons, List.map_nil, List.mem_singleton, forall_eq]
    exact ⟨by decide, by decide +kernel⟩
  · simp only [hnames, job, jobOnRuntime, List.map_cons, List.map_nil, List.mem_singleton,
      forall_eq, hstem, Option.some.injEq, forall_eq']
    intro c hc
    obtain ⟨h1, h2, h3, -⟩ := hcandidates c hc
    exact Machine.takes_of_entryAt?_ne hm' h1 h2 h3
  · rw [hnames]
    decide +kernel
  · simp only [hmodules, List.mem_singleton, forall_eq]
    intro p hp hexists
    obtain rfl : ⟨"/p/net.lua"⟩ = p := Option.some.inj (hpath.symm.trans hp)
    exact absurd hexists (by decide +kernel)
  · simp only [hmodules, List.mem_singleton, forall_eq]
    intro p hp _ _
    obtain rfl : ⟨"/p/net.lua"⟩ = p := Option.some.inj (hpath.symm.trans hp)
    decide +kernel
  · simp only [hnames, job, jobOnRuntime, List.map_cons, List.map_nil, List.mem_singleton,
      forall_eq, hstem, Option.some.injEq, forall_eq']
    exact fun c hc ↦ (hcandidates c hc).2.2.2

/-- **A directory at the stub path of a runtime module is left alone, and the worker finds nothing.**
-/
theorem not_collect_of_directory :
    ¬∀ (job : Job) (m m' here : Machine) (analysis : Analysis) (s : Stubs) (text : String),
      job.Prepared m analysis [] m' s here text → (∀ root ∈ job.roots, '\\' ∉ root.text.toList) →
      ∀ name requiredBy searched,
        Bundle.collect here ⟨"."⟩ (SearchPath.templatesOf text) job.entry ≠
          .error (.moduleNotFound name requiredBy searched) := by
  intro h
  let job := jobOnRuntime ["/p"]
  let m := projectAndRuntime [(["p", "net.lua"], .dir)]
  have hm : m.WellFormed := ⟨Tree.wellFormed_of_entries (by decide +kernel), by decide +kernel⟩
  have hanalysis : (job.analyze m).map (fun a ↦
      (Job.ensureResolved a.graph, a.runtimeNames, a.graph.referenced)) =
      .ok (.ok (), ["net"], ["net"]) := by decide +kernel
  have henter : (job.stubbed m ["net"]).enter job.project =
      .ok { job.stubbed m ["net"] with cwd := ["p"] } :=
    Machine.enter_eq_ok_iff.2 ⟨["p"], by decide +kernel, rfl⟩
  have htext : job.searchPath (job.stubbed m ["net"]) = .ok "./?.lua;./?/init.lua" := by
    decide +kernel
  obtain ⟨analysis, hprepared, -⟩ := Job.exists_prepared hm (by decide +kernel)
    (by decide +kernel) hanalysis (by decide +kernel) henter htext
  have hcollect : Bundle.collect { job.stubbed m ["net"] with cwd := ["p"] } ⟨"."⟩
      (SearchPath.templatesOf "./?.lua;./?/init.lua") job.entry =
      .error (.moduleNotFound "net" "Main.lua" "./?.lua;./?/init.lua") := by decide +kernel
  exact h _ _ _ _ _ _ _ hprepared (by decide) _ _ _ hcollect

/-- **A file at the stub path of a runtime module is read by the worker but not by the analysis.** -/
theorem not_collect_of_file :
    ∃ analysis m' s here text, (jobOnRuntime ["/p/src"]).Prepared
      (projectAndRuntime [(["p", "net.lua"], textFile "require('gone')\n")]) analysis [] m' s here
      text ∧ "gone" ∉ analysis.graph.referenced ∧
      Bundle.collect here ⟨"."⟩ (SearchPath.templatesOf text) "Main.lua" =
        .error (.moduleNotFound "gone" "net" text) := by
  let job := jobOnRuntime ["/p/src"]
  let m := projectAndRuntime [(["p", "net.lua"], textFile "require('gone')\n")]
  have hm : m.WellFormed := ⟨Tree.wellFormed_of_entries (by decide +kernel), by decide +kernel⟩
  have hanalysis : (job.analyze m).map (fun a ↦
      (Job.ensureResolved a.graph, a.runtimeNames, a.graph.referenced)) =
      .ok (.ok (), ["net"], ["net"]) := by decide +kernel
  have henter : (job.stubbed m ["net"]).enter job.project =
      .ok { job.stubbed m ["net"] with cwd := ["p"] } :=
    Machine.enter_eq_ok_iff.2 ⟨["p"], by decide +kernel, rfl⟩
  have htext : job.searchPath (job.stubbed m ["net"]) =
      .ok "./src/?.lua;./src/?/init.lua;./?.lua;./?/init.lua" := by decide +kernel
  obtain ⟨analysis, hprepared, -, hnames⟩ := Job.exists_prepared hm (by decide +kernel)
    (by decide +kernel) hanalysis (by decide +kernel) henter htext
  have hcollect : Bundle.collect { job.stubbed m ["net"] with cwd := ["p"] } ⟨"."⟩
      (SearchPath.templatesOf "./src/?.lua;./src/?/init.lua;./?.lua;./?/init.lua") "Main.lua" =
      .error (.moduleNotFound "gone" "net" "./src/?.lua;./src/?/init.lua;./?.lua;./?/init.lua") := by
    decide +kernel
  exact ⟨analysis, _, _, _, _, hprepared, by rw [hnames]; decide, hcollect⟩

end LuaBundler
