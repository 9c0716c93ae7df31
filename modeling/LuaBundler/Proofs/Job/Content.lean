import LuaBundler.Proofs.Bundle.TextStripping
import LuaBundler.Proofs.Job.Stages
import LuaBundler.Proofs.Job.Worker
import LuaBundler.Proofs.Search.ProjectRoot

/-!
# What is in the bundle of a job

A job whose only root is its project directory bundles exactly what its graph says
(`run_content`): the entry, and each name that the graph has for a project module, with the contents
of the file that the graph has for it.

The analysis goes from file to file and the worker from name to name, on a tree with stubs in it. Two
inductions relate them: what the worker reads requires nothing that the graph does not reference
(`requires_subset_referenced`), and what the graph reads requires nothing that the worker does not
register (`requires_subset_names`). Stubs require nothing, and they are what stripping takes out.

For this the system has to take the paths of all files of the project. A file whose path is too long
from the root is found by the worker alone, and a module that only this file requires is then in the
bundle and not in the graph (`not_run_content_of_long_path`).
-/

namespace LuaBundler

open Text Files Process Stub LuaBundler.Bundle

namespace Job

variable {job : Job} {m m' here : Machine} {analysis : Analysis} {warnings : List Warning}
  {s : Stubs} {text name : String} {π : Place} {d : Document} {p q : Path} {bytes : Bytes}

/-- The bundle that the worker of a job has collected from its project directory. -/
structure Gathered (job : Job) (m : Machine) (analysis : Analysis) (warnings : List Warning)
    (m' : Machine) (s : Stubs) (here : Machine) (text : String) (π : Place) (d : Document) :
    Prop where
  prepared : job.Prepared m analysis warnings m' s here text
  searches : job.SearchesProject m π
  addressable : m.tree.Addressable π
  registers : d.Registers here (SearchPath.locate here ⟨"."⟩ (SearchPath.templatesOf text))
    (Path.join ⟨"."⟩ ⟨job.entry⟩)
  root : rootName ∉ analysis.graph.referenced

namespace Gathered

/-- The graph of the analysis, and its entry seen from the project directory. -/
theorem holds (h : job.Gathered m analysis warnings m' s here text π d) :
    Graph.Holds ⟨job.roots, job.runtime, []⟩ m
        (m.normalize ((Place.path π).join ⟨job.entry⟩)) analysis.graph ∧
      analysis.runtimeNames = analysis.graph.runtimeNames := by
  have hgraph := graph_holds h.prepared.analyze
  rwa [entryPath, h.searches.project] at hgraph

/-- What the worker reads for its entry is what the path of the entry leads to. -/
theorem read_entry (h : job.Gathered m analysis warnings m' s here text π d)
    (hleads : m.LeadsToBytes ((Place.path π).join ⟨job.entry⟩) bytes) :
    ∀ other, here.read (Path.join ⟨"."⟩ ⟨job.entry⟩) = .ok other → other = bytes := by
  obtain ⟨π', hπ', hpath, rfl, -, hcreated⟩ := h.prepared.place
  rw [← h.searches.project, hpath] at hleads
  exact fun other hother ↦ Machine.read_entry_unique h.prepared.wellFormed hcreated.wellFormed
    hcreated.grows.tree hπ' hleads hother

/-- The entry is registered first, with what its path leads to. -/
theorem modules_eq_cons (h : job.Gathered m analysis warnings m' s here text π d)
    (hleads : m.LeadsToBytes ((Place.path π).join ⟨job.entry⟩) bytes) :
    ∃ rest, d.modules = ⟨rootName, lossyString bytes⟩ :: rest := by
  obtain ⟨⟨first, body⟩, rest, hmodules, rfl⟩ : ∃ x rest, d.modules = x :: rest ∧ x.name = rootName := by
    have hhead := h.registers.head
    rw [Document.names, List.head?_map, Option.map_eq_some_iff] at hhead
    obtain ⟨x, hx, hname⟩ := hhead
    obtain ⟨rest, hrest⟩ := List.head?_eq_some_iff.1 hx
    exact ⟨x, rest, hrest, hname⟩
  obtain ⟨f, other, hreach, hread, rfl⟩ := h.registers.reaches _ (hmodules ▸ List.mem_cons_self ..)
  rcases hreach.eq_or_locate with ⟨-, rfl⟩ | ⟨hne, -⟩
  · obtain rfl := h.read_entry hleads other hread
    exact ⟨rest, hmodules⟩
  · exact absurd rfl hne

/-- **What the worker reads requires only names that the graph references.** -/
theorem requires_subset_referenced (h : job.Gathered m analysis warnings m' s here text π d)
    (hreach : Reaches here (SearchPath.locate here ⟨"."⟩ (SearchPath.templatesOf text))
      (Path.join ⟨"."⟩ ⟨job.entry⟩) name p) :
    ∀ bytes, here.read p = .ok bytes → requiresOf bytes ⊆ analysis.graph.referenced := by
  have hm := h.prepared.wellFormed
  induction hreach with
  | entry =>
    intro bytes hread
    obtain ⟨n, hn, -, other, hother, hleads⟩ := h.holds.1.exists_entry hm
    obtain rfl := h.read_entry hleads bytes hread
    exact h.holds.1.requires_subset hn hother
  | require _ hread hname _ hlocate ih =>
    intro bytes hbytes
    have hreferenced := ih _ hread hname
    rcases h.prepared.locate_cases h.searches h.addressable hreferenced hlocate with
      ⟨p, other, hlook, hnormal, hp, hother⟩ | ⟨-, hstub⟩
    · rw [hbytes, Except.ok.injEq] at hother
      subst hother
      rw [← hnormal] at hlook
      exact h.holds.1.requires_of_lookUp hm (Machine.text_ne_of_read hm.tree hp) hreferenced hlook hp
    · rw [hbytes, Except.ok.injEq] at hstub
      simp [hstub, requiresOf_body]

/-- A name that is registered is that of the entry or one that the graph references. -/
theorem mem_referenced (h : job.Gathered m analysis warnings m' s here text π d)
    (hname : name ∈ d.names) : name = rootName ∨ name ∈ analysis.graph.referenced := by
  obtain ⟨p, hreach⟩ := h.registers.exists_reaches hname
  cases hreach with
  | entry => exact .inl rfl
  | require hreach hread hname _ _ =>
    exact .inr (h.requires_subset_referenced hreach _ hread hname)

/-- A name that is registered and that the graph has for a project module has the contents of its
file, and what these require is registered. -/
theorem registered_project (h : job.Gathered m analysis warnings m' s here text π d)
    (hname : name ∈ d.names) (hreferenced : name ∈ analysis.graph.referenced)
    (hlook : Resolver.lookUp ⟨job.roots, job.runtime, []⟩ m name = .project p) :
    m.normalize p = p ∧ ∃ bytes, m.read p = .ok bytes ∧ ⟨name, lossyString bytes⟩ ∈ d.modules ∧
      requiresOf bytes ⊆ d.names := by
  obtain ⟨f, hreach⟩ := h.registers.exists_reaches hname
  obtain ⟨bytes, hread, hmem, hclosed⟩ := h.registers.registered _ f hreach
  rcases hreach.eq_or_locate with ⟨hroot, -⟩ | ⟨-, hlocate⟩
  · exact absurd (hroot ▸ hreferenced) h.root
  · rcases h.prepared.locate_cases h.searches h.addressable hreferenced hlocate with
      ⟨p', other, hlook', hnormal, hp, hother⟩ | ⟨hruntime, -⟩
    · obtain rfl : p = p' := by simpa [hlook] using hlook'
      obtain rfl : bytes = other := by simpa [hread] using hother
      exact ⟨hnormal, bytes, hp, hmem, hclosed⟩
    · rw [h.holds.2] at hruntime
      have := (h.holds.1.isRuntime_of_mem_runtimeNames hruntime).2
      simp [hlook, Resolution.isRuntime] at this

/-- **What the graph reads requires only names that the worker registers.** -/
theorem requires_subset_names (h : job.Gathered m analysis warnings m' s here text π d)
    (hreach : Resolver.Reaches ⟨job.roots, job.runtime, []⟩ m
      (m.normalize ((Place.path π).join ⟨job.entry⟩)) q) :
    ∀ bytes, m.read q = .ok bytes →
      requiresOf bytes ⊆ analysis.graph.referenced ∧ requiresOf bytes ⊆ d.names := by
  have hm := h.prepared.wellFormed
  induction hreach with
  | entry =>
    intro bytes hread
    have hleads := Machine.leadsToBytes_of_normalize hm (text_join_project_ne π job.entry) rfl hread
    obtain ⟨n, hn, -, other, hother, hleads'⟩ := h.holds.1.exists_entry hm
    obtain rfl := hleads.unique hleads'
    obtain ⟨bytes, hread', -, hclosed⟩ := h.registers.registered _ _ .entry
    obtain rfl := h.read_entry hleads bytes hread'
    exact ⟨h.holds.1.requires_subset hn hother, hclosed⟩
  | require _ hread hname hlook ih =>
    intro bytes hbytes
    obtain ⟨hreferenced, hnames⟩ := ih _ hread
    obtain ⟨hnormal, other, hother, -, hclosed⟩ :=
      h.registered_project (hnames hname) (hreferenced hname) hlook
    rw [hnormal] at hbytes
    obtain rfl : bytes = other := by simpa [hbytes] using hother
    rw [← hnormal] at hlook
    exact ⟨h.holds.1.requires_of_lookUp hm (Machine.text_ne_of_read hm.tree hbytes)
      (hreferenced hname) hlook hbytes, hclosed⟩

/-- Every name that the graph references is registered. -/
theorem mem_names (h : job.Gathered m analysis warnings m' s here text π d)
    (hname : name ∈ analysis.graph.referenced) : name ∈ d.names := by
  obtain ⟨n, hn, dep, hdep, rfl⟩ := Graph.mem_referenced.1 hname
  obtain ⟨bytes, hread, hdeps⟩ := (h.holds.1.read n hn).dependencies
  rw [hdeps, Resolver.dependencies] at hdep
  obtain ⟨required, hrequired, rfl⟩ := List.mem_map.1 hdep
  exact (h.requires_subset_names (h.holds.1.reaches n hn) bytes hread).2 hrequired

/-- The runtime modules are registered, and none of them is the entry. -/
theorem mem_names_of_runtime (h : job.Gathered m analysis warnings m' s here text π d)
    (hname : name ∈ analysis.runtimeNames) : name ≠ rootName ∧ name ∈ d.names := by
  rw [h.holds.2] at hname
  have hreferenced := (h.holds.1.isRuntime_of_mem_runtimeNames hname).1
  exact ⟨fun heq ↦ h.root (heq ▸ hreferenced), h.mem_names hreferenced⟩

/-- A name that the graph has for a project module is looked up as one, and is no runtime name. -/
theorem lookUp_of_mem_references (h : job.Gathered m analysis warnings m' s here text π d)
    {source : ModuleNode} (href : (source, ⟨name, .project p⟩) ∈ analysis.graph.references) :
    name ∈ analysis.graph.referenced ∧
      Resolver.lookUp ⟨job.roots, job.runtime, []⟩ m name = .project p ∧
      name ∉ analysis.runtimeNames := by
  obtain ⟨n, hn, hdep⟩ := List.mem_flatMap.1 href
  obtain ⟨dep, hdep, heq⟩ := List.mem_map.1 hdep
  obtain ⟨-, rfl⟩ := Prod.mk.inj heq
  have hlook := (h.holds.1.resolution_eq hn hdep).symm
  refine ⟨Graph.mem_referenced.2 ⟨n, hn, _, hdep, rfl⟩, hlook, fun hruntime ↦ ?_⟩
  rw [h.holds.2] at hruntime
  have := (h.holds.1.isRuntime_of_mem_runtimeNames hruntime).2
  simp [hlook, Resolution.isRuntime] at this

/-- A name that the graph references and that is no runtime name is one of a project module. -/
theorem exists_reference (h : job.Gathered m analysis warnings m' s here text π d)
    (hname : name ∈ analysis.graph.referenced) (hruntime : name ∉ analysis.runtimeNames) :
    ∃ source p, (source, ⟨name, .project p⟩) ∈ analysis.graph.references := by
  have hresolved := h.holds.1.lookUp_ne_unresolved h.prepared.resolved hname
  have hnot : ¬(Resolver.lookUp ⟨job.roots, job.runtime, []⟩ m name).isRuntime = true :=
    fun hlook ↦ hruntime (h.holds.2 ▸ h.holds.1.mem_runtimeNames_of_lookUp hname hlook)
  obtain ⟨n, hn, dep, hdep, rfl⟩ := Graph.mem_referenced.1 hname
  have hresolution := h.holds.1.resolution_eq hn hdep
  cases hlook : Resolver.lookUp ⟨job.roots, job.runtime, []⟩ m dep.name with
  | unresolved => exact absurd hlook hresolved
  | runtime q => simp [hlook, Resolution.isRuntime] at hnot
  | project p =>
    have hproject : dep = ⟨dep.name, .project p⟩ := by rw [← hlook, ← hresolution]
    refine ⟨n.2, p, List.mem_flatMap.2 ⟨n, hn, List.mem_map.2 ⟨dep, hdep, ?_⟩⟩⟩
    rw [← hproject]

end Gathered

end Job

/-! ### Reports -/

/-- A report says of the modules of a bundle what the graph of a job says. -/
structure JobReport.Matches (report : JobReport) (job : Job) (m : Machine) (g : Graph)
    (modules : List RegisteredModule) : Prop where
  bundle : report.bundle =
    prelude ++ String.join (modules.map RegisteredModule.render) ++ epilogue
  /-- Each name is registered once. -/
  nodup : (modules.map (·.name)).Nodup
  /-- The entry comes first, with the contents of its module in the graph, and no others are read
  at its path. -/
  entry : ∃ n ∈ g.nodes, n.1.same (m.normalize (m.normalize job.entryPath)) = true ∧
    ∃ bytes, m.read n.2.path = .ok bytes ∧ modules.head? = some ⟨rootName, lossyString bytes⟩ ∧
      ∀ other, m.read job.entryPath = .ok other → other = bytes
  /-- What the graph has for a project module is registered, with the contents of its file. -/
  project : ∀ source name p, (source, ⟨name, .project p⟩) ∈ g.references →
    ∃ bytes, m.read p = .ok bytes ∧ ⟨name, lossyString bytes⟩ ∈ modules
  /-- Nothing else is registered. -/
  only : ∀ x ∈ modules, x.name = rootName ∨
    ∃ source p, (source, ⟨x.name, .project p⟩) ∈ g.references
  runtime : ∀ name ∈ g.runtimeNames, name ∉ modules.map (·.name)
  stripped : report.stripped = g.runtimeNames
  missing : ∀ name, .missingRegistration name ∉ report.warnings

variable {host : Host} {job : Job} {m m' here : Machine} {analysis : Analysis}
  {warnings : List Warning} {s : Stubs} {text : String} {π : Place} {d : Document}
  {report : JobReport}

/-- **The stripped bundle of a job matches its graph.** -/
theorem Job.Gathered.matches (h : job.Gathered m analysis warnings m' s here text π d)
    (hbundle : report.bundle = (d.strip analysis.runtimeNames).1.render)
    (hstripped : report.stripped = (d.strip analysis.runtimeNames).2.stripped)
    (hmissing : ∀ name, .missingRegistration name ∈ report.warnings →
      name ∈ (d.strip analysis.runtimeNames).2.missing) :
    report.Matches job m analysis.graph (d.strip analysis.runtimeNames).1.modules := by
  have hruntimes := h.holds.2
  have hnodup : analysis.runtimeNames.Nodup := hruntimes ▸ Graph.nodup_eraseDups _
  rw [Document.strip_snd hnodup fun name hname ↦ h.mem_names_of_runtime hname] at hstripped hmissing
  rw [Document.strip_fst] at hbundle ⊢
  have hnames : (d.modules.filter fun x ↦ x.name = rootName ∨ x.name ∉ analysis.runtimeNames).map
      (·.name) |>.Nodup := h.registers.nodup.sublist (List.filter_sublist.map _)
  refine ⟨?_, hnames, ?_, ?_, ?_, ?_, ?_, ?_⟩
  · rw [hbundle, Document.render, h.registers.prelude, h.registers.epilogue]
  · obtain ⟨n, hn, hkey, bytes, hread, hleads⟩ := h.holds.1.exists_entry h.prepared.wellFormed
    rw [Job.entryPath, h.searches.project]
    refine ⟨n, hn, (Path.same_iff ..).2 hkey, bytes, hread, ?_, fun other hother ↦
      hleads.unique (Machine.leadsToBytes_of_read h.prepared.wellFormed.tree hother)⟩
    obtain ⟨rest, hmodules⟩ := h.modules_eq_cons hleads
    simp [hmodules]
  · intro source name p href
    obtain ⟨hreferenced, hlook, hruntime⟩ := h.lookUp_of_mem_references href
    obtain ⟨-, bytes, hread, hmem, -⟩ :=
      h.registered_project (h.mem_names hreferenced) hreferenced hlook
    exact ⟨bytes, hread, List.mem_filter.2 ⟨hmem, by simp [hruntime]⟩⟩
  · intro x hx
    obtain ⟨hmem, hkept⟩ := List.mem_filter.1 hx
    rcases h.mem_referenced (List.mem_map_of_mem hmem) with hroot | hreferenced
    · exact .inl hroot
    · refine .inr (h.exists_reference hreferenced fun hruntime ↦ ?_)
      have hroot := (h.mem_names_of_runtime hruntime).1
      simp [hroot, hruntime] at hkept
  · intro name hname hmem
    rw [← hruntimes] at hname
    obtain ⟨x, hx, rfl⟩ := List.mem_map.1 hmem
    have hkept := (List.mem_filter.1 hx).2
    simp [hname, (h.mem_names_of_runtime hname).1] at hkept
  · rw [hstripped, hruntimes]
  · intro name hname
    simpa using hmissing name hname

/-- **A job whose only root is its project directory bundles what its graph says**: the entry first,
then each name that the graph has for a project module, once and with the contents of the file that
the graph has for it. Its runtime modules are all stripped. -/
theorem run_content (hm : m.WellFormed) (hsearches : job.SearchesProject m π)
    (haddr : m.tree.Addressable π)
    (hworker : job.worker = .ofSettings none []) (hhost : RunsWorker host)
    (hcheck : (job.validate host m).2 = m)
    (hroot : ∀ analysis, job.analyze m = .ok analysis → rootName ∉ analysis.graph.referenced)
    (hrun : (job.run host m).1 = .ok report) :
    ∃ analysis modules, job.analyze m = .ok analysis ∧
      report.Matches job m analysis.graph modules := by
  obtain ⟨_, m₁, hvalidate, analysis, m', s, text, output, stripped, hran⟩ := Job.run_eq_ok hrun
  obtain rfl : m₁ = m := by rw [← hcheck, hvalidate]
  obtain ⟨warnings, hstubs⟩ := hran.stubs
  have hlaunch := hran.launch
  rw [hworker] at hlaunch
  obtain ⟨here, d, henter, rfl, hregisters⟩ := registers_of_launch hhost hlaunch
  have hdir := Machine.isDir_eq_true_iff.2 ⟨π, hsearches.entryAt?⟩
  have h : job.Gathered m₁ analysis warnings m' s here text π d :=
    ⟨⟨hm, hsearches.normalize_project, hdir, hran.analyze, hran.resolved, hstubs, henter,
      hran.searchPath⟩, hsearches, haddr, hregisters, hroot analysis hran.analyze⟩
  have hstrip := hran.strip
  simp only [Output.strip, Except.ok.injEq] at hstrip
  subst hstrip
  exact ⟨analysis, _, hran.analyze, h.matches hran.bundle hran.names hran.missing⟩

/-! ### A project with a module of its own and a runtime module -/

/-- A project whose entry requires a module that requires itself and a runtime module. -/
def projectOfTwo : Machine where
  tree := ⟨[(["p"], .dir), (["p", "Main.lua"], textFile "require('n')\n"),
    (["p", "n.lua"], textFile "require('n')\nrequire('net')\n"), (["rt"], .dir),
    (["rt", "net.lua"], textFile "return \x7b\x7d\n")]⟩
  cwd := []
  env := []

/-- The bundle of such a project matches its graph. -/
theorem run_content_of_two :
    ∃ report analysis modules,
      ((jobOnRuntime ["/p"]).run workerHost projectOfTwo).1 = .ok report ∧
        (jobOnRuntime ["/p"]).analyze projectOfTwo = .ok analysis ∧
        analysis.runtimeNames = ["net"] ∧ analysis.graph.referenced = ["n", "n", "net"] ∧
        report.Matches (jobOnRuntime ["/p"]) projectOfTwo analysis.graph modules := by
  let job := jobOnRuntime ["/p"]
  let stubbed := job.stubbed projectOfTwo ["net"]
  have hm : projectOfTwo.WellFormed :=
    ⟨Tree.wellFormed_of_entries (by decide +kernel), by decide +kernel⟩
  have hanalysis : (job.analyze projectOfTwo).map (fun a ↦
      (Job.ensureResolved a.graph, a.runtimeNames, a.graph.referenced)) =
      .ok (.ok (), ["net"], ["n", "n", "net"]) := by decide +kernel
  have henter : stubbed.enter job.project = .ok { stubbed with cwd := ["p"] } :=
    Machine.enter_eq_ok_iff.2 ⟨["p"], by decide +kernel, rfl⟩
  have htext : job.searchPath stubbed = .ok "./?.lua;./?/init.lua" := by decide +kernel
  obtain ⟨analysis, hprepared, hmodules, hnames⟩ := Job.exists_prepared hm (by decide +kernel)
    (by decide +kernel) hanalysis (by decide +kernel) henter htext
  have hcollect : (collect { stubbed with
      cwd := ["p"], env := stubbed.env.setAll [(Worker.searchPathVariable, "./?.lua;./?/init.lua")] }
      ⟨"."⟩ (SearchPath.templatesOf "./?.lua;./?/init.lua") job.entry).map Document.names =
      .ok ["__root", "n", "net"] := by decide +kernel
  obtain ⟨d, hcollect, -⟩ := Except.map_eq_ok_iff.1 hcollect
  obtain ⟨report, hrun, -⟩ := Job.exists_report rfl hprepared.analyze hprepared.resolved
    hprepared.stubs htext (launch_workerHost henter hcollect) rfl
  obtain ⟨other, modules, hanalyze, hmatches⟩ := run_content (π := ["p"]) hm
    ⟨by decide +kernel, by decide +kernel, by decide +kernel,
      Tree.linkFree_of_entries (by decide +kernel) _⟩
    (Tree.addressable_of_entries (by decide +kernel) _) rfl runsWorker_workerHost rfl
    (fun other hother ↦ by
      obtain rfl : analysis = other := by simpa [hprepared.analyze] using hother
      rw [hnames]
      decide) hrun
  obtain rfl : analysis = other := by simpa [hprepared.analyze] using hanalyze
  exact ⟨report, analysis, modules, hrun, hanalyze, hmodules, hnames, hmatches⟩

/-! ### A project with a file that only the worker can name -/

/-- A project so deep that the system takes the path of `Main.lua` and not that of `library.lua`,
which is in the runtime directory as well. -/
structure IsDeep (m : Machine) (π : Place) : Prop where
  wellFormed : m.WellFormed
  linkFree : m.tree.LinkFree π
  length : byteLength (Place.path π).text.toList = 4085
  dir : m.tree.get? π = some .dir
  main : m.tree.get? (π ++ ["Main.lua"]) = some (textFile "require('library')\n")
  library : m.tree.get? (π ++ ["library.lua"]) = some (textFile "require('x')\n")
  leaf : m.tree.get? (π ++ ["x.lua"]) = some emptyFile
  runtime : m.tree.get? ["rt", "library.lua"] = some emptyFile

/-- A place whose path leaves room for ten more characters. -/
theorem exists_deepPlace : ∃ π : Place, (∀ x ∈ π, IsName x ∧ x ≠ "rt") ∧ π ≠ [] ∧
    byteLength (Place.path π).text.toList = 4085 := by
  obtain ⟨x, hx⟩ : ∃ x : String, x.toList = List.replicate 214 'a' := ⟨_, String.toList_ofList⟩
  have hne : ∀ s : String, s.toList ≠ List.replicate 214 'a' → x ≠ s := by
    rintro _ hs rfl
    exact hs hx
  have hname : IsName x := ⟨hne _ (by decide), hne _ (by decide), hne _ (by decide),
    hx ▸ by decide, hx ▸ by decide, hx ▸ by decide +kernel⟩
  refine ⟨List.replicate 19 x, fun y hy ↦ ?_, by simp, ?_⟩
  · rw [List.eq_of_mem_replicate hy]
    exact ⟨hname, hne _ (by decide)⟩
  · rw [Place.toList_path, List.map_replicate, hx]
    decide +kernel

theorem exists_isDeep : ∃ m π, IsDeep m π := by
  obtain ⟨π, hπ, hne, hlength⟩ := exists_deepPlace
  let start : Tree := ⟨[(["rt"], .dir), (["rt", "library.lua"], emptyFile)]⟩
  have hstart : start.WellFormed := Tree.wellFormed_of_entries (by decide +kernel)
  have hother : ∀ {x : String} {xs : List String}, x ≠ "rt" → start.get? (x :: xs) = none := by
    intro x xs hx
    simp [start, Tree.get?, Ne.symm hx]
  have hhead : ∀ x, π.head? = some x → x ≠ "rt" := fun x hx ↦ (hπ x (List.mem_of_head? hx)).2
  obtain ⟨t, hgrows, ht, hdir, hnew⟩ := Tree.exists_dir hstart (fun x hx ↦ (hπ x hx).1)
    fun x hx ↦ hother (hhead x hx)
  have hvacant : ∀ x, t.get? (π ++ [x]) = none := by
    intro x
    refine Option.eq_none_iff_forall_ne_some.2 fun node hnode ↦ ?_
    rcases hnew _ _ hnode with hold | ⟨hfront, -⟩
    · obtain ⟨y, ys, rfl⟩ := List.exists_cons_of_ne_nil hne
      rw [List.cons_append, hother (hhead y rfl)] at hold
      simp at hold
    · exact absurd hfront.length_le (by simp)
  let files := [("Main.lua", encodeString "require('library')\n"),
    ("library.lua", encodeString "require('x')\n"), ("x.lua", [])]
  have hnames : ∀ f ∈ files, IsName f.1 := by decide +kernel
  obtain ⟨t', hgrows', ht', hfiles, hnew'⟩ := Tree.exists_files ht hdir hnames
    (fun f _ ↦ hvacant f.1) (by decide)
  simp only [files, List.mem_cons, List.not_mem_nil, or_false, forall_eq_or_imp, forall_eq] at hfiles
  refine ⟨⟨t', [], [], 0, fun _ _ ↦ none⟩, π, ⟨ht', Tree.get?_nil t'⟩, fun xs target hnode ↦ ?_,
    hlength, hgrows' hdir, hfiles.1, hfiles.2.1, hfiles.2.2, hgrows' (hgrows (by decide +kernel))⟩
  rcases hnew' _ _ hnode with hold | ⟨f, -, -, hfile⟩
  · rcases hnew _ _ hold with hold | ⟨-, hdir⟩
    · exact Tree.linkFree_of_entries (by decide) [] (π ++ xs) target hold
    · simp at hdir
  · simp at hfile

/-- The job on the project at a place, with the runtime directory `/rt`. -/
def jobAt (π : Place) : Job :=
  { jobOnRuntime [] with project := Place.path π, roots := [Place.path π] }

theorem isPlain_main : IsPlain ⟨"Main.lua"⟩ := by
  have hstem : ModuleName.stem? "Main" = some ⟨"Main"⟩ := by decide +kernel
  exact ModuleName.isPlain_of_mem_filesOf hstem (by decide +kernel)

theorem namesOf_main : namesOf "Main.lua" = ["Main.lua"] := by decide +kernel

/-- An entry that requires one module, of the runtime, is all of its graph. -/
theorem Job.exists_analysis_of_runtime {ref : Source.Reference} {p : Path} {bytes : Bytes}
    (hnormal : m.normalize job.entryPath = job.entryPath) (hread : m.read job.entryPath = .ok bytes)
    (hfound : Source.discover (lossyString bytes) = ⟨[ref], []⟩)
    (hlook : Resolver.lookUp ⟨job.roots, job.runtime, []⟩ m ref.name = .runtime p) :
    ∃ analysis, job.analyze m = .ok analysis ∧ analysis.graph.nodes =
      [(job.entryPath, ⟨job.entryPath, [⟨ref.name, .runtime p⟩]⟩)] := by
  obtain ⟨built, hbuilt⟩ : ∃ built : BuiltGraph, built =
      ⟨⟨job.entryPath, [(job.entryPath, ⟨job.entryPath, [⟨ref.name, .runtime p⟩]⟩)], []⟩, []⟩ :=
    ⟨_, rfl⟩
  have hbuild : Graph.build m ⟨job.roots, job.runtime, []⟩ job.entryPath = .ok built := by
    rw [hbuilt]
    simp [Graph.build, Traversal.visit, Traversal.enter, Traversal.record, Traversal.leave,
      Traversal.followAll, Graph.start, Graph.contains, Graph.insert, Resolver.resolve, hnormal,
      hread, hfound, hlook, bind, Except.bind, pure, Except.pure]
  have hgraph : (analysisOf built).graph = built.graph := rfl
  exact ⟨analysisOf built, analyze_eq_ok_iff.2 ⟨built, hbuild, rfl⟩, by rw [hgraph, hbuilt]⟩

namespace IsDeep

theorem isName_of_mem (h : IsDeep m π) : ∀ x ∈ π, IsName x :=
  h.wellFormed.tree.isName_of_mem (Option.isSome_of_eq_some h.dir)

theorem length_join (h : IsDeep m π) {f : Path} (hf : IsPlain f) :
    byteLength ((Place.path π).join f).text.toList = 4086 + byteLength f.text.toList := by
  have hne : π ≠ [] := by
    rintro rfl
    exact absurd h.length (by decide)
  rw [Place.length_join h.isName_of_mem hne hf, h.length]

theorem searchesProject (h : IsDeep m π) : (jobAt π).SearchesProject m π :=
  ⟨rfl, Machine.entryAt?_path h.wellFormed.tree h.dir (by simp) (by rw [h.length]; decide), rfl,
    h.linkFree⟩

/-! #### The analysis -/

/-- The analysis does not see the file of the project. -/
theorem lookUp (h : IsDeep m π) :
    Resolver.lookUp ⟨(jobAt π).roots, (jobAt π).runtime, []⟩ m "library" =
      .runtime ⟨"/rt/library.lua"⟩ := by
  have hstem : ModuleName.stem? "library" = some ⟨"library"⟩ := by decide +kernel
  have hnone : findInRoots m ⟨"library"⟩ [Place.path π] = none := by
    have hall : ∀ f ∈ ModuleName.filesOf ⟨"library"⟩,
        m.isFile ((Place.path π).join f) = false := by
      intro f hf
      refine Machine.isFile_eq_false_of_lt h.wellFormed.tree ?_
      rw [h.length_join (ModuleName.isPlain_of_mem_filesOf hstem hf)]
      simp only [ModuleName.filesOf, List.mem_cons, List.not_mem_nil, or_false] at hf
      rcases hf with rfl | rfl <;> decide
    rw [findInRoots_eq_find?, List.flatMap_singleton, ModuleName.candidates_eq_map _ hstem]
    simpa [List.find?_eq_none] using hall
  have hfound : findInRoot m ⟨"library"⟩ ⟨"/rt"⟩ = some ⟨"/rt/library.lua"⟩ := by
    have hentry : m.entryAt? ⟨"/rt/library.lua"⟩ = .ok (["rt", "library.lua"], emptyFile) :=
      Machine.entryAt?_path (E := ["rt", "library.lua"]) h.wellFormed.tree h.runtime
        (by simp [emptyFile]) (by decide +kernel)
    have hcandidates : ModuleName.candidates ⟨"/rt"⟩ ⟨"library"⟩ =
        [⟨"/rt/library.lua"⟩, ⟨"/rt/library/init.lua"⟩] := by decide +kernel
    rw [findInRoot, hcandidates,
      List.find?_cons_of_pos (Machine.isFile_eq_true_iff.2 ⟨_, _, _, hentry⟩)]
  simp only [Resolver.lookUp, hstem, jobAt, jobOnRuntime, hnone, Option.bind_some, hfound]

theorem entryAt?_main (h : IsDeep m π) : m.entryAt? (jobAt π).entryPath =
    .ok (π ++ ["Main.lua"], textFile "require('library')\n") := by
  refine (Machine.entryAt?_project_iff h.wellFormed h.dir h.linkFree isPlain_main).2
    ⟨?_, by rw [namesOf_main], h.main⟩
  rw [h.length_join isPlain_main]
  decide

theorem read_main (h : IsDeep m π) :
    m.read (jobAt π).entryPath = .ok (encodeString "require('library')\n") := by
  simp only [Machine.read, h.entryAt?_main, textFile]

theorem analyze (h : IsDeep m π) : ∃ analysis, (jobAt π).analyze m = .ok analysis ∧
    analysis.graph.nodes = [((jobAt π).entryPath,
      ⟨(jobAt π).entryPath, [⟨"library", .runtime ⟨"/rt/library.lua"⟩⟩]⟩)] := by
  have hnormal := Machine.normalize_of_entryAt? h.entryAt?_main
  have hjoin : (jobAt π).entryPath = Place.path (π ++ ["Main.lua"]) := by
    rw [← namesOf_main]
    exact Place.join_path h.isName_of_mem isPlain_main
  rw [← hjoin] at hnormal
  have hfound : Source.discover (lossyString (encodeString "require('library')\n")) =
      ⟨[⟨"library", 1, 1⟩], []⟩ := by
    rw [lossyString_encodeString]
    decide +kernel
  exact Job.exists_analysis_of_runtime hnormal h.read_main hfound h.lookUp

/-! #### The worker -/

/-- What the worker collects from a deep project. -/
def document : Document :=
  { Document.empty with
    modules := [⟨rootName, "require('library')\n"⟩, ⟨"library", "require('x')\n"⟩, ⟨"x", ""⟩] }

/-- The worker reads the file of the project. -/
theorem collect {here : Machine} (h : IsDeep m here.cwd) (hm : here.tree.WellFormed)
    (hgrows : m.tree.Grows here.tree) (hfree : here.tree.LinkFree here.cwd) :
    Bundle.collect here ⟨"."⟩ SearchPath.defaultTemplates "Main.lua" = .ok document := by
  have hlibraryNode : here.tree.get? (here.cwd ++ namesOf ("library" ++ ".lua")) =
      some (textFile "require('x')\n") := by
    rw [show namesOf ("library" ++ ".lua") = ["library.lua"] by decide +kernel]
    exact hgrows h.library
  have hleafNode : here.tree.get? (here.cwd ++ namesOf ("x" ++ ".lua")) = some emptyFile := by
    rw [show namesOf ("x" ++ ".lua") = ["x.lua"] by decide +kernel]
    exact hgrows h.leaf
  have hstem : ModuleName.stem? "library" = some ⟨"library"⟩ := by decide +kernel
  have hstem' : ModuleName.stem? "x" = some ⟨"x"⟩ := by decide +kernel
  obtain ⟨hlibrary, hreadLibrary⟩ :=
    SearchPath.locate_of_get? hm hfree hstem hlibraryNode (by decide +kernel)
  obtain ⟨hleaf, hreadLeaf⟩ :=
    SearchPath.locate_of_get? hm hfree hstem' hleafNode (by decide +kernel)
  have hreadMain : here.read (Path.join ⟨"."⟩ ⟨"Main.lua"⟩) =
      .ok (encodeString "require('library')\n") := by
    have hentry : here.entryAt? (Path.join ⟨"."⟩ ⟨"Main.lua"⟩) =
        .ok (here.cwd ++ ["Main.lua"], textFile "require('library')\n") := by
      rw [Machine.entryAt?_here_iff hm hfree isPlain_main (by decide)
        (origin_of_not_isAbsolute (by decide) _) (by decide), namesOf_main]
      exact ⟨by decide +kernel, rfl, hgrows h.main⟩
    simp only [Machine.read, hentry, textFile]
  have hmainText := lossyString_encodeString "require('library')\n"
  have hlibraryText := lossyString_encodeString "require('x')\n"
  have hleafText : lossyString [] = "" := by decide +kernel
  have hmainRequires : (Source.discover "require('library')\n").literal = [⟨"library", 1, 1⟩] := by
    decide +kernel
  have hlibraryRequires : (Source.discover "require('x')\n").literal = [⟨"x", 1, 1⟩] := by
    decide +kernel
  -- the work list has one module at a time
  have hfirst : readModule here ⟨"."⟩ SearchPath.defaultTemplates [rootName]
      ⟨rootName, Path.join ⟨"."⟩ ⟨"Main.lua"⟩, "Main.lua"⟩ =
      .ok ⟨⟨rootName, "require('library')\n"⟩,
        [⟨"library", SearchPath.ofProject ⟨"library" ++ ".lua"⟩, "library"⟩],
        ["library", rootName]⟩ := by
    rw [← hmainText] at hmainRequires
    rw [readModule_of_one hreadMain hmainRequires (by decide) hlibrary, hmainText]
  have hsecond : readModule here ⟨"."⟩ SearchPath.defaultTemplates ["library", rootName]
      ⟨"library", SearchPath.ofProject ⟨"library" ++ ".lua"⟩, "library"⟩ =
      .ok ⟨⟨"library", "require('x')\n"⟩, [⟨"x", SearchPath.ofProject ⟨"x" ++ ".lua"⟩, "x"⟩],
        ["x", "library", rootName]⟩ := by
    rw [← hlibraryText] at hlibraryRequires
    rw [readModule_of_one hreadLibrary hlibraryRequires (by decide) hleaf, hlibraryText]
  have hlast : readModule here ⟨"."⟩ SearchPath.defaultTemplates ["x", "library", rootName]
      ⟨"x", SearchPath.ofProject ⟨"x" ++ ".lua"⟩, "x"⟩ =
      .ok ⟨⟨"x", ""⟩, [], ["x", "library", rootName]⟩ := by
    rw [readModule_of_none hreadLeaf (by decide +kernel), hleafText]
  simp only [Bundle.collect, collectFrom_cons hfirst, List.append_nil, collectFrom_cons hsecond,
    collectFrom_cons hlast]
  simp only [collectFrom, Except.map]
  rfl

/-- **The bundle of a deep project has a module that its graph does not have.** -/
theorem exists_report (h : IsDeep m π) : ∃ report,
    ((jobAt π).run workerHost m).1 = .ok report ∧ report.bundle =
      prelude ++ ((RegisteredModule.mk rootName "require('library')\n").render ++
        (RegisteredModule.mk "x" "").render) ++ epilogue := by
  obtain ⟨analysis, hanalyze, hnodes⟩ := h.analyze
  have hsearches := h.searchesProject
  have hnames : analysis.runtimeNames = ["library"] := by
    rw [(Job.graph_holds hanalyze).2]
    simp [Graph.runtimeNames, Graph.references, hnodes, Resolution.isRuntime, List.eraseDups_cons]
  have hresolved : Job.ensureResolved analysis.graph = .ok () := by
    simp [Job.ensureResolved, Graph.unresolved, Graph.references, hnodes, Resolution.isUnresolved]
  obtain ⟨created, m', s, hstubs⟩ : ∃ created m' s, createAll m .empty (jobAt π).project
      analysis.runtimeNames = (created, m', s) := ⟨_, _, _, rfl⟩
  have hcreated := created_createAll (created_empty h.wellFormed) hstubs
  have hproject := Machine.entryAt?_of_grows h.wellFormed hcreated.wellFormed hcreated.grows
    hsearches.entryAt?
  have htext : (jobAt π).searchPath m' = .ok "./?.lua;./?/init.lua" := by
    rw [Job.searchPath, hsearches.templates (Machine.normalize_of_entryAt? hproject)]
    rfl
  let env := m'.env.setAll [(Worker.searchPathVariable, "./?.lua;./?/init.lua")]
  have hdefault : SearchPath.templatesOf "./?.lua;./?/init.lua" = SearchPath.defaultTemplates := by
    decide +kernel
  have hcollect : Bundle.collect { m' with cwd := π, env } ⟨"."⟩
      (SearchPath.templatesOf "./?.lua;./?/init.lua") "Main.lua" = .ok document := by
    rw [hdefault]
    exact h.collect hcreated.wellFormed.tree hcreated.grows.tree (hcreated.linkFree h.linkFree)
  have hstrip : (Output.structured document).strip analysis.runtimeNames =
      .ok ⟨(document.strip analysis.runtimeNames).1.render,
        (document.strip analysis.runtimeNames).2⟩ := rfl
  obtain ⟨report, hrun, hbundle⟩ := Job.exists_report rfl hanalyze hresolved hstubs htext
    (launch_workerHost (Machine.enter_eq_ok_iff.2 ⟨π, hproject, rfl⟩) hcollect) hstrip
  refine ⟨report, hrun, hbundle.trans ?_⟩
  rw [hnames, Document.strip_fst, document]
  simp [Document.render, Document.empty, rootName, String.join]

end IsDeep

/-- **A bundle does not match its graph if a file is too deep for the analysis**: the worker finds it
from the project directory, and registers what it requires. -/
theorem not_run_content_of_long_path :
    ¬∀ (host : Host) (job : Job) (m : Machine) (π : Place) (report : JobReport), m.WellFormed →
      job.SearchesProject m π → job.worker = .ofSettings none [] → RunsWorker host →
      (job.validate host m).2 = m →
      (∀ analysis, job.analyze m = .ok analysis → rootName ∉ analysis.graph.referenced) →
      (job.run host m).1 = .ok report → ∃ analysis modules, job.analyze m = .ok analysis ∧
        report.Matches job m analysis.graph modules := by
  intro h
  obtain ⟨m, π, hdeep⟩ := exists_isDeep
  obtain ⟨analysis, hanalyze, hnodes⟩ := hdeep.analyze
  obtain ⟨report, hrun, hbundle⟩ := hdeep.exists_report
  obtain ⟨_, modules, hother, hmatches⟩ := h workerHost (jobAt π) m π report hdeep.wellFormed
    hdeep.searchesProject rfl runsWorker_workerHost rfl (fun other hother ↦ by
      obtain rfl := Except.ok.inj (hanalyze.symm.trans hother)
      simp [Graph.referenced, Graph.references, hnodes, rootName]) hrun
  obtain rfl := Except.ok.inj (hanalyze.symm.trans hother)
  -- the graph has no project module, so nothing but the entry may be registered
  have hroot : ∀ x ∈ modules, x.name = rootName := by
    intro x hx
    refine (hmatches.only x hx).resolve_right ?_
    rintro ⟨source, p, hmem⟩
    simp [Graph.references, hnodes] at hmem
  obtain ⟨-, -, -, bytes, -, hhead, hentry⟩ := hmatches.entry
  obtain rfl := hentry _ hdeep.read_main
  obtain ⟨rest, rfl⟩ : ∃ rest, modules = ⟨rootName, "require('library')\n"⟩ :: rest := by
    rw [lossyString_encodeString] at hhead
    exact List.head?_eq_some_iff.1 hhead
  obtain rfl : rest = [] := by
    refine List.eq_nil_iff_forall_not_mem.2 fun x hx ↦ ?_
    have hnodup := hmatches.nodup
    rw [List.map_cons, List.nodup_cons] at hnodup
    exact hnodup.1 (List.mem_map.2 ⟨x, hx, hroot x (List.mem_cons_of_mem _ hx)⟩)
  have hlength := congrArg String.length (hbundle.symm.trans hmatches.bundle)
  simp [String.join, RegisteredModule.render, registerCall] at hlength

end LuaBundler
