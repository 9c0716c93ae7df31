import LuaBundler.Proofs.Search.Completeness

/-!
# Searching the project directory alone

When the project directory is the only root and no link stands below it, a candidate leads to one
place only: that of its names below the project (`entryAt?_project_iff`, `entryAt?_candidate_iff`).
So what the worker finds for a name after stubs were created is settled by what the graph says of it:
a project module is read as the file that the graph has for it, and everything else is a stub
(`Prepared.locate_cases`).

The worker names files from the project directory, and the analysis names them from the root. A file
whose path from the root is too long for the system is there for the worker alone, so all files are
assumed to be addressable (`Tree.Addressable`).
-/

namespace LuaBundler

open Text Files Stub

namespace Files

/-- No link stands at a place or below it. -/
def Tree.LinkFree (t : Tree) (p : Place) : Prop :=
  ∀ xs target, t.get? (p ++ xs) ≠ some (.link target)

/-- The system takes the paths of all files at a place or below it. -/
def Tree.Addressable (t : Tree) (p : Place) : Prop :=
  ∀ xs bytes executable, t.get? (p ++ xs) = some (.file bytes executable) →
    byteLength (Place.path (p ++ xs)).text.toList ≤ maxPath

variable {t : Tree} {m : Machine} {π p q E : Place} {xs : List String} {c : Nat} {node : Node}
  {under f : Path}

theorem Tree.linkFree_of_entries (h : ∀ e ∈ t.entries, target? e.2 = none) (p : Place) :
    t.LinkFree p := by
  intro xs target hlink
  by_cases hroot : p ++ xs = []
  · rw [hroot, get?_nil] at hlink
    simp at hlink
  · have hnone := h (p ++ xs, .link target) (mem_entries_of_get? hroot hlink)
    simp [target?] at hnone

theorem Tree.addressable_of_entries
    (h : ∀ e ∈ t.entries, byteLength (Place.path e.1).text.toList ≤ maxPath) (p : Place) :
    t.Addressable p := by
  intro xs bytes executable hfile
  by_cases hroot : p ++ xs = []
  · rw [hroot, get?_nil] at hfile
    simp at hfile
  · exact h (p ++ xs, .file bytes executable) (mem_entries_of_get? hroot hfile)

/-- Where there is no link, names lead down. -/
theorem Tree.LinkFree.eq_of_leads (hfree : t.LinkFree p) (hdown : ∀ x ∈ xs, x ≠ "." ∧ x ≠ "..")
    (h : t.Leads p xs c q) : q = p ++ xs := by
  induction xs generalizing p c with
  | nil =>
    cases h
    simp
  | cons x xs ih =>
    obtain ⟨hdot, hdots⟩ := hdown x (List.mem_cons_self ..)
    rcases h.name_cases hdot hdots with ⟨-, -, -, h⟩ | ⟨target, -, hlink, -⟩
    · have hbelow : t.LinkFree (p ++ [x]) := fun ys target ↦ by
        rw [List.append_assoc]
        exact hfree ([x] ++ ys) target
      rw [List.append_cons]
      exact ih hbelow (fun y hy ↦ hdown y (List.mem_cons_of_mem _ hy)) h
    · exact absurd hlink (hfree [x] target)

/-- The path of a plain file seen from a place is that of the place of its names. -/
theorem Place.join_path (hπ : ∀ x ∈ π, IsName x) (hf : IsPlain f) :
    (Place.path π).join f = Place.path (π ++ namesOf f.text) := by
  have htext : ((Place.path π).join f).text = (Place.path (π ++ namesOf f.text)).text := by
    rw [← String.toList_inj, Place.toList_path (π ++ namesOf f.text), List.map_append]
    induction π using List.reverseRecOn with
    | nil =>
      have hroot : (Place.path []).text = "/" := by decide
      simp [Path.join, hf.relative, hroot, hf.text_eq]
    | append_singleton π x _ =>
      obtain ⟨c, hc, hslash⟩ := Place.getLast?_path (p := π) (hπ x (by simp))
      have hnames : (namesOf f.text).map String.toList ≠ [] := by simpa using hf.names_ne_nil
      rw [Path.join, if_neg (by simp [hf.relative]), hc]
      simp only [if_neg hslash, String.toList_append, Place.toList_path, hf.text_eq]
      rw [Text.join_append '/' (by simp) hnames]
      simp
  exact congrArg Path.mk htext

/-- The path of a plain file seen from a place other than the root has a slash between the two. -/
theorem Place.length_join (hπ : ∀ x ∈ π, IsName x) (hne : π ≠ []) (hf : IsPlain f) :
    byteLength ((Place.path π).join f).text.toList =
      byteLength (Place.path π).text.toList + 1 + byteLength f.text.toList := by
  obtain ⟨init, last, rfl⟩ : ∃ init last, π = init ++ [last] :=
    ⟨_, _, (List.dropLast_concat_getLast hne).symm⟩
  obtain ⟨c, hc, hslash⟩ := Place.getLast?_path (p := init) (hπ last (by simp))
  rw [Path.join, if_neg (by simp [hf.relative]), hc]
  simp only [if_neg hslash, String.toList_append, byteLength_append]
  rfl

/-- Where there is no link, plain names lead to their place. -/
theorem Tree.LinkFree.leads_iff (hfree : t.LinkFree p) (ht : t.WellFormed) (hf : IsPlain f)
    (hnode : t.get? q = some node) :
    (∃ c ≤ maxLinks, t.Leads p (namesOf f.text) c q) ↔ q = p ++ namesOf f.text := by
  constructor
  · rintro ⟨c, -, h⟩
    exact hfree.eq_of_leads hf.down h
  · rintro rfl
    exact ⟨0, Nat.zero_le _, ht.leads_below ⟨node, hnode, fun target heq ↦
      hfree _ target (hnode.trans (congrArg some heq))⟩⟩

/-- **What a candidate of the project root leads to.** -/
theorem Machine.entryAt?_project_iff (hm : m.WellFormed) (hπ : m.tree.get? π = some .dir)
    (hfree : m.tree.LinkFree π) (hf : IsPlain f) :
    m.entryAt? ((Place.path π).join f) = .ok (E, node) ↔
      byteLength ((Place.path π).join f).text.toList ≤ maxPath ∧ E = π ++ namesOf f.text ∧
        m.tree.get? E = some node := by
  have hsome : (m.tree.get? π).isSome := Option.isSome_of_eq_some hπ
  rw [entryAt?_join_plain hm.tree (by simp [Place.path]) hf,
    origin_of_isAbsolute (Place.isAbsolute_path π), Place.namesOf_path (hm.tree.isName_of_mem hsome)]
  refine and_congr_right fun _ ↦ and_congr_left fun hnode ↦ ?_
  simp only [leads_root_append hm.tree hπ]
  exact hfree.leads_iff hm.tree hf hnode

/-- **What a path that stays in the working directory leads to from there.** -/
theorem Machine.entryAt?_here_iff (hm : m.tree.WellFormed) (hfree : m.tree.LinkFree m.cwd)
    (hf : IsPlain f) (hne : under.text ≠ "") (horigin : origin m.cwd under.text = m.cwd)
    (hdots : bare (namesOf under.text) = bare []) :
    m.entryAt? (under.join f) = .ok (E, node) ↔
      byteLength (under.join f).text.toList ≤ maxPath ∧
        E = m.cwd ++ namesOf f.text ∧ m.tree.get? E = some node := by
  rw [entryAt?_join_plain hm hne hf, horigin]
  refine and_congr_right fun _ ↦ and_congr_left fun hnode ↦ ?_
  simp only [Tree.leads_append_congr hdots hf.bare_namesOf hf.names_ne_nil, List.nil_append]
  exact hfree.leads_iff hm hf hnode

/-- **What a candidate of the worker leads to from the project directory.** -/
theorem Machine.entryAt?_candidate_iff (hm : m.tree.WellFormed) (hfree : m.tree.LinkFree m.cwd)
    (hf : IsPlain f) :
    m.entryAt? (Path.join ⟨"."⟩ ⟨"." ++ "/" ++ f.text⟩) = .ok (E, node) ↔
      byteLength (Path.join ⟨"."⟩ ⟨"." ++ "/" ++ f.text⟩).text.toList ≤ maxPath ∧
        E = m.cwd ++ namesOf f.text ∧ m.tree.get? E = some node := by
  have hbase : ".".toList.head? = some '/' ∨ ".".toList.head? = some '.' := .inr (by decide)
  obtain ⟨under, hunder, hne, horigin, hnames⟩ := candidate_eq_join (π := m.cwd) hf hbase
  rw [hunder]
  exact entryAt?_here_iff hm hfree hf hne
    (horigin.trans (origin_of_not_isAbsolute (p := ⟨"."⟩) (by decide) _)) (hnames.trans (by decide))

/-- A candidate of the project root is a file exactly if there is one at its place. -/
theorem Machine.isFile_project_iff (hm : m.WellFormed) (hπ : m.tree.get? π = some .dir)
    (hfree : m.tree.LinkFree π) (haddr : m.tree.Addressable π) (hf : IsPlain f) :
    m.isFile ((Place.path π).join f) = true ↔
      ∃ bytes executable, m.tree.get? (π ++ namesOf f.text) = some (.file bytes executable) := by
  simp only [isFile_eq_true_iff, entryAt?_project_iff hm hπ hfree hf]
  constructor
  · rintro ⟨E, bytes, executable, -, rfl, hnode⟩
    exact ⟨bytes, executable, hnode⟩
  · rintro ⟨bytes, executable, hnode⟩
    have hlen := haddr _ _ _ hnode
    rw [← Place.join_path (hm.tree.isName_of_mem (Option.isSome_of_eq_some hπ)) hf] at hlen
    exact ⟨_, bytes, executable, hlen, rfl, hnode⟩

/-- A file that a candidate of the project root leads to has the candidate for its normal path. -/
theorem Machine.normalize_project (hm : m.WellFormed) (hπ : m.tree.get? π = some .dir)
    (hfree : m.tree.LinkFree π) (hf : IsPlain f)
    (h : m.isFile ((Place.path π).join f) = true) :
    m.normalize ((Place.path π).join f) = (Place.path π).join f := by
  obtain ⟨E, bytes, executable, hentry⟩ := isFile_eq_true_iff.1 h
  obtain ⟨-, hE, -⟩ := (entryAt?_project_iff hm hπ hfree hf).1 hentry
  rw [normalize_of_entryAt? hentry, hE,
    Place.join_path (hm.tree.isName_of_mem (Option.isSome_of_eq_some hπ)) hf]

end Files

/-! ### The candidates of the worker -/

namespace SearchPath

variable {m : Machine} {f : Path} {name : String} {stem : Path}

/-- A plain file as the default templates name it. -/
def ofProject (f : Path) : Path :=
  Path.join ⟨"."⟩ ⟨"." ++ "/" ++ f.text⟩

theorem locate_defaultTemplates (m : Machine) (hstem : ModuleName.stem? name = some stem) :
    locate m ⟨"."⟩ defaultTemplates name =
      ((ModuleName.filesOf stem).map ofProject).find? m.isFile := by
  have hbase : mark ∉ ".".toList := by decide
  have h := map_candidate_templatesOf ⟨"."⟩ hbase hstem
  rw [locate, show defaultTemplates = Job.templatesOf "." by decide, h]
  rfl

/-- If the second file of a stem is short enough for the system, so is the first. -/
theorem length_ofProject_le (stem : Path) :
    byteLength (ofProject ⟨stem.text ++ ".lua"⟩).text.toList ≤
      byteLength (ofProject ⟨stem.text ++ "/init.lua"⟩).text.toList := by
  have hjoin : ∀ file : String, (ofProject ⟨stem.text ++ file⟩).text =
      "./" ++ ("./" ++ (stem.text ++ file)) := by
    intro file
    simp [ofProject, Path.join, Path.isAbsolute]
  simp only [hjoin, String.toList_append, byteLength_append]
  have hfiles : byteLength ".lua".toList ≤ byteLength "/init.lua".toList := by decide
  omega

/-- What the worker reads through a candidate that is a file. -/
theorem read_ofProject (hm : m.tree.WellFormed) (hfree : m.tree.LinkFree m.cwd) (hf : IsPlain f)
    (h : m.isFile (ofProject f) = true) :
    ∃ bytes executable, m.tree.get? (m.cwd ++ namesOf f.text) = some (.file bytes executable) ∧
      m.read (ofProject f) = .ok bytes := by
  obtain ⟨E, bytes, executable, hentry⟩ := Machine.isFile_eq_true_iff.1 h
  obtain ⟨-, rfl, hnode⟩ := (Machine.entryAt?_candidate_iff hm hfree hf).1 hentry
  exact ⟨bytes, executable, hnode, Machine.read_of_isFile hentry⟩

/-- A candidate is a file if there is one at its place and its path is not too long. -/
theorem isFile_ofProject (hm : m.tree.WellFormed) (hfree : m.tree.LinkFree m.cwd) (hf : IsPlain f)
    {bytes : Bytes} {executable : Bool}
    (hnode : m.tree.get? (m.cwd ++ namesOf f.text) = some (.file bytes executable))
    (hlen : byteLength (ofProject f).text.toList ≤ maxPath) : m.isFile (ofProject f) = true :=
  Machine.isFile_eq_true_iff.2 ⟨_, bytes, executable,
    (Machine.entryAt?_candidate_iff hm hfree hf).2 ⟨hlen, rfl, hnode⟩⟩

/-- **A file at the first place of a name is found and read**, unless its path from the project is
too long. -/
theorem locate_of_get? (hm : m.tree.WellFormed) (hfree : m.tree.LinkFree m.cwd)
    (hstem : ModuleName.stem? name = some stem) {bytes : Bytes} {executable : Bool}
    (hnode : m.tree.get? (m.cwd ++ namesOf (stem.text ++ ".lua")) = some (.file bytes executable))
    (hlen : byteLength (ofProject ⟨stem.text ++ ".lua"⟩).text.toList ≤ maxPath) :
    locate m ⟨"."⟩ defaultTemplates name = some (ofProject ⟨stem.text ++ ".lua"⟩) ∧
      m.read (ofProject ⟨stem.text ++ ".lua"⟩) = .ok bytes := by
  have hplain := ModuleName.isPlain_of_mem_filesOf hstem (f := ⟨stem.text ++ ".lua"⟩)
    (List.mem_cons_self ..)
  have hfile := isFile_ofProject hm hfree hplain hnode hlen
  constructor
  · rw [locate_defaultTemplates m hstem, ModuleName.filesOf, List.map_cons,
      List.find?_cons_of_pos (by simpa using hfile)]
  · obtain ⟨bytes', executable', hnode', hread⟩ := read_ofProject hm hfree hplain hfile
    rw [hnode, Option.some.injEq, Node.file.injEq] at hnode'
    rw [hread, hnode'.1]

end SearchPath

/-! ### What stubbing leaves below the project -/

namespace Stub

variable {m m' : Machine} {s : Stubs} {π : Place} {f : Path} {bytes : Bytes} {executable : Bool}
  {modules : List String} {warnings : List Warning}

theorem Created.linkFree (h : Created m m' s) (hfree : m.tree.LinkFree π) :
    m'.tree.LinkFree π := by
  intro xs target hlink
  rcases h.fresh _ _ hlink with hold | hdir | ⟨stub, hstub, hentry⟩
  · exact hfree xs target hold
  · simp at hdir
  · obtain ⟨q, -, hentry'⟩ := h.stub stub hstub
    rw [hentry, Except.ok.injEq, Prod.mk.injEq] at hentry'
    exact Node.noConfusion hentry'.2

/-- **A file below the project was there before, or it is the stub of a module.** -/
theorem Created.file_cases (h : Created m m' s) (hπ : m.tree.get? π = some .dir)
    (hfree : m.tree.LinkFree π)
    (hstubs : createAll m .empty (Place.path π) modules = (warnings, m', s)) (hf : IsPlain f)
    (hnode : m'.tree.get? (π ++ namesOf f.text) = some (.file bytes executable)) :
    m.tree.get? (π ++ namesOf f.text) = some (.file bytes executable) ∨
      (bytes = encodeString body ∧ ∃ module ∈ modules, ∃ stem,
        ModuleName.stem? module = some stem ∧ f = ⟨stem.text ++ ".lua"⟩) := by
  rcases h.fresh _ _ hnode with hold | hdir | ⟨stub, hstub, hentry⟩
  · exact .inl hold
  · simp at hdir
  · right
    obtain ⟨q, -, hentry'⟩ := h.stub stub hstub
    obtain ⟨-, hbytes, -⟩ : _ ∧ bytes = encodeString body ∧ executable = false := by
      simpa [file, hentry] using hentry'
    rcases mem_files_createAll hstubs stub hstub with hempty | ⟨hmodule, hpath⟩
    · simp [Stubs.empty] at hempty
    · obtain ⟨stem, hstem, hplain, hpath⟩ := path?_eq_some_iff.1 hpath
      rw [hpath, Machine.entryAt?_project_iff h.wellFormed (h.grows.tree hπ) (h.linkFree hfree)
        hplain] at hentry
      have hnames := List.append_cancel_left hentry.2.1
      exact ⟨hbytes, _, hmodule, stem, hstem, hf.eq_of_namesOf hplain hnames⟩

end Stub

/-! ### Jobs that search their project directory -/

namespace Job

/-- A job that searches its project directory alone, in which there is no link. -/
structure SearchesProject (job : Job) (m : Machine) (π : Place) : Prop where
  project : job.project = Place.path π
  entryAt? : m.entryAt? job.project = .ok (π, .dir)
  roots : job.roots = [job.project]
  linkFree : m.tree.LinkFree π

namespace SearchesProject

variable {job : Job} {m m' here : Machine} {π : Place} {name : String} {stem p y : Path}

theorem isDir (h : job.SearchesProject m π) : m.tree.get? π = some .dir :=
  Machine.get?_of_entryAt? h.entryAt?

theorem normalize_project (h : job.SearchesProject m π) : m.normalize job.project = job.project := by
  rw [Machine.normalize_of_entryAt? h.entryAt?, h.project]

/-- The worker of such a job searches by the default templates. -/
theorem templates (h : job.SearchesProject m π) (hproject : m'.normalize job.project = job.project) :
    job.templates m' = .ok SearchPath.defaultTemplates := by
  have habs : job.project.isAbsolute = true := by rw [h.project, Place.isAbsolute_path]
  obtain ⟨rest, hrest, hempty⟩ := relativeTo?_self habs
  refine templates_eq_ok_iff.2 ⟨["."], ?_, ?_⟩
  · simp only [h.roots, List.map_cons, List.map_nil, hproject, List.mapM_cons, List.mapM_nil,
      baseOf_self habs]
    rfl
  · simp [h.roots, hproject, coversProject, hrest, hempty, templatesOf, SearchPath.defaultTemplates]

/-- A project module is the first file of its stem below the project. -/
theorem lookUp_cases (h : job.SearchesProject m π) (hm : m.WellFormed)
    (hstem : ModuleName.stem? name = some stem)
    (hlook : Resolver.lookUp ⟨job.roots, job.runtime, []⟩ m name = .project p) :
    ∃ f ∈ ModuleName.filesOf stem, p = (Place.path π).join f ∧ m.isFile p = true ∧
      m.normalize p = p ∧ (f ≠ ⟨stem.text ++ ".lua"⟩ →
        m.isFile ((Place.path π).join ⟨stem.text ++ ".lua"⟩) = false) := by
  obtain ⟨found, hfound, rfl⟩ := (Resolver.lookUp_eq_project_iff hstem).1 hlook
  rw [findInRoots_eq_find?, show Resolver.roots _ = [job.project] from h.roots, h.project,
    List.flatMap_singleton, ModuleName.candidates_eq_map _ hstem, List.find?_map,
    Option.map_eq_some_iff] at hfound
  obtain ⟨f, hf, rfl⟩ := hfound
  have hmem := List.mem_of_find?_eq_some hf
  have hplain := ModuleName.isPlain_of_mem_filesOf hstem hmem
  have hfile : m.isFile ((Place.path π).join f) = true := by simpa using List.find?_some hf
  have hnormal := Machine.normalize_project hm h.isDir h.linkFree hplain hfile
  refine ⟨f, hmem, hnormal, by rw [hnormal, hfile], by rw [hnormal, hnormal], fun hne ↦ ?_⟩
  rw [ModuleName.filesOf, List.find?_cons] at hf
  split at hf
  · exact absurd (Option.some.inj hf).symm hne
  · assumption

/-- No file of its stem is below the project if a name is not a project module. -/
theorem isFile_eq_false (h : job.SearchesProject m π) (hstem : ModuleName.stem? name = some stem)
    (hlook : ∀ p, Resolver.lookUp ⟨job.roots, job.runtime, []⟩ m name ≠ .project p) :
    ∀ f ∈ ModuleName.filesOf stem, m.isFile ((Place.path π).join f) = false := by
  have hnone : findInRoots m stem job.roots = none := by
    rw [← Option.not_isSome_iff_eq_none, Option.isSome_iff_exists]
    rintro ⟨found, hfound⟩
    exact hlook _ ((Resolver.lookUp_eq_project_iff hstem).2 ⟨found, hfound, rfl⟩)
  rw [findInRoots_eq_find?, h.roots, h.project, List.flatMap_singleton,
    ModuleName.candidates_eq_map _ hstem, List.find?_eq_none] at hnone
  exact fun f hf ↦ by simpa using hnone _ (List.mem_map_of_mem hf)

end SearchesProject

namespace Prepared

variable {job : Job} {m m' here : Machine} {analysis : Analysis} {warnings : List Warning}
  {s : Stubs} {text name : String} {stem p y f : Path} {π : Place} {bytes : Bytes}
  {executable : Bool}

/-- Where the worker of such a job starts, and what it finds. -/
theorem locate_default (hprepared : job.Prepared m analysis warnings m' s here text)
    (h : job.SearchesProject m π) (hstem : ModuleName.stem? name = some stem)
    (hlocate : SearchPath.locate here ⟨"."⟩ (SearchPath.templatesOf text) name = some y) :
    here = { m' with cwd := π } ∧ Created m m' s ∧ ∃ f,
      (ModuleName.filesOf stem).find? (here.isFile ∘ SearchPath.ofProject) = some f ∧
        SearchPath.ofProject f = y := by
  obtain ⟨π', hπ', hpath, hhere, hproject, hcreated⟩ := hprepared.place
  have hnames : ∀ {q : Place}, m.tree.get? q = some .dir → namesOf (Place.path q).text = q :=
    fun hq ↦ Place.namesOf_path
      (hprepared.wellFormed.tree.isName_of_mem (Option.isSome_of_eq_some hq))
  obtain rfl : π' = π := by rw [← hnames hπ', ← hpath, h.project, hnames h.isDir]
  have htemplates := templatesOf_searchPath hprepared.searchPath
  rw [h.templates hproject, Except.ok.injEq] at htemplates
  rw [← htemplates, SearchPath.locate_defaultTemplates _ hstem, List.find?_map,
    Option.map_eq_some_iff] at hlocate
  exact ⟨hhere, hcreated, hlocate⟩

/-- The stub of a module is its first file, so a project module has none. -/
theorem not_isStub (hprepared : job.Prepared m analysis warnings m' s here text)
    (hstem : ModuleName.stem? name = some stem)
    (hlook : Resolver.lookUp ⟨job.roots, job.runtime, []⟩ m name = .project p) :
    ¬∃ module ∈ analysis.runtimeNames, ∃ stem', ModuleName.stem? module = some stem' ∧
      (⟨stem.text ++ ".lua"⟩ : Path) = ⟨stem'.text ++ ".lua"⟩ := by
  rintro ⟨module, hmodule, ⟨stem'⟩, hstem', heq⟩
  obtain ⟨stem⟩ := stem
  obtain rfl : stem = stem' := by
    rw [Path.mk.injEq, ← String.toList_inj, String.toList_append, String.toList_append] at heq
    exact String.toList_inj.1 (List.append_cancel_right heq)
  obtain rfl := ModuleName.stem_inj hstem hstem'
  obtain ⟨hgraph, hruntimes⟩ := graph_holds hprepared.analyze
  obtain ⟨-, hruntime⟩ := hgraph.isRuntime_of_mem_runtimeNames (hruntimes ▸ hmodule)
  rw [hlook] at hruntime
  simp [Resolution.isRuntime] at hruntime

/-- A project module that the worker finds is the file that the graph has for it. -/
theorem read_of_lookUp (hprepared : job.Prepared m analysis warnings m' s here text)
    (h : job.SearchesProject m π) (haddr : m.tree.Addressable π)
    (hstem : ModuleName.stem? name = some stem)
    (hlook : Resolver.lookUp ⟨job.roots, job.runtime, []⟩ m name = .project p)
    (hlocate : SearchPath.locate here ⟨"."⟩ (SearchPath.templatesOf text) name = some y) :
    m.normalize p = p ∧ ∃ bytes, m.read p = .ok bytes ∧ here.read y = .ok bytes := by
  have hm := hprepared.wellFormed
  obtain ⟨rfl, hcreated, g, hg, rfl⟩ := hprepared.locate_default h hstem hlocate
  have hfree := hcreated.linkFree h.linkFree
  obtain ⟨f, hf, rfl, hfile, hnormal, hfirst⟩ := h.lookUp_cases hm hstem hlook
  have hplain := ModuleName.isPlain_of_mem_filesOf hstem hf
  obtain ⟨E, bytes, executable, hentry⟩ := Machine.isFile_eq_true_iff.1 hfile
  obtain ⟨-, rfl, hnode⟩ := (Machine.entryAt?_project_iff hm h.isDir h.linkFree hplain).1 hentry
  have hgmem := List.mem_of_find?_eq_some hg
  have hgplain := ModuleName.isPlain_of_mem_filesOf hstem hgmem
  have hgfile : Machine.isFile { m' with cwd := π } (SearchPath.ofProject g) = true := by
    simpa using List.find?_some hg
  obtain ⟨bytes', executable', hnode', hread⟩ :=
    SearchPath.read_ofProject (m := { m' with cwd := π }) hcreated.wellFormed.tree hfree hgplain
      hgfile
  refine ⟨hnormal, bytes, Machine.read_of_isFile hentry, ?_⟩
  have hgrown : m'.tree.get? (π ++ namesOf f.text) = some (.file bytes executable) :=
    hcreated.grows.tree hnode
  by_cases hfg : g = f
  · subst hfg
    rw [hgrown, Option.some.injEq, Node.file.injEq] at hnode'
    rw [hread, hnode'.1]
  -- otherwise one of the two files of the stem is found for the other
  exfalso
  simp only [ModuleName.filesOf, List.mem_cons, List.not_mem_nil, or_false] at hf hgmem
  rcases hf with rfl | rfl <;> rcases hgmem with rfl | rfl
  · exact hfg rfl
  · -- the first file is there, and no longer than the second
    obtain ⟨E, bytes, executable, hentry⟩ := Machine.isFile_eq_true_iff.1 hgfile
    have hlen := ((Machine.entryAt?_eq_ok_iff (m := { m' with cwd := π })
      hcreated.wellFormed.tree).1 hentry).2.1
    have hskipped := SearchPath.isFile_ofProject (m := { m' with cwd := π })
      hcreated.wellFormed.tree hfree hplain hgrown
      (Nat.le_trans (SearchPath.length_ofProject_le stem) hlen)
    rw [ModuleName.filesOf, List.find?_cons_of_pos (by simpa using hskipped),
      Option.some.injEq] at hg
    exact hfg hg.symm
  · -- the first file was not there, so it is a stub
    have hstubs := hprepared.stubs
    rw [h.project] at hstubs
    rcases hcreated.file_cases h.isDir h.linkFree hstubs hgplain hnode' with hold | ⟨-, hstub⟩
    · have := hfirst (Ne.symm hfg)
      rw [(Machine.isFile_project_iff hm h.isDir h.linkFree haddr hgplain).2
        ⟨_, _, hold⟩] at this
      simp at this
    · exact hprepared.not_isStub hstem hlook hstub
  · exact hfg rfl

/-- What the worker finds for another name is a stub. -/
theorem read_of_not_project (hprepared : job.Prepared m analysis warnings m' s here text)
    (h : job.SearchesProject m π) (haddr : m.tree.Addressable π)
    (hstem : ModuleName.stem? name = some stem)
    (hlook : ∀ p, Resolver.lookUp ⟨job.roots, job.runtime, []⟩ m name ≠ .project p)
    (hlocate : SearchPath.locate here ⟨"."⟩ (SearchPath.templatesOf text) name = some y) :
    here.read y = .ok (encodeString body) := by
  obtain ⟨rfl, hcreated, g, hg, rfl⟩ := hprepared.locate_default h hstem hlocate
  have hgmem := List.mem_of_find?_eq_some hg
  have hgplain := ModuleName.isPlain_of_mem_filesOf hstem hgmem
  obtain ⟨bytes, executable, hnode, hread⟩ :=
    SearchPath.read_ofProject (m := { m' with cwd := π }) hcreated.wellFormed.tree
      (hcreated.linkFree h.linkFree) hgplain (by simpa using List.find?_some hg)
  have hstubs := hprepared.stubs
  rw [h.project] at hstubs
  rcases hcreated.file_cases h.isDir h.linkFree hstubs hgplain hnode with hold | ⟨rfl, -⟩
  · have hnone := h.isFile_eq_false hstem hlook g hgmem
    rw [(Machine.isFile_project_iff hprepared.wellFormed h.isDir h.linkFree haddr
      hgplain).2 ⟨_, _, hold⟩] at hnone
    simp at hnone
  · exact hread

/-- **What the worker finds is what the graph says of a name**: the file of a project module, or the
stub of a runtime module. -/
theorem locate_cases (hprepared : job.Prepared m analysis warnings m' s here text)
    (h : job.SearchesProject m π) (haddr : m.tree.Addressable π)
    (hname : name ∈ analysis.graph.referenced)
    (hlocate : SearchPath.locate here ⟨"."⟩ (SearchPath.templatesOf text) name = some y) :
    (∃ p bytes, Resolver.lookUp ⟨job.roots, job.runtime, []⟩ m name = .project p ∧
      m.normalize p = p ∧ m.read p = .ok bytes ∧ here.read y = .ok bytes) ∨
    (name ∈ analysis.runtimeNames ∧ here.read y = .ok (encodeString body)) := by
  obtain ⟨hgraph, hruntimes⟩ := graph_holds hprepared.analyze
  have hresolved := hgraph.lookUp_ne_unresolved hprepared.resolved hname
  obtain ⟨stem, hstem⟩ := Resolver.exists_stem hresolved
  cases hlook : Resolver.lookUp ⟨job.roots, job.runtime, []⟩ m name with
  | unresolved => exact absurd hlook hresolved
  | project p =>
    obtain ⟨hnormal, bytes, hread, hread'⟩ := hprepared.read_of_lookUp h haddr hstem hlook hlocate
    exact .inl ⟨p, bytes, rfl, hnormal, hread, hread'⟩
  | runtime q =>
    refine .inr ⟨?_, hprepared.read_of_not_project h haddr hstem (by simp [hlook]) hlocate⟩
    rw [hruntimes]
    exact hgraph.mem_runtimeNames_of_lookUp hname (by simp [hlook, Resolution.isRuntime])

end Prepared

end Job

end LuaBundler
