import LuaBundler.Job.Run
import LuaBundler.Proofs.Files.Normal
import LuaBundler.Proofs.Search.Worker
import LuaBundler.Proofs.Stub.Creation

/-!
# Stubs in the way of modules

Stubs are written into the project, and the worker searches the roots in order, each in two forms. A
module that was found before stubbing is found still if no candidate that is tried before its own
leads to a stub (`locate_stubbed_iff`): files that were there are not changed, and what is new is a
directory or a stub. Which candidates those are is a matter of how the roots lie: a name that starts
with the name of a root inside the project has its stub in that root, under a shorter name
(`not_locate_stubbed_of_nested_root`).

There is one more way to find something else. A path that goes up again, in a root or in the target
of a link, may lead nowhere because a directory on its way is missing, and stubbing may create that
directory (`Stub.Uncovered`).
-/

namespace LuaBundler

open Text Files

namespace Stub

/-- A path leads to the file of a recorded stub. -/
def LeadsToStub (m : Machine) (s : Stubs) (p : Path) : Prop :=
  ∃ stub ∈ s.files, m.exists p = true ∧ m.entryAt? p = m.entryAt? stub.path

/-- Stubbing uncovers a path: it led nowhere, and now it leads to a file that is no stub. -/
def Uncovered (m m' : Machine) (s : Stubs) (p : Path) : Prop :=
  m.exists p = false ∧ m'.isFile p = true ∧ ¬LeadsToStub m' s p

instance (m : Machine) (s : Stubs) (p : Path) : Decidable (LeadsToStub m s p) :=
  inferInstanceAs (Decidable (∃ stub ∈ s.files, _ ∧ _))

instance (m m' : Machine) (s : Stubs) (p : Path) : Decidable (Uncovered m m' s p) :=
  inferInstanceAs (Decidable (_ ∧ _ ∧ ¬_))

variable {m m' : Machine} {s : Stubs} {p project : Path} {π : Place}

/-- A path that starts at the root leads to the same entry from every directory. -/
theorem entryAt?_enter (h : p.isAbsolute = true) (dir : Place) :
    Machine.entryAt? { m with cwd := dir } p = m.entryAt? p := by
  simp only [Machine.entryAt?, Machine.locate, Tree.locate, origin_of_isAbsolute h]

/-- What creating stubs has made of a machine, seen from the project directory. -/
theorem Created.enter (h : Created m m' s) (habs : ∀ stub ∈ s.files, stub.path.isAbsolute = true)
    (hπ : m.tree.get? π = some .dir) : Created { m with cwd := π } { m' with cwd := π } s := by
  refine ⟨⟨h.grows.tree, rfl, h.grows.env⟩, ⟨h.wellFormed.tree, h.grows.tree hπ⟩,
    fun q node hq ↦ ?_, fun stub hstub ↦ ?_⟩
  · refine (h.fresh q node hq).imp_right (Or.imp_right fun ⟨stub, hstub, hentry⟩ ↦ ?_)
    exact ⟨stub, hstub, (entryAt?_enter (habs stub hstub) π).trans hentry⟩
  · obtain ⟨q, hq, hentry⟩ := h.stub stub hstub
    exact ⟨q, hq, (entryAt?_enter (habs stub hstub) π).trans hentry⟩

/-- The stubs of modules of an absolute project are absolute. -/
theorem isAbsolute_of_mem_files {modules : List String} {warnings : List Warning}
    (habs : project.isAbsolute = true)
    (hrun : createAll m .empty project modules = (warnings, m', s)) :
    ∀ stub ∈ s.files, stub.path.isAbsolute = true := by
  intro stub hstub
  rcases mem_files_createAll hrun stub hstub with h | ⟨-, hpath⟩
  · simp [Stubs.empty] at h
  · obtain ⟨stem, -, hplain, heq⟩ := path?_eq_some_iff.1 hpath
    rw [heq, isAbsolute_join (text_ne_of_isAbsolute habs) hplain.relative, habs]

/-- The stub of a path is a file. -/
theorem Created.isFile_of_leadsToStub (h : Created m m' s) (hp : LeadsToStub m' s p) :
    m'.isFile p = true := by
  obtain ⟨stub, hstub, -, heq⟩ := hp
  obtain ⟨q, -, hentry⟩ := h.stub stub hstub
  exact Machine.isFile_eq_true_iff.2 ⟨q, _, _, heq.trans hentry⟩

/-- What was there before is no stub. -/
theorem Created.not_leadsToStub (h : Created m m' s) (hm : m.WellFormed)
    (hp : m.exists p = true) : ¬LeadsToStub m' s p := by
  rintro ⟨stub, hstub, -, heq⟩
  obtain ⟨q, hq, hentry⟩ := h.stub stub hstub
  have hold := Machine.entryAt?_of_exists hm h.wellFormed h.grows hp (heq.trans hentry)
  rw [Machine.get?_of_entryAt? hold] at hq
  simp at hq

/-- A new file under a path that nothing uncovered is a stub. -/
theorem Created.leadsToStub_of_isFile (h : Created m m' s) (hm : m.WellFormed)
    (hnew : m.isFile p = false) (hp : m'.isFile p = true) (hcover : ¬Uncovered m m' s p) :
    m.exists p = false ∧ LeadsToStub m' s p := by
  have hnone : m.exists p = false := by
    rw [← Bool.not_eq_true]
    intro hexists
    obtain ⟨q, bytes, executable, hentry⟩ := Machine.isFile_eq_true_iff.1 hp
    have hold := Machine.entryAt?_of_exists hm h.wellFormed h.grows hexists hentry
    rw [Machine.isFile_eq_true_iff.2 ⟨q, bytes, executable, hold⟩] at hnew
    simp at hnew
  exact ⟨hnone, by_contra fun hstub ↦ hcover ⟨hnone, hp, hstub⟩⟩

end Stub

namespace SearchPath

/-- The candidates of a name that are tried before a file is found. -/
def passedOver (m : Machine) (dir : Path) (templates : List String) (name : String) : List Path :=
  (templates.map (candidate dir name)).takeWhile fun c ↦ !m.isFile c

variable {m : Machine} {dir f : Path} {templates : List String} {name : String}

/-- A file that is found comes right after the candidates that are passed over. -/
theorem map_candidate_eq_of_locate (h : locate m dir templates name = some f) :
    ∃ rest, templates.map (candidate dir name) = passedOver m dir templates name ++ f :: rest ∧
      m.isFile f = true ∧ ∀ c ∈ passedOver m dir templates name, m.isFile c = false := by
  obtain ⟨hfile, before, rest, hsplit, hbefore⟩ := List.find?_eq_some_iff_append.1 h
  have hpassed : passedOver m dir templates name = before := by
    rw [passedOver, hsplit, List.takeWhile_append_of_pos hbefore, List.takeWhile_cons_of_neg]
    · simp
    · simpa using hfile
  rw [hpassed]
  exact ⟨rest, hsplit, hfile, fun c hc ↦ by simpa using hbefore c hc⟩

end SearchPath

open Stub SearchPath

variable {m m' here here' : Machine} {s : Stubs} {project f : Path} {templates modules : List String}
  {warnings : List Warning} {name : String}

/-- **A module is found where it was, and not as a stub, exactly if no candidate that is passed over
leads to a stub** — whatever the templates and the stubs are, as long as stubbing uncovers none of
these candidates. -/
theorem locate_stubbed_iff (hm : m.WellFormed) (hproject : m.normalize project = project)
    (hstubs : createAll m .empty project modules = (warnings, m', s))
    (henter : m.enter project = .ok here) (henter' : m'.enter project = .ok here')
    (hlocate : locate here ⟨"."⟩ templates name = some f)
    (hcover : ∀ c ∈ passedOver here ⟨"."⟩ templates name, ¬Uncovered here here' s c) :
    (∃ f', locate here' ⟨"."⟩ templates name = some f' ∧
        here'.normalize f' = here.normalize f ∧ ¬LeadsToStub here' s f') ↔
      ∀ c ∈ passedOver here ⟨"."⟩ templates name, ¬LeadsToStub here' s c := by
  obtain ⟨π, hπ, hpath, rfl⟩ := Machine.eq_path_of_enter hproject henter
  have habs : project.isAbsolute = true := by rw [hpath, Place.isAbsolute_path]
  have hcreated := created_createAll (created_empty hm) hstubs
  obtain ⟨π', hentry', rfl⟩ := Machine.enter_eq_ok_iff.1 henter'
  obtain rfl : π' = π := by
    obtain ⟨π'', hentry, heq⟩ := Machine.enter_eq_ok_iff.1 henter
    have hgrown := Machine.entryAt?_of_grows hm hcreated.wellFormed hcreated.grows hentry
    rw [hgrown, Except.ok.injEq, Prod.mk.injEq] at hentry'
    exact hentry'.1.symm.trans (congrArg Machine.cwd heq).symm
  have hhere : Machine.WellFormed { m with cwd := π' } := ⟨hm.tree, hπ⟩
  have hcreated' := hcreated.enter (isAbsolute_of_mem_files habs hstubs) hπ
  obtain ⟨rest, hsplit, hfile, hpassed⟩ := map_candidate_eq_of_locate hlocate
  -- the file of the module is there still, and is no stub
  obtain ⟨E, bytes, executable, hentry⟩ := Machine.isFile_eq_true_iff.1 hfile
  have hgrown := Machine.entryAt?_of_grows hhere hcreated'.wellFormed hcreated'.grows hentry
  have hfile' := Machine.isFile_eq_true_iff.2 ⟨E, bytes, executable, hgrown⟩
  constructor
  · rintro ⟨f', hf', -, hnot⟩ c hc hstub
    obtain ⟨hisFile, before, after, hsplit', hbefore⟩ := List.find?_eq_some_iff_append.1 hf'
    have hcfile := hcreated'.isFile_of_leadsToStub hstub
    -- the file that is found now is passed over before, for it comes no later than the stub
    have hmem : f' ∈ passedOver { m with cwd := π' } ⟨"."⟩ templates name := by
      rw [hsplit] at hsplit'
      rcases List.append_eq_append_iff.1 hsplit' with ⟨as, rfl, hrest⟩ | ⟨as, heq, hrest⟩
      · have := hbefore c (List.mem_append_left _ hc)
        simp [hcfile] at this
      · rw [heq]
        cases as with
        | nil =>
          rw [List.append_nil] at heq
          have := hbefore c (heq ▸ hc)
          simp [hcfile] at this
        | cons a as =>
          rw [List.cons_append, List.cons.injEq] at hrest
          simp [hrest.1]
    exact hnot (hcreated'.leadsToStub_of_isFile hhere (hpassed f' hmem) hisFile
      (hcover f' hmem)).2
  · intro hnone
    have hskip : ∀ c ∈ passedOver { m with cwd := π' } ⟨"."⟩ templates name,
        Machine.isFile { m' with cwd := π' } c = false := by
      intro c hc
      rw [← Bool.not_eq_true]
      intro hcfile
      exact hnone c hc
        (hcreated'.leadsToStub_of_isFile hhere (hpassed c hc) hcfile (hcover c hc)).2
    refine ⟨f, ?_, ?_, hcreated'.not_leadsToStub hhere
      (Machine.exists_eq_true_iff.2 ⟨E, _, hentry⟩)⟩
    · exact List.find?_eq_some_iff_append.2
        ⟨hfile', _, rest, hsplit, fun c hc ↦ by simpa using hskip c hc⟩
    · rw [Machine.normalize_of_entryAt? hgrown, Machine.normalize_of_entryAt? hentry]

/-! ### Roots side by side, and a root whose name starts a module name -/

/-- A file of a text. -/
def textFile (text : String) : Node := .file (encodeString text) false

/-- A project with a root `src` inside, a library with the module `n`, and a runtime directory with
one module. -/
def projectAndLibrary (main : String) (runtime : List (List String × Node)) : Machine where
  tree := ⟨[(["p"], .dir), (["p", "Main.lua"], textFile main), (["p", "src"], .dir),
    (["lib"], .dir), (["lib", "n.lua"], textFile "return 'n'\n"), (["rt"], .dir)] ++ runtime⟩
  cwd := []
  env := []

/-- A job on the project `/p` with two search roots and a runtime directory. -/
def jobOnLibrary : Job where
  project := ⟨"/p"⟩
  entry := "Main.lua"
  roots := [⟨"/p/src"⟩, ⟨"/lib"⟩]
  runtime := some ⟨"/rt"⟩
  timeout := ⟨0⟩
  grace := ⟨0⟩
  worker := .ofSettings none []
  validateSyntax := false
  luac := none

/-- The templates of `jobOnLibrary`. -/
def libraryTemplates : List String :=
  ["./src/?.lua", "./src/?/init.lua", "/lib/?.lua", "/lib/?/init.lua", "./?.lua", "./?/init.lua"]

/-- A stub next to the root `src` is in nobody's way. -/
theorem locate_stubbed_beside_root :
    ∃ m here here' s f', createAll m .empty ⟨"/p"⟩ ["net"] = ([], here', s) ∧ s.files ≠ [] ∧
      locate here ⟨"."⟩ libraryTemplates "n" = some ⟨"/lib/n.lua"⟩ ∧
      locate { here' with cwd := ["p"] } ⟨"."⟩ libraryTemplates "n" = some f' ∧
      Machine.normalize { here' with cwd := ["p"] } f' = here.normalize ⟨"/lib/n.lua"⟩ ∧
      ¬LeadsToStub { here' with cwd := ["p"] } s f' := by
  let m := projectAndLibrary "require('n')\nrequire('net')\n"
    [(["rt", "net.lua"], textFile "return \x7b\x7d\n")]
  have hm : m.WellFormed := ⟨Tree.wellFormed_of_entries (by decide +kernel), by decide +kernel⟩
  let stubbed := createAll m .empty ⟨"/p"⟩ ["net"]
  have hstubs : createAll m .empty ⟨"/p"⟩ ["net"] = ([], stubbed.2.1, stubbed.2.2) :=
    Prod.ext (by decide +kernel) rfl
  have hlocate : locate { m with cwd := ["p"] } ⟨"."⟩ libraryTemplates "n" = some ⟨"/lib/n.lua"⟩ := by
    decide +kernel
  have henter : m.enter ⟨"/p"⟩ = .ok { m with cwd := ["p"] } :=
    Machine.enter_eq_ok_iff.2 ⟨["p"], by decide +kernel, rfl⟩
  have henter' : stubbed.2.1.enter ⟨"/p"⟩ = .ok { stubbed.2.1 with cwd := ["p"] } :=
    Machine.enter_eq_ok_iff.2 ⟨["p"], by decide +kernel, rfl⟩
  obtain ⟨f', hf', hnormal, hnot⟩ := (locate_stubbed_iff hm (by decide +kernel) hstubs henter
    henter' hlocate (by decide +kernel)).2 (by decide +kernel)
  exact ⟨m, _, _, _, f', hstubs, by decide +kernel, hlocate, hf', hnormal, hnot⟩

/-- **A stub shadows a module of a later root** if the name of a runtime module starts with that of
a root inside the project: the stub of `src.n` is what the root `src` has for `n`. -/
theorem not_locate_stubbed_of_nested_root :
    ¬∀ (job : Job) (m m' here here' : Machine) (analysis : Analysis) (warnings : List Warning)
      (s : Stubs) (text : String) (source : ModuleNode) (name : String) (p f : Path),
      m.WellFormed → m.normalize job.project = job.project → job.analyze m = .ok analysis →
      Job.ensureResolved analysis.graph = .ok () →
      createAll m .empty job.project analysis.runtimeNames = (warnings, m', s) →
      m.enter job.project = .ok here → m'.enter job.project = .ok here' →
      job.searchPath m' = .ok text → (source, ⟨name, .project p⟩) ∈ analysis.graph.references →
      locate here ⟨"."⟩ (templatesOf text) name = some f → here.normalize f = p →
      ∃ f', locate here' ⟨"."⟩ (templatesOf text) name = some f' ∧ here'.normalize f' = p ∧
        ¬LeadsToStub here' s f' := by
  intro h
  let m := projectAndLibrary "require('n')\nrequire('src.n')\n"
    [(["rt", "src"], .dir), (["rt", "src", "n.lua"], textFile "return \x7b\x7d\n")]
  have hm : m.WellFormed := ⟨Tree.wellFormed_of_entries (by decide +kernel), by decide +kernel⟩
  let source : ModuleNode := ⟨⟨"/p/Main.lua"⟩,
    [⟨"n", .project ⟨"/lib/n.lua"⟩⟩, ⟨"src.n", .runtime ⟨"/rt/src/n.lua"⟩⟩]⟩
  have hanalysis : (jobOnLibrary.analyze m).map (fun a ↦ (Job.ensureResolved a.graph,
      a.runtimeNames, decide ((source, ⟨"n", .project ⟨"/lib/n.lua"⟩⟩) ∈ a.graph.references))) =
      .ok (.ok (), ["src.n"], true) := by decide +kernel
  obtain ⟨analysis, hanalyze, heq⟩ := Except.map_eq_ok_iff.1 hanalysis
  simp only [Prod.mk.injEq, decide_eq_true_eq] at heq
  obtain ⟨hresolved, hnames, hreference⟩ := heq
  let stubbed := createAll m .empty ⟨"/p"⟩ ["src.n"]
  obtain ⟨f', hf', -, hnot⟩ := h jobOnLibrary m stubbed.2.1 { m with cwd := ["p"] }
    { stubbed.2.1 with cwd := ["p"] } analysis stubbed.1 stubbed.2.2
    (String.intercalate ";" libraryTemplates) source "n" ⟨"/lib/n.lua"⟩ ⟨"/lib/n.lua"⟩ hm
    (by decide +kernel) hanalyze hresolved (by rw [hnames]; rfl)
    (Machine.enter_eq_ok_iff.2 ⟨["p"], by decide +kernel, rfl⟩)
    (Machine.enter_eq_ok_iff.2 ⟨["p"], by decide +kernel, rfl⟩) (by decide +kernel) hreference
    (by decide +kernel) (by decide +kernel)
  have hstub : (locate { stubbed.2.1 with cwd := ["p"] } ⟨"."⟩
      (templatesOf (String.intercalate ";" libraryTemplates)) "n").all
        (fun f ↦ LeadsToStub { stubbed.2.1 with cwd := ["p"] } stubbed.2.2 f) = true := by
    decide +kernel
  rw [hf', Option.all_some, decide_eq_true_eq] at hstub
  exact hnot hstub

end LuaBundler
