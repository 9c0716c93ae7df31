import LuaBundler.Proofs.Search.Templates

/-!
# Where the worker searches

The worker gets the search roots of a job as templates in one text. It reads the same templates from
it, and what they give for a name is, candidate by candidate, what the roots give
(`forall₂_sameEntry`). So it finds a project module where the analysis did, and for a name that no
root contains only the templates of the project directory, which come last, can find a file
(`locate_searchPath`).

This needs roots that a base can hold as they are. A root with a backslash is written with a slash
in its place, and an empty root is written as the root directory: for these the worker searches
somewhere else (`not_locate_searchPath_of_backslash`).
-/

namespace LuaBundler

open Text Files

/-- Two searches through lists whose items correspond end at corresponding items. -/
theorem find?_of_forall₂ {α β : Type} {R : α → β → Prop} {p : α → Bool} {q : β → Bool}
    {xs : List α} {ys : List β} (hpq : ∀ x y, R x y → p x = q y) (h : List.Forall₂ R xs ys) :
    (xs.find? p = none ∧ ys.find? q = none) ∨
      ∃ x y, xs.find? p = some x ∧ ys.find? q = some y ∧ R x y := by
  induction h with
  | nil => exact .inl ⟨rfl, rfl⟩
  | cons hxy _ ih =>
    rename_i x y xs ys _
    rw [List.find?_cons, List.find?_cons, ← hpq x y hxy]
    cases p x
    · exact ih
    · exact .inr ⟨x, y, rfl, rfl, hxy⟩

/-- The first file under the roots is the first of all their candidates. -/
theorem findInRoots_eq_find? (m : Machine) (stem : Path) (roots : List Path) :
    findInRoots m stem roots =
      (roots.flatMap fun root ↦ ModuleName.candidates root stem).find? m.isFile := by
  rw [List.find?_flatMap]
  rfl

variable {m here : Machine} {project stem : Path} {name : String}

/-- A project module is a file that the roots have for its stem. -/
theorem Resolver.lookUp_eq_project_iff {r : Resolver} {p : Path}
    (hstem : ModuleName.stem? name = some stem) :
    r.lookUp m name = .project p ↔
      ∃ found, findInRoots m stem r.roots = some found ∧ m.normalize found = p := by
  simp only [lookUp, hstem]
  cases findInRoots m stem r.roots with
  | some found => simp
  | none => cases r.runtime.bind (findInRoot m stem) <;> simp

/-- **The candidates of templates are those of the roots they were written from.** -/
theorem forall₂_sameEntry (hm : m.WellFormed) (hproject : m.normalize project = project)
    (henter : m.enter project = .ok here) (hstem : ModuleName.stem? name = some stem)
    {roots : List Path} {bases : List String}
    (hbases : List.Forall₂ (fun root base ↦ Job.baseOf project (m.normalize root) = .ok base)
      roots bases)
    (hroots : ∀ root ∈ roots, Job.Expressible m project root)
    (htakes : ∀ root ∈ roots, ∀ c ∈ ModuleName.candidates root stem, m.Takes c)
    (hlen : ∀ base ∈ bases, ∀ t ∈ Job.templatesOf base,
      byteLength (SearchPath.candidate ⟨"."⟩ name t).text.toList ≤ maxPath) :
    List.Forall₂ (Machine.SameEntry m here)
      (roots.flatMap fun root ↦ ModuleName.candidates root stem)
      ((bases.flatMap Job.templatesOf).map (SearchPath.candidate ⟨"."⟩ name)) := by
  induction hbases with
  | nil => exact .nil
  | cons hbase _ ih =>
    rename_i root base roots bases _
    rw [List.flatMap_cons, List.flatMap_cons, List.map_append]
    refine List.rel_append ?_ (ih (fun r hr ↦ hroots r (List.mem_cons_of_mem _ hr))
      (fun r hr ↦ htakes r (List.mem_cons_of_mem _ hr))
      (fun b hb ↦ hlen b (List.mem_cons_of_mem _ hb)))
    have hcandidates := ModuleName.candidates_eq_map root hstem
    have htemplates := SearchPath.map_candidate_templatesOf ⟨"."⟩
      (Job.not_mem_baseOf hbase).2 hstem
    have hlen' := hlen base (List.mem_cons_self ..)
    have htakes' := htakes root (List.mem_cons_self ..)
    rw [hcandidates] at htakes' ⊢
    rw [htemplates, List.forall₂_map_left_iff, List.forall₂_map_right_iff, List.forall₂_same]
    intro f hf
    refine Machine.sameEntry_candidate hm hproject henter (hroots root (List.mem_cons_self ..))
      hbase (ModuleName.isPlain_of_mem_filesOf hstem hf) (htakes' _ (List.mem_map_of_mem hf)) ?_
    have hmem : Path.join ⟨"."⟩ ⟨base ++ "/" ++ f.text⟩ ∈
        (Job.templatesOf base).map (SearchPath.candidate ⟨"."⟩ name) := by
      rw [htemplates]
      exact List.mem_map_of_mem (f := fun f : Path ↦ Path.join ⟨"."⟩ ⟨base ++ "/" ++ f.text⟩) hf
    obtain ⟨t, ht, heq⟩ := List.mem_map.1 hmem
    rw [← heq]
    exact hlen' t ht

/-- **The worker searches exactly where the graph was classified.** It reads the templates that the
job wrote; what the analysis calls a project module it finds as the same file; and what no root
contains it finds through the templates of the project directory or not at all. -/
theorem locate_searchPath {job : Job} {text : String} (hm : m.WellFormed)
    (hproject : m.normalize job.project = job.project) (henter : m.enter job.project = .ok here)
    (hroots : ∀ root ∈ job.roots, Job.Expressible m job.project root)
    (htext : job.searchPath m = .ok text) :
    job.templates m = .ok (SearchPath.templatesOf text) ∧
    ∀ (name : String) (stem : Path), ModuleName.stem? name = some stem →
      (∀ root ∈ job.roots, ∀ c ∈ ModuleName.candidates root stem, m.Takes c) →
      (∀ t ∈ SearchPath.templatesOf text,
        byteLength (SearchPath.candidate ⟨"."⟩ name t).text.toList ≤ maxPath) →
      (∀ p, Resolver.lookUp ⟨job.roots, job.runtime, []⟩ m name = .project p →
        ∃ f, SearchPath.locate here ⟨"."⟩ (SearchPath.templatesOf text) name = some f ∧
          here.normalize f = p) ∧
      (findInRoots m stem job.roots = none → ∀ f,
        SearchPath.locate here ⟨"."⟩ (SearchPath.templatesOf text) name = some f →
        ∃ own, SearchPath.templatesOf text = own ++ SearchPath.defaultTemplates ∧
          SearchPath.locate here ⟨"."⟩ own name = none ∧
          SearchPath.locate here ⟨"."⟩ SearchPath.defaultTemplates name = some f) := by
  have htemplates := Job.templatesOf_searchPath htext
  refine ⟨htemplates, fun name stem hstem htakes hlen ↦ ?_⟩
  obtain ⟨bases, hbases, heq⟩ := Job.templates_eq_ok_iff.1 htemplates
  have hall := Except.forall₂_of_mapM hbases
  rw [List.forall₂_map_left_iff] at hall
  have hsame := forall₂_sameEntry hm hproject henter hstem hall hroots htakes
    (fun base hbase t ht ↦ hlen t (by
      rw [heq]
      exact List.mem_append_left _ (List.mem_flatMap.2 ⟨base, hbase, ht⟩)))
  have hfind := find?_of_forall₂ (p := m.isFile) (q := here.isFile)
    (fun p q h ↦ h.isFile_eq) hsame
  rw [← findInRoots_eq_find?] at hfind
  constructor
  · intro p hp
    obtain ⟨found, hfound, rfl⟩ := (Resolver.lookUp_eq_project_iff hstem).1 hp
    rcases hfind with ⟨hnone, -⟩ | ⟨x, y, hx, hy, hxy⟩
    · rw [hfound] at hnone
      simp at hnone
    · obtain rfl : found = x := by simpa [hfound] using hx
      refine ⟨y, ?_, ?_⟩
      · rw [SearchPath.locate, heq, List.map_append, List.find?_append, hy]
        rfl
      · have hfile : m.isFile found = true := by
          rw [findInRoots_eq_find?] at hfound
          exact List.find?_some hfound
        obtain ⟨E, bytes, executable, hentry⟩ := Machine.isFile_eq_true_iff.1 hfile
        rw [Machine.normalize_of_entryAt? hentry,
          Machine.normalize_of_entryAt? ((hxy E _).1 hentry)]
  · intro hnone f hf
    rcases hfind with ⟨-, hnone'⟩ | ⟨x, y, hx, -⟩
    · rw [SearchPath.locate, heq, List.map_append, List.find?_append, hnone', Option.none_or] at hf
      split at hf
      · simp at hf
      · rename_i hcovers
        exact ⟨bases.flatMap Job.templatesOf, by rw [heq, if_neg hcovers], hnone', hf⟩
    · rw [hnone] at hx
      simp at hx

/-! ### Roots that a base can hold, and roots that it cannot -/

/-- A file with no bytes. -/
def emptyFile : Node := .file [] false

/-- A project with one module, in a directory of the given name. -/
def oneModule (dir : String) : Machine where
  tree := ⟨[(["p"], .dir), (["p", dir], .dir), (["p", dir, "n.lua"], emptyFile)]⟩
  cwd := ["p"]
  env := []

/-- A job on the project `/p` with one search root. -/
def jobOfRoot (root : String) : Job where
  project := ⟨"/p"⟩
  entry := "Main.lua"
  roots := [⟨root⟩]
  runtime := none
  timeout := ⟨0⟩
  grace := ⟨0⟩
  worker := .ofSettings none []
  validateSyntax := false
  luac := none

/-- The module of a directory below the project is found through the template of that directory. -/
theorem locate_searchPath_below_project :
    Resolver.lookUp ⟨(jobOfRoot "src").roots, none, []⟩ (oneModule "src") "n" =
      .project ⟨"/p/src/n.lua"⟩ ∧
    ∃ here text f, (oneModule "src").enter ⟨"/p"⟩ = .ok here ∧
      (jobOfRoot "src").searchPath (oneModule "src") = .ok text ∧
      SearchPath.locate here ⟨"."⟩ (SearchPath.templatesOf text) "n" = some f ∧
      here.normalize f = ⟨"/p/src/n.lua"⟩ := by
  have hm : (oneModule "src").WellFormed :=
    ⟨Tree.wellFormed_of_entries (by decide +kernel), by decide +kernel⟩
  have hlook : Resolver.lookUp ⟨(jobOfRoot "src").roots, none, []⟩ (oneModule "src") "n" =
      .project ⟨"/p/src/n.lua"⟩ := by decide +kernel
  have henter : (oneModule "src").enter ⟨"/p"⟩ = .ok { oneModule "src" with cwd := ["p"] } :=
    Machine.enter_eq_ok_iff.2 ⟨["p"], by decide +kernel, rfl⟩
  have htext : (jobOfRoot "src").searchPath (oneModule "src") =
      .ok "./src/?.lua;./src/?/init.lua;./?.lua;./?/init.lua" := by decide +kernel
  obtain ⟨-, hall⟩ := locate_searchPath hm (show _ = (jobOfRoot "src").project by decide +kernel) henter
    (fun root hroot ↦ by
      obtain rfl := List.mem_singleton.1 hroot
      exact ⟨by decide, by decide +kernel⟩) htext
  obtain ⟨hlocal, -⟩ := hall "n" ⟨"n"⟩ (by decide +kernel)
    (fun root hroot c hc ↦ by
      obtain rfl := List.mem_singleton.1 hroot
      have hplain : ∀ c ∈ ModuleName.candidates ⟨"src"⟩ ⟨"n"⟩, c.text ≠ "" ∧
          byteLength c.text.toList ≤ maxPath ∧
          (oneModule "src").entryAt? c ≠ .error .tooManyLinks := by decide +kernel
      obtain ⟨h1, h2, h3⟩ := hplain c hc
      exact Machine.takes_of_entryAt?_ne hm h1 h2 h3)
    (by decide +kernel)
  obtain ⟨f, hf, hnormal⟩ := hlocal _ hlook
  exact ⟨hlook, _, _, f, henter, htext, hf, hnormal⟩

/-- **A backslash in a root sends the worker elsewhere**: the base has a slash in its place. -/
theorem not_locate_searchPath_of_backslash :
    ¬∀ (job : Job) (m here : Machine) (text name : String) (stem p : Path), m.WellFormed →
      m.normalize job.project = job.project → m.enter job.project = .ok here →
      job.searchPath m = .ok text → ModuleName.stem? name = some stem →
      Resolver.lookUp ⟨job.roots, job.runtime, []⟩ m name = .project p →
      ∃ f, SearchPath.locate here ⟨"."⟩ (SearchPath.templatesOf text) name = some f ∧
        here.normalize f = p := by
  intro h
  obtain ⟨f, hf, -⟩ := h (jobOfRoot "a\\b") (oneModule "a\\b") { oneModule "a\\b" with cwd := ["p"] }
    "./a/b/?.lua;./a/b/?/init.lua;./?.lua;./?/init.lua" "n" ⟨"n"⟩ ⟨"/p/a\\b/n.lua"⟩
    ⟨Tree.wellFormed_of_entries (by decide +kernel), by decide +kernel⟩ (by decide +kernel)
    (Machine.enter_eq_ok_iff.2 ⟨["p"], by decide +kernel, rfl⟩) (by decide +kernel)
    (by decide +kernel) (by decide +kernel)
  have hnone : SearchPath.locate { oneModule "a\\b" with cwd := ["p"] } ⟨"."⟩
      (SearchPath.templatesOf "./a/b/?.lua;./a/b/?/init.lua;./?.lua;./?/init.lua") "n" = none := by
    decide +kernel
  rw [hnone] at hf
  simp at hf

/-- An empty root is the working directory of the analysis, but its base is the root directory. -/
theorem not_locate_searchPath_of_empty_root :
    Resolver.lookUp ⟨(jobOfRoot "").roots, none, []⟩ { oneModule "src" with cwd := ["p", "src"] }
      "n" = .project ⟨"/p/src/n.lua"⟩ ∧
    ∃ text, (jobOfRoot "").searchPath { oneModule "src" with cwd := ["p", "src"] } = .ok text ∧
      SearchPath.locate (oneModule "src") ⟨"."⟩ (SearchPath.templatesOf text) "n" = none :=
  ⟨by decide +kernel, "/?.lua;/?/init.lua;./?.lua;./?/init.lua", by decide +kernel,
    by decide +kernel⟩

end LuaBundler
