import LuaBundler.Proofs.Outcome
import LuaBundler.Proofs.Search.Agreement
import LuaBundler.Proofs.Text.Splitting

/-!
# The search path as text

A search path is passed to the worker as one text. Whatever roots it was written from, the worker
reads the same templates from it (`templatesOf_searchPath`): no template holds the separator, and
none starts or ends with a blank, so neither splitting nor trimming changes it.
-/

namespace LuaBundler

open Text Files

/-- A text that neither starts nor ends with a blank is not trimmed. -/
theorem Text.trim_eq_self {cs : List Char} (hhead : ∀ c, cs.head? = some c → isBlank c = false)
    (hlast : ∀ c, cs.getLast? = some c → isBlank c = false) : trim cs = cs := by
  have hdrop : ∀ ds : List Char, (∀ c, ds.head? = some c → isBlank c = false) →
      dropBlanks ds = ds := by
    intro ds hds
    cases ds with
    | nil => rfl
    | cons d ds => exact dropBlanks_eq_self (hds d rfl)
  rw [trim, hdrop cs hhead, trimEnd, hdrop cs.reverse (by simpa using hlast), List.reverse_reverse]

namespace SearchPath

/-- A template that comes back from a text: it has no separator, and no blank at either end. -/
structure IsWritten (template : String) : Prop where
  no_separator : separator ∉ template.toList
  ne_empty : template ≠ ""
  head : ∀ c, template.toList.head? = some c → isBlank c = false
  last : ∀ c, template.toList.getLast? = some c → isBlank c = false

/-- **Templates are read back from their text.** -/
theorem templatesOf_intercalate {ts : List String} (hne : ts ≠ []) (h : ∀ t ∈ ts, IsWritten t) :
    templatesOf (String.intercalate ";" ts) = ts := by
  have hsplit : splitOn separator (String.intercalate ";" ts).toList = ts.map String.toList := by
    rw [String.toList_intercalate, show (";" : String).toList = [separator] by decide, ← join_eq]
    refine splitOn_join (by simpa using hne) fun p hp ↦ ?_
    obtain ⟨t, ht, rfl⟩ := List.mem_map.1 hp
    exact (h t ht).no_separator
  have htrim : (ts.map String.toList).map trim = ts.map String.toList := by
    rw [List.map_map]
    refine List.map_congr_left fun t ht ↦ ?_
    exact trim_eq_self (h t ht).head (h t ht).last
  have hfilter : (ts.map String.toList).filter (· ≠ []) = ts.map String.toList := by
    refine List.filter_eq_self.2 fun p hp ↦ ?_
    obtain ⟨t, ht, rfl⟩ := List.mem_map.1 hp
    simpa using (h t ht).ne_empty
  have hmap : (ts.map String.toList).map String.ofList = ts := by simp
  unfold templatesOf
  rw [hsplit, htrim, hfilter, hmap]
  cases ts with
  | nil => exact absurd rfl hne
  | cons t ts => rfl

/-- The templates of a base that does not start with a blank come back from a text. -/
theorem isWritten_of_mem_templatesOf {base template : String} (hsep : separator ∉ base.toList)
    (hhead : ∀ c, base.toList.head? = some c → isBlank c = false)
    (h : template ∈ Job.templatesOf base) : IsWritten template := by
  have key : ∀ pattern : String, separator ∉ pattern.toList → pattern.toList.head? = some '/' →
      pattern.toList.getLast? = some 'a' → IsWritten (base ++ pattern) := by
    intro pattern hp hfirst hlast
    refine ⟨by simp [hsep, hp], fun hempty ↦ ?_, fun c hc ↦ ?_, fun c hc ↦ ?_⟩
    · have : pattern.toList = [] := by
        have := congrArg String.toList hempty
        simp_all
      simp [this] at hfirst
    · cases hb : base.toList with
      | nil =>
        simp only [String.toList_append, hb, List.nil_append, hfirst, Option.some.injEq] at hc
        subst hc
        decide
      | cons b bs =>
        refine hhead c ?_
        simpa [hb] using hc
    · simp only [String.toList_append, List.getLast?_append, hlast, Option.some_or,
        Option.some.injEq] at hc
      subst hc
      decide
  simp only [Job.templatesOf, List.mem_cons, List.not_mem_nil, or_false] at h
  rcases h with rfl | rfl
  · exact key "/?.lua" (by decide) (by decide) (by decide)
  · exact key "/?/init.lua" (by decide) (by decide) (by decide)

end SearchPath

namespace Job

variable {job : Job} {m : Machine}

/-- A normalized path is empty or starts at the root. -/
theorem normalize_empty_or_isAbsolute (m : Machine) (p : Path) :
    (m.normalize p).text = "" ∨ (m.normalize p).isAbsolute = true := by
  unfold Machine.normalize
  split
  · rename_i q hq
    right
    cases h : m.entryAt? p with
    | error e => simp [Machine.canonical, h, Except.map] at hq
    | ok entry =>
      simp only [Machine.canonical, h, Except.map, Except.ok.injEq] at hq
      rw [← hq, Place.isAbsolute_path]
  · cases h : p.absolute? (Place.path m.cwd) with
    | none => exact .inl (absolute?_eq_none_iff.1 h)
    | some q => exact .inr (bare_namesOf_absolute (Place.isAbsolute_path _) h).1

/-- No base of a normalized root starts with a blank. -/
theorem isBlank_head_baseOf {project root : Path} {base : String}
    (hroot : root.text = "" ∨ root.isAbsolute = true) (h : baseOf project root = .ok base) (c : Char)
    (hc : base.toList.head? = some c) : isBlank c = false := by
  rcases baseOf_cases h with ⟨-, -, -, rfl⟩ | ⟨-, b, -, -, rfl⟩ | ⟨-, hb⟩
  · obtain rfl : c = '.' := by simpa [eq_comm] using hc
    decide
  · obtain rfl : c = '.' := by simpa [eq_comm] using hc
    decide
  · obtain ⟨rfl, -⟩ := templateBase_eq_ok hb
    rcases hroot with hroot | hroot
    · simp [hroot] at hc
    · rw [isAbsolute_iff] at hroot
      rw [String.toList_map, List.head?_map, hroot, Option.map_some, Option.some.injEq] at hc
      subst hc
      decide

/-- The templates of a job are those of the bases of its roots, and then the default ones unless a
root is the project. -/
theorem templates_eq_ok_iff {ts : List String} :
    job.templates m = .ok ts ↔
      ∃ bases, (job.roots.map m.normalize).mapM (baseOf job.project) = .ok bases ∧
        ts = bases.flatMap templatesOf ++
          if coversProject job.project (job.roots.map m.normalize) then []
          else SearchPath.defaultTemplates := by
  unfold templates
  rw [Except.bind_eq_ok_iff]
  simp only [pure, Except.pure, Except.ok.injEq, eq_comm]

/-- A search path is the text of the templates. -/
theorem searchPath_eq_ok_iff {text : String} :
    job.searchPath m = .ok text ↔
      ∃ ts, job.templates m = .ok ts ∧ text = String.intercalate ";" ts := by
  unfold searchPath
  simp only [Except.map_eq_ok_iff, @eq_comm _ text]

/-- **The worker reads the templates that were written**, in order, whatever the roots are. -/
theorem templatesOf_searchPath {text : String} (h : job.searchPath m = .ok text) :
    job.templates m = .ok (SearchPath.templatesOf text) := by
  obtain ⟨ts, hts, rfl⟩ := searchPath_eq_ok_iff.1 h
  obtain ⟨bases, hbases, heq⟩ := templates_eq_ok_iff.1 hts
  have hall := Except.forall₂_of_mapM hbases
  rw [SearchPath.templatesOf_intercalate, hts]
  · -- without roots the default templates are there
    rintro rfl
    cases hroots : job.roots with
    | nil => simp [hroots, coversProject, SearchPath.defaultTemplates] at heq
    | cons root roots =>
      rw [hroots] at hall
      cases hall with
      | cons _ _ => simp [templatesOf] at heq
  · intro t ht
    rw [heq, List.mem_append, List.mem_flatMap] at ht
    rcases ht with ⟨base, hbase, ht⟩ | ht
    · obtain ⟨root, hroot, hok⟩ : ∃ root ∈ job.roots.map m.normalize,
          baseOf job.project root = .ok base := by
        obtain ⟨i, hi, rfl⟩ := List.mem_iff_getElem.1 hbase
        have hlen := hall.length_eq
        exact ⟨_, List.getElem_mem (hlen ▸ hi), hall.get (hlen ▸ hi) hi⟩
      obtain ⟨r, -, rfl⟩ := List.mem_map.1 hroot
      exact SearchPath.isWritten_of_mem_templatesOf (not_mem_baseOf hok).1
        (isBlank_head_baseOf (normalize_empty_or_isAbsolute m r) hok) ht
    · split at ht
      · simp at ht
      · refine @SearchPath.isWritten_of_mem_templatesOf "." t (by decide) (fun c hc ↦ ?_) ht
        obtain rfl : c = '.' := by simpa [eq_comm] using hc
        decide

/-- Whatever the roots are, one of the templates stands for the project directory. -/
theorem project_mem_templates {ts : List String} (h : job.templates m = .ok ts) :
    "./?.lua" ∈ ts := by
  obtain ⟨bases, hbases, rfl⟩ := templates_eq_ok_iff.1 h
  split
  · rename_i hcovers
    obtain ⟨root, hroot, hself⟩ := List.any_eq_true.1 hcovers
    obtain ⟨rest, hrest, hempty⟩ := (Option.any_eq_true ..).1 hself
    have hbase : baseOf job.project root = .ok "." := by
      simp only [baseOf, hrest, of_decide_eq_true hempty, if_true]
    obtain ⟨base, hmem, hok⟩ := Except.exists_of_mapM hbases hroot
    obtain rfl : "." = base := by simpa [hbase] using hok
    exact List.mem_append_left _ (List.mem_flatMap.2 ⟨".", hmem, by decide⟩)
  · exact List.mem_append_right _ (by decide)

end Job

end LuaBundler
