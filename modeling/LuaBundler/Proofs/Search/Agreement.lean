import LuaBundler.Proofs.Files.Normal
import LuaBundler.Proofs.Outcome
import LuaBundler.Proofs.Search.Candidates
import Mathlib.Data.List.Forall2

/-!
# Two searches

The analysis joins module names under the search roots of a job; the worker puts them into templates
that were written from the roots, normalized and seen from the project, and starts in the project
directory. Candidate by candidate the two denote the same entry (`Machine.SameEntry`), so the same
candidate is found first.

What carries this is that the names of a root and those of its template base lead on to the same
places: those of a root that is there because both lead to it, those of one that is not there
because they are the same names (`leads_normalize_append`, `leads_base_append`). Only a base that
holds the text of the root unchanged is such a base (`Job.Expressible`), and a system that cuts off
long paths and long chains of links has to let both candidates pass (`Machine.Takes`).
-/

namespace LuaBundler

open Text Files

/-! ### Names under a root and under its base -/

namespace Files.Machine

variable {m : Machine} {root : Path} {E π : Place} {ws : List String} {c : Nat}

/-- Names under a root lead where they lead under the normalized root, with no more links. -/
theorem leads_normalize_append (hm : m.WellFormed) (hne : root.text ≠ "") (hws : bare ws = ws)
    (hwne : ws ≠ []) (h : m.tree.Leads (origin m.cwd root.text) (namesOf root.text ++ ws) c E) :
    ∃ d ≤ c, m.tree.Leads [] (bare (namesOf (m.normalize root).text) ++ ws) d E := by
  have hbare : m.tree.Leads (origin m.cwd root.text) (bare (namesOf root.text) ++ ws) c E :=
    (Tree.leads_append_congr (by simp) hws hwne).1 h
  rcases normalize_cases hm hne with ⟨q, node, hentry, hq⟩ | ⟨-, -, hnames⟩
  · have hlive := isLive_of_entryAt? hm hentry
    obtain ⟨-, -, ⟨d, -, hleads⟩, hnode⟩ := (entryAt?_eq_ok_iff hm.tree).1 hentry
    have hsome := Option.isSome_of_eq_some hnode
    have hroot := hleads.bare
    rw [bare_steps] at hroot
    obtain ⟨e, he, hc⟩ := hroot.of_append hbare
    refine ⟨e, by omega, ?_⟩
    rw [hq, Place.namesOf_path (hm.tree.isName_of_mem hsome), hm.tree.bare_eq_self hsome]
    simpa using (hm.tree.leads_self hlive).append he
  · refine ⟨c, Nat.le_refl c, ?_⟩
    rw [hnames, List.append_assoc]
    exact (leads_root_append hm.tree (hm.origin _)).2 hbare

/-- Names under a normalized root lead where they lead under the root. -/
theorem leads_append_of_normalize (hm : m.WellFormed) (hne : root.text ≠ "") (hws : bare ws = ws)
    (hwne : ws ≠ []) (h : m.tree.Leads [] (bare (namesOf (m.normalize root).text) ++ ws) c E) :
    ∃ d, m.tree.Leads (origin m.cwd root.text) (namesOf root.text ++ ws) d E := by
  obtain ⟨q, c₁, c₂, h₁, h₂, -⟩ := h.split
  obtain ⟨d, hd⟩ := leads_of_leads_normalize hm hne h₁
  exact ⟨d + c₂, (Tree.leads_append_congr (by simp) hws hwne).1 (hd.append h₂)⟩

/-- The directory that a machine enters is its own path once that path is normalized. -/
theorem enter_eq_ok_iff {here : Machine} {p : Path} :
    m.enter p = .ok here ↔ ∃ π, m.entryAt? p = .ok (π, .dir) ∧ here = { m with cwd := π } := by
  unfold enter
  split
  · rename_i π heq
    simp [heq, eq_comm]
  · rename_i hnot heq
    constructor
    · simp
    · rintro ⟨π, hπ, -⟩
      rw [heq, Except.ok.injEq] at hπ
      exact (hnot π hπ).elim
  · simp_all

end Files.Machine

/-! ### Template bases -/

namespace Job

/-- A root that a template base can hold as it is: it is not empty, and seen from the project it has
no backslash. -/
structure Expressible (m : Machine) (project root : Path) : Prop where
  ne_empty : root.text ≠ ""
  no_backslash : '\\' ∉ ((m.normalize root).relativeTo project).text.toList

theorem templateBase_eq_ok {root : Path} {base : String} (h : templateBase root = .ok base) :
    base = root.text.map (fun c ↦ if c = '\\' then '/' else c) ∧
      SearchPath.separator ∉ base.toList ∧ SearchPath.mark ∉ base.toList := by
  unfold templateBase at h
  split at h
  · simp at h
  · rename_i hany
    rw [Except.ok.injEq] at h
    subst h
    have hnot : ∀ c ∈ root.text.toList, c ≠ SearchPath.separator ∧ c ≠ SearchPath.mark := by
      simpa using hany
    refine ⟨rfl, ?_, ?_⟩ <;>
    · intro hmem
      simp only [String.toList_map, List.mem_map] at hmem
      obtain ⟨c, hc, heq⟩ := hmem
      split at heq
      · simp [SearchPath.separator, SearchPath.mark] at heq
      · have := hnot c hc
        simp_all

/-- A text without backslashes is a template base as it is. -/
theorem templateBase_eq_self {root : Path} {base : String} (h : templateBase root = .ok base)
    (hback : '\\' ∉ root.text.toList) : base = root.text := by
  obtain ⟨rfl, -⟩ := templateBase_eq_ok h
  rw [← String.toList_inj, String.toList_map]
  refine (List.map_congr_left fun c hc ↦ ?_).trans (List.map_id _)
  rw [if_neg (by rintro rfl; exact hback hc)]
  rfl

/-- The base of a root comes from what lies between the project and the root, or from the root if it
is outside. -/
theorem baseOf_cases {project root : Path} {base : String} (h : baseOf project root = .ok base) :
    (∃ rest, root.relativeTo? project = some rest ∧ rest.text = "" ∧ base = ".") ∨
    (∃ rest b, root.relativeTo? project = some rest ∧ templateBase rest = .ok b ∧
      base = "./" ++ b) ∨
    (root.relativeTo? project = none ∧ templateBase root = .ok base) := by
  unfold baseOf at h
  split at h
  · rename_i rest hrest
    split at h
    · exact .inl ⟨rest, hrest, ‹_›, (Except.ok.inj h).symm⟩
    · obtain ⟨b, hb, rfl⟩ := Except.map_eq_ok_iff.1 h
      exact .inr (.inl ⟨rest, b, hrest, hb, rfl⟩)
  · exact .inr (.inr ⟨‹_›, h⟩)

/-- **The base of a root without backslashes**: a dot for the project itself, a path from it for what
is inside, and the root for what is outside. -/
theorem baseOf_eq_self_cases {project root : Path} {base : String}
    (h : baseOf project root = .ok base) (hback : '\\' ∉ (root.relativeTo project).text.toList) :
    (∃ rest, root.relativeTo? project = some rest ∧ rest.text = "" ∧ base = ".") ∨
    (∃ rest, root.relativeTo? project = some rest ∧ base = "./" ++ rest.text) ∨
    (root.relativeTo? project = none ∧ base = root.text) := by
  refine (baseOf_cases h).imp_right (Or.imp ?_ ?_)
  · rintro ⟨rest, b, hrest, hb, rfl⟩
    rw [show root.relativeTo project = rest by simp [Path.relativeTo, hrest]] at hback
    exact ⟨rest, hrest, by rw [templateBase_eq_self hb hback]⟩
  · rintro ⟨hrest, hb⟩
    rw [show root.relativeTo project = root by simp [Path.relativeTo, hrest]] at hback
    exact ⟨hrest, templateBase_eq_self hb hback⟩

/-- The base of the project itself is a dot. -/
theorem baseOf_self {project : Path} (h : project.isAbsolute = true) :
    baseOf project project = .ok "." := by
  obtain ⟨rest, hrest, hempty⟩ := relativeTo?_self h
  simp [baseOf, hrest, hempty]

/-- No base holds the separator or the mark of templates. -/
theorem not_mem_baseOf {project root : Path} {base : String} (h : baseOf project root = .ok base) :
    SearchPath.separator ∉ base.toList ∧ SearchPath.mark ∉ base.toList := by
  rcases baseOf_cases h with ⟨-, -, -, rfl⟩ | ⟨rest, b, -, hb, rfl⟩ | ⟨-, hb⟩
  · decide
  · obtain ⟨-, hseparator, hmark⟩ := templateBase_eq_ok hb
    constructor
    · simpa [SearchPath.separator] using hseparator
    · simpa [SearchPath.mark] using hmark
  · exact (templateBase_eq_ok hb).2

end Job

namespace Files.Machine

variable {m : Machine} {project root : Path} {base : String} {E π : Place} {ws : List String}
  {c : Nat}

/-- **Names under a template base lead where they lead under the normalized root.** -/
theorem leads_base_append (hm : m.WellFormed) (hπ : m.tree.get? π = some .dir)
    (hproject : project = Place.path π) (habs : root.isAbsolute = true)
    (hback : '\\' ∉ (root.relativeTo project).text.toList)
    (h : Job.baseOf project root = .ok base) (hws : bare ws = ws) (hwne : ws ≠ []) :
    m.tree.Leads (origin π base) (namesOf base ++ ws) c E ↔
      m.tree.Leads [] (bare (namesOf root.text) ++ ws) c E := by
  have hsome : (m.tree.get? π).isSome := Option.isSome_of_eq_some hπ
  have hinside : ∀ rest, root.relativeTo? project = some rest →
      bare (namesOf root.text) = π ++ bare (namesOf rest.text) := by
    intro rest hrest
    obtain ⟨-, -, hnames, -⟩ :=
      Files.bare_namesOf_relativeTo (by rw [hproject, Place.isAbsolute_path]) hrest
    rwa [hproject, Place.namesOf_path (hm.tree.isName_of_mem hsome),
      hm.tree.bare_eq_self hsome] at hnames
  have hdots : ∀ {xs ys : List String} {p : Place}, bare xs = bare ys →
      (m.tree.Leads p (xs ++ ws) c E ↔ m.tree.Leads p (ys ++ ws) c E) :=
    fun hxy ↦ Tree.leads_append_congr hxy hws hwne
  rcases Job.baseOf_eq_self_cases h hback with ⟨rest, hrest, hempty, rfl⟩ | ⟨rest, hrest, rfl⟩ | ⟨-, rfl⟩
  · rw [hinside rest hrest, hempty, List.append_assoc, leads_root_append hm.tree hπ]
    exact hdots (by decide)
  · have horigin : origin π ("./" ++ rest.text) = π := by simp [origin]
    have hnames : namesOf ("./" ++ rest.text) = "." :: namesOf rest.text := by
      have := namesOf_append_slash "." rest.text
      rwa [show namesOf "." = ["."] by decide] at this
    rw [hinside rest hrest, List.append_assoc, leads_root_append hm.tree hπ, horigin, hnames]
    exact hdots (by simp [bare_cons])
  · rw [origin_of_isAbsolute habs]
    exact hdots (by simp)

/-- A plain file under a path has the names of both, and no more steps. -/
theorem steps_join_plain {f : Path} (hf : IsPlain f) :
    steps (root.join f).text = namesOf root.text ++ namesOf f.text := by
  obtain ⟨before, hbefore⟩ := exists_text_join root
  obtain ⟨c, hc, hslash⟩ := hf.getLast?
  have hlast : (root.join f).text.toList.getLast? = some c := by
    rw [hbefore f hf.relative, String.toList_append, List.getLast?_append, hc]
    rfl
  rw [steps_eq, hlast, if_neg (by simpa using hslash), List.append_nil,
    namesOf_join hf.relative]

/-- **What a plain file under a path leads to.** -/
theorem entryAt?_join_plain (hm : m.tree.WellFormed) (hne : root.text ≠ "") {f : Path}
    (hf : IsPlain f) {node : Node} :
    m.entryAt? (root.join f) = .ok (E, node) ↔
      byteLength (root.join f).text.toList ≤ maxPath ∧
      (∃ c ≤ maxLinks, m.tree.Leads (origin m.cwd root.text)
        (namesOf root.text ++ namesOf f.text) c E) ∧ m.tree.get? E = some node := by
  rw [entryAt?_eq_ok_iff hm, steps_join_plain hf, origin_join hne hf.relative]
  simp [hf.text_join_ne]

theorem join_slash {f : Path} (hf : f.isAbsolute = false) (s : String) :
    Path.join ⟨s ++ "/"⟩ f = ⟨s ++ "/" ++ f.text⟩ := by
  simp [Path.join, hf]

/-- A candidate of the worker is a plain file under a path that stands for its base. -/
theorem candidate_eq_join {f : Path} (hf : IsPlain f)
    (hbase : base.toList.head? = some '/' ∨ base.toList.head? = some '.') :
    ∃ under : Path, Path.join ⟨"."⟩ ⟨base ++ "/" ++ f.text⟩ = under.join f ∧ under.text ≠ "" ∧
      origin π under.text = origin π base ∧ bare (namesOf under.text) = bare (namesOf base) := by
  have hnames : ∀ s : String, namesOf (s ++ "/") = namesOf s :=
    fun s ↦ by simpa using namesOf_append_slash s ""
  obtain ⟨b, bs, hb⟩ : ∃ b bs, base.toList = b :: bs := by
    rcases hbase with h | h <;> exact ⟨_, _, (List.head?_eq_some_iff.1 h).choose_spec⟩
  have hne : ∀ s : String, s ++ "/" ≠ "" := fun s h ↦ by
    simpa using congrArg String.toList h
  rcases hbase with h | h
  · refine ⟨⟨base ++ "/"⟩, ?_, hne _, by simp [origin, hb], by rw [hnames]⟩
    rw [join_slash hf.relative, Path.join, if_pos (by simp_all [Path.isAbsolute])]
  · have hdot : origin π ("./" ++ base ++ "/") = π := by simp [origin]
    have hbase' : origin π base = π := by rw [origin, h, if_neg (by decide)]
    refine ⟨⟨"./" ++ base ++ "/"⟩, ?_, hne _, hdot.trans hbase'.symm, ?_⟩
    · rw [join_slash hf.relative, Path.join, if_neg (by simp_all [Path.isAbsolute])]
      simp [String.append_assoc]
    · have hdot := namesOf_append_slash "." base
      rw [show namesOf "." = ["."] by decide] at hdot
      rw [hnames, show "./" ++ base = "." ++ "/" ++ base by simp, hdot]
      simp [bare_cons]

/-! ### Candidates -/

/-- The system lets a path pass: its text is not too long, and neither is a chain of links by which
it leads somewhere. -/
def Takes (m : Machine) (p : Path) : Prop :=
  byteLength p.text.toList ≤ maxPath ∧
    ∀ c E, m.tree.Leads (origin m.cwd p.text) (steps p.text) c E → c ≤ maxLinks

/-- A path that does not run out of links passes. -/
theorem takes_of_entryAt?_ne (hm : m.WellFormed) {p : Path} (hne : p.text ≠ "")
    (hlen : byteLength p.text.toList ≤ maxPath) (h : m.entryAt? p ≠ .error .tooManyLinks) :
    m.Takes p := by
  refine ⟨hlen, fun c E hleads ↦ ?_⟩
  obtain ⟨node, hnode, -⟩ :=
    hm.tree.isLive_of_leads (Tree.isLive_of_dir (hm.origin p.text)) hleads
  rcases entryAt?_of_leads hm.tree hne hlen hleads hnode with hentry | ⟨hentry, -⟩
  · obtain ⟨-, -, ⟨d, hd, hleads'⟩, -⟩ := (entryAt?_eq_ok_iff hm.tree).1 hentry
    exact (hleads.unique hleads').1 ▸ hd
  · exact absurd hentry h

/-- Two paths, each on its machine, lead to the same entry or to none. -/
def SameEntry (m here : Machine) (p q : Path) : Prop :=
  ∀ E node, m.entryAt? p = .ok (E, node) ↔ here.entryAt? q = .ok (E, node)

theorem SameEntry.isFile_eq {here : Machine} {p q : Path} (h : SameEntry m here p q) :
    m.isFile p = here.isFile q := by
  rw [Bool.eq_iff_iff, isFile_eq_true_iff, isFile_eq_true_iff]
  exact exists_congr fun E ↦ exists_congr fun bytes ↦ exists_congr fun executable ↦ h E _

/-- What is read at one of two paths with the same entry is read at the other. -/
theorem SameEntry.read_eq_ok {here : Machine} {p q : Path} {bytes : Bytes}
    (h : SameEntry m here p q) (hp : m.read p = .ok bytes) : here.read q = .ok bytes := by
  obtain ⟨E, node, hentry, hcontents⟩ := read_eq_ok_iff.1 hp
  exact read_eq_ok_iff.2 ⟨E, node, (h E node).1 hentry, hcontents⟩

/-- The directory that a normalized project leads to is the one that it is the path of. -/
theorem eq_path_of_enter {here : Machine} (hproject : m.normalize project = project)
    (h : m.enter project = .ok here) :
    ∃ π, m.tree.get? π = some .dir ∧ project = Place.path π ∧ here = { m with cwd := π } := by
  obtain ⟨π, hentry, hhere⟩ := enter_eq_ok_iff.1 h
  exact ⟨π, get?_of_entryAt? hentry, by rw [← hproject, normalize_of_entryAt? hentry], hhere⟩

/-- **A file under a root and under its template base is the same one.** -/
theorem sameEntry_candidate (hm : m.WellFormed) {here : Machine}
    (hproject : m.normalize project = project) (henter : m.enter project = .ok here)
    (hroot : Job.Expressible m project root)
    (hbase : Job.baseOf project (m.normalize root) = .ok base) {f : Path} (hf : IsPlain f)
    (htakes : m.Takes (root.join f))
    (hlen : byteLength (Path.join ⟨"."⟩ ⟨base ++ "/" ++ f.text⟩).text.toList ≤ maxPath) :
    SameEntry m here (root.join f) (Path.join ⟨"."⟩ ⟨base ++ "/" ++ f.text⟩) := by
  obtain ⟨π, hπ, hpath, rfl⟩ := eq_path_of_enter hproject henter
  have habs := normalize_isAbsolute hm hroot.ne_empty
  have hhead : base.toList.head? = some '/' ∨ base.toList.head? = some '.' := by
    rcases Job.baseOf_eq_self_cases hbase hroot.no_backslash with
      ⟨_, -, -, rfl⟩ | ⟨_, -, rfl⟩ | ⟨-, rfl⟩
    · exact .inr (by decide)
    · exact .inr (by simp)
    · exact .inl (isAbsolute_iff.1 habs)
  have hplain := hf.bare_namesOf
  have hne := hf.names_ne_nil
  obtain ⟨under, hunder, hune, horigin, hnames⟩ := candidate_eq_join (π := π) hf hhead
  rw [hunder] at hlen ⊢
  -- both sides, as names under the normalized root
  have hengine : ∀ c E, m.tree.Leads (origin π under.text) (namesOf under.text ++ namesOf f.text)
      c E ↔ m.tree.Leads [] (bare (namesOf (m.normalize root).text) ++ namesOf f.text) c E := by
    intro c E
    rw [horigin, Tree.leads_append_congr hnames hplain hne,
      leads_base_append hm hπ hpath habs hroot.no_backslash hbase hplain hne]
  intro E node
  rw [entryAt?_join_plain hm.tree hroot.ne_empty hf,
    entryAt?_join_plain (m := { m with cwd := π }) hm.tree hune hf]
  constructor
  · rintro ⟨-, ⟨c, hc, hleads⟩, hnode⟩
    obtain ⟨d, hd, hleads'⟩ := leads_normalize_append hm hroot.ne_empty hplain hne hleads
    exact ⟨hlen, ⟨d, Nat.le_trans hd hc, (hengine d E).2 hleads'⟩, hnode⟩
  · rintro ⟨-, ⟨d, -, hleads⟩, hnode⟩
    obtain ⟨c, hleads'⟩ :=
      leads_append_of_normalize hm hroot.ne_empty hplain hne ((hengine d E).1 hleads)
    refine ⟨htakes.1, ⟨c, htakes.2 c E ?_, hleads'⟩, hnode⟩
    rwa [origin_join hroot.ne_empty hf.relative, steps_join_plain hf]

end Files.Machine

end LuaBundler
