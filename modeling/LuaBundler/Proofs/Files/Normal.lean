import LuaBundler.Proofs.Files.Components
import LuaBundler.Proofs.Files.WellFormed

/-!
# Normalized paths

A normalized path is the path of a place, or an absolute form where nothing was found. Either way
its names, dots aside, lead to the same files as those of the path it was made from
(`leads_of_leads_normalize`): of a place because the path led there, of an absolute form because the
names are the same. The path of a place is normal already (`same_normalize_path`).
-/

namespace LuaBundler.Files

open Text

/-! ### Paths of places -/

theorem Place.toList_path (p : Place) :
    (Place.path p).text.toList = '/' :: join '/' (p.map String.toList) := by
  simp [Place.path, join_eq, String.toList_intercalate]

@[simp] theorem Place.isAbsolute_path (p : Place) : (Place.path p).isAbsolute = true := by
  simp [Path.isAbsolute, Place.toList_path]

theorem Place.namesOf_path {p : Place} (h : ∀ x ∈ p, IsName x) :
    namesOf (Place.path p).text = p := by
  have hslash : ∀ cs ∈ p.map String.toList, '/' ∉ cs := by
    intro cs hcs
    obtain ⟨x, hx, rfl⟩ := List.mem_map.1 hcs
    exact (h x hx).no_slash
  have hkeep : p.filter (· ≠ "") = p :=
    List.filter_eq_self.2 fun x hx ↦ by simpa using (h x hx).ne_empty
  by_cases hp : p = []
  · subst hp
    decide
  · have hmap : (p.map String.toList).map String.ofList = p := by simp
    rw [namesOf, pieces, Place.toList_path, splitOn, if_pos rfl,
      splitOn_join (by simpa using hp) hslash, List.map_cons, hmap]
    simpa using hkeep

/-- The path of a place other than the root does not end in a slash. -/
theorem Place.getLast?_path {p : Place} {x : String} (h : IsName x) :
    ∃ c, (Place.path (p ++ [x])).text.toList.getLast? = some c ∧ c ≠ '/' := by
  obtain ⟨cs, hcs⟩ := suffix_join_concat '/' (p.map String.toList) x.toList
  obtain ⟨c, hc⟩ : ∃ c, x.toList.getLast? = some c := by
    rw [← Option.ne_none_iff_exists', Ne, List.getLast?_eq_none_iff]
    simpa using h.ne_empty
  refine ⟨c, ?_, fun hslash ↦ h.no_slash (hslash ▸ List.mem_of_getLast? hc)⟩
  rw [Place.toList_path, List.map_append, List.map_singleton, ← hcs, ← List.cons_append,
    List.getLast?_append, hc]
  rfl

/-- The path of a place has the steps of the place; the root is a directory by its dot. -/
theorem Place.steps_path {p : Place} (h : ∀ x ∈ p, IsName x) :
    steps (Place.path p).text = if p = [] then ["."] else p := by
  rw [steps_eq, Place.namesOf_path h]
  induction p using List.reverseRecOn with
  | nil => decide
  | append_singleton p x _ =>
    obtain ⟨c, hc, hslash⟩ := Place.getLast?_path (p := p) (h x (by simp))
    simp [hc, hslash]

/-- The components of an absolute path are known from its names, if these are names of entries. -/
theorem components_of_isAbsolute {p : Path} (habs : p.isAbsolute = true)
    (h : ∀ x ∈ bare (namesOf p.text), IsName x) :
    p.components = .root :: (bare (namesOf p.text)).map .name := by
  obtain ⟨cs, hsteps, hbare, hcomp⟩ := exists_components_of_isAbsolute habs
  rw [hbare] at h
  have hname : ∀ c ∈ cs, c = .name (Path.componentText c) := by
    intro c hc
    have hstep := (hsteps c hc).1
    cases c with
    | root => simp [stepOf?] at hstep
    | current => simp [stepOf?] at hstep
    | parent => exact absurd rfl (h _ (List.mem_map_of_mem hc)).ne_dots
    | name text => rfl
  rw [hcomp, hbare, List.map_map, List.cons_inj_right]
  exact (List.map_id cs).symm.trans (List.map_congr_left hname)

namespace Machine

variable {m : Machine} {p r : Path} {q E : Place} {node : Node} {c : Nat}

/-- The path of a place without a link leads there, if the system takes its text. -/
theorem entryAt?_path (hm : m.tree.WellFormed) (hnode : m.tree.get? E = some node)
    (hlink : ∀ target, node ≠ .link target)
    (hlen : byteLength (Place.path E).text.toList ≤ maxPath) :
    m.entryAt? (Place.path E) = .ok (E, node) := by
  have hnames := hm.isName_of_mem (Option.isSome_of_eq_some hnode)
  have hleads : m.tree.Leads [] (steps (Place.path E).text) 0 E := by
    rw [Place.steps_path hnames]
    split
    · subst E
      exact .dot (Tree.get?_nil _) (.done _)
    · exact hm.leads_self ⟨node, hnode, hlink⟩
  refine (entryAt?_eq_ok_iff hm).2 ⟨by simp [Place.path], hlen, ⟨0, Nat.zero_le _, ?_⟩, hnode⟩
  rw [origin_of_isAbsolute (Place.isAbsolute_path E)]
  exact hleads

/-- What a path leads to is no link. -/
theorem isLive_of_entryAt? (hm : m.WellFormed) (h : m.entryAt? p = .ok (q, node)) :
    m.tree.IsLive q := by
  obtain ⟨-, -, ⟨c, -, hleads⟩, -⟩ := (entryAt?_eq_ok_iff hm.tree).1 h
  exact hm.tree.isLive_of_leads (Tree.isLive_of_dir (hm.origin _)) hleads

theorem normalize_of_entryAt? (h : m.entryAt? p = .ok (q, node)) :
    m.normalize p = Place.path q := by
  simp [normalize, canonical, h, Except.map]

/-- **A normalized path is that of a place, or has the names of the path it was made from**, with
those of the directory that they are seen from in front. -/
theorem normalize_cases (hm : m.WellFormed) (hne : p.text ≠ "") :
    (∃ q node, m.entryAt? p = .ok (q, node) ∧ m.normalize p = Place.path q) ∨
    ((∃ e, m.entryAt? p = .error e) ∧ (m.normalize p).isAbsolute = true ∧
      bare (namesOf (m.normalize p).text) = origin m.cwd p.text ++ bare (namesOf p.text)) := by
  cases h : m.entryAt? p with
  | ok entry => exact .inl ⟨entry.1, entry.2, rfl, normalize_of_entryAt? h⟩
  | error e =>
    right
    refine ⟨⟨e, rfl⟩, ?_⟩
    obtain ⟨q, hq⟩ : ∃ q, p.absolute? (Place.path m.cwd) = some q := by
      rw [← Option.ne_none_iff_exists', Ne, absolute?_eq_none_iff]
      exact hne
    have hnormal : m.normalize p = q := by simp [normalize, canonical, h, Except.map, hq]
    obtain ⟨habs, hnames⟩ := bare_namesOf_absolute (Place.isAbsolute_path _) hq
    have hcwd : (m.tree.get? m.cwd).isSome := Option.isSome_of_eq_some hm.cwd
    rw [Place.namesOf_path (hm.tree.isName_of_mem hcwd), hm.tree.bare_eq_self hcwd] at hnames
    rw [hnormal, hnames]
    refine ⟨habs, ?_⟩
    cases hp : p.isAbsolute
    · simp [origin_of_not_isAbsolute hp]
    · simp [origin_of_isAbsolute hp]

theorem normalize_isAbsolute (hm : m.WellFormed) (hne : p.text ≠ "") :
    (m.normalize p).isAbsolute = true := by
  rcases normalize_cases hm hne with ⟨q, node, -, h⟩ | ⟨-, h, -⟩
  · rw [h, Place.isAbsolute_path]
  · exact h

/-- Names that start where they are seen from lead where they lead from the root, the names of that
directory in front. -/
theorem leads_root_append (hm : m.tree.WellFormed) {dir : Place} {xs : List String}
    (hdir : m.tree.get? dir = some .dir) :
    m.tree.Leads [] (dir ++ xs) c E ↔ m.tree.Leads dir xs c E := by
  have hself := hm.leads_self (Tree.isLive_of_dir hdir)
  constructor
  · intro h
    obtain ⟨e, he, hc⟩ := hself.of_append h
    rw [Nat.zero_add] at hc
    exact hc ▸ he
  · intro h
    have := hself.append h
    rwa [Nat.zero_add] at this

/-- **A path of a place is its own normal form**, for all that its components say. -/
theorem same_normalize_path (hm : m.WellFormed) (hlive : m.tree.IsLive E) :
    (m.normalize (Place.path E)).same (Place.path E) = true := by
  have ⟨node, hnode, _⟩ := hlive
  have hsome := Option.isSome_of_eq_some hnode
  have hnames := hm.tree.isName_of_mem hsome
  have habs := Place.isAbsolute_path E
  have hbare : bare (namesOf (Place.path E).text) = E := by
    rw [Place.namesOf_path hnames, hm.tree.bare_eq_self hsome]
  obtain ⟨habs', hbare'⟩ : (m.normalize (Place.path E)).isAbsolute = true ∧
      bare (namesOf (m.normalize (Place.path E)).text) = E := by
    rcases normalize_cases hm (text_ne_of_isAbsolute habs) with ⟨q, _, hentry, hq⟩ | ⟨-, h, hq⟩
    · obtain ⟨-, -, ⟨c, -, hleads⟩, -⟩ := (entryAt?_eq_ok_iff hm.tree).1 hentry
      have hto := hleads.bare
      rw [bare_steps, hbare, origin_of_isAbsolute habs] at hto
      obtain ⟨-, rfl⟩ := hto.unique (hm.tree.leads_self hlive)
      rw [hq]
      exact ⟨habs, hbare⟩
    · rw [origin_of_isAbsolute habs, hbare, List.nil_append] at hq
      exact ⟨h, hq⟩
  rw [Path.same_iff, components_of_isAbsolute habs' (by rwa [hbare']), hbare',
    components_of_isAbsolute habs (by rwa [hbare]), hbare]

/-- **Where the names of a normalized path lead, those of the path itself lead as well.** -/
theorem leads_of_leads_normalize (hm : m.WellFormed) (hne : p.text ≠ "")
    (h : m.tree.Leads [] (bare (namesOf (m.normalize p).text)) c E) :
    ∃ d, m.tree.Leads (origin m.cwd p.text) (bare (namesOf p.text)) d E := by
  rcases normalize_cases hm hne with ⟨q, node, hentry, hq⟩ | ⟨-, -, hnames⟩
  · have hlive := isLive_of_entryAt? hm hentry
    obtain ⟨-, -, ⟨d, -, hleads⟩, hnode⟩ := (entryAt?_eq_ok_iff hm.tree).1 hentry
    have hsome := Option.isSome_of_eq_some hnode
    rw [hq, Place.namesOf_path (hm.tree.isName_of_mem hsome), hm.tree.bare_eq_self hsome] at h
    obtain ⟨-, rfl⟩ := h.unique (hm.tree.leads_self hlive)
    have hbare := hleads.bare
    rw [bare_steps] at hbare
    exact ⟨d, hbare⟩
  · rw [hnames] at h
    exact ⟨c, (leads_root_append hm.tree (hm.origin _)).1 h⟩

end Machine

end LuaBundler.Files
