import LuaBundler.Proofs.Files.Components
import LuaBundler.Proofs.Files.Removal
import LuaBundler.Syntax.Compiler
import Mathlib.Data.List.Perm.Subperm
import Mathlib.Data.List.Sort
import Mathlib.Data.String.Basic

/-!
# What the syntax check covers

The Lua files of a project are found by a walk through the tree below its directory. They are best
told by the names that lead down to them: a file is covered if it has the extension of script
modules and none of the directories on the way is left out (`IsCovered`). The walk on names finds
these files (`mem_namesWithin_iff`), those of a directory in the order of their names
(`pairwise_namesWithin`), and the walk on paths is the one on names with the project in front
(`filesWithin_eq_map`). It goes deep enough, because a well-formed tree has an entry for every
directory on the way to another (`Tree.WellFormed.length_le`).

That the names are those which an error reports is a matter of path texts: names put behind a path
and seen from it again are the same names (`Path.relativeTo_join`), however the path is written.
-/

namespace LuaBundler

open Text Files

namespace Path

/-! ### Paths below a directory -/

/-- The path of names that lead down from a directory. -/
def ofNames (names : List String) : Path :=
  ofPieces [] (names.map String.toList)

variable {base : Path} {x : String} {xs : List String}

@[simp] theorem ofNames_singleton (x : String) : ofNames [x] = ⟨x⟩ := by
  simp [ofNames, ofPieces, Text.join]

theorem isIdle_toList (h : IsName x) : isIdle x.toList = false := by
  have hempty : x.toList ≠ [] := fun heq ↦ h.ne_empty (by rw [← String.toList_inj, heq]; rfl)
  have hdot : x.toList ≠ ['.'] := fun heq ↦ h.ne_dot (by rw [← String.toList_inj, heq]; rfl)
  simp [isIdle, hempty, hdot]

theorem splitOn_ofNames (hne : xs ≠ []) (h : ∀ x ∈ xs, IsName x) :
    splitOn '/' (ofNames xs).text.toList = xs.map String.toList := by
  rw [ofNames, ofPieces, String.toList_ofList, List.nil_append,
    splitOn_join (by simpa using hne) (by simpa using fun x hx ↦ (h x hx).no_slash)]

theorem isAbsolute_ofNames (h : ∀ x ∈ xs, IsName x) : (ofNames xs).isAbsolute = false := by
  have hslash : ∀ p ∈ xs.map String.toList, '/' ∉ p := by
    simpa using fun x hx ↦ (h x hx).no_slash
  refine (ofPieces_relative hslash fun p hp ↦ ?_).1
  obtain ⟨x, hx, rfl⟩ := List.mem_map.1 (List.mem_of_mem_head? hp)
  exact isIdle_toList (h x hx)

theorem isAbsolute_of_isName (h : IsName x) : isAbsolute ⟨x⟩ = false := by
  have hnames : (ofNames [x]).isAbsolute = false := isAbsolute_ofNames (by simpa using h)
  simpa using hnames

/-- Behind a text and a slash the pieces of the rest are added to those of the text. -/
theorem head_body_append {s : String} (hs : s ≠ "") (rest : String) :
    head ⟨s ++ "/" ++ rest⟩ = head ⟨s⟩ ∧
      body ⟨s ++ "/" ++ rest⟩ = body ⟨s⟩ ++ splitOn '/' rest.toList := by
  have htext : (s ++ "/" ++ rest).toList = s.toList ++ '/' :: rest.toList := by simp
  obtain ⟨c, cs, hcs⟩ := List.exists_cons_of_ne_nil (fun h ↦ hs (String.toList_eq_nil_iff.1 h))
  have hhead : head ⟨s ++ "/" ++ rest⟩ = head ⟨s⟩ := by
    unfold head isAbsolute
    simp only [htext, splitOn_append_cons]
    rw [List.head?_append_of_ne_nil _ (splitOn_ne_nil _ _), hcs]
    rfl
  have hlength : (head ⟨s⟩).length ≤ s.toList.length := by
    rw [hcs]
    unfold head
    split
    · simp
    · split <;> simp
  refine ⟨hhead, ?_⟩
  rw [body, hhead, body]
  simp only [htext]
  rw [List.drop_append_of_le_length hlength, splitOn_append_cons]

/-- Pieces that are added to a path come after those of it, and none of these is lost. -/
theorem exists_body_join (hbase : base.text ≠ "") {p : Path} (hp : p.isAbsolute = false) :
    (base.join p).head = base.head ∧
      ∃ front, (base.join p).body = front ++ splitOn '/' p.text.toList ∧
      front.filter (fun piece ↦ !isIdle piece) = base.body.filter fun piece ↦ !isIdle piece := by
  have hmk : ∀ q : Path, q = ⟨q.text⟩ := fun _ ↦ rfl
  rcases text_join (p := base) hp with ⟨h, -⟩ | ⟨s, hs, h⟩ | ⟨-, h⟩
  · exact absurd h hbase
  · rw [hmk (base.join p), hmk base, h, hs]
    by_cases hempty : s = ""
    · subst hempty
      refine ⟨by simp [head, isAbsolute], [], ?_⟩
      simp [body, head, isAbsolute, splitOn, isIdle]
    · obtain ⟨hhead, hbody⟩ := head_body_append hempty ""
      obtain ⟨hhead', hbody'⟩ := head_body_append hempty p.text
      rw [String.append_empty] at hhead hbody
      refine ⟨hhead'.trans hhead.symm, _, hbody', ?_⟩
      rw [hbody, List.filter_append]
      simp [splitOn, isIdle]
  · rw [hmk (base.join p), h]
    obtain ⟨hhead, hbody⟩ := head_body_append hbase p.text
    exact ⟨hhead, base.body, hbody, rfl⟩

/-- Behind as many pieces as are not idle in front, and idle ones, the rest is left. -/
theorem dropWhile_dropPieces {p : List Char} (hp : isIdle p = false)
    (front ps : List (List Char)) :
    (dropPieces (front.filter fun piece ↦ !isIdle piece).length
      (front ++ p :: ps)).dropWhile isIdle = p :: ps := by
  induction front with
  | nil => simp [dropPieces, hp]
  | cons f front ih =>
    cases hf : isIdle f with
    | false => simpa [hf, dropPieces] using ih
    | true =>
      rw [List.filter_cons_of_neg (by simp [hf]), List.cons_append]
      cases hcount : (front.filter fun piece ↦ !isIdle piece).length with
      | zero =>
        rw [hcount] at ih
        simpa [dropPieces, hf] using ih
      | succ count =>
        rw [dropPieces, if_pos hf, ← hcount]
        exact ih

theorem trimIdleEnd_concat {p : List Char} (hp : isIdle p = false) (ps : List (List Char)) :
    trimIdleEnd (ps ++ [p]) = ps ++ [p] := by
  simp [trimIdleEnd, hp]

/-- A path with a text has components. -/
theorem components_ne_nil (hbase : base.text ≠ "") : base.components ≠ [] := by
  cases habs : base.isAbsolute with
  | true => simp [components, head_of_isAbsolute habs, headComponents]
  | false =>
    rcases head?_body_of_not_isAbsolute habs with ⟨hhead, -⟩ | ⟨-, hfirst⟩
    · simp [components, hhead, headComponents]
    · cases hbody : base.body with
      | nil => exact absurd hbody (splitOn_ne_nil '/' _)
      | cons p ps =>
        have hp : isIdle p = false := (hfirst p (by rw [hbody]; rfl)).resolve_right hbase
        rw [components, hbody, List.filter_cons_of_pos (by simp [hp])]
        simp

theorem prefix_components_join (hbase : base.text ≠ "") {p : Path} (hp : p.isAbsolute = false) :
    base.components <+: (base.join p).components := by
  obtain ⟨hhead, front, hbody, hfront⟩ := exists_body_join hbase hp
  rw [components, components, hhead, hbody, List.filter_append, hfront, List.map_append,
    ← List.append_assoc]
  exact List.prefix_append ..

/-- What a path ends in after names that are added to it. -/
theorem trimmedBody_join (hbase : base.text ≠ "") (hne : xs ≠ []) (h : ∀ x ∈ xs, IsName x) :
    ∃ front, (base.join (ofNames xs)).trimmedBody = front ++ xs.map String.toList ∧
      front.filter (fun piece ↦ !isIdle piece) = base.body.filter fun piece ↦ !isIdle piece := by
  obtain ⟨-, front, hbody, hfront⟩ := exists_body_join hbase (isAbsolute_ofNames h)
  refine ⟨front, ?_, hfront⟩
  rw [trimmedBody, hbody, splitOn_ofNames hne h]
  have hlast := isIdle_toList (h _ (List.getLast_mem hne))
  rw [← List.dropLast_concat_getLast hne, List.map_append, ← List.append_assoc]
  exact trimIdleEnd_concat hlast _

theorem fileName?_join (hbase : base.text ≠ "") (hne : xs ≠ []) (h : ∀ x ∈ xs, IsName x) :
    (base.join (ofNames xs)).fileName? = xs.getLast? := by
  obtain ⟨front, hpieces, -⟩ := trimmedBody_join hbase hne h
  have hdots : (xs.getLast hne).toList ≠ ['.', '.'] := fun heq ↦
    (h _ (List.getLast_mem hne)).ne_dots (by rw [← String.toList_inj, heq]; rfl)
  have hlast : (base.join (ofNames xs)).trimmedBody.getLast? = some (xs.getLast hne).toList := by
    rw [hpieces, List.getLast?_append, List.getLast?_map, List.getLast?_eq_some_getLast hne]
    rfl
  rw [fileName?, hlast, List.getLast?_eq_some_getLast hne]
  simp [hdots]

/-- **A path below a directory, seen from the directory**, is that of the names. -/
theorem relativeTo_join (hbase : base.text ≠ "") (hne : xs ≠ []) (h : ∀ x ∈ xs, IsName x) :
    (base.join (ofNames xs)).relativeTo base = ofNames xs := by
  have hcomponents := prefix_components_join hbase (isAbsolute_ofNames h)
  obtain ⟨front, hpieces, hfront⟩ := trimmedBody_join hbase hne h
  have hcount : base.components.length - (headComponents base.head).length =
      (front.filter fun piece ↦ !isIdle piece).length := by
    rw [components, hfront]
    simp
  rw [relativeTo, relativeTo?, if_pos (List.isPrefixOf_iff_prefix.2 hcomponents),
    if_neg (components_ne_nil hbase)]
  simp only [hcount, hpieces, Option.getD_some]
  obtain ⟨y, ys, rfl⟩ := List.exists_cons_of_ne_nil hne
  rw [List.map_cons, dropWhile_dropPieces (isIdle_toList (h y (by simp))), ← List.map_cons, ofNames]

/-- A path below a directory of a path, put together in two ways. -/
theorem join_join_ofNames (hx : IsName x) (hne : xs ≠ []) (h : ∀ x ∈ xs, IsName x) :
    (base.join ⟨x⟩).join (ofNames xs) = base.join (ofNames (x :: xs)) := by
  obtain ⟨before, hjoin⟩ := exists_text_join base
  have htext : (base.join ⟨x⟩).text = before ++ x := hjoin ⟨x⟩ (isAbsolute_of_isName hx)
  have hnames : (ofNames (x :: xs)).text = x ++ "/" ++ (ofNames xs).text := by
    obtain ⟨y, ys, rfl⟩ := List.exists_cons_of_ne_nil hne
    rw [← String.toList_inj]
    simp [ofNames, ofPieces, Text.join]
  have hx' : x.toList ≠ [] := fun heq ↦ hx.ne_empty (String.toList_eq_nil_iff.1 heq)
  have hlast : (base.join ⟨x⟩).text.toList.getLast? = some (x.toList.getLast hx') := by
    rw [htext, String.toList_append, List.getLast?_append, List.getLast?_eq_some_getLast hx']
    rfl
  have hslash : x.toList.getLast hx' ≠ '/' := fun heq ↦
    hx.no_slash (heq ▸ List.getLast_mem hx')
  have htext' := hjoin _ (isAbsolute_ofNames (List.forall_mem_cons.2 ⟨hx, h⟩))
  rw [Path.join, isAbsolute_ofNames h, hlast]
  simp only [Bool.false_eq_true, if_false, if_neg hslash]
  refine (congrArg Path.mk ?_ : _ = Path.mk (base.join (ofNames (x :: xs))).text)
  rw [htext, htext', hnames]
  simp [String.append_assoc]

/-- Names below a directory have paths of their own. -/
theorem join_ofNames_injective {ys : List String} (hne : xs ≠ []) (h : ∀ x ∈ xs, IsName x)
    (hne' : ys ≠ []) (h' : ∀ y ∈ ys, IsName y)
    (heq : base.join (ofNames xs) = base.join (ofNames ys)) : xs = ys := by
  obtain ⟨before, hjoin⟩ := exists_text_join base
  have htext : before ++ (ofNames xs).text = before ++ (ofNames ys).text := by
    rw [← hjoin _ (isAbsolute_ofNames h), ← hjoin _ (isAbsolute_ofNames h'), heq]
  have hsplit : xs.map String.toList = ys.map String.toList := by
    rw [← splitOn_ofNames hne h, ← splitOn_ofNames hne' h',
      (String.append_right_inj before).1 htext]
  exact List.map_injective_iff.2 (fun _ _ ↦ String.toList_inj.1) hsplit

end Path

namespace Files.Tree

variable {t : Tree} {p q : Place}

/-- A tree that has at most one entry for each place, as trees have that are made by putting entries
in and taking them out (`Distinct.set`, `Distinct.erase`). -/
def Distinct (t : Tree) : Prop :=
  (t.entries.map (·.1)).Nodup

instance (t : Tree) : Decidable t.Distinct :=
  inferInstanceAs (Decidable (List.Nodup _))

theorem Distinct.erase (h : t.Distinct) (p : Place) : (t.erase p).Distinct :=
  h.sublist (List.filter_sublist.map _)

theorem Distinct.set (h : t.Distinct) (p : Place) (node : Node) : (t.set p node).Distinct := by
  have hnot : p ∉ (t.erase p).entries.map (·.1) := by simp [Tree.erase]
  rw [Distinct, Tree.set, List.map_append, List.map_singleton, ← List.concat_eq_append]
  exact List.Nodup.concat hnot (h.erase p)

/-- A directory has each of its names once. -/
theorem Distinct.nodup_names (h : t.Distinct) (p : Place) : (t.names p).Nodup := by
  refine List.pairwise_filterMap.2 ((List.pairwise_map.1 h).imp fun {e e'} hne x hx y hy hxy ↦ ?_)
  rw [name_eq_some_iff] at hx hy
  exact hne (by rw [hx, hy, hxy])

/-- A place has no more names than there are entries on the way to it. -/
theorem WellFormed.length_le (ht : t.WellFormed) (h : (t.get? p).isSome) :
    p.length ≤ t.entries.length := by
  have hnodup : ((List.range p.length).map fun n ↦ p.take (n + 1)).Nodup := by
    refine List.Nodup.map_on (fun n hn n' hn' heq ↦ ?_) List.nodup_range
    have := congrArg List.length heq
    simp only [List.mem_range, List.length_take] at hn hn' this
    omega
  have hsub : (List.range p.length).map (fun n ↦ p.take (n + 1)) ⊆ t.entries.map (·.1) := by
    intro q hq
    obtain ⟨n, hn, rfl⟩ := List.mem_map.1 hq
    have hne : p.take (n + 1) ≠ [] := by
      rintro heq
      simp_all
    obtain ⟨node, hnode⟩ : ∃ node, t.get? (p.take (n + 1)) = some node := by
      by_cases hdrop : p.drop (n + 1) = []
      · rw [List.take_of_length_le (List.drop_eq_nil_iff.1 hdrop)]
        exact Option.isSome_iff_exists.1 h
      · exact ⟨.dir, ht.dir_of_append hdrop (by rwa [List.take_append_drop])⟩
    exact List.mem_map_of_mem (mem_entries_of_get? hne hnode)
  simpa using (hnodup.subperm hsub).length_le

end Files.Tree

namespace Syntax

open Path Machine

variable {t : Tree} {root place : Place} {name : String} {names : List String}

/-! ### Trees -/

/-- A Lua file below a directory that the check covers, by the names that lead down to it. -/
structure IsCovered (t : Tree) (root : Place) (names : List String) : Prop where
  file : ∃ bytes executable, t.get? (root ++ names) = some (.file bytes executable)
  lua : ∃ name ∈ names.getLast?, extensionOf? name = some ModuleName.moduleExtension
  kept : ∀ dir ∈ names.dropLast, isSkipped dir = false

theorem IsCovered.ne_nil (h : IsCovered t root names) : names ≠ [] := by
  rintro rfl
  obtain ⟨name, hname, -⟩ := h.lua
  simp at hname

theorem IsCovered.isName (ht : t.WellFormed) (h : IsCovered t root names) :
    ∀ name ∈ names, IsName name := by
  obtain ⟨bytes, executable, hfile⟩ := h.file
  exact fun name hname ↦
    ht.isName_of_mem (Option.isSome_of_eq_some hfile) name (List.mem_append_right _ hname)

theorem isCovered_singleton : IsCovered t root [name] ↔
    (∃ bytes executable, t.get? (root ++ [name]) = some (.file bytes executable)) ∧
      extensionOf? name = some ModuleName.moduleExtension :=
  ⟨fun h ↦ ⟨h.file, by simpa using h.lua⟩, fun h ↦ ⟨h.1, by simpa using h.2, by simp⟩⟩

/-- Further down, a file is covered from a directory that is not left out. -/
theorem isCovered_cons (hne : names ≠ []) : IsCovered t root (name :: names) ↔
    isSkipped name = false ∧ IsCovered t (root ++ [name]) names := by
  have hlast : (name :: names).getLast? = names.getLast? := by
    rw [List.getLast?_cons, List.getLast?_eq_some_getLast hne]
    rfl
  constructor
  · intro ⟨hfile, hlua, hkept⟩
    rw [List.dropLast_cons_of_ne_nil hne, List.forall_mem_cons] at hkept
    exact ⟨hkept.1, by simpa using hfile, hlast ▸ hlua, hkept.2⟩
  · intro ⟨hname, hfile, hlua, hkept⟩
    refine ⟨by simpa using hfile, hlast ▸ hlua, ?_⟩
    rw [List.dropLast_cons_of_ne_nil hne, List.forall_mem_cons]
    exact ⟨hname, hkept⟩

/-- The names that lead down to the files of one entry, from those of the entry if it is a
directory. -/
def namesUnder (t : Tree) (place : Place) (name : String) (deeper : List (List String)) :
    List (List String) :=
  match t.get? (place ++ [name]) with
  | some .dir => if isSkipped name then [] else deeper.map (name :: ·)
  | some (.file ..) =>
    if extensionOf? name = some ModuleName.moduleExtension then [[name]] else []
  | _ => []

/-- The names that lead down from a directory to its Lua files, at most `depth` levels down. -/
def namesWithin (t : Tree) : Nat → Place → List (List String)
  | 0, _ => []
  | depth + 1, place => (sortedNames t place).flatMap fun name ↦
    namesUnder t place name (namesWithin t depth (place ++ [name]))

theorem mem_sortedNames : name ∈ sortedNames t place ↔ (t.get? (place ++ [name])).isSome := by
  rw [sortedNames, List.mem_mergeSort, Tree.mem_names_iff]

theorem mem_namesUnder_iff {deeper : List (List String)} :
    names ∈ namesUnder t place name deeper ↔
      (t.get? (place ++ [name]) = some .dir ∧ isSkipped name = false ∧
        ∃ rest ∈ deeper, names = name :: rest) ∨
      (∃ bytes executable, t.get? (place ++ [name]) = some (.file bytes executable)) ∧
        extensionOf? name = some ModuleName.moduleExtension ∧ names = [name] := by
  unfold namesUnder
  split
  · rename_i hdir
    cases isSkipped name <;> simp [hdir, eq_comm]
  · rename_i hfile
    split <;> simp_all
  · rename_i hdir hfile
    simp_all

/-- **The walk finds the files that are covered**, as far down as it goes. -/
theorem mem_namesWithin_iff (ht : t.WellFormed) (depth : Nat) :
    names ∈ namesWithin t depth place ↔ IsCovered t place names ∧ names.length ≤ depth := by
  induction depth generalizing place names with
  | zero =>
    suffices h : IsCovered t place names → names ≠ [] by simpa [namesWithin] using h
    exact IsCovered.ne_nil
  | succ depth ih =>
    simp only [namesWithin, List.mem_flatMap, mem_sortedNames, mem_namesUnder_iff]
    constructor
    · rintro ⟨name, -, ⟨hdir, hkept, rest, hrest, rfl⟩ | ⟨hfile, hlua, rfl⟩⟩
      · obtain ⟨hcovered, hlength⟩ := ih.1 hrest
        exact ⟨(isCovered_cons hcovered.ne_nil).2 ⟨hkept, hcovered⟩, by simpa using hlength⟩
      · exact ⟨isCovered_singleton.2 ⟨hfile, hlua⟩, by simp⟩
    · rintro ⟨hcovered, hlength⟩
      obtain ⟨name, rest, rfl⟩ := List.exists_cons_of_ne_nil hcovered.ne_nil
      by_cases hne : rest = []
      · subst hne
        obtain ⟨hfile, hlua⟩ := isCovered_singleton.1 hcovered
        obtain ⟨bytes, executable, hget⟩ := hfile
        exact ⟨name, by simp [hget], .inr ⟨⟨bytes, executable, hget⟩, hlua, rfl⟩⟩
      · obtain ⟨hkept, hrest⟩ := (isCovered_cons hne).1 hcovered
        obtain ⟨bytes, executable, hget⟩ := hrest.file
        have hdir := ht.dir_of_append hne (Option.isSome_of_eq_some hget)
        exact ⟨name, by simp [hdir], .inl ⟨hdir, hkept, rest,
          ih.2 ⟨hrest, by simpa using hlength⟩, rfl⟩⟩

/-- Siblings come in the order of their names, each of them once. -/
theorem pairwise_sortedNames (hd : t.Distinct) (place : Place) :
    (sortedNames t place).Pairwise (· < ·) := by
  have hnodup : (sortedNames t place).Nodup :=
    (List.mergeSort_perm _ _).nodup_iff.2 (hd.nodup_names place)
  have hsorted : (sortedNames t place).Pairwise (· ≤ ·) := by
    simpa [sortedNames] using List.pairwise_mergeSort' (· ≤ ·) (t.names place)
  exact hsorted.imp₂ (fun _ _ hle hne ↦ lt_of_le_of_ne hle hne) hnodup

theorem pairwise_namesUnder {deeper : List (List String)} (h : deeper.Pairwise (· < ·)) :
    (namesUnder t place name deeper).Pairwise (· < ·) := by
  unfold namesUnder
  split
  · split
    · exact .nil
    · exact List.pairwise_map.2 (h.imp fun hlt ↦ List.cons_lt_cons_iff.2 (.inr ⟨rfl, hlt⟩))
  · split
    · exact List.pairwise_singleton ..
    · exact .nil
  · exact .nil

theorem exists_cons_of_mem_namesUnder {deeper : List (List String)}
    (h : names ∈ namesUnder t place name deeper) : ∃ rest, names = name :: rest := by
  obtain ⟨-, -, rest, -, rfl⟩ | ⟨-, -, rfl⟩ := mem_namesUnder_iff.1 h
  · exact ⟨rest, rfl⟩
  · exact ⟨[], rfl⟩

/-- **The walk goes depth first**, and among siblings by name. -/
theorem pairwise_namesWithin (hd : t.Distinct) (depth : Nat) (place : Place) :
    (namesWithin t depth place).Pairwise (· < ·) := by
  induction depth generalizing place with
  | zero => exact .nil
  | succ depth ih =>
    refine List.pairwise_flatMap.2 ⟨fun name _ ↦ pairwise_namesUnder (ih _), ?_⟩
    refine (pairwise_sortedNames hd place).imp fun hlt names hnames names' hnames' ↦ ?_
    obtain ⟨rest, rfl⟩ := exists_cons_of_mem_namesUnder hnames
    obtain ⟨rest', rfl⟩ := exists_cons_of_mem_namesUnder hnames'
    exact List.cons_lt_cons_iff.2 (.inl hlt)

/-! ### Paths -/

variable {m : Machine} {project path : Path}

theorem isLua_join (hpath : path.text ≠ "") (hname : IsName name) :
    isLua (path.join ⟨name⟩) =
      decide (extensionOf? name = some ModuleName.moduleExtension) := by
  have hfile : (path.join (ofNames [name])).fileName? = [name].getLast? :=
    fileName?_join hpath (by simp) (by simpa using hname)
  rw [ofNames_singleton] at hfile
  simp [isLua, extension?, hfile]

/-- The files that are found have the paths of the names that lead to them. -/
theorem filesWithin_eq_map (ht : t.WellFormed) (depth : Nat) (hpath : path.text ≠ "") :
    filesWithin t depth place path =
      (namesWithin t depth place).map fun names ↦ path.join (ofNames names) := by
  induction depth generalizing place path with
  | zero => rfl
  | succ depth ih =>
    rw [filesWithin, namesWithin, List.map_flatMap]
    refine List.flatMap_congr fun name hname ↦ ?_
    have hisName := ht.isName _ _ (mem_sortedNames.1 hname)
    unfold namesUnder
    cases hnode : t.get? (place ++ [name]) with
    | none => rfl
    | some node =>
      cases node with
      | dir =>
        cases hskipped : isSkipped name with
        | true => simp
        | false =>
          simp only [Bool.false_eq_true, if_false, List.map_map]
          rw [ih (text_join_ne hpath (isAbsolute_of_isName hisName))]
          refine List.map_congr_left fun names hnames ↦ ?_
          obtain ⟨hcovered, -⟩ := (mem_namesWithin_iff ht depth).1 hnames
          exact join_join_ofNames hisName hcovered.ne_nil (hcovered.isName ht)
      | file =>
        simp only [isLua_join hpath hisName, decide_eq_true_eq]
        split <;> simp
      | link => rfl
      | device => rfl

/-- **The files of a project are those that are covered**, in the order of their names. -/
theorem luaFiles_spec (ht : m.tree.WellFormed) (hd : m.tree.Distinct)
    (hroot : m.entryAt? project = .ok (root, .dir)) :
    ∃ found : List (List String),
      luaFiles m project = found.map (fun names ↦ project.join (ofNames names)) ∧
      (∀ names, names ∈ found ↔ IsCovered m.tree root names) ∧ found.Pairwise (· < ·) := by
  refine ⟨namesWithin m.tree (m.tree.entries.length + 1) root, ?_, fun names ↦ ?_,
    pairwise_namesWithin hd _ _⟩
  · rw [luaFiles, hroot]
    exact filesWithin_eq_map ht _ ((entryAt?_eq_ok_iff ht).1 hroot).1
  · rw [mem_namesWithin_iff ht, and_iff_left_iff_imp]
    intro hcovered
    obtain ⟨bytes, executable, hfile⟩ := hcovered.file
    have hlength := ht.length_le (Option.isSome_of_eq_some hfile)
    rw [List.length_append] at hlength
    omega

/-! ### Checks -/

/-- The error that the verdict on a file of a project ends the check with, if any. -/
def failure? (project file : Path) : Verdict → Option ValidationError
  | .ok none => none
  | .ok (some diagnostic) => some (.invalid (file.relativeTo project) diagnostic)
  | .error cause => some (.check cause)

variable {check : Machine → Path → Verdict × Machine} {verdict : Path → Verdict}

/-- A file that compiles is counted, and those after it are checked. -/
theorem checkAll_cons_of_ok {m' : Machine} {file : Path} (h : check m file = (.ok none, m'))
    (rest : List Path) : (checkAll check project m (file :: rest)).1 =
      (checkAll check project m' rest).1.map (· + 1) := by
  rcases hrest : checkAll check project m' rest with ⟨error | count, _⟩
  · simp [checkAll, h, hrest, Except.map]
  · simp [checkAll, h, hrest, Except.map]

/-- The first failure among files ends the check of them; without one they are counted. -/
theorem checkAll_eq (hcheck : ∀ m file, (check m file).1 = verdict file) (m : Machine)
    (files : List Path) : (checkAll check project m files).1 =
      match files.findSome? fun file ↦ failure? project file (verdict file) with
      | some error => .error error
      | none => .ok files.length := by
  induction files generalizing m with
  | nil => rfl
  | cons file rest ih =>
    obtain ⟨answer, m', hchecked⟩ : ∃ answer m', check m file = (answer, m') := ⟨_, _, rfl⟩
    rw [List.findSome?_cons, ← hcheck m file, hchecked]
    match answer with
    | .error cause => simp [checkAll, hchecked, failure?]
    | .ok (some diagnostic) => simp [checkAll, hchecked, failure?]
    | .ok none =>
      rw [checkAll_cons_of_ok hchecked, ih m', failure?]
      cases rest.findSome? fun file ↦ failure? project file (verdict file) <;> rfl

/-- **The check of a project** covers the Lua files below it, each of them once and in the order of
their names: it counts them if they all compile, and otherwise ends with the first that fails. -/
theorem validateProject_spec (ht : m.tree.WellFormed) (hd : m.tree.Distinct)
    (hroot : m.entryAt? project = .ok (root, .dir)) :
    ∃ found : List (List String),
      luaFiles m project = found.map (fun names ↦ project.join (ofNames names)) ∧
      (luaFiles m project).Nodup ∧
      (∀ names, names ∈ found ↔ IsCovered m.tree root names) ∧
      found.Pairwise (· < ·) ∧
      ∀ (check : Machine → Path → Verdict × Machine) (verdict : Path → Verdict),
        (∀ m file, (check m file).1 = verdict file) →
        ((∀ names ∈ found, verdict (project.join (ofNames names)) = .ok none) →
          (validateProject check m project).1 = .ok found.length) ∧
        ∀ before names after, found = before ++ names :: after →
          (∀ earlier ∈ before, verdict (project.join (ofNames earlier)) = .ok none) →
          (∀ diagnostic, verdict (project.join (ofNames names)) = .ok (some diagnostic) →
            (validateProject check m project).1 = .error (.invalid (ofNames names) diagnostic)) ∧
          ∀ cause, verdict (project.join (ofNames names)) = .error cause →
            (validateProject check m project).1 = .error (.check cause) := by
  obtain ⟨found, hfiles, hmem, horder⟩ := luaFiles_spec ht hd hroot
  have hcovered : ∀ names ∈ found, names ≠ [] ∧ ∀ name ∈ names, IsName name := fun names hnames ↦
    ⟨((hmem names).1 hnames).ne_nil, ((hmem names).1 hnames).isName ht⟩
  refine ⟨found, hfiles, ?_, hmem, horder, fun check verdict hcheck ↦ ?_⟩
  · rw [hfiles]
    refine List.Nodup.map_on (fun xs hxs ys hys heq ↦ ?_) (horder.imp ne_of_lt)
    exact join_ofNames_injective (hcovered xs hxs).1 (hcovered xs hxs).2 (hcovered ys hys).1
      (hcovered ys hys).2 heq
  rw [validateProject, checkAll_eq hcheck, hfiles, List.findSome?_map]
  have hnone : ∀ xs : List (List String),
      (∀ names ∈ xs, verdict (project.join (ofNames names)) = .ok none) →
        xs.findSome? ((fun file ↦ failure? project file (verdict file)) ∘
          fun names ↦ project.join (ofNames names)) = none := fun xs hpass ↦
    List.findSome?_eq_none_iff.2 fun names hnames ↦ by simp [hpass names hnames, failure?]
  refine ⟨fun hpass ↦ ?_, fun before names after hfound hpass ↦ ?_⟩
  · rw [hnone found hpass, List.length_map]
  · obtain ⟨hne, hnames⟩ := hcovered names (by simp [hfound])
    rw [hfound, List.findSome?_append, hnone before hpass, List.findSome?_cons]
    refine ⟨fun diagnostic hverdict ↦ ?_, fun cause hverdict ↦ ?_⟩
    · simp [hverdict, failure?, relativeTo_join ((entryAt?_eq_ok_iff ht).1 hroot).1 hne hnames]
    · simp [hverdict, failure?]

/-- A hidden file is covered, and a file in a hidden directory is not. -/
theorem validateProject_hidden : ∃ (m : Machine) (found : List (List String)),
    m.tree.entries.length = 5 ∧
      luaFiles m ⟨"/p"⟩ = found.map (fun names ↦ Path.join ⟨"/p"⟩ (ofNames names)) ∧
      ["lib", ".x.lua"] ∈ found ∧ [".git", "x.lua"] ∉ found := by
  let t : Tree := ⟨[(["p"], .dir), (["p", "lib"], .dir), (["p", ".git"], .dir),
    (["p", "lib", ".x.lua"], .file [] false), (["p", ".git", "x.lua"], .file [] false)]⟩
  let m : Machine := { tree := t, cwd := [], env := [] }
  have ht : m.tree.WellFormed := Tree.wellFormed_of_entries (by decide +kernel)
  have hroot : m.entryAt? ⟨"/p"⟩ = .ok (["p"], .dir) := by decide +kernel
  obtain ⟨found, hfiles, -, hmem, -⟩ := validateProject_spec ht (by decide +kernel) hroot
  refine ⟨m, found, rfl, hfiles, (hmem _).2 ⟨⟨[], false, by decide +kernel⟩, ?_, by decide⟩,
    fun h ↦ ?_⟩
  · exact ⟨".x.lua", by decide, by decide +kernel⟩
  · have hkept := ((hmem _).1 h).kept ".git" (by decide)
    exact absurd hkept (by decide)

end Syntax

end LuaBundler
