import LuaBundler.Files.Machine
import LuaBundler.Proofs.Files.Names

/-!
# The names of components

The names of a path without its dots are the steps of its components (`bare_namesOf`). Making a path
absolute and making it relative are defined on components; what they do to names follows: an
absolute path has the names of the directory in front (`bare_namesOf_absolute`), the names of a
relative path come after those of the path it is relative to (`bare_namesOf_relativeTo`), and the
parent of a path lacks the last of its names (`bare_namesOf_parent`).
-/

namespace LuaBundler.Files

open Text Path

/-- The step that a component stands for; the root and a leading dot stand for none. -/
def stepOf? : Component → Option String
  | .root => none
  | .current => none
  | .parent => some ".."
  | .name text => some text

/-- The names of pieces, the idle ones left out. -/
def solidNames (ps : List (List Char)) : List String :=
  (ps.filter fun p => !isIdle p).map String.ofList

@[simp] theorem solidNames_append (ps qs : List (List Char)) :
    solidNames (ps ++ qs) = solidNames ps ++ solidNames qs := by
  simp [solidNames]

theorem solidNames_cons_of_isIdle {p : List Char} (h : isIdle p = true) (ps : List (List Char)) :
    solidNames (p :: ps) = solidNames ps := by
  simp [solidNames, h]

theorem solidNames_cons_of_not_isIdle {p : List Char} (h : isIdle p = false)
    (ps : List (List Char)) : solidNames (p :: ps) = String.ofList p :: solidNames ps := by
  simp [solidNames, h]

/-- The names of a text without its dots are those of its pieces that are not idle. -/
theorem bare_namesOf_eq_solidNames (text : String) :
    bare (namesOf text) = solidNames (splitOn '/' text.toList) := by
  simp only [bare, namesOf, pieces, solidNames, List.filter_map, List.filter_filter]
  congr 2
  funext p
  have hdot : String.ofList p = "." ↔ p = ['.'] := by
    rw [← String.toList_inj]
    simp
  have hempty : String.ofList p = "" ↔ p = [] := by
    rw [← String.toList_inj]
    simp
  by_cases h1 : p = [] <;> by_cases h2 : p = ['.'] <;> simp_all [isIdle]

/-- The head of a path takes only idle pieces away. -/
theorem solidNames_body (p : Path) :
    solidNames p.body = solidNames (splitOn '/' p.text.toList) := by
  unfold body head isAbsolute
  split
  · rename_i habs
    obtain ⟨cs, hcs⟩ : ∃ cs, p.text.toList = '/' :: cs := by
      cases h : p.text.toList with
      | nil => simp [h] at habs
      | cons c cs => exact ⟨cs, by simp_all⟩
    simp [hcs, splitOn, solidNames_cons_of_isIdle, isIdle]
  · split
    · rename_i hdot
      obtain ⟨cs, hcs⟩ : ∃ cs, p.text.toList = '.' :: cs := by
        cases h : p.text.toList with
        | nil => simp [h, splitOn] at hdot
        | cons c cs =>
          by_cases hc : c = '/'
          · simp [h, splitOn, hc] at hdot
          · obtain ⟨q, qs, hq⟩ := List.exists_cons_of_ne_nil (splitOn_ne_nil '/' cs)
            simp [h, splitOn, hc, hq] at hdot
            exact ⟨cs, by simp [hdot]⟩
      obtain ⟨q, qs, hq⟩ := List.exists_cons_of_ne_nil (splitOn_ne_nil '/' cs)
      have hq' : q = [] := by simpa [hcs, splitOn, hq] using hdot
      simp [hcs, splitOn, hq, hq', solidNames_cons_of_isIdle, isIdle]
    · simp

theorem filterMap_stepOf_headComponents (head : List Char) :
    (headComponents head).filterMap stepOf? = [] := by
  unfold headComponents
  split <;> simp [stepOf?]

theorem stepOf_componentOf (piece : List Char) :
    stepOf? (componentOf piece) = some (String.ofList piece) := by
  unfold componentOf
  split
  · subst piece
    rfl
  · rfl

/-- The names of a path without its dots are the steps of its components. -/
theorem bare_namesOf (p : Path) : bare (namesOf p.text) = p.components.filterMap stepOf? := by
  rw [bare_namesOf_eq_solidNames, ← solidNames_body, components, List.filterMap_append,
    filterMap_stepOf_headComponents, List.nil_append, List.filterMap_map]
  have h : stepOf? ∘ componentOf = some ∘ String.ofList := by
    funext piece
    exact stepOf_componentOf piece
  rw [h, List.filterMap_eq_map, solidNames]

/-! ### The shape of components -/

/-- A component that comes after the head of a path: its text is one name, and its step. -/
def IsStep (c : Component) : Prop :=
  stepOf? c = some (componentText c) ∧ namesOf (componentText c) = [componentText c] ∧
    Path.isAbsolute ⟨componentText c⟩ = false ∧ componentText c ≠ "."

theorem isStep_componentOf {piece : List Char} (hslash : '/' ∉ piece) (h : isIdle piece = false) :
    IsStep (componentOf piece) := by
  have hne : piece ≠ [] := by rintro rfl; simp [isIdle] at h
  have hdot : piece ≠ ['.'] := by rintro rfl; simp [isIdle] at h
  have htext : componentText (componentOf piece) = String.ofList piece := by
    unfold componentOf
    split
    · subst piece
      rfl
    · rfl
  refine ⟨?_, ?_, ?_, ?_⟩
  · rw [stepOf_componentOf, htext]
  · rw [htext]
    refine namesOf_of_not_mem ?_ (by simpa using hslash)
    rw [Ne, ← String.toList_inj]
    simpa using hne
  · rw [htext]
    cases piece with
    | nil => exact absurd rfl hne
    | cons c cs => simpa [Path.isAbsolute] using fun hc : c = '/' => hslash (by simp [hc])
  · rw [htext, Ne, ← String.toList_inj]
    simpa using hdot

/-- The components of a path are those of its head and then steps. -/
theorem components_eq (p : Path) :
    ∃ cs, p.components = headComponents p.head ++ cs ∧ ∀ c ∈ cs, IsStep c := by
  refine ⟨_, rfl, fun c hc ↦ ?_⟩
  simp only [List.mem_map, List.mem_filter, Bool.not_eq_true'] at hc
  obtain ⟨piece, ⟨hp, hidle⟩, rfl⟩ := hc
  exact isStep_componentOf (not_mem_of_mem_splitOn hp) hidle

theorem filterMap_stepOf_eq_map {cs : List Component} (h : ∀ c ∈ cs, IsStep c) :
    cs.filterMap stepOf? = cs.map componentText := by
  induction cs with
  | nil => rfl
  | cons c cs ih =>
    rw [List.filterMap_cons, (h c (List.mem_cons_self ..)).1, List.map_cons,
      ih fun d hd ↦ h d (List.mem_cons_of_mem _ hd)]

theorem head_of_isAbsolute {p : Path} (h : p.isAbsolute = true) : p.head = ['/'] := by
  simp [head, h]

theorem head_of_not_isAbsolute {p : Path} (h : p.isAbsolute = false) :
    p.head = ['.'] ∨ p.head = [] := by
  unfold head
  rw [h]
  simp only [Bool.false_eq_true, if_false]
  split <;> simp

/-! ### Components of joined paths -/

/-- The components of a path are those of its head and of its names without the dots. -/
theorem components_eq_map (p : Path) : p.components =
    headComponents p.head ++ (bare (namesOf p.text)).map fun x ↦ componentOf x.toList := by
  rw [components, bare_namesOf_eq_solidNames, ← solidNames_body, solidNames, List.map_map]
  simp [Function.comp_def]

/-- A path joined onto one that is not empty has the head of that one. -/
theorem head_join {p q : Path} (hp : p.text ≠ "") (hq : q.isAbsolute = false) :
    (p.join q).head = p.head := by
  -- the first piece of a text does not change with what comes after a slash
  have hfirst : (splitOn '/' (p.join q).text.toList).head? =
      (splitOn '/' p.text.toList).head? := by
    have hslash : ∀ a b : String, (splitOn '/' (a ++ "/" ++ b).toList).head? =
        (splitOn '/' a.toList).head? := by
      intro a b
      have htext : (a ++ "/" ++ b).toList = a.toList ++ '/' :: b.toList := by simp
      obtain ⟨piece, pieces, hpieces⟩ := List.exists_cons_of_ne_nil (splitOn_ne_nil '/' a.toList)
      rw [htext, splitOn_append_cons, hpieces, List.cons_append, List.head?_cons, List.head?_cons]
    rcases text_join (p := p) hq with ⟨h, -⟩ | ⟨s, h, hj⟩ | ⟨-, hj⟩
    · exact absurd h hp
    · have hend : s ++ "/" = s ++ "/" ++ "" := String.append_empty.symm
      rw [hj, h, hslash, hend, hslash]
    · rw [hj, hslash]
  rw [head, head, hfirst, isAbsolute_join hp hq]

/-- **The components of a joined path** are those of the two, if the second one has no head. -/
theorem components_join {p q : Path} (hq : q.isAbsolute = false) (hhead : q.head = []) :
    (p.join q).components = p.components ++ q.components := by
  by_cases hp : p.text = ""
  · rcases text_join (p := p) hq with ⟨-, hj⟩ | ⟨s, h, -⟩ | ⟨h, -⟩
    · have hempty : p.components = [] := by
        rw [components_eq_map, hp]
        simp [head, Path.isAbsolute, hp, splitOn, headComponents]
      rw [show p.join q = q from congrArg Path.mk hj, hempty, List.nil_append]
    · rw [hp] at h
      simpa using congrArg String.toList h
    · exact absurd hp h
  · rw [components_eq_map, components_eq_map, components_eq_map q, head_join hp hq, hhead,
      namesOf_join hq]
    simp [headComponents]

/-! ### Absolute paths -/

/-- Joining steps onto a path that is not empty appends their names and keeps where it starts. -/
theorem extend_steps {p : Path} {cs : List Component} (hp : p.text ≠ "")
    (h : ∀ c ∈ cs, IsStep c) :
    namesOf (p.extend cs).text = namesOf p.text ++ cs.map componentText ∧
      (p.extend cs).isAbsolute = p.isAbsolute ∧ (p.extend cs).text ≠ "" := by
  induction cs generalizing p with
  | nil => simp [extend, hp]
  | cons c cs ih =>
    obtain ⟨-, hname, hrel, -⟩ := h c (List.mem_cons_self ..)
    obtain ⟨h1, h2, h3⟩ := ih (text_join_ne hp hrel) fun d hd ↦ h d (List.mem_cons_of_mem _ hd)
    have hunfold : p.extend (c :: cs) = (p.join ⟨componentText c⟩).extend cs := rfl
    refine ⟨?_, ?_, ?_⟩
    · rw [hunfold, h1, namesOf_join hrel, hname]
      simp
    · rw [hunfold, h2, isAbsolute_join hp hrel]
    · rw [hunfold]
      exact h3

theorem namesOf_join_empty (p : Path) : namesOf (p.join ⟨""⟩).text = namesOf p.text := by
  rw [namesOf_join (by rfl), namesOf_empty, List.append_nil]

theorem isAbsolute_iff {p : Path} : p.isAbsolute = true ↔ p.text.toList.head? = some '/' := by
  simp [isAbsolute]

theorem text_ne_of_isAbsolute {p : Path} (h : p.isAbsolute = true) : p.text ≠ "" := by
  rintro h'
  simp [isAbsolute, h'] at h

/-- Only the empty path has no absolute form. -/
theorem absolute?_eq_none_iff {p cwd : Path} : p.absolute? cwd = none ↔ p.text = "" := by
  unfold absolute?
  split <;> simp_all

/-- The components of a path after its head. -/
theorem components_cases (p : Path) :
    ∃ cs, (∀ c ∈ cs, IsStep c) ∧ bare (namesOf p.text) = cs.map componentText ∧
      ((p.isAbsolute = true ∧ p.components = .root :: cs) ∨
        (p.isAbsolute = false ∧ (p.components = cs ∨ p.components = .current :: cs))) := by
  obtain ⟨cs, hcs, hsteps⟩ := components_eq p
  refine ⟨cs, hsteps, ?_, ?_⟩
  · rw [bare_namesOf, hcs, List.filterMap_append, filterMap_stepOf_headComponents,
      List.nil_append, filterMap_stepOf_eq_map hsteps]
  · cases hp : p.isAbsolute with
    | true =>
      left
      simp [hcs, head_of_isAbsolute hp, headComponents]
    | false =>
      right
      rcases head_of_not_isAbsolute hp with hd | hd
      · exact ⟨rfl, .inr (by simp [hcs, hd, headComponents])⟩
      · exact ⟨rfl, .inl (by simp [hcs, hd, headComponents])⟩

theorem exists_components_of_isAbsolute {p : Path} (h : p.isAbsolute = true) :
    ∃ cs, (∀ c ∈ cs, IsStep c) ∧ bare (namesOf p.text) = cs.map componentText ∧
      p.components = .root :: cs := by
  obtain ⟨cs, hsteps, hbare, ⟨-, hcs⟩ | ⟨hrel, -⟩⟩ := components_cases p
  · exact ⟨cs, hsteps, hbare, hcs⟩
  · simp [h] at hrel

/-- An absolute path is one whose first component is the root. -/
theorem isAbsolute_iff_head? (p : Path) :
    p.isAbsolute = true ↔ p.components.head? = some .root := by
  obtain ⟨cs, hsteps, -, ⟨hp, hcs⟩ | ⟨hp, hcs⟩⟩ := components_cases p
  · simp [hp, hcs]
  · have hroot : cs.head? ≠ some .root := by
      intro h
      have := (hsteps _ (List.mem_of_head? h)).1
      simp [stepOf?] at this
    rcases hcs with hcs | hcs <;> simp [hp, hcs, hroot]

/-- The absolute form of an absolute path: its steps after one slash or two. -/
theorem absolute?_of_isAbsolute (cwd : Path) {p : Path} {cs : List Component}
    (hp : p.isAbsolute = true) (hcomp : p.components = .root :: cs) :
    ∃ start : Path, start.isAbsolute = true ∧ namesOf start.text = [] ∧
      p.absolute? cwd = some (if p.text.toList.getLast? = some '/'
        then (start.extend cs).join ⟨""⟩ else start.extend cs) := by
  have hne : p.text.toList ≠ [] := by simpa using text_ne_of_isAbsolute hp
  by_cases htwo : p.text.toList.take 2 = ['/', '/'] ∧ p.text.toList[2]? ≠ some '/'
  · exact ⟨⟨"//"⟩, by decide, by decide, by simp [absolute?, hne, hp, hcomp, htwo]⟩
  · refine ⟨⟨"/"⟩, by decide, by decide, ?_⟩
    simp only [absolute?, hne, hp, hcomp, htwo, if_true, if_false]
    rfl

/-- The absolute form of a relative path: its steps after those of the directory. -/
theorem absolute?_of_not_isAbsolute {p cwd : Path} {cs : List Component}
    (hp : p.isAbsolute = false) (hne : p.text ≠ "") (hsteps : ∀ c ∈ cs, IsStep c)
    (hcomp : p.components = cs ∨ p.components = .current :: cs) :
    p.absolute? cwd = some (if p.text.toList.getLast? = some '/'
      then (cwd.extend cs).join ⟨""⟩ else cwd.extend cs) := by
  have hne' : p.text.toList ≠ [] := by simpa using hne
  rcases hcomp with h | h
  · cases cs with
    | nil => simp [absolute?, hne', hp, h]
    | cons c cs =>
      have hc := (hsteps c (List.mem_cons_self ..)).1
      cases c with
      | current => simp [stepOf?] at hc
      | _ => simp [absolute?, hne', hp, h]
  · simp [absolute?, hne', hp, h]

/-- **An absolute form has the names of the directory in front**, unless the path was absolute. -/
theorem bare_namesOf_absolute {p cwd q : Path} (hcwd : cwd.isAbsolute = true)
    (h : p.absolute? cwd = some q) :
    q.isAbsolute = true ∧
      bare (namesOf q.text) =
        (if p.isAbsolute then [] else bare (namesOf cwd.text)) ++ bare (namesOf p.text) := by
  have hne : p.text ≠ "" := fun hp ↦ by
    rw [absolute?_eq_none_iff.2 hp] at h
    simp at h
  obtain ⟨cs, hsteps, hbare, hcases⟩ := components_cases p
  obtain ⟨start, hstart, hq, hnames⟩ : ∃ start : Path, start.isAbsolute = true ∧
      some q = some (if p.text.toList.getLast? = some '/'
        then (start.extend cs).join ⟨""⟩ else start.extend cs) ∧
      bare (namesOf start.text) = if p.isAbsolute then [] else bare (namesOf cwd.text) := by
    rcases hcases with ⟨hp, hcomp⟩ | ⟨hp, hcomp⟩
    · obtain ⟨start, hstart, hnone, habs⟩ := absolute?_of_isAbsolute cwd hp hcomp
      exact ⟨start, hstart, h.symm.trans habs, by simp [hp, hnone]⟩
    · exact ⟨cwd, hcwd, h.symm.trans (absolute?_of_not_isAbsolute hp hne hsteps hcomp),
        by simp [hp]⟩
  obtain ⟨h1, h2, h3⟩ := extend_steps (text_ne_of_isAbsolute hstart) hsteps
  have hextend : bare (namesOf (start.extend cs).text) =
      (if p.isAbsolute then [] else bare (namesOf cwd.text)) ++ bare (namesOf p.text) := by
    rw [h1, bare_append, hnames, ← hbare, bare_bare]
  -- a slash at the end is put back, which changes neither
  rw [Option.some.injEq] at hq
  rw [hq]
  split
  · exact ⟨(isAbsolute_join h3 (by rfl)).trans (h2.trans hstart),
      (congrArg bare (namesOf_join_empty _)).trans hextend⟩
  · exact ⟨h2.trans hstart, hextend⟩

/-! ### Relative paths -/

theorem solidNames_dropWhile_isIdle (ps : List (List Char)) :
    solidNames (ps.dropWhile isIdle) = solidNames ps := by
  induction ps with
  | nil => rfl
  | cons p ps ih =>
    cases h : isIdle p
    · simp [h]
    · rw [List.dropWhile_cons_of_pos h, ih, solidNames_cons_of_isIdle h]

theorem solidNames_reverse (ps : List (List Char)) :
    solidNames ps.reverse = (solidNames ps).reverse := by
  simp [solidNames, List.filter_reverse]

theorem solidNames_trimIdleEnd (ps : List (List Char)) :
    solidNames (trimIdleEnd ps) = solidNames ps := by
  rw [trimIdleEnd, solidNames_reverse, solidNames_dropWhile_isIdle, solidNames_reverse,
    List.reverse_reverse]

theorem solidNames_dropPieces (count : Nat) (ps : List (List Char)) :
    solidNames (dropPieces count ps) = (solidNames ps).drop count := by
  fun_induction dropPieces count ps with
  | case1 => rfl
  | case2 => simp [solidNames]
  | case3 count p ps h ih => rw [ih, solidNames_cons_of_isIdle h]
  | case4 count p ps h ih =>
    rw [ih, solidNames_cons_of_not_isIdle (by simpa using h), List.drop_succ_cons]

theorem dropPieces_suffix (count : Nat) (ps : List (List Char)) : dropPieces count ps <:+ ps := by
  fun_induction dropPieces count ps with
  | case1 => exact List.suffix_rfl
  | case2 => exact List.suffix_rfl
  | case3 count p ps h ih => exact ih.trans (List.suffix_cons ..)
  | case4 count p ps h ih => exact ih.trans (List.suffix_cons ..)

theorem prefix_trimIdleEnd (ps : List (List Char)) : trimIdleEnd ps <+: ps := by
  rw [trimIdleEnd, ← List.reverse_suffix, List.reverse_reverse]
  exact List.dropWhile_suffix _

theorem mem_of_mem_trimIdleEnd {p : List Char} {ps : List (List Char)} (h : p ∈ trimIdleEnd ps) :
    p ∈ ps :=
  (prefix_trimIdleEnd ps).subset h

/-- The names of pieces that are joined into a text are theirs. -/
theorem bare_namesOf_ofPieces {ps : List (List Char)} (h : ∀ p ∈ ps, '/' ∉ p) :
    bare (namesOf (ofPieces [] ps).text) = solidNames ps := by
  rw [bare_namesOf_eq_solidNames]
  by_cases hne : ps = []
  · subst hne
    rfl
  · simp [ofPieces, splitOn_join hne h]

/-- A text of pieces that starts with one that is not idle is relative, and is empty only if it has
no name. -/
theorem ofPieces_relative {ps : List (List Char)} (hslash : ∀ p ∈ ps, '/' ∉ p)
    (h : ∀ p, ps.head? = some p → isIdle p = false) :
    (ofPieces [] ps).isAbsolute = false ∧
      ((ofPieces [] ps).text = "" ↔ solidNames ps = []) := by
  cases ps with
  | nil => exact ⟨by decide, by simp [ofPieces, Text.join, solidNames]⟩
  | cons p ps =>
    have hidle := h p rfl
    cases p with
    | nil => simp [isIdle] at hidle
    | cons c cs =>
      have hc : c ≠ '/' := fun hc ↦ hslash _ (List.mem_cons_self ..) (by simp [hc])
      have htext : ∃ rest, Text.join '/' ((c :: cs) :: ps) = c :: rest := by
        cases ps <;> simp [Text.join]
      obtain ⟨rest, hrest⟩ := htext
      refine ⟨by simp [ofPieces, Path.isAbsolute, hrest, hc], ?_⟩
      rw [solidNames_cons_of_not_isIdle hidle, ← String.toList_inj]
      simp [ofPieces, hrest]

/-- **The names of a relative path come after those of the path it is relative to.** -/
theorem bare_namesOf_relativeTo {p base rest : Path} (hbase : base.isAbsolute = true)
    (h : p.relativeTo? base = some rest) :
    p.isAbsolute = true ∧ rest.isAbsolute = false ∧
      bare (namesOf p.text) = bare (namesOf base.text) ++ bare (namesOf rest.text) ∧
      (rest.text = "" ↔ bare (namesOf rest.text) = []) := by
  obtain ⟨bs, -, hbbare, hbcomp⟩ := exists_components_of_isAbsolute hbase
  unfold relativeTo? at h
  rw [hbcomp] at h
  split at h
  · rename_i hpre
    simp only [reduceCtorEq, if_false, head_of_isAbsolute hbase, headComponents, List.length_cons,
      List.length_nil, Nat.zero_add, Nat.add_sub_cancel, Option.some.injEq] at h
    subst h
    -- a path below an absolute one starts at the root as well
    obtain ⟨tail, htail⟩ := List.isPrefixOf_iff_prefix.1 hpre
    have hp : p.isAbsolute = true := (isAbsolute_iff_head? p).2 (by simp [← htail])
    obtain ⟨ps, -, hpbare, hpcomp⟩ := exists_components_of_isAbsolute hp
    obtain rfl : bs ++ tail = ps := (List.cons.inj (htail.trans hpcomp)).2
    have hslash : ∀ q ∈ (dropPieces bs.length p.trimmedBody).dropWhile isIdle, '/' ∉ q := by
      intro q hq
      have h1 := (List.dropWhile_suffix _).mem hq
      have h2 := (dropPieces_suffix _ _).mem h1
      exact not_mem_of_mem_splitOn (mem_of_mem_trimIdleEnd h2)
    have hhead : ∀ q, ((dropPieces bs.length p.trimmedBody).dropWhile isIdle).head? = some q →
        isIdle q = false := by
      intro q hq
      have hne : (dropPieces bs.length p.trimmedBody).dropWhile isIdle ≠ [] := by
        rintro hnil
        simp [hnil] at hq
      rw [List.head?_eq_some_head hne, Option.some.injEq] at hq
      rw [← hq]
      exact List.head_dropWhile_not isIdle hne
    obtain ⟨hrel, hempty⟩ := ofPieces_relative hslash hhead
    refine ⟨hp, hrel, ?_, ?_⟩
    · rw [bare_namesOf_ofPieces hslash, solidNames_dropWhile_isIdle, solidNames_dropPieces,
        trimmedBody, solidNames_trimIdleEnd, solidNames_body, ← bare_namesOf_eq_solidNames,
        hpbare, hbbare]
      simp
    · rw [bare_namesOf_ofPieces hslash]
      exact hempty
  · simp at h

/-- A path is relative to itself by the empty path. -/
theorem relativeTo?_self {p : Path} (h : p.isAbsolute = true) :
    ∃ rest, p.relativeTo? p = some rest ∧ rest.text = "" := by
  obtain ⟨rest, hrest⟩ : ∃ rest, p.relativeTo? p = some rest := by
    unfold relativeTo?
    rw [if_pos (by simp [List.isPrefixOf_iff_prefix])]
    split <;> exact ⟨_, rfl⟩
  obtain ⟨-, -, hnames, hempty⟩ := bare_namesOf_relativeTo h hrest
  exact ⟨rest, hrest, hempty.2 (by simpa using hnames)⟩

/-! ### Parents -/

/-- A path that does not end in a slash keeps its text. -/
theorem unslashed_eq_self {p : Path} (h : Machine.endsInSlash p = false) :
    Machine.unslashed p = p := by
  unfold Machine.unslashed
  simp only
  split
  · rfl
  · have hlast : p.text.toList.getLast? ≠ some '/' := by simpa [Machine.endsInSlash] using h
    have hdrop : p.text.toList.reverse.dropWhile (· = '/') = p.text.toList.reverse := by
      cases hcs : p.text.toList.reverse with
      | nil => rfl
      | cons c cs =>
        have hc : c ≠ '/' := by
          rintro rfl
          rw [← List.head?_reverse, hcs] at hlast
          simp at hlast
        simp [hc]
    simp [hdrop]

theorem unslashed_root : Machine.unslashed ⟨"/"⟩ = ⟨"/"⟩ := by
  decide

/-- A list of pieces that was trimmed is empty, or ends in a piece that is not idle. -/
theorem trimIdleEnd_cases (ps : List (List Char)) :
    trimIdleEnd ps = [] ∨ ∃ init last, trimIdleEnd ps = init ++ [last] ∧ isIdle last = false := by
  by_cases hne : trimIdleEnd ps = []
  · exact .inl hne
  · refine .inr ⟨_, _, (List.dropLast_concat_getLast hne).symm, ?_⟩
    have hrev : ps.reverse.dropWhile isIdle ≠ [] := by
      simpa [trimIdleEnd] using hne
    have hhead := List.head_dropWhile_not isIdle hrev
    simpa only [trimIdleEnd, List.getLast_reverse] using hhead

/-- What a parent is: the empty path, or the pieces that come before the last one. -/
theorem parent?_cases {p dir : Path} (h : p.parent? = some dir) :
    (p.trimmedBody = [] ∧ dir.text = "") ∨ ∃ init last, p.trimmedBody = init ++ [last] ∧
      isIdle last = false ∧ dir = ofPieces p.head (trimIdleEnd init) := by
  unfold parent? at h
  split at h
  · rename_i hnil
    split at h
    · rw [Option.some.injEq] at h
      exact .inl ⟨hnil, by rw [← h]⟩
    · simp at h
  · rename_i hne
    rw [Option.some.injEq] at h
    rcases trimIdleEnd_cases p.body with hnil | ⟨init, last, hbody, hlast⟩
    · exact absurd hnil hne
    · refine .inr ⟨init, last, hbody, hlast, ?_⟩
      rw [← h, trimmedBody, hbody, List.dropLast_concat]

/-- A parent ends in a slash only if it is the root. -/
theorem unslashed_parent {p dir : Path} (h : p.parent? = some dir) :
    Machine.unslashed dir = dir := by
  rcases parent?_cases h with ⟨-, hempty⟩ | ⟨init, last, hbody, -, rfl⟩
  · exact unslashed_eq_self (by simp [Machine.endsInSlash, hempty])
  · rcases trimIdleEnd_cases init with hnil | ⟨init', last', hinit, hlast⟩
    · rw [hnil]
      unfold head
      split
      · exact unslashed_root
      · split <;> exact unslashed_eq_self (by decide)
    · have hslash : '/' ∉ last' := by
        have hmem : last' ∈ trimIdleEnd p.body := by
          rw [← trimmedBody, hbody]
          exact List.mem_append_left _ (mem_of_mem_trimIdleEnd (by simp [hinit]))
        exact not_mem_of_mem_splitOn (mem_of_mem_trimIdleEnd hmem)
      obtain ⟨c, hc⟩ : ∃ c, last'.getLast? = some c := by
        rw [← Option.ne_none_iff_exists', Ne, List.getLast?_eq_none_iff]
        rintro rfl
        simp [isIdle] at hlast
      obtain ⟨cs, hcs⟩ := suffix_join_concat '/' init' last'
      refine unslashed_eq_self ?_
      rw [Machine.endsInSlash, ofPieces, String.toList_ofList, hinit, ← hcs, ← List.append_assoc,
        List.getLast?_append, hc]
      simp only [Option.some_or, Option.some.injEq, decide_eq_false_iff_not]
      rintro rfl
      exact hslash (List.mem_of_getLast? hc)

/-- The first piece of a relative path, by the head of the path. -/
theorem head?_body_of_not_isAbsolute {p : Path} (h : p.isAbsolute = false) :
    (p.head = ['.'] ∧ p.body.head? = some []) ∨
      (p.head = [] ∧ ∀ piece, p.body.head? = some piece → isIdle piece = false ∨ p.text = "") := by
  obtain ⟨q, qs, hq⟩ := List.exists_cons_of_ne_nil (splitOn_ne_nil '/' p.text.toList)
  by_cases hdot : q = ['.']
  · have hhead : p.head = ['.'] := by simp [head, h, hq, hdot]
    obtain ⟨cs, hcs⟩ : ∃ cs, p.text.toList = '.' :: cs := by
      have hjoin := join_splitOn '/' p.text.toList
      rw [hq, hdot] at hjoin
      cases qs <;> exact ⟨_, hjoin.symm⟩
    refine .inl ⟨hhead, ?_⟩
    obtain ⟨r, rs, hr⟩ := List.exists_cons_of_ne_nil (splitOn_ne_nil '/' cs)
    have hempty : r = [] ∧ rs = qs := by simpa [hcs, splitOn, hr, hdot] using hq
    simp [body, hhead, hcs, hr, hempty]
  · have hhead : p.head = [] := by simp [head, h, hq, hdot]
    refine .inr ⟨hhead, fun piece hpiece ↦ ?_⟩
    obtain rfl : q = piece := by simpa [body, hhead, hq] using hpiece
    by_cases hnil : q = []
    · -- a text that is not empty and has an empty first piece starts at the root
      right
      cases hcs : p.text.toList with
      | nil => simpa using hcs
      | cons c cs =>
        have hc : c ≠ '/' := by simpa [Path.isAbsolute, hcs] using h
        obtain ⟨r, rs, hr⟩ := List.exists_cons_of_ne_nil (splitOn_ne_nil '/' cs)
        simp [hcs, splitOn, hc, hr, hnil] at hq
    · left
      simp [isIdle, hnil, hdot]

/-- A parent starts where the path starts, unless it is empty. -/
theorem isAbsolute_parent {p dir : Path} (h : p.parent? = some dir) (hne : dir.text ≠ "") :
    dir.isAbsolute = p.isAbsolute := by
  rcases parent?_cases h with ⟨-, hempty⟩ | ⟨init, last, hbody, -, rfl⟩
  · exact absurd hempty hne
  · cases habs : p.isAbsolute with
    | true =>
      rw [head_of_isAbsolute habs]
      simp [ofPieces, Path.isAbsolute]
    | false =>
      rcases head?_body_of_not_isAbsolute habs with ⟨hhead, -⟩ | ⟨hhead, hfirst⟩
      · simp [hhead, ofPieces, Path.isAbsolute]
      · have hpre : trimIdleEnd init <+: p.body :=
          (prefix_trimIdleEnd init).trans ((List.prefix_append init [last]).trans
            (hbody ▸ prefix_trimIdleEnd p.body))
        have hslash : ∀ q ∈ trimIdleEnd init, '/' ∉ q := fun q hq ↦
          not_mem_of_mem_splitOn (hpre.mem hq)
        rw [hhead]
        refine (ofPieces_relative hslash fun q hq ↦ ?_).1
        obtain ⟨rest, hrest⟩ := hpre
        refine (hfirst q (by rw [← hrest, List.head?_append, hq]; rfl)).resolve_right fun hempty ↦ ?_
        simp [trimmedBody, body, hhead, hempty, splitOn, trimIdleEnd, isIdle] at hbody

/-- The names of a head and pieces that are joined into a text are those of the pieces. -/
theorem bare_namesOf_ofPieces_head {p : Path} {ps : List (List Char)} (hps : ps <+: p.body) :
    bare (namesOf (ofPieces p.head ps).text) = solidNames ps := by
  have hslash : ∀ q ∈ ps, '/' ∉ q := fun q hq ↦ not_mem_of_mem_splitOn (hps.mem hq)
  cases habs : p.isAbsolute with
  | true =>
    have htext : (ofPieces p.head ps).text = "/" ++ (ofPieces [] ps).text := by
      rw [← String.toList_inj]
      simp [ofPieces, head_of_isAbsolute habs]
    rw [htext, namesOf_slash_append, bare_namesOf_ofPieces hslash]
  | false =>
    rcases head?_body_of_not_isAbsolute habs with ⟨hhead, hfirst⟩ | ⟨hhead, -⟩
    · obtain ⟨rest, hrest⟩ := hps
      rw [hhead]
      match ps with
      | [] => decide
      | q :: qs =>
        obtain rfl : q = [] := by simpa [← hrest] using hfirst
        cases qs with
        | nil => decide
        | cons r rs =>
          have htext : (ofPieces ['.'] ([] :: r :: rs)).text =
              "." ++ "/" ++ (ofPieces [] (r :: rs)).text := by
            rw [← String.toList_inj]
            simp [ofPieces, Text.join]
          have hdot : bare (namesOf ".") = [] := by decide
          have hidle : isIdle [] = true := by decide
          rw [htext, namesOf_append_slash, bare_append, hdot, List.nil_append,
            bare_namesOf_ofPieces fun q hq ↦ hslash q (List.mem_cons_of_mem _ hq),
            solidNames_cons_of_isIdle hidle]
    · rw [hhead, bare_namesOf_ofPieces hslash]

/-- **The parent of a path that has names has all of them but the last.** -/
theorem bare_namesOf_parent {p dir : Path} (hne : bare (namesOf p.text) ≠ [])
    (h : p.parent? = some dir) : ∃ x, bare (namesOf p.text) = bare (namesOf dir.text) ++ [x] := by
  have hnames : bare (namesOf p.text) = solidNames p.trimmedBody := by
    rw [bare_namesOf_eq_solidNames, trimmedBody, solidNames_trimIdleEnd, solidNames_body]
  rcases parent?_cases h with ⟨hnil, -⟩ | ⟨init, last, hinit, hlast, rfl⟩
  · rw [hnames, hnil] at hne
    exact absurd rfl hne
  have hpre : trimIdleEnd init <+: p.body :=
    (prefix_trimIdleEnd init).trans ((List.prefix_append init [last]).trans
      (hinit ▸ prefix_trimIdleEnd p.body))
  refine ⟨String.ofList last, ?_⟩
  rw [bare_namesOf_ofPieces_head hpre, solidNames_trimIdleEnd, hnames, hinit,
    solidNames_append, solidNames_cons_of_not_isIdle hlast]
  rfl

end LuaBundler.Files
