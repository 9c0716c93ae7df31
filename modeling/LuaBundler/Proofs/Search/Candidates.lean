import LuaBundler.Job.Basic
import LuaBundler.Proofs.Files.Names
import LuaBundler.Resolution

/-!
# Candidates

A module is looked for in two ways: paths are joined under a root, and names are put into templates.
Both come to the same two files of its stem (`ModuleName.filesOf`), seen from the root or from the
base of the template (`candidates_eq_map`, `map_candidate_templatesOf`). These files are plain
(`IsPlain`): nothing in their names stays or goes up.
-/

namespace LuaBundler

open Text Files

/-- A piece of a path that goes down to an entry: it is not empty, has no slash, and neither stays
nor goes up. -/
structure IsNormal (piece : List Char) : Prop where
  ne_nil : piece ≠ []
  no_slash : '/' ∉ piece
  ne_dot : piece ≠ ['.']
  ne_dots : piece ≠ ['.', '.']

/-- A relative path of names alone, none of which stays or goes up. -/
structure IsPlain (f : Path) : Prop where
  relative : f.isAbsolute = false
  ne_empty : f.text ≠ ""
  steps_eq : steps f.text = namesOf f.text
  names_ne_nil : namesOf f.text ≠ []
  text_eq : f.text.toList = Text.join '/' ((namesOf f.text).map String.toList)
  down : ∀ x ∈ namesOf f.text, x ≠ "." ∧ x ≠ ".."

theorem IsPlain.bare_namesOf {f : Path} (h : IsPlain f) : bare (namesOf f.text) = namesOf f.text :=
  List.filter_eq_self.2 fun x hx ↦ by simpa using (h.down x hx).1

/-- A plain path does not end in a slash. -/
theorem IsPlain.getLast? {f : Path} (h : IsPlain f) :
    ∃ c, f.text.toList.getLast? = some c ∧ c ≠ '/' := by
  obtain ⟨c, hc⟩ : ∃ c, f.text.toList.getLast? = some c := by
    rw [← Option.ne_none_iff_exists', Ne, List.getLast?_eq_none_iff]
    simpa using h.ne_empty
  refine ⟨c, hc, ?_⟩
  rintro rfl
  have hsteps := h.steps_eq
  rw [Files.steps_eq, if_pos hc] at hsteps
  simpa using congrArg List.length hsteps

/-- No plain path is lost in a join. -/
theorem IsPlain.text_join_ne {f : Path} (h : IsPlain f) (root : Path) :
    (root.join f).text ≠ "" := by
  obtain ⟨before, hbefore⟩ := exists_text_join root
  rw [hbefore f h.relative, Ne, ← String.toList_inj]
  simpa using fun _ ↦ h.ne_empty

/-- A plain path is determined by its names. -/
theorem IsPlain.eq_of_namesOf {f g : Path} (hf : IsPlain f) (hg : IsPlain g)
    (h : namesOf f.text = namesOf g.text) : f = g := by
  have htext : f.text = g.text := by rw [← String.toList_inj, hf.text_eq, hg.text_eq, h]
  cases f
  cases g
  exact congrArg Path.mk htext

/-- The names of joined pieces are the pieces, if none is empty or has a slash. -/
theorem namesOf_ofList_join {ps : List (List Char)} (hne : ps ≠ [])
    (h : ∀ p ∈ ps, p ≠ [] ∧ '/' ∉ p) :
    namesOf (String.ofList (Text.join '/' ps)) = ps.map String.ofList := by
  rw [namesOf, pieces, String.toList_ofList, splitOn_join hne fun p hp ↦ (h p hp).2]
  refine List.filter_eq_self.2 fun x hx ↦ ?_
  obtain ⟨p, hp, rfl⟩ := List.mem_map.1 hx
  have := (h p hp).1
  simpa [← String.toList_inj] using this

/-- Pieces that go down make a plain path. -/
theorem isPlain_of_pieces {ps : List (List Char)} (hne : ps ≠ []) (h : ∀ p ∈ ps, IsNormal p) :
    IsPlain ⟨String.ofList (Text.join '/' ps)⟩ := by
  have hnames := namesOf_ofList_join hne fun p hp ↦ ⟨(h p hp).ne_nil, (h p hp).no_slash⟩
  obtain ⟨init, last, hps⟩ : ∃ init last, ps = init ++ [last] :=
    ⟨ps.dropLast, ps.getLast hne, (List.dropLast_concat_getLast hne).symm⟩
  have hlast := h last (by simp [hps])
  refine ⟨?_, ?_, ?_, by simpa [hnames] using hne, by simp [hnames], ?_⟩
  · obtain ⟨p, rest, rfl⟩ := List.exists_cons_of_ne_nil hne
    have hp := h p (List.mem_cons_self ..)
    obtain ⟨c, cs, rfl⟩ := List.exists_cons_of_ne_nil hp.ne_nil
    have hc : c ≠ '/' := by
      rintro rfl
      simpa using hp.no_slash
    cases rest <;> simp [Path.isAbsolute, Text.join, hc]
  · intro hempty
    rw [show String.ofList (Text.join '/' ps) = "" from hempty, namesOf_empty] at hnames
    exact hne (by simpa using hnames.symm)
  · rw [steps_eq, String.toList_ofList, if_neg, List.append_nil]
    intro hslash
    obtain ⟨cs, hcs⟩ := suffix_join_concat '/' init last
    obtain ⟨c, hc⟩ : ∃ c, last.getLast? = some c := by
      rw [← Option.ne_none_iff_exists', Ne, List.getLast?_eq_none_iff]
      exact hlast.ne_nil
    rw [hps, ← hcs, List.getLast?_append, hc] at hslash
    simp only [Option.some_or, Option.some.injEq] at hslash
    exact hlast.no_slash (hslash ▸ List.mem_of_getLast? hc)
  · intro x hx
    rw [hnames] at hx
    obtain ⟨p, hp, rfl⟩ := List.mem_map.1 hx
    have hp := h p hp
    exact ⟨by simpa [← String.toList_inj] using hp.ne_dot,
      by simpa [← String.toList_inj] using hp.ne_dots⟩

namespace ModuleName

/-- The files of a stem, the first one preferred. -/
def filesOf (stem : Path) : List Path :=
  [⟨stem.text ++ ".lua"⟩, ⟨stem.text ++ "/init.lua"⟩]

variable {name : String} {stem : Path}

/-- A segment is not empty and has no slash of either kind; two dots are none. -/
theorem isSegment_iff {p : List Char} :
    isSegment p = true ↔ p ≠ [] ∧ p ≠ ['.', '.'] ∧ '/' ∉ p ∧ '\\' ∉ p := by
  simp only [isSegment, Bool.and_eq_true, decide_eq_true_eq, List.all_eq_true, and_assoc]
  refine and_congr_right fun _ ↦ and_congr_right fun _ ↦ ?_
  exact ⟨fun h ↦ ⟨fun hc ↦ (h _ hc).1 rfl, fun hc ↦ (h _ hc).2 rfl⟩,
    fun h c hc ↦ ⟨ne_of_mem_of_not_mem hc h.1, ne_of_mem_of_not_mem hc h.2⟩⟩

/-- A stem is made of the segments of the name. -/
theorem stem?_eq_some_iff : stem? name = some stem ↔
    (∀ p ∈ splitOn '.' name.toList, isSegment p = true) ∧
      stem = ⟨String.ofList (Text.join '/' (splitOn '.' name.toList))⟩ := by
  simp only [stem?, Option.ite_none_right_eq_some, List.all_eq_true, Option.some.injEq,
    eq_comm (a := stem)]

/-- A stem is the name with slashes for dots. -/
theorem text_stem (h : stem? name = some stem) :
    stem.text = String.ofList (SearchPath.slashed name.toList) := by
  rw [(stem?_eq_some_iff.1 h).2, join_splitOn_map]
  rfl

/-- A stem is determined by its text, and so is the name. -/
theorem stem_inj {other : String} (h : stem? name = some stem) (h' : stem? other = some stem) :
    name = other := by
  obtain ⟨h1, hs1⟩ := stem?_eq_some_iff.1 h
  obtain ⟨h2, hs2⟩ := stem?_eq_some_iff.1 h'
  have hjoin : Text.join '/' (splitOn '.' name.toList) =
      Text.join '/' (splitOn '.' other.toList) := by
    simpa using congrArg (fun p : Path ↦ p.text.toList) (hs1.symm.trans hs2)
  have hsplits : splitOn '.' name.toList = splitOn '.' other.toList := by
    rw [← splitOn_join (splitOn_ne_nil _ _) fun p hp ↦ (isSegment_iff.1 (h1 p hp)).2.2.1, hjoin,
      splitOn_join (splitOn_ne_nil _ _) fun p hp ↦ (isSegment_iff.1 (h2 p hp)).2.2.1]
  exact String.toList_inj.1 (splitOn_inj.1 hsplits)

/-- **A stem is a list of segments**: names without a dot. Its files are these names with the
extension at the last one, and with one more name behind them. -/
theorem segments_of_stem (h : stem? name = some stem) : ∃ init last,
    splitOn '.' name.toList = init ++ [last] ∧
      (∀ p ∈ init ++ [last], p ≠ [] ∧ '/' ∉ p ∧ '.' ∉ p) ∧
      stem = ⟨String.ofList (Text.join '/' (init ++ [last]))⟩ ∧
      filesOf stem = [⟨String.ofList (Text.join '/' (init ++ [last ++ ".lua".toList]))⟩,
        ⟨String.ofList (Text.join '/' (init ++ [last, "init.lua".toList]))⟩] := by
  obtain ⟨hsegments, rfl⟩ := stem?_eq_some_iff.1 h
  obtain ⟨init, last, hsplit⟩ : ∃ init last, splitOn '.' name.toList = init ++ [last] :=
    ⟨_, _, (List.dropLast_concat_getLast (splitOn_ne_nil _ _)).symm⟩
  have hplain : String.ofList (Text.join '/' (init ++ [last])) ++ ".lua" =
      String.ofList (Text.join '/' (init ++ [last ++ ".lua".toList])) := by
    rw [← String.toList_inj, String.toList_ofList, join_concat_append]
    simp
  have hpackage : String.ofList (Text.join '/' (init ++ [last])) ++ "/init.lua" =
      String.ofList (Text.join '/' (init ++ [last, "init.lua".toList])) := by
    rw [show init ++ [last, "init.lua".toList] = init ++ [last] ++ ["init.lua".toList] by simp,
      ← String.toList_inj, String.toList_ofList,
      join_append '/' (List.concat_ne_nil last init) (List.cons_ne_nil _ [])]
    simp [Text.join]
  refine ⟨init, last, hsplit, fun p hp ↦ ?_, by rw [hsplit], ?_⟩
  · rw [← hsplit] at hp
    obtain ⟨hne, -, hslash, -⟩ := isSegment_iff.1 (hsegments p hp)
    exact ⟨hne, hslash, not_mem_of_mem_splitOn hp⟩
  · rw [filesOf, hsplit, hplain, hpackage]

/-- A segment goes down. -/
theorem isNormal_segment {p : List Char} (h : p ≠ [] ∧ '/' ∉ p ∧ '.' ∉ p) : IsNormal p := by
  obtain ⟨hne, hslash, hdot⟩ := h
  refine ⟨hne, hslash, ?_, ?_⟩ <;> rintro rfl <;> simp at hdot

/-- The names of the files of a stem go down as well. -/
theorem isNormal_of_segments {init : List (List Char)} {last : List Char}
    (h : ∀ p ∈ init ++ [last], p ≠ [] ∧ '/' ∉ p ∧ '.' ∉ p) :
    (∀ p ∈ init ++ [last ++ ".lua".toList], IsNormal p) ∧
      ∀ p ∈ init ++ [last, "init.lua".toList], IsNormal p := by
  constructor
  · intro p hp
    rcases List.mem_append.1 hp with hp | hp
    · exact isNormal_segment (h p (List.mem_append_left _ hp))
    · obtain rfl := List.mem_singleton.1 hp
      have hslash := (h last (by simp)).2.1
      refine ⟨by simp, by simpa using hslash, fun heq ↦ ?_, fun heq ↦ ?_⟩ <;>
        simpa using congrArg List.length heq
  · intro p hp
    rw [List.append_cons] at hp
    rcases List.mem_append.1 hp with hp | hp
    · exact isNormal_segment (h p hp)
    · obtain rfl := List.mem_singleton.1 hp
      exact ⟨by decide, by decide, by decide, by decide⟩

theorem isPlain_stem (h : stem? name = some stem) : IsPlain stem := by
  obtain ⟨init, last, -, hsegments, rfl, -⟩ := segments_of_stem h
  exact isPlain_of_pieces (by simp) fun p hp ↦ isNormal_segment (hsegments p hp)

/-- The files of a stem are plain. -/
theorem isPlain_of_mem_filesOf (h : stem? name = some stem) {f : Path} (hf : f ∈ filesOf stem) :
    IsPlain f := by
  obtain ⟨init, last, -, hsegments, -, hfiles⟩ := segments_of_stem h
  obtain ⟨hplain, hpackage⟩ := isNormal_of_segments hsegments
  simp only [hfiles, List.mem_cons, List.not_mem_nil, or_false] at hf
  rcases hf with rfl | rfl
  · exact isPlain_of_pieces (by simp) hplain
  · exact isPlain_of_pieces (by simp) hpackage

/-- Under a root a module is looked for in the files of its stem. -/
theorem candidates_eq_map (root : Path) (h : stem? name = some stem) :
    candidates root stem = (filesOf stem).map root.join := by
  have hplain := isPlain_stem h
  obtain ⟨before, hjoin⟩ := exists_text_join root
  have hstem := hjoin stem hplain.relative
  obtain ⟨c, hc, hslash⟩ := hplain.getLast?
  -- the stem under the root is not empty and does not end in a slash
  have hinit : ((root.join stem).join ⟨packageInit⟩).text =
      before ++ stem.text ++ "/" ++ packageInit := by
    rcases text_join (p := root.join stem) (q := ⟨packageInit⟩) (by decide) with
      ⟨hempty, -⟩ | ⟨s, hs, -⟩ | ⟨-, hj⟩
    · rw [hstem, ← String.toList_inj] at hempty
      have := hplain.ne_empty
      simp_all
    · rw [hstem] at hs
      have hlast := congrArg (fun t : String ↦ t.toList.getLast?) hs
      simp only [String.toList_append, List.getLast?_append, hc] at hlast
      exact absurd (Option.some.inj hlast) hslash
    · rw [hj, hstem]
  have hfiles : ∀ f ∈ filesOf stem, (root.join f).text = before ++ f.text :=
    fun f hf ↦ hjoin f (isPlain_of_mem_filesOf h hf).relative
  simp only [filesOf, List.mem_cons, List.not_mem_nil, or_false, forall_eq_or_imp,
    forall_eq] at hfiles
  have hext : ∀ p q : Path, p.text = q.text → p = q := fun p q ↦ by
    cases p
    cases q
    simp
  simp only [candidates, filesOf, List.map_cons, List.map_nil, List.cons.injEq, and_true]
  constructor
  · refine hext _ _ ?_
    rw [hfiles.1, plainFile, Path.withSuffix, hstem]
    simp [moduleExtension, String.append_assoc]
  · refine hext _ _ ?_
    rw [hfiles.2, packageFile, Path.withSuffix, hinit]
    simp [moduleExtension, packageInit, String.append_assoc]

end ModuleName

/-! ### Templates -/

namespace SearchPath

open ModuleName

variable {name base : String} {stem : Path}

theorem instantiate_append (a b name : List Char) :
    instantiate (a ++ b) name = instantiate a name ++ instantiate b name := by
  simp [instantiate]

/-- A text without the mark is kept. -/
theorem instantiate_of_not_mem {a : List Char} (h : mark ∉ a) (name : List Char) :
    instantiate a name = a := by
  induction a with
  | nil => rfl
  | cons c cs ih =>
    rw [List.mem_cons, not_or] at h
    simp only [instantiate, List.flatMap_cons, if_neg (Ne.symm h.1), List.singleton_append]
    exact congrArg _ (ih h.2)

/-- **The templates of a base give the files of a stem, seen from the base.** -/
theorem map_candidate_templatesOf (dir : Path) (hbase : mark ∉ base.toList)
    (h : stem? name = some stem) :
    (Job.templatesOf base).map (candidate dir name) =
      (filesOf stem).map fun f ↦ dir.join ⟨base ++ "/" ++ f.text⟩ := by
  have hmark : ∀ (pattern file : String) (tail : List Char), pattern.toList = '/' :: mark :: tail →
      file.toList = tail → mark ∉ tail →
      String.ofList (instantiate (base ++ pattern).toList name.toList) =
        base ++ "/" ++ (stem.text ++ file) := by
    intro pattern file tail hpattern hfile htail
    have hone : instantiate ('/' :: mark :: tail) name.toList =
        '/' :: slashed name.toList ++ instantiate tail name.toList := by
      simp [instantiate, mark]
    rw [text_stem h, ← String.toList_inj]
    simp only [String.toList_append, String.toList_ofList, instantiate_append,
      instantiate_of_not_mem hbase, hpattern, hone, instantiate_of_not_mem htail, hfile]
    simp
  simp only [Job.templatesOf, filesOf, candidate, List.map_cons, List.map_nil, List.cons.injEq,
    and_true]
  exact ⟨by rw [hmark "/?.lua" ".lua" ".lua".toList (by decide) rfl (by decide)],
    by rw [hmark "/?/init.lua" "/init.lua" "/init.lua".toList (by decide) rfl (by decide)]⟩

end SearchPath

end LuaBundler
