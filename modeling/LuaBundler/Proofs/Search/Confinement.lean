import LuaBundler.Proofs.Files.Components
import LuaBundler.Proofs.Stub.Creation

/-!
# Names stay below their root

A module name becomes a path under a root, and both searching and stubbing act on that path. The
path leaves nothing to chance: its text is that of the root and then names with a slash between each
two of them, and its components are those of the root and then these names (`LiesBelow`). The names
are the segments of the module name, so a module name cannot lead out of a root
(`stem?_confines`).

Segments have no dot, and the file name of a stub has one. So no stub can be a directory on the way
to another one (`LiesBelow.eq_of_prefix`), whatever the root is.
-/

namespace LuaBundler.ModuleName

open Text Files

/-- A file lies below a root by names: they come after the text of the root, with at most a slash
between, and after its components, and each of them goes down. -/
structure LiesBelow (root file : Path) (names : List String) : Prop where
  text : ∃ separator ∈ ["", "/"], file.text = root.text ++ separator ++ "/".intercalate names
  components : file.components = root.components ++ names.map .name
  normal : ∀ x ∈ names, IsNormal x.toList

variable {root file p q : Path} {name other : String} {stem : Path}

/-! ### Files below a root -/

/-- A path that starts with a name has no head. -/
theorem head_of_isPlain (h : IsPlain file) : file.head = [] := by
  refine (head_of_not_isAbsolute h.relative).resolve_left fun hdot ↦ ?_
  -- a head would be the first name
  have hmem : ['.'] ∈ splitOn '/' file.text.toList := by
    rw [Path.head, h.relative] at hdot
    simp only [Bool.false_eq_true, if_false, ite_eq_left_iff, reduceCtorEq, imp_false,
      not_not] at hdot
    exact List.mem_of_head? hdot
  have hname : "." ∈ namesOf file.text :=
    List.mem_filter.2 ⟨List.mem_map.2 ⟨['.'], hmem, rfl⟩, by decide⟩
  exact (h.down _ hname).1 rfl

/-- The components of a plain path are its names. -/
theorem components_of_isPlain (h : IsPlain file) :
    file.components = (namesOf file.text).map .name := by
  rw [components_eq_map, head_of_isPlain h, h.bare_namesOf]
  refine List.map_congr_left fun x hx ↦ ?_
  have hdots : x.toList ≠ ['.', '.'] := fun heq ↦
    (h.down x hx).2 (by rw [← String.toList_inj, heq]; rfl)
  rw [Path.componentOf, if_neg hdots, String.ofList_toList]

/-- **Pieces that go down lead below every root.** -/
theorem liesBelow_join (root : Path) {ps : List (List Char)} (hne : ps ≠ [])
    (h : ∀ piece ∈ ps, IsNormal piece) :
    LiesBelow root (root.join ⟨String.ofList (Text.join '/' ps)⟩) (ps.map String.ofList) := by
  have hplain := isPlain_of_pieces hne h
  refine ⟨?_, ?_, fun x hx ↦ ?_⟩
  · have htext : String.ofList (Text.join '/' ps) = "/".intercalate (ps.map String.ofList) := by
      rw [← String.toList_inj, String.toList_intercalate, String.toList_ofList, join_eq,
        List.map_map]
      simp [Function.comp_def]
    rw [← htext]
    rcases text_join (p := root) hplain.relative with ⟨hroot, hj⟩ | ⟨s, hroot, hj⟩ | ⟨-, hj⟩
    · exact ⟨"", by simp, by simp [hj, hroot]⟩
    · exact ⟨"", by simp, by simp [hj, hroot]⟩
    · exact ⟨"/", by simp, hj⟩
  · rw [components_join hplain.relative (head_of_isPlain hplain), components_of_isPlain hplain,
      namesOf_ofList_join hne fun piece hp ↦ ⟨(h piece hp).ne_nil, (h piece hp).no_slash⟩]
  · obtain ⟨piece, hp, rfl⟩ := List.mem_map.1 hx
    simpa using h piece hp

/-- **The files of a module name lie below every root**, by its segments: the extension stands
behind the last one, or one more name comes after it. -/
theorem liesBelow_candidates (root : Path) (h : stem? name = some stem) :
    ∃ before last plain package, pieces '.' name = before ++ [last] ∧
      candidates root stem = [plain, package] ∧ Stub.path? root name = some plain ∧
      LiesBelow root plain (before ++ [last ++ ".lua"]) ∧
      LiesBelow root package (before ++ [last, "init.lua"]) := by
  obtain ⟨init, last, hsplit, hsegments, -, hfiles⟩ := segments_of_stem h
  obtain ⟨hplain, hpackage⟩ := isNormal_of_segments hsegments
  have hcandidates := candidates_eq_map root h
  rw [hfiles] at hcandidates
  refine ⟨init.map String.ofList, String.ofList last, _, _, by simp [pieces, hsplit],
    hcandidates, ?_, ?_, ?_⟩
  · rw [Stub.path?, h, Option.map_some, Option.some.injEq]
    exact (List.cons.inj hcandidates).1
  · simpa using liesBelow_join root (by simp) hplain
  · simpa using liesBelow_join root (by simp) hpackage

/-! ### Stubs apart -/

/-- **A stub is no directory on the way to another one**: its file name has a dot, and the names
before the last one have none. -/
theorem LiesBelow.eq_of_prefix {xs ys : List String} {x y : String}
    (hp : LiesBelow root p (xs ++ [x ++ ".lua"])) (hq : LiesBelow root q (ys ++ [y ++ ".lua"]))
    (hdot : ∀ z ∈ ys, '.' ∉ z.toList) (h : p.components <+: q.components) :
    xs ++ [x] = ys ++ [y] := by
  have hname : Function.Injective Component.name := fun _ _ h ↦ Component.name.inj h
  rw [hp.components, hq.components, List.prefix_append_right_inj,
    List.prefix_map_iff_of_injective hname, List.prefix_concat_iff] at h
  rcases h with heq | hbefore
  · -- the same names, and the extension goes from the last one
    obtain ⟨rfl, hlast⟩ := List.append_inj' heq rfl
    have hsame : x = y := by
      rw [List.cons.injEq, ← String.toList_inj] at hlast
      simpa [← String.toList_inj] using hlast.1
    rw [hsame]
  · -- else the file name of the first is a name before the last one of the second
    refine absurd ?_ (hdot (x ++ ".lua") (hbefore.subset (by simp)))
    simp

/-- **Each name has a stub of its own**, and it does not lie on the way to another one. -/
theorem eq_of_leading_stub (hp : Stub.path? root name = some p)
    (hq : Stub.path? root other = some q) (h : p.components <+: q.components) : name = other := by
  obtain ⟨stem, hstem, -⟩ := Stub.path?_eq_some_iff.1 hp
  obtain ⟨stem', hstem', -⟩ := Stub.path?_eq_some_iff.1 hq
  obtain ⟨before, last, plain, _, hpieces, -, hplain, hbelow, -⟩ := liesBelow_candidates root hstem
  obtain ⟨before', last', plain', _, hpieces', -, hplain', hbelow', -⟩ :=
    liesBelow_candidates root hstem'
  obtain rfl : plain = p := Option.some.inj (hplain.symm.trans hp)
  obtain rfl : plain' = q := Option.some.inj (hplain'.symm.trans hq)
  have hdot : ∀ z ∈ before', '.' ∉ z.toList := by
    intro z hz
    have hmem : z ∈ pieces '.' other := by simp [hpieces', hz]
    obtain ⟨piece, hpiece, rfl⟩ := List.mem_map.1 hmem
    simpa using not_mem_of_mem_splitOn hpiece
  have hsame : pieces '.' name = pieces '.' other := by
    rw [hpieces, hpieces', hbelow.eq_of_prefix hbelow' hdot h]
  -- a name is known from its segments
  have hsplit := (List.map_inj_right fun _ _ hab ↦ String.ofList_inj.1 hab).1 hsame
  exact String.toList_inj.1 (splitOn_inj.1 hsplit)

/-! ### Names that are refused -/

/-- A name is refused exactly if a segment is empty, or if it has a slash of either kind. The empty
name is a segment that is empty. -/
theorem stem?_eq_none_iff : stem? name = none ↔
    "" ∈ pieces '.' name ∨ '/' ∈ name.toList ∨ '\\' ∈ name.toList := by
  have hempty : "" ∈ pieces '.' name ↔ [] ∈ splitOn '.' name.toList := by
    simp [pieces]
  have hnone : stem? name = none ↔ ∃ p ∈ splitOn '.' name.toList, ¬isSegment p = true := by
    simp [stem?]
  rw [hnone, hempty, mem_iff_exists_mem_splitOn (by decide : '/' ≠ '.'),
    mem_iff_exists_mem_splitOn (by decide : '\\' ≠ '.')]
  constructor
  · rintro ⟨p, hp, hsegment⟩
    -- the split at dots leaves no piece that goes up
    have hdots : p ≠ ['.', '.'] := by
      rintro rfl
      exact not_mem_of_mem_splitOn hp (by simp)
    simp only [isSegment_iff, not_and_or, not_not] at hsegment
    rcases hsegment with rfl | h | h | h
    · exact .inl hp
    · exact absurd h hdots
    · exact .inr (.inl ⟨p, hp, h⟩)
    · exact .inr (.inr ⟨p, hp, h⟩)
  · rintro (h | ⟨p, hp, h⟩ | ⟨p, hp, h⟩)
    · exact ⟨[], h, by decide⟩
    · exact ⟨p, hp, fun hsegment ↦ (isSegment_iff.1 hsegment).2.2.1 h⟩
    · exact ⟨p, hp, fun hsegment ↦ (isSegment_iff.1 hsegment).2.2.2 h⟩

/-- **A module name leads nowhere but below its root, and its stub is its own.** A name is refused
exactly if it has an empty segment or a slash of either kind. The files of any other name lie below
every root by its segments, and so does its stub, which has no path in common with the stub of
another name and is no directory on the way to it. -/
theorem stem?_confines (root : Path) (name : String) :
    (stem? name = none ↔ "" ∈ pieces '.' name ∨ '/' ∈ name.toList ∨ '\\' ∈ name.toList) ∧
    ∀ stem, stem? name = some stem →
      ∃ before last plain package, pieces '.' name = before ++ [last] ∧
        candidates root stem = [plain, package] ∧ Stub.path? root name = some plain ∧
        LiesBelow root plain (before ++ [last ++ ".lua"]) ∧
        LiesBelow root package (before ++ [last, "init.lua"]) ∧
        ∀ other stub, other ≠ name → Stub.path? root other = some stub →
          plain.same stub = false ∧ ¬plain.components <+: stub.components := by
  refine ⟨stem?_eq_none_iff, fun stem hstem ↦ ?_⟩
  obtain ⟨before, last, plain, package, hpieces, hcandidates, hpath, hplain, hpackage⟩ :=
    liesBelow_candidates root hstem
  refine ⟨before, last, plain, package, hpieces, hcandidates, hpath, hplain, hpackage,
    fun other stub hother hstub ↦ ?_⟩
  have hapart : ¬plain.components <+: stub.components := fun hprefix ↦
    hother (eq_of_leading_stub hpath hstub hprefix).symm
  refine ⟨?_, hapart⟩
  rw [← Bool.not_eq_true, Path.same_iff]
  exact fun hsame ↦ hapart (hsame ▸ List.prefix_rfl)

/-- The stubs of `a` and of `a.lua`, in a project that is reached by going up. -/
theorem stem?_confines_dotted :
    stem? "a.lua" = some ⟨"a/lua"⟩ ∧
      Stub.path? ⟨"../p/"⟩ "a.lua" = some ⟨"../p/a/lua.lua"⟩ ∧
      LiesBelow ⟨"../p/"⟩ ⟨"../p/a/lua.lua"⟩ ["a", "lua.lua"] ∧
      "a" ≠ "a.lua" ∧ Stub.path? ⟨"../p/"⟩ "a" = some ⟨"../p/a.lua"⟩ ∧
      ¬Path.components ⟨"../p/a/lua.lua"⟩ <+: Path.components ⟨"../p/a.lua"⟩ := by
  have hstem : stem? "a.lua" = some ⟨"a/lua"⟩ := by decide +kernel
  have hpath : Stub.path? ⟨"../p/"⟩ "a.lua" = some ⟨"../p/a/lua.lua"⟩ := by decide +kernel
  have hother : Stub.path? ⟨"../p/"⟩ "a" = some ⟨"../p/a.lua"⟩ := by decide +kernel
  have hpieces : pieces '.' "a.lua" = ["a"] ++ ["lua"] := by decide +kernel
  obtain ⟨before, last, plain, -, hsplit, -, hplain, hbelow, -, hapart⟩ :=
    (stem?_confines ⟨"../p/"⟩ "a.lua").2 _ hstem
  obtain ⟨rfl, hlast⟩ := List.append_inj' (hpieces.symm.trans hsplit) rfl
  obtain rfl : "lua" = last := (List.cons.inj hlast).1
  obtain rfl : ⟨"../p/a/lua.lua"⟩ = plain := Option.some.inj (hpath.symm.trans hplain)
  exact ⟨hstem, hpath, hbelow, by decide, hother, (hapart "a" _ (by decide) hother).2⟩

end LuaBundler.ModuleName
