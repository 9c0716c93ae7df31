import LuaBundler.Bundle.Strip
import LuaBundler.Proofs.Bundle.Blocks
import Mathlib.Data.List.Nodup
import Mathlib.Data.List.Sort

/-!
# Stripping a document and stripping its text

Names are taken out of a document one after another. What is left are the modules that none of them
names, and the entry (`Document.strip_fst`). A name is reported as stripped if it is that of a module
and as missing otherwise (`Document.strip_snd_eq`); so if each of them names a module, each is
reported as stripped and none as missing (`Document.strip_snd`).

A text that was rendered from a document is stripped like the document. Its blocks lie one after
another between the prelude and the epilogue (`spansFrom`), the block of a name is that of the module
of that name (`findSpan_render`), and cutting blocks out leaves the others and what is around them
(`cutFrom_spansFrom`).
-/

/-! ### Documents without some names -/

namespace LuaBundler.Bundle.Document

variable {d : Document} {r : StripReport} {globals : List String}

theorem foldl_stripOne_fst : (globals.foldl stripOne (d, r)).1 =
    { d with modules := d.modules.filter fun x ↦ x.name = rootName ∨ x.name ∉ globals } := by
  induction globals generalizing d r with
  | nil =>
    have hall : d.modules.filter (fun _ ↦ true) = d.modules := List.filter_eq_self.2 (by simp)
    simp [hall]
  | cons g globals ih =>
    rw [List.foldl_cons]
    by_cases h : g ≠ rootName ∧ g ∈ d.names
    · rw [stripOne, if_pos h, ih]
      simp only [erase, List.filter_filter, Document.mk.injEq, true_and, and_true]
      refine List.filter_congr fun x _ ↦ ?_
      by_cases hx : x.name = g
      · simp [hx, h.1]
      · simp [hx]
    · rw [stripOne, if_neg h, ih]
      simp only [Document.mk.injEq, true_and, and_true]
      refine List.filter_congr fun x hx ↦ ?_
      by_cases hroot : x.name = rootName
      · simp [hroot]
      · -- the name is not that of a module, or it is that of the entry
        have hne : x.name ≠ g := by
          rintro rfl
          exact h ⟨hroot, List.mem_map_of_mem hx⟩
        simp [hroot, hne]

/-- **Stripping leaves the entry and the modules that are not named.** -/
theorem strip_fst (d : Document) (globals : List String) : (d.strip globals).1 =
    { d with modules := d.modules.filter fun x ↦ x.name = rootName ∨ x.name ∉ globals } :=
  foldl_stripOne_fst

theorem foldl_stripOne_snd (hnodup : globals.Nodup) (hroot : rootName ∉ globals) :
    (globals.foldl stripOne (d, r)).2 = ⟨r.stripped ++ globals.filter (· ∈ d.names),
      r.missing ++ globals.filter (· ∉ d.names)⟩ := by
  induction globals generalizing d r with
  | nil => simp
  | cons g globals ih =>
    obtain ⟨hg, hrest⟩ := List.nodup_cons.1 hnodup
    rw [List.mem_cons, not_or] at hroot
    by_cases hmem : g ∈ d.names
    · -- the names that come later are other names
      have hlater : ∀ g' ∈ globals, g' ∈ (d.erase g).names ↔ g' ∈ d.names := by
        intro g' hg'
        rw [names_erase, List.mem_filter, and_iff_left]
        simpa using ne_of_mem_of_not_mem hg' hg
      have hin : globals.filter (· ∈ (d.erase g).names) = globals.filter (· ∈ d.names) :=
        List.filter_congr fun g' hg' ↦ by rw [decide_eq_decide, hlater g' hg']
      have hout : globals.filter (· ∉ (d.erase g).names) = globals.filter (· ∉ d.names) :=
        List.filter_congr fun g' hg' ↦ by rw [decide_eq_decide, hlater g' hg']
      rw [List.foldl_cons, stripOne, if_pos ⟨Ne.symm hroot.1, hmem⟩, ih hrest hroot.2, hin, hout]
      simp [StripReport.strip, hmem]
    · rw [List.foldl_cons, stripOne, if_neg (fun h ↦ hmem h.2), ih hrest hroot.2]
      simp [StripReport.miss, hmem]

/-- **A name is reported as stripped if it is that of a module**, and as missing otherwise. -/
theorem strip_snd_eq (hnodup : globals.Nodup) (hroot : rootName ∉ globals) :
    (d.strip globals).2 = ⟨globals.filter (· ∈ d.names), globals.filter (· ∉ d.names)⟩ := by
  rw [strip, foldl_stripOne_snd hnodup hroot]
  rfl

/-- **Names of modules are all reported as stripped.** -/
theorem strip_snd (hnodup : globals.Nodup) (h : ∀ g ∈ globals, g ≠ rootName ∧ g ∈ d.names) :
    (d.strip globals).2 = ⟨globals, []⟩ := by
  have hroot : rootName ∉ globals := fun hmem ↦ (h _ hmem).1 rfl
  rw [strip_snd_eq hnodup hroot, List.filter_eq_self.2 fun g hg ↦ by simpa using (h g hg).2,
    List.filter_eq_nil_iff.2 fun g hg ↦ by simpa using (h g hg).2]

end LuaBundler.Bundle.Document

namespace LuaBundler.Bundle

open Text

variable {x : RegisteredModule} {modules : List RegisteredModule} {position : Nat}

/-- The text of modules, block after block. -/
def blocks (modules : List RegisteredModule) : List Char :=
  modules.flatMap fun x ↦ x.render.toList

@[simp] theorem blocks_nil : blocks [] = [] := rfl

theorem Document.toList_render (d : Document) :
    d.render.toList = d.prelude.toList ++ blocks d.modules ++ d.epilogue.toList := by
  simp [Document.render, blocks, String.toList_join, List.flatMap_map]

/-- The spans of blocks that lie one after another. -/
def spansFrom (position : Nat) : List RegisteredModule → List Span
  | [] => []
  | x :: modules =>
    ⟨position, position + x.render.toList.length, x.name⟩ ::
      spansFrom (position + x.render.toList.length) modules

/-- A line that opens the registration of a name opens a block. -/
theorem opensBlock_of_registers {name line : List Char} (h : registers name line = true) :
    opensBlock line = true := by
  rw [registers, Bool.and_eq_true] at h
  rw [opensBlock, h.1, Bool.true_or]

theorem blockStart?_eq_openers (cs : List Char) (name : String) : blockStart? cs name =
    ((openers 0 cs).find? fun line ↦ registers name.toList line.2).map (·.1) := by
  have hregisters : ∀ line : List Char,
      decide (opensBlock line = true ∧ registers name.toList line = true) =
        registers name.toList line := fun line ↦ by
    simpa using opensBlock_of_registers
  rw [blockStart?, openers, List.find?_filter]
  simp only [hregisters]
  rfl

/-! ### Documents -/

/-- A document around the standard runtime, each name registered once, whose text can be taken
apart again. -/
structure Document.IsPlain (d : Document) : Prop where
  prelude : d.prelude = Bundle.prelude
  epilogue : d.epilogue = Bundle.epilogue
  nodup : d.names.Nodup
  modules : ∀ x ∈ d.modules, x.IsPlain

/-- Where the blocks of a document are. -/
def Document.spans (d : Document) : List Span :=
  spansFrom d.prelude.toList.length d.modules

variable {d : Document}

/-- Cutting a block out keeps what is before it, from the cursor on. -/
theorem cutFrom_cons_block {before block rest : List Char} {cursor : Nat} {s : Span}
    {spans : List Span} (hcursor : cursor ≤ before.length) (hstart : s.start = before.length)
    (hstop : s.stop = (before ++ block).length) :
    cutFrom (before ++ block ++ rest) cursor (s :: spans) =
      (cutFrom (before ++ block ++ rest) (before ++ block).length spans).map
        (before.drop cursor ++ ·) := by
  have hslice : slice (before ++ block ++ rest) cursor before.length = before.drop cursor := by
    simp [slice, List.drop_append_of_le_length hcursor, List.take_left']
  rw [cutFrom, hstart, if_pos hcursor, hslice, hstop]

end LuaBundler.Bundle
