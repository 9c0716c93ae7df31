import LuaBundler.Proofs.Json.Spelling
import Mathlib.Data.List.Forall2

/-!
# The order of the members of an object

A record looks up each member by its name, and takes only what stands there once. So it makes no
difference to it in which order the members are (`exists_onlyMember?`), or whether there are others
of names that it does not know; and a name that it knows and that comes twice is not found at all
(`onlyMember?_eq_none`).

An object is rearranged (`Value.Rearranges`) if its members are put in some order, perhaps with
others among them. What may be added, and how far the value of a member may change as well, is left
to the record that is read of the object.
-/

namespace LuaBundler.Json

/-! ### Only members -/

theorem onlyMember?_eq_some_iff {name : String} {ms : List (String × Value)} {v : Value} :
    onlyMember? name ms = some v ↔ ms.filter (fun m ↦ m.1 == name) = [(name, v)] := by
  have hname : ∀ m ∈ ms.filter (fun m ↦ m.1 == name), m.1 = name := fun m hm ↦ by
    simpa using (List.mem_filter.1 hm).2
  unfold onlyMember?
  split
  · rename_i m heq
    rw [heq] at hname ⊢
    obtain ⟨_, x⟩ := m
    obtain rfl := hname _ (List.mem_singleton_self _)
    simp
  · rename_i hne
    simp only [reduceCtorEq, false_iff]
    exact hne _

/-- The other members make no difference to what is found. -/
theorem onlyMember?_filter_ne {name tag : String} (h : name ≠ tag) (ms : List (String × Value)) :
    onlyMember? name (ms.filter fun m ↦ m.1 != tag) = onlyMember? name ms := by
  have hfilter : (ms.filter fun m ↦ m.1 != tag).filter (fun m ↦ m.1 == name) =
      ms.filter fun m ↦ m.1 == name := by
    rw [List.filter_filter]
    refine List.filter_congr fun m _ ↦ ?_
    by_cases hm : m.1 = name <;> simp [hm, h]
  rw [onlyMember?, hfilter, ← onlyMember?]

/-- The only member of a name is the one that is there. -/
theorem eq_of_onlyMember? {name : String} {ms : List (String × Value)} {v w : Value}
    (h : onlyMember? name ms = some v) (hw : (name, w) ∈ ms) : w = v := by
  have hmem : (name, w) ∈ ms.filter (fun m ↦ m.1 == name) := List.mem_filter.2 ⟨hw, by simp⟩
  rw [onlyMember?_eq_some_iff.1 h] at hmem
  simpa using hmem

/-- Whether a name comes more than once among the names of the members. -/
def Repeats (names : List String) (ms : List (String × Value)) : Prop :=
  ∃ name ∈ names, 1 < (ms.map Prod.fst).count name

/-- **A name that comes twice** is not found. -/
theorem onlyMember?_eq_none {name : String} {ms : List (String × Value)}
    (h : 1 < (ms.map Prod.fst).count name) : onlyMember? name ms = none := by
  refine Option.eq_none_iff_forall_ne_some.2 fun v hv ↦ ?_
  rw [onlyMember?_eq_some_iff] at hv
  rw [List.count, List.countP_map, List.countP_eq_length_filter] at h
  simp [Function.comp_def, hv] at h

/-- Names that are all found are not repeated. -/
theorem not_repeats {names : List String} {ms : List (String × Value)}
    (h : ∀ name ∈ names, ∃ v, onlyMember? name ms = some v) : ¬Repeats names ms := by
  rintro ⟨name, hname, htwice⟩
  obtain ⟨v, hv⟩ := h name hname
  rw [onlyMember?_eq_none htwice] at hv
  simp at hv

/-! ### Rearranged objects -/

/-- What stands in the second of two related lists is related to something in the first. -/
theorem exists_related_of_mem {α β : Type} {R : α → β → Prop} {xs : List α} {ys : List β}
    (h : List.Forall₂ R xs ys) {y : β} (hy : y ∈ ys) : ∃ x ∈ xs, R x y := by
  induction h with
  | nil => simp at hy
  | cons hxy _ ih =>
    obtain rfl | hy := List.mem_cons.1 hy
    · exact ⟨_, List.mem_cons_self .., hxy⟩
    · obtain ⟨x, hx, hxy⟩ := ih hy
      exact ⟨x, List.mem_cons_of_mem _ hx, hxy⟩

section

variable {added : String × Value → Prop} {same : String → Value → Value → Prop}

/-- Whether an object is another one with its members in some order, and with others `added` among
them; the values of a member before and after are the `same`. A value that is no object stays. -/
def Value.Rearranges (added : String × Value → Prop) (same : String → Value → Value → Prop) :
    Value → Value → Prop
  | object ms, object ms' => ∃ kept new,
    List.Forall₂ (fun m m' ↦ m.1 = m'.1 ∧ same m.1 m.2 m'.2) ms kept ∧ (∀ m ∈ new, added m) ∧
      ms'.Perm (kept ++ new)
  | v, v' => v = v'

theorem Value.Rearranges.eq_or_object {v v' : Value} (h : v.Rearranges added same v') :
    v = v' ∨ ∃ ms ms', v = object ms ∧ v' = object ms' := by
  unfold Rearranges at h
  split at h
  · exact .inr ⟨_, _, rfl, rfl⟩
  · exact .inl h

/-- An object that is written from its last member to its first, what was added before them. -/
theorem Value.rearranges_reverse {ms : List (String × Value)} (kept new : List (String × Value))
    (hkept : List.Forall₂ (fun m m' ↦ m.1 = m'.1 ∧ same m.1 m.2 m'.2) ms kept)
    (hnew : ∀ m ∈ new, added m) :
    (object ms).Rearranges added same (object (kept ++ new).reverse) :=
  ⟨kept, new, hkept, hnew, List.reverse_perm _⟩

theorem Value.Rearranges.exists_object {v : Value} {ms' : List (String × Value)}
    (h : v.Rearranges added same (object ms')) : ∃ ms, v = object ms := by
  obtain rfl | ⟨ms, _, rfl, -⟩ := h.eq_or_object
  exacts [⟨_, rfl⟩, ⟨_, rfl⟩]

/-- What stands under a name that is found is its value before, and what was added. -/
theorem exists_perm_filter {ms ms' : List (String × Value)}
    (h : (Value.object ms).Rearranges added same (.object ms')) {name : String} {v : Value}
    (hv : onlyMember? name ms = some v) :
    ∃ v', ∃ new : List (String × Value), same name v v' ∧ (∀ m ∈ new, added m) ∧
      (ms'.filter fun m ↦ m.1 == name).Perm ((name, v') :: new.filter fun m ↦ m.1 == name) := by
  obtain ⟨kept, new, hkept, hnew, hperm⟩ := h
  have hfilter : List.Forall₂ (fun m m' ↦ m.1 = m'.1 ∧ same m.1 m.2 m'.2)
      (ms.filter fun m ↦ m.1 == name) (kept.filter fun m ↦ m.1 == name) :=
    List.rel_filter (by rintro m m' ⟨hm, -⟩; simp [hm]) hkept
  rw [onlyMember?_eq_some_iff.1 hv] at hfilter
  cases hkeep : kept.filter fun m ↦ m.1 == name with
  | nil => simp [hkeep] at hfilter
  | cons m' rest =>
    obtain ⟨_, v'⟩ := m'
    rw [hkeep] at hfilter
    obtain ⟨⟨rfl, hsame⟩, hnil⟩ := List.forall₂_cons.1 hfilter
    obtain rfl := List.forall₂_nil_left_iff.1 hnil
    refine ⟨v', new, hsame, hnew, ?_⟩
    have hboth := hperm.filter fun m ↦ m.1 == name
    rwa [List.filter_append, hkeep] at hboth

/-- **What is found under a name is found in any order**, if nothing is added under the name. -/
theorem exists_onlyMember? {ms ms' : List (String × Value)}
    (h : (Value.object ms).Rearranges added same (.object ms')) {names : List String}
    (hadded : ∀ m, added m → m.1 ∉ names) {name : String} (hname : name ∈ names) {v : Value}
    (hv : onlyMember? name ms = some v) :
    ∃ v', onlyMember? name ms' = some v' ∧ same name v v' := by
  obtain ⟨v', new, hsame, hnew, hperm⟩ := exists_perm_filter h hv
  have hnone : new.filter (fun m ↦ m.1 == name) = [] := by
    refine List.filter_eq_nil_iff.2 fun m hm heq ↦ hadded m (hnew m hm) ?_
    rwa [beq_iff_eq.1 heq]
  rw [hnone] at hperm
  exact ⟨v', onlyMember?_eq_some_iff.2 (List.perm_singleton.1 hperm), hsame⟩

/-- What is found under a name before and after is the same, whatever is added. -/
theorem same_of_onlyMember? {ms ms' : List (String × Value)}
    (h : (Value.object ms).Rearranges added same (.object ms')) {name : String} {v v' : Value}
    (hv : onlyMember? name ms = some v) (hv' : onlyMember? name ms' = some v') :
    same name v v' := by
  obtain ⟨w, new, hsame, -, hperm⟩ := exists_perm_filter h hv
  rw [onlyMember?_eq_some_iff.1 hv'] at hperm
  have heq := List.perm_singleton.1 hperm.symm
  rw [List.cons.injEq, Prod.mk.injEq] at heq
  exact heq.1.2 ▸ hsame

/-- If the numbers of an object can be written, so can those of what is made of it. -/
theorem Value.Rearranges.isWritable {v v' : Value} (h : v.Rearranges added same v')
    (hadded : ∀ m, added m → m.2.IsWritable)
    (hsame : ∀ name x x', same name x x' → x.IsWritable → x'.IsWritable) (hv : v.IsWritable) :
    v'.IsWritable := by
  obtain rfl | ⟨ms, ms', rfl, rfl⟩ := h.eq_or_object
  · exact hv
  · obtain ⟨kept, new, hkept, hnew, hperm⟩ := h
    rw [isWritable_object] at hv ⊢
    intro m' hm'
    obtain hm' | hm' := List.mem_append.1 (hperm.mem_iff.1 hm')
    · obtain ⟨m, hm, -, hmm'⟩ := exists_related_of_mem hkept hm'
      exact hsame _ _ _ hmm' (hv m hm)
    · exact hadded m' (hnew m' hm')

end

end LuaBundler.Json
