import LuaBundler.Proofs.Graph.DepthFirst

/-!
# First sight and last sight

Two ways to go through a graph from a root. A depth-first search enters next what the last of the
vertices entered before leads to (`DepthFirst.chooses`). A work list that is added to in front, and
that takes up no vertex twice, takes next what the *first* vertex to lead to it was latest
(`FirstSight.chooses`): where a vertex is in the list is settled when it is seen first.

Both go through the same vertices (`Covers.perm`), and the second rule allows only one order
(`eq_of_chooses`). So they go through them in the same order exactly if the search keeps to the rule
of the work list, for instance if no vertex is led to by two that are entered before it
(`FirstSight.order_spec`).
-/

namespace LuaBundler.Walk

variable {κ : Type} {next : κ → List κ} {taken seen seen' work order order' : List κ} {v w x : κ}

/-! ### Orders -/

/-- Some vertex leads to another one. -/
def Required (next : κ → List κ) (taken : List κ) (x : κ) : Prop :=
  ∃ p ∈ taken, x ∈ next p

/-- A vertex stands in a list, and another one not before it. -/
def Precedes (w x : κ) (xs : List κ) : Prop :=
  ∃ front back, xs = front ++ w :: back ∧ x ∉ front

/-- Seen first: the first vertex that leads to `w` comes behind the first that leads to `x`, or is
that one and has `w` before `x`. -/
def SeenFirst (next : κ → List κ) (taken : List κ) (w x : κ) : Prop :=
  ∃ front p back, taken = front ++ p :: back ∧ w ∈ next p ∧ ¬ Required next front w ∧
    (Required next front x ∨ x ∈ next p ∧ Precedes w x (next p))

/-- Seen last: some vertex that leads to `w` comes behind each that leads to `x`, or is that one and
has `w` before `x`. -/
def SeenLast (next : κ → List κ) (taken : List κ) (w x : κ) : Prop :=
  ∀ q ∈ taken, x ∈ next q → ∃ front p back, taken = front ++ p :: back ∧ w ∈ next p ∧
    (q ∈ front ∨ q = p ∧ Precedes w x (next p))

/-- Each vertex of an order goes before all others that could come next. -/
def Chooses (next : κ → List κ) (prefers : List κ → κ → κ → Prop) (taken : List κ) :
    List κ → Prop
  | [] => True
  | w :: order => (∀ x ∈ order, Required next taken x → prefers taken w x) ∧
      Chooses next prefers (taken ++ [w]) order

/-- Some vertex before each of an order leads to it. -/
def Grounded (next : κ → List κ) (taken : List κ) : List κ → Prop
  | [] => True
  | w :: order => Required next taken w ∧ Grounded next (taken ++ [w]) order

/-- No two vertices before one of an order lead to it. -/
def RequiredOnce (next : κ → List κ) (taken : List κ) : List κ → Prop
  | [] => True
  | w :: order => (∀ p ∈ taken, ∀ q ∈ taken, w ∈ next p → w ∈ next q → p = q) ∧
      RequiredOnce next (taken ++ [w]) order

instance RequiredOnce.decidable [DecidableEq κ] (next : κ → List κ) (taken : List κ) :
    (order : List κ) → Decidable (RequiredOnce next taken order)
  | [] => inferInstanceAs (Decidable True)
  | w :: order =>
    have := RequiredOnce.decidable next (taken ++ [w]) order
    inferInstanceAs (Decidable (_ ∧ _))

/-- An order of new vertices, each led to by one before it, with all that they lead to. -/
structure Covers (next : κ → List κ) (taken order : List κ) : Prop where
  nodup : order.Nodup
  apart : ∀ x ∈ order, x ∉ taken
  closed : ∀ p ∈ taken ++ order, ∀ x ∈ next p, x ∈ taken ++ order
  grounded : Grounded next taken order

theorem Required.mono {more : List κ} (h : Required next taken x) (hsub : taken ⊆ more) :
    Required next more x :=
  h.imp fun _ ⟨hp, hx⟩ ↦ ⟨hsub hp, hx⟩

theorem Required.append (h : Required next taken x) (more : List κ) :
    Required next (taken ++ more) x :=
  h.mono (List.subset_append_left ..)

theorem required_append_singleton :
    Required next (taken ++ [v]) x ↔ Required next taken x ∨ x ∈ next v := by
  simp [Required, or_and_right, exists_or]

/-- What is seen first stays so when more vertices are taken. -/
theorem SeenFirst.append (h : SeenFirst next taken w x) (more : List κ) :
    SeenFirst next (taken ++ more) w x := by
  obtain ⟨front, p, back, rfl, hrest⟩ := h
  exact ⟨front, p, back ++ more, by simp, hrest⟩

/-- Of two places in a list, one comes first, or they are the same. -/
theorem eq_or_before {front back front' back' : List κ} {p p' : κ}
    (h : front ++ p :: back = front' ++ p' :: back') :
    (front = front' ∧ p = p') ∨ (∃ between, front' = front ++ p :: between) ∨
      ∃ between, front = front' ++ p' :: between := by
  rcases List.append_eq_append_iff.1 h with ⟨between, rfl, hrest⟩ | ⟨between, rfl, hrest⟩
  · cases between with
    | nil => exact .inl ⟨(List.append_nil front).symm, (List.cons.inj hrest).1⟩
    | cons c between =>
      obtain ⟨rfl, -⟩ := List.cons.inj hrest
      exact .inr (.inl ⟨between, rfl⟩)
  · cases between with
    | nil => exact .inl ⟨List.append_nil front', (List.cons.inj hrest).1.symm⟩
    | cons c between =>
      obtain ⟨rfl, -⟩ := List.cons.inj hrest
      exact .inr (.inr ⟨between, rfl⟩)

/-- Two vertices are not both before the other one. -/
theorem Precedes.eq {xs : List κ} (h : Precedes w x xs) (h' : Precedes x w xs) : w = x := by
  obtain ⟨front, back, rfl, hx⟩ := h
  obtain ⟨front', back', heq, hw⟩ := h'
  rcases eq_or_before heq with ⟨-, rfl⟩ | ⟨between, rfl⟩ | ⟨between, rfl⟩
  · rfl
  · simp at hw
  · simp at hx

/-- **Only one of two vertices is seen first.** -/
theorem SeenFirst.eq (h : SeenFirst next taken w x) (h' : SeenFirst next taken x w) : w = x := by
  obtain ⟨front, p, back, rfl, hw, hnew, hx⟩ := h
  obtain ⟨front', p', back', heq, hx', hnew', hw'⟩ := h'
  rcases eq_or_before heq with ⟨rfl, rfl⟩ | ⟨between, rfl⟩ | ⟨between, rfl⟩
  · exact (hx.resolve_left hnew').2.eq (hw'.resolve_left hnew).2
  · -- the first vertex that leads to `x` would be one before the first that leads to `w`
    rcases hx with hx | ⟨hx, -⟩
    · exact absurd (hx.append _) hnew'
    · exact absurd ⟨p, by simp, hx⟩ hnew'
  · rcases hw' with hw' | ⟨hw', -⟩
    · exact absurd (hw'.append _) hnew
    · exact absurd ⟨p', by simp, hw'⟩ hnew

/-! ### One order for each rule -/

/-- What an order leads to is in any set of vertices that is closed and has those taken before. -/
theorem Grounded.subset {closed : List κ} (h : Grounded next taken order) (htaken : taken ⊆ closed)
    (hclosed : ∀ p ∈ closed, next p ⊆ closed) : order ⊆ closed := by
  induction order generalizing taken with
  | nil => exact List.nil_subset _
  | cons w order ih =>
    obtain ⟨⟨p, hp, hw⟩, hrest⟩ := h
    have hmem : w ∈ closed := hclosed p (htaken hp) hw
    refine List.cons_subset.2 ⟨hmem, ih hrest ?_⟩
    exact List.append_subset.2 ⟨htaken, List.cons_subset.2 ⟨hmem, List.nil_subset _⟩⟩

theorem Covers.subset (h : Covers next taken order) (h' : Covers next taken order') :
    order ⊆ order' := by
  intro x hx
  have hmem := h.grounded.subset (List.subset_append_left taken order') h'.closed hx
  exact (List.mem_append.1 hmem).resolve_left (h.apart x hx)

/-- **Two orders that cover a graph have the same vertices.** -/
theorem Covers.perm (h : Covers next taken order) (h' : Covers next taken order') :
    order.Perm order' :=
  (List.perm_ext_iff_of_nodup h.nodup h'.nodup).2 fun _ ↦ ⟨(h.subset h' ·), (h'.subset h ·)⟩

/-- **The rule of first sight allows one order.** -/
theorem eq_of_chooses (hperm : order.Perm order') (hground : Grounded next taken order)
    (hground' : Grounded next taken order') (h : Chooses next (SeenFirst next) taken order)
    (h' : Chooses next (SeenFirst next) taken order') : order = order' := by
  induction order generalizing taken order' with
  | nil => exact (List.nil_perm.1 hperm).symm
  | cons w order ih =>
    cases order' with
    | nil => exact absurd hperm.length_eq (by simp)
    | cons w' order' =>
      have heq : w = w' := by
        by_contra hne
        have hw : w ∈ order' :=
          (List.mem_cons.1 (hperm.subset (List.mem_cons_self ..))).resolve_left hne
        have hw' : w' ∈ order :=
          (List.mem_cons.1 (hperm.symm.subset (List.mem_cons_self ..))).resolve_left (Ne.symm hne)
        exact hne ((h.1 w' hw' hground'.1).eq (h'.1 w hw hground.1))
      subst heq
      rw [ih hperm.cons_inv hground.2 hground'.2 h.2 h'.2]

/-- Where no two vertices before one lead to it, what is seen last is what is seen first. -/
theorem RequiredOnce.chooses (h : RequiredOnce next taken order)
    (hlast : Chooses next (SeenLast next) taken order) (hnodup : (taken ++ order).Nodup) :
    Chooses next (SeenFirst next) taken order := by
  induction order generalizing taken with
  | nil => trivial
  | cons w order ih =>
    refine ⟨fun x hx hrequired ↦ ?_, ih h.2 hlast.2 (by simpa using hnodup)⟩
    obtain ⟨q, hq, hxq⟩ := hrequired
    obtain ⟨front, p, back, rfl, hw, hpos⟩ := hlast.1 x hx ⟨q, hq, hxq⟩ q hq hxq
    refine ⟨front, p, back, rfl, hw, ?_, ?_⟩
    · rintro ⟨p', hp', hw'⟩
      obtain rfl := h.1 p' (List.mem_append_left _ hp') p (by simp) hw' hw
      have hapart := (List.nodup_append.1 (List.nodup_append.1 hnodup).1).2.2
      exact hapart p' hp' p' (List.mem_cons_self ..) rfl
    · rcases hpos with hpos | ⟨rfl, hpos⟩
      · exact .inl ⟨q, hpos, hxq⟩
      · exact .inr ⟨hxq, hpos⟩

/-! ### First sight -/

/-- A work list of vertices that were seen and not taken, in the order in which they were seen
first. -/
structure IsPending (next : κ → List κ) (taken seen work : List κ) : Prop where
  nodup : work.Nodup
  apart : ∀ x ∈ work, x ∉ taken
  /-- Nothing is put in the list but what a vertex taken leads to. -/
  required : ∀ x ∈ work, Required next taken x
  taken_seen : ∀ x ∈ taken, x ∈ seen
  required_seen : ∀ x, Required next taken x → x ∈ seen
  /-- What is seen is taken already, or will be. -/
  seen_taken : ∀ x ∈ seen, x ∈ taken ∨ x ∈ work
  pairwise : work.Pairwise (SeenFirst next taken)

theorem IsPending.mem_seen (h : IsPending next taken seen work) (hx : x ∈ work) : x ∈ seen :=
  h.required_seen x (h.required x hx)

section

variable [DecidableEq κ]

/-- The vertices of a list that were not seen, each once. -/
def fresh (seen : List κ) : List κ → List κ
  | [] => []
  | x :: xs => if x ∈ seen then fresh seen xs else x :: fresh (x :: seen) xs

/-- A work list that is gone through: what the next vertex leads to is marked as seen, and put in
front if it was not. -/
inductive FirstSight (next : κ → List κ) : (seen work order : List κ) → Prop
  | done (seen : List κ) : FirstSight next seen [] []
  | take {v : κ} {seen seen' work order : List κ} (hseen : ∀ x, x ∈ seen' ↔ x ∈ seen ∨ x ∈ next v)
      (rest : FirstSight next seen' (fresh seen (next v) ++ work) order) :
      FirstSight next seen (v :: work) (v :: order)

theorem mem_fresh {xs : List κ} : x ∈ fresh seen xs ↔ x ∈ xs ∧ x ∉ seen := by
  induction xs generalizing seen with
  | nil => simp [fresh]
  | cons y xs ih =>
    rw [fresh]
    split
    · rename_i hy
      have hne : x ∉ seen → x ≠ y := fun hx heq ↦ hx (heq ▸ hy)
      rw [ih, List.mem_cons]
      tauto
    · rename_i hy
      have hxy : x = y → x ∉ seen := fun heq ↦ heq ▸ hy
      rw [List.mem_cons, ih, List.mem_cons, List.mem_cons]
      tauto

theorem nodup_fresh (seen xs : List κ) : (fresh seen xs).Nodup := by
  induction xs generalizing seen with
  | nil => exact .nil
  | cons y xs ih =>
    rw [fresh]
    split
    · exact ih seen
    · exact List.nodup_cons.2 ⟨fun hy ↦ (mem_fresh.1 hy).2 (List.mem_cons_self ..), ih _⟩

/-- Seeing vertices by what tells them apart comes to the same. -/
theorem map_fresh {α : Type} [DecidableEq α] {f : α → κ} {seen xs : List α}
    (hf : ∀ x ∈ seen ++ xs, ∀ y ∈ seen ++ xs, f x = f y → x = y) :
    (fresh seen xs).map f = fresh (seen.map f) (xs.map f) := by
  induction xs generalizing seen with
  | nil => rfl
  | cons y xs ih =>
    have hmem : f y ∈ seen.map f ↔ y ∈ seen := by
      refine ⟨fun h ↦ ?_, List.mem_map_of_mem⟩
      obtain ⟨x, hx, heq⟩ := List.mem_map.1 h
      exact hf x (List.mem_append_left _ hx) y (by simp) heq ▸ hx
    have hsub : ∀ x ∈ (y :: seen) ++ xs, x ∈ seen ++ y :: xs := by
      intro x
      simp only [List.mem_append, List.mem_cons]
      tauto
    rw [fresh, List.map_cons, fresh]
    by_cases hy : y ∈ seen
    · rw [if_pos hy, if_pos (hmem.2 hy)]
      exact ih fun a ha b hb ↦
        hf a (hsub a (List.mem_cons_of_mem y ha)) b (hsub b (List.mem_cons_of_mem y hb))
    · rw [if_neg hy, if_neg (mt hmem.1 hy), List.map_cons]
      exact congrArg _ (ih fun a ha b hb ↦ hf a (hsub a ha) b (hsub b hb))

/-- They keep their order. -/
theorem pairwise_fresh (seen xs : List κ) :
    (fresh seen xs).Pairwise fun w x ↦ Precedes w x xs := by
  induction xs generalizing seen with
  | nil => exact .nil
  | cons y xs ih =>
    have hlater : ∀ {seen' : List κ}, y ∈ seen' →
        (fresh seen' xs).Pairwise fun w x ↦ Precedes w x (y :: xs) := by
      intro seen' hy
      refine (ih seen').imp_of_mem fun {w x} _ hx ⟨front, back, heq, hnot⟩ ↦ ?_
      have hne : x ≠ y := fun h ↦ (mem_fresh.1 hx).2 (h ▸ hy)
      exact ⟨y :: front, back, by rw [heq]; rfl, by simp [hne, hnot]⟩
    rw [fresh]
    split
    · exact hlater ‹_›
    · exact .cons (fun x _ ↦ ⟨[], xs, rfl, List.not_mem_nil⟩) (hlater (List.mem_cons_self ..))

/-- What a vertex leads to is seen first when that vertex is taken. -/
theorem pairwise_seenFirst_fresh (hrequired : ∀ x, Required next taken x → x ∈ seen) :
    (fresh seen (next v)).Pairwise (SeenFirst next (taken ++ [v])) := by
  refine (pairwise_fresh seen (next v)).imp_of_mem fun {w x} hw hx hbefore ↦ ?_
  obtain ⟨hw, hwseen⟩ := mem_fresh.1 hw
  exact ⟨taken, v, [], rfl, hw, fun h ↦ hwseen (hrequired w h), .inr ⟨(mem_fresh.1 hx).1, hbefore⟩⟩

/-- The work list after the root was taken. -/
theorem isPending_start (hseen : ∀ x, x ∈ seen ↔ x ∈ [v] ∨ x ∈ next v) :
    IsPending next [v] seen (fresh [v] (next v)) where
  nodup := nodup_fresh ..
  apart _ hx := (mem_fresh.1 hx).2
  required x hx := ⟨v, List.mem_singleton_self v, (mem_fresh.1 hx).1⟩
  taken_seen x hx := (hseen x).2 (.inl hx)
  required_seen x hx := by
    obtain ⟨p, hp, hx⟩ := hx
    exact (hseen x).2 (.inr (List.mem_singleton.1 hp ▸ hx))
  seen_taken x hx := by
    by_cases hroot : x ∈ [v]
    · exact .inl hroot
    · exact .inr (mem_fresh.2 ⟨((hseen x).1 hx).resolve_left hroot, hroot⟩)
  pairwise := by
    have hnone : ∀ x, Required next [] x → x ∈ [v] := by simp [Required]
    exact pairwise_seenFirst_fresh hnone

/-- **A step of the work list** takes up its first vertex and leaves one. -/
theorem IsPending.take (h : IsPending next taken seen (v :: work))
    (hseen : ∀ x, x ∈ seen' ↔ x ∈ seen ∨ x ∈ next v) :
    IsPending next (taken ++ [v]) seen' (fresh seen (next v) ++ work) where
  nodup := by
    refine List.nodup_append.2 ⟨nodup_fresh .., (List.nodup_cons.1 h.nodup).2, ?_⟩
    rintro x hx y hy rfl
    exact (mem_fresh.1 hx).2 (h.mem_seen (List.mem_cons_of_mem _ hy))
  apart x hx := by
    rw [List.mem_append, List.mem_singleton, not_or]
    rcases List.mem_append.1 hx with hx | hx
    · have hxseen : x ∉ seen := (mem_fresh.1 hx).2
      have hv : v ∈ seen := h.mem_seen (List.mem_cons_self ..)
      exact ⟨fun hmem ↦ hxseen (h.taken_seen x hmem), fun heq ↦ hxseen (heq ▸ hv)⟩
    · have hv : v ∉ work := (List.nodup_cons.1 h.nodup).1
      exact ⟨h.apart x (List.mem_cons_of_mem _ hx), fun heq ↦ hv (heq ▸ hx)⟩
  required x hx := by
    rcases List.mem_append.1 hx with hx | hx
    · exact required_append_singleton.2 (.inr (mem_fresh.1 hx).1)
    · exact (h.required x (List.mem_cons_of_mem _ hx)).append [v]
  taken_seen x hx := by
    refine (hseen x).2 (.inl ?_)
    rcases List.mem_append.1 hx with hx | hx
    · exact h.taken_seen x hx
    · exact List.mem_singleton.1 hx ▸ h.mem_seen (List.mem_cons_self ..)
  required_seen x hx := (hseen x).2 ((required_append_singleton.1 hx).imp_left (h.required_seen x))
  seen_taken x hx := by
    by_cases hold : x ∈ seen
    · rcases h.seen_taken x hold with hmem | hmem
      · exact .inl (List.mem_append_left _ hmem)
      · rcases List.mem_cons.1 hmem with rfl | hmem
        · exact .inl (by simp)
        · exact .inr (List.mem_append_right _ hmem)
    · have hx : x ∈ next v := ((hseen x).1 hx).resolve_left hold
      exact .inr (List.mem_append_left _ (mem_fresh.2 ⟨hx, hold⟩))
  pairwise := by
    have hleft : work.Pairwise (SeenFirst next (taken ++ [v])) :=
      (List.pairwise_cons.1 h.pairwise).2.imp fun hfirst ↦ hfirst.append [v]
    refine List.pairwise_append.2 ⟨pairwise_seenFirst_fresh h.required_seen, hleft, ?_⟩
    -- what is new was not led to before, and what is left was
    intro w hw x hx
    obtain ⟨hw, hwseen⟩ := mem_fresh.1 hw
    exact ⟨taken, v, [], rfl, hw, fun hmem ↦ hwseen (h.required_seen w hmem),
      .inl (h.required x (List.mem_cons_of_mem _ hx))⟩

/-- **A work list covers what it leads to, by the rule of first sight.** -/
theorem FirstSight.spec (h : FirstSight next seen work order)
    (hwork : IsPending next taken seen work) :
    Covers next taken order ∧ Chooses next (SeenFirst next) taken order := by
  induction h generalizing taken with
  | done seen =>
    refine ⟨⟨.nil, by simp, fun p hp x hx ↦ ?_, trivial⟩, trivial⟩
    rw [List.append_nil] at hp ⊢
    exact (hwork.seen_taken x (hwork.required_seen x ⟨p, hp, hx⟩)).resolve_right List.not_mem_nil
  | @take v seen seen' work order hseen _ ih =>
    obtain ⟨hcovers, hchooses⟩ := ih (hwork.take hseen)
    have hapart : ∀ x ∈ order, x ∉ taken ∧ x ≠ v := by
      intro x hx
      have hnot := hcovers.apart x hx
      rwa [List.mem_append, List.mem_singleton, not_or] at hnot
    have hv : v ∉ order := fun hmem ↦ (hapart v hmem).2 rfl
    have hclosed := hcovers.closed
    rw [List.append_assoc, List.singleton_append] at hclosed
    refine ⟨⟨List.nodup_cons.2 ⟨hv, hcovers.nodup⟩, fun x hx ↦ ?_, hclosed,
      hwork.required v (List.mem_cons_self ..), hcovers.grounded⟩, fun x hx hrequired ↦ ?_,
      hchooses⟩
    · rcases List.mem_cons.1 hx with rfl | hx
      · exact hwork.apart x (List.mem_cons_self ..)
      · exact (hapart x hx).1
    · -- what could come next is behind `v` in the work list
      have hmem : x ∈ v :: work :=
        (hwork.seen_taken x (hwork.required_seen x hrequired)).resolve_left (hapart x hx).1
      exact List.rel_of_pairwise_cons hwork.pairwise
        ((List.mem_cons.1 hmem).resolve_left (hapart x hx).2)

end

/-! ### Depth-first search -/

/-- A search tells vertices apart by their keys alone. -/
theorem depthFirst_map {α : Type} {key : α → κ} {next' : α → List α}
    {active seen todo order back : List α}
    (h : DepthFirst key next' active seen todo order back)
    (hnext : ∀ v ∈ order, (next' v).map key = next (key v)) :
    DepthFirst id next (active.map key) (seen.map key) (todo.map key) (order.map key)
      (back.map key) := by
  induction h with
  | done => exact .done ..
  | wayBack hv _ ih => exact .wayBack (by simpa using hv) (ih hnext)
  | passOver hv hseen _ ih => exact .passOver (by simpa using hv) (by simpa using hseen) (ih hnext)
  | @enter active seen todo below order met back v hv hseen _ _ ihinner ihrest =>
    have hinner := ihinner fun w hw ↦ hnext w (by simp [hw])
    have hrest := ihrest fun w hw ↦ hnext w (by simp [hw])
    rw [hnext v (by simp), List.map_append] at hinner
    rw [List.map_append] at hrest
    rw [List.map_append, List.map_append]
    exact .enter (by simpa using hv) (by simpa using hseen) hinner hrest

theorem grounded_append {xs ys : List κ} (h : Grounded next taken xs)
    (h' : Grounded next (taken ++ xs) ys) : Grounded next taken (xs ++ ys) := by
  induction xs generalizing taken with
  | nil => simpa using h'
  | cons w xs ih => exact ⟨h.1, ih h.2 (by simpa using h')⟩

variable {active todo back rest : List κ} {a : κ}

/-- What a search enters is led to by what it entered before, or is what it searches. -/
theorem grounded_of_depthFirst (h : DepthFirst id next active seen todo order back)
    (htodo : ∀ w ∈ todo, Required next taken w) : Grounded next taken order := by
  induction h generalizing taken with
  | done => trivial
  | wayBack _ _ ih => exact ih fun w hw ↦ htodo w (List.mem_cons_of_mem _ hw)
  | passOver _ _ _ ih => exact ih fun w hw ↦ htodo w (List.mem_cons_of_mem _ hw)
  | @enter active seen todo below order met back v _ _ _ _ ihinner ihrest =>
    refine ⟨htodo v (List.mem_cons_self ..), grounded_append (ihinner fun w hw ↦ ?_)
      (ihrest fun w hw ↦ ?_)⟩
    · exact required_append_singleton.2 (.inr hw)
    · rw [List.append_assoc]
      exact (htodo w (List.mem_cons_of_mem _ hw)).append _

/-- Where a search is: at what is left of what its innermost active vertex leads to. The others were
entered before that one, and what is not active was searched to the end. -/
structure IsAt (next : κ → List κ) (a : κ) (rest seen todo : List κ) : Prop where
  inner : ∃ front back, seen = front ++ a :: back ∧ ∀ q ∈ rest, q ∈ front
  left : ∃ done, next a = done ++ todo ∧ ∀ x ∈ done, x ∈ seen
  finished : ∀ q ∈ seen, q ∉ a :: rest → ∀ x ∈ next q, x ∈ seen

theorem IsAt.active_seen (h : IsAt next a rest seen todo) : ∀ q ∈ a :: rest, q ∈ seen := by
  obtain ⟨front, back, rfl, hrest⟩ := h.inner
  intro q hq
  rcases List.mem_cons.1 hq with rfl | hq
  · simp
  · exact List.mem_append_left _ (hrest q hq)

theorem IsAt.pass (h : IsAt next a rest seen (v :: todo)) (hv : v ∈ seen) :
    IsAt next a rest seen todo := by
  obtain ⟨done, hnext, hdone⟩ := h.left
  refine ⟨h.inner, ⟨done ++ [v], by simp [hnext], fun x hx ↦ ?_⟩, h.finished⟩
  rcases List.mem_append.1 hx with hx | hx
  · exact hdone x hx
  · exact List.mem_singleton.1 hx ▸ hv

theorem IsAt.enter (h : IsAt next a rest seen todo) (v : κ) :
    IsAt next v (a :: rest) (seen ++ [v]) (next v) := by
  refine ⟨⟨seen, [], rfl, h.active_seen⟩, ⟨[], rfl, by simp⟩, fun q hq hactive x hx ↦ ?_⟩
  rw [List.mem_cons, not_or] at hactive
  have hq : q ∈ seen := by simpa [hactive.1] using hq
  exact List.mem_append_left _ (h.finished q hq hactive.2 x hx)

theorem IsAt.leave {below : List κ} (h : IsAt next a rest seen (v :: todo))
    (hbelow : ∀ q ∈ v :: below, ∀ x ∈ next q, x ∈ seen ++ v :: below) :
    IsAt next a rest (seen ++ v :: below) todo := by
  obtain ⟨front, back, hseen, hrest⟩ := h.inner
  obtain ⟨done, hnext, hdone⟩ := h.left
  refine ⟨⟨front, back ++ v :: below, by simp [hseen], hrest⟩,
    ⟨done ++ [v], by simp [hnext], fun x hx ↦ ?_⟩, fun q hq hactive x hx ↦ ?_⟩
  · rcases List.mem_append.1 hx with hx | hx
    · exact List.mem_append_left _ (hdone x hx)
    · simp [List.mem_singleton.1 hx]
  · rcases List.mem_append.1 hq with hq | hq
    · exact List.mem_append_left _ (h.finished q hq hactive x hx)
    · exact hbelow q hq x hx

/-- What is searched next is seen last. -/
theorem IsAt.seenLast (h : IsAt next a rest seen (v :: todo)) (hx : x ∉ seen) :
    SeenLast next seen v x := by
  intro q hq hxq
  have hactive : q ∈ a :: rest := by
    by_contra hnot
    exact hx (h.finished q hq hnot x hxq)
  obtain ⟨front, back, hseen, hrest⟩ := h.inner
  obtain ⟨done, hnext, hdone⟩ := h.left
  refine ⟨front, a, back, hseen, by simp [hnext], ?_⟩
  rcases List.mem_cons.1 hactive with rfl | hq
  · exact .inr ⟨rfl, done, todo, hnext, fun hmem ↦ hx (hdone x hmem)⟩
  · exact .inl (hrest q hq)

/-- What is led to by recent vertices goes before what only earlier ones lead to. -/
theorem chooses_append {before recent below : List κ} (hground : Grounded next recent below)
    (hlater : ∀ p ∈ recent ++ below, ∀ x ∈ order, x ∉ next p)
    (h : Chooses next (SeenLast next) (before ++ recent) below)
    (h' : Chooses next (SeenLast next) (before ++ recent ++ below) order) :
    Chooses next (SeenLast next) (before ++ recent) (below ++ order) := by
  induction below generalizing recent with
  | nil => simpa using h'
  | cons w below ih =>
    refine ⟨fun x hx hrequired ↦ ?_, ?_⟩
    · rcases List.mem_append.1 hx with hx | hx
      · exact h.1 x hx hrequired
      · intro q hq hxq
        have hbefore : q ∈ before := (List.mem_append.1 hq).resolve_right fun hrecent ↦
          hlater q (List.mem_append_left _ hrecent) x hx hxq
        obtain ⟨p, hp, hw⟩ := hground.1
        obtain ⟨front, back, rfl⟩ := List.append_of_mem hp
        exact ⟨before ++ front, p, back, by simp, hw, .inl (List.mem_append_left _ hbefore)⟩
    · rw [List.append_assoc]
      refine ih hground.2 (by simpa using hlater) ?_ (by simpa using h')
      simpa using h.2

/-- **A search chooses what is seen last.** -/
theorem chooses_of_depthFirst (h : DepthFirst id next active seen todo order back)
    (hactive : active = a :: rest) (hat : IsAt next a rest seen todo) :
    Chooses next (SeenLast next) seen order := by
  induction h generalizing a rest with
  | done => trivial
  | @wayBack active seen todo order back v hv _ ih =>
    subst hactive
    exact ih rfl (hat.pass (hat.active_seen v (by simpa using hv)))
  | @passOver active seen todo order back v _ hseen _ ih =>
    exact ih hactive (hat.pass (by simpa using hseen))
  | @enter active seen todo below order met back v hv hseen inner later ihinner ihrest =>
    subst hactive
    have hinner := hat.enter v
    obtain ⟨hnext, hbelow⟩ := inner.covered (by simpa using hinner.active_seen)
    simp only [id_eq, List.map_id, List.append_assoc, List.singleton_append] at hnext hbelow
    have hclosed : ∀ q ∈ v :: below, ∀ x ∈ next q, x ∈ seen ++ v :: below := by
      intro q hq
      rcases List.mem_cons.1 hq with rfl | hq
      · exact hnext
      · exact hbelow q hq
    have hnew : ∀ x ∈ order, x ∉ seen ++ v :: below := by
      intro x hx
      simpa using later.key_not_mem hx
    refine ⟨fun x hx _ ↦ hat.seenLast ?_, chooses_append
      (grounded_of_depthFirst inner fun w hw ↦ ⟨v, List.mem_singleton_self v, hw⟩)
      (fun p hp x hx hmem ↦ hnew x hx (hclosed p hp x hmem)) (ihinner rfl hinner) ?_⟩
    · rcases List.mem_append.1 hx with hx | hx
      · intro hmem
        exact inner.key_not_mem hx (by simp [hmem])
      · exact fun hmem ↦ hnew x hx (List.mem_append_left _ hmem)
    · simpa using ihrest rfl (hat.leave hclosed)

/-- **A search from a root covers what it leads to**, and chooses what is seen last. -/
theorem spec_of_depthFirst {root : κ} (h : DepthFirst id next [] [] [root] order back) :
    ∃ below, order = root :: below ∧ Covers next [root] below ∧
      Chooses next (SeenLast next) [root] below := by
  have hcovered := h.covered (by simp)
  have hnodup := h.nodup
  rw [List.map_id] at hnodup
  cases h with
  | wayBack hv => simp at hv
  | passOver _ hseen => simp at hseen
  | @enter _ _ _ below order met back _ hv hseen inner later =>
    cases later
    rw [List.append_nil] at hcovered hnodup ⊢
    have hat : IsAt next root [] [root] (next root) :=
      ⟨⟨[], [], rfl, by simp⟩, ⟨[], rfl, by simp⟩, by simp⟩
    refine ⟨below, rfl, ⟨(List.nodup_cons.1 hnodup).2, fun x hx hmem ↦ ?_, ?_,
      grounded_of_depthFirst inner fun w hw ↦ ⟨root, List.mem_singleton_self root, hw⟩⟩,
      chooses_of_depthFirst inner rfl hat⟩
    · exact (List.nodup_cons.1 hnodup).1 (List.mem_singleton.1 hmem ▸ hx)
    · simpa using hcovered.2

/-! ### Both orders -/

/-- **When a work list goes through a graph like a depth-first search**: exactly if the search keeps
to the rule of first sight. Both start at the root and have the same vertices; and they go through
them in the same order if no vertex is led to by two that the search enters before it. -/
theorem FirstSight.order_spec [DecidableEq κ] {root : κ} {search : List κ}
    (h : FirstSight next [root] [root] order)
    (hsearch : DepthFirst id next [] [] [root] search back) :
    order.head? = some root ∧ order.Perm search ∧
      Chooses next (SeenFirst next) [] order ∧ Chooses next (SeenLast next) [] search ∧
      (order = search ↔ Chooses next (SeenFirst next) [] search) ∧
      (RequiredOnce next [] search → order = search) := by
  obtain ⟨below, rfl, hcovers, hlast⟩ := spec_of_depthFirst hsearch
  cases h with
  | @take _ _ seen' _ order hseen rest =>
    rw [List.append_nil] at rest
    obtain ⟨hcovers', hfirst⟩ := rest.spec (isPending_start hseen)
    have hperm := hcovers'.perm hcovers
    -- nothing leads to the root before it is taken
    have hroot : ∀ {prefers : List κ → κ → κ → Prop} {later : List κ},
        Chooses next prefers [] (root :: later) ↔ Chooses next prefers [root] later := by
      intro prefers later
      exact ⟨And.right, fun h ↦ ⟨fun x _ ⟨p, hp, _⟩ ↦ absurd hp List.not_mem_nil, h⟩⟩
    have hiff : Chooses next (SeenFirst next) [root] below → order = below := fun h ↦
      eq_of_chooses hperm hcovers'.grounded hcovers.grounded hfirst h
    have hnodup : ([root] ++ below).Nodup :=
      List.nodup_cons.2 ⟨fun hmem ↦ hcovers.apart root hmem (by simp), hcovers.nodup⟩
    refine ⟨rfl, hperm.cons root, hroot.2 hfirst, hroot.2 hlast, ?_, fun honce ↦ ?_⟩
    · rw [List.cons_inj_right, hroot]
      exact ⟨fun heq ↦ heq ▸ hfirst, hiff⟩
    · rw [hiff (RequiredOnce.chooses honce.2 hlast hnodup)]

end LuaBundler.Walk
