import LuaBundler.Files.Contents
import LuaBundler.Proofs.Files.Names

/-!
# Where names lead

`Tree.walk` computes where names lead and stops at a number of links. `Tree.Leads` says the same as
a relation that counts the links it passes and knows no bound, so that runs can be put together
(`Leads.append`), taken apart (`Leads.split`), and carried over to a tree with more entries
(`Leads.mono`). What leads somewhere leads there only (`Leads.unique`).

The two agree: a walk that finds an entry is led there within its bound (`leads_of_walk`), and names
that lead somewhere are walked there, or the walk runs out of links (`walk_append_of_leads`,
`walk_append_of_lt`). What a walk does that comes to an end, found or vacant, is said step by step in
`Tree.Walks`, and what follows from how it ends is an induction over these steps.
-/

namespace LuaBundler.Files

open Text

namespace Tree

/-- A step that goes down: it is no dot, and the system takes it as a name. -/
def GoesDown (name : String) : Prop :=
  name ≠ "." ∧ name ≠ ".." ∧ byteLength name.toList ≤ maxName

/-- `t.Leads p xs c q`: from the place `p` the names `xs` lead to `q`, passing `c` links. -/
inductive Leads (t : Tree) : Place → List String → Nat → Place → Prop
  | done (p : Place) : Leads t p [] 0 p
  | dot {p q : Place} {xs : List String} {c : Nat} (hdir : t.get? p = some .dir)
      (h : Leads t p xs c q) : Leads t p ("." :: xs) c q
  | up {p q : Place} {xs : List String} {c : Nat} (hdir : t.get? p = some .dir)
      (h : Leads t p.dropLast xs c q) : Leads t p (".." :: xs) c q
  | down {p q : Place} {name : String} {xs : List String} {c : Nat} {node : Node}
      (hdir : t.get? p = some .dir) (hname : GoesDown name)
      (hnode : t.get? (p ++ [name]) = some node) (hlink : ∀ target, node ≠ .link target)
      (h : Leads t (p ++ [name]) xs c q) : Leads t p (name :: xs) c q
  | link {p q : Place} {name target : String} {xs : List String} {c : Nat}
      (hdir : t.get? p = some .dir) (hname : GoesDown name)
      (hnode : t.get? (p ++ [name]) = some (.link target))
      (h : Leads t (origin p target) (steps target ++ xs) c q) : Leads t p (name :: xs) (c + 1) q

/-- Every entry of one tree is an entry of the other. -/
def Grows (t t' : Tree) : Prop :=
  ∀ ⦃p : Place⦄ ⦃node : Node⦄, t.get? p = some node → t'.get? p = some node

theorem Grows.refl (t : Tree) : t.Grows t := fun _ _ h ↦ h

theorem Grows.trans {t t' t'' : Tree} (h : t.Grows t') (h' : t'.Grows t'') : t.Grows t'' :=
  fun _ _ hp ↦ h' (h hp)

/-- What is vacant in the end was vacant before. -/
theorem Grows.get?_eq_none {t t' : Tree} {p : Place} (h : t.Grows t') (hp : t'.get? p = none) :
    t.get? p = none :=
  Option.eq_none_iff_forall_ne_some.2 fun node hnode ↦ by simp [h hnode] at hp

variable {t t' : Tree} {p q r : Place} {xs ys zs : List String} {c d k : Nat} {follow : Bool}

/-! ### Runs -/

namespace Leads

/-- Names are walked from directories. -/
theorem dir_of_cons {x : String} (h : t.Leads p (x :: xs) c q) : t.get? p = some .dir := by
  cases h <;> assumption

/-- What the first of some names does: it stays, goes up, goes down, or is a link. -/
theorem cons_cases {x : String} (h : t.Leads p (x :: xs) c q) :
    (x = "." ∧ t.Leads p xs c q) ∨ (x = ".." ∧ t.Leads p.dropLast xs c q) ∨
    (GoesDown x ∧ (∃ node, t.get? (p ++ [x]) = some node ∧ ∀ target, node ≠ .link target) ∧
      t.Leads (p ++ [x]) xs c q) ∨
    (GoesDown x ∧ ∃ target c', t.get? (p ++ [x]) = some (.link target) ∧ c = c' + 1 ∧
      t.Leads (origin p target) (steps target ++ xs) c' q) := by
  cases h with
  | dot _ h => exact .inl ⟨rfl, h⟩
  | up _ h => exact .inr (.inl ⟨rfl, h⟩)
  | down _ hname hnode hlink h => exact .inr (.inr (.inl ⟨hname, ⟨_, hnode, hlink⟩, h⟩))
  | link _ hname hnode h => exact .inr (.inr (.inr ⟨hname, _, _, hnode, rfl, h⟩))

/-- A dot stays where it is. -/
theorem of_dot (h : t.Leads p ("." :: xs) c q) : t.Leads p xs c q := by
  rcases h.cons_cases with ⟨-, h⟩ | ⟨hx, -⟩ | ⟨hname, -⟩ | ⟨hname, -⟩
  · exact h
  · simp at hx
  · exact absurd rfl hname.1
  · exact absurd rfl hname.1

/-- Two dots go up. -/
theorem of_up (h : t.Leads p (".." :: xs) c q) : t.Leads p.dropLast xs c q := by
  rcases h.cons_cases with ⟨hx, -⟩ | ⟨-, h⟩ | ⟨hname, -⟩ | ⟨hname, -⟩
  · simp at hx
  · exact h
  · exact absurd rfl hname.2.1
  · exact absurd rfl hname.2.1

/-- Any other name goes down, or is a link. -/
theorem name_cases {x : String} (hdot : x ≠ ".") (hdots : x ≠ "..")
    (h : t.Leads p (x :: xs) c q) :
    (∃ node, t.get? (p ++ [x]) = some node ∧ (∀ target, node ≠ .link target) ∧
      t.Leads (p ++ [x]) xs c q) ∨
    ∃ target c', t.get? (p ++ [x]) = some (.link target) ∧ c = c' + 1 ∧
      t.Leads (origin p target) (steps target ++ xs) c' q := by
  rcases h.cons_cases with ⟨hx, -⟩ | ⟨hx, -⟩ | ⟨-, ⟨node, hnode, hlink⟩, h⟩ | ⟨-, hlink⟩
  · exact absurd hx hdot
  · exact absurd hx hdots
  · exact .inl ⟨node, hnode, hlink, h⟩
  · exact .inr hlink

theorem append (h : t.Leads p xs c q) (h' : t.Leads q ys d r) :
    t.Leads p (xs ++ ys) (c + d) r := by
  induction h with
  | done p => simpa using h'
  | dot hdir _ ih => exact .dot hdir (ih h')
  | up hdir _ ih => exact .up hdir (ih h')
  | down hdir hname hnode hlink _ ih => exact .down hdir hname hnode hlink (ih h')
  | link hdir hname hnode _ ih =>
    rw [Nat.add_right_comm]
    exact .link hdir hname hnode (by simpa using ih h')

theorem split (h : t.Leads p (xs ++ ys) c r) :
    ∃ q c₁ c₂, t.Leads p xs c₁ q ∧ t.Leads q ys c₂ r ∧ c₁ + c₂ = c := by
  -- the names of a link come in front of what is left of `xs`, so `xs` varies along the run
  generalize hzs : xs ++ ys = zs at h
  induction h generalizing xs with
  | done p =>
    obtain ⟨rfl, rfl⟩ := List.append_eq_nil_iff.1 hzs
    exact ⟨p, 0, 0, .done p, .done p, rfl⟩
  | dot hdir h ih =>
    rcases List.append_eq_cons_iff.1 hzs with ⟨rfl, rfl⟩ | ⟨xs', rfl, rfl⟩
    · exact ⟨_, 0, _, .done _, .dot hdir h, Nat.zero_add _⟩
    · obtain ⟨q, c₁, c₂, h₁, h₂, hc⟩ := ih rfl
      exact ⟨q, c₁, c₂, .dot hdir h₁, h₂, hc⟩
  | up hdir h ih =>
    rcases List.append_eq_cons_iff.1 hzs with ⟨rfl, rfl⟩ | ⟨xs', rfl, rfl⟩
    · exact ⟨_, 0, _, .done _, .up hdir h, Nat.zero_add _⟩
    · obtain ⟨q, c₁, c₂, h₁, h₂, hc⟩ := ih rfl
      exact ⟨q, c₁, c₂, .up hdir h₁, h₂, hc⟩
  | down hdir hname hnode hlink h ih =>
    rcases List.append_eq_cons_iff.1 hzs with ⟨rfl, rfl⟩ | ⟨xs', rfl, rfl⟩
    · exact ⟨_, 0, _, .done _, .down hdir hname hnode hlink h, Nat.zero_add _⟩
    · obtain ⟨q, c₁, c₂, h₁, h₂, hc⟩ := ih rfl
      exact ⟨q, c₁, c₂, .down hdir hname hnode hlink h₁, h₂, hc⟩
  | link hdir hname hnode h ih =>
    rcases List.append_eq_cons_iff.1 hzs with ⟨rfl, rfl⟩ | ⟨xs', rfl, rfl⟩
    · exact ⟨_, 0, _, .done _, .link hdir hname hnode h, Nat.zero_add _⟩
    · obtain ⟨q, c₁, c₂, h₁, h₂, hc⟩ := ih (List.append_assoc ..)
      exact ⟨q, c₁ + 1, c₂, .link hdir hname hnode h₁, h₂, by omega⟩

/-- **What leads somewhere leads there only**, and passes the same links. -/
theorem unique (h : t.Leads p xs c q) (h' : t.Leads p xs d r) : c = d ∧ q = r := by
  induction h generalizing d with
  | done p =>
    cases h'
    exact ⟨rfl, rfl⟩
  | dot _ _ ih => exact ih h'.of_dot
  | up _ _ ih => exact ih h'.of_up
  | down _ hname hnode hlink _ ih =>
    rcases h'.name_cases hname.1 hname.2.1 with ⟨-, -, -, h'⟩ | ⟨target, -, hnode', -⟩
    · exact ih h'
    · rw [hnode, Option.some.injEq] at hnode'
      exact absurd hnode' (hlink target)
  | link _ hname hnode _ ih =>
    rcases h'.name_cases hname.1 hname.2.1 with ⟨node, hnode', hlink, -⟩ |
      ⟨target, c', hnode', rfl, h'⟩
    · rw [hnode, Option.some.injEq] at hnode'
      exact absurd hnode'.symm (hlink _)
    · rw [hnode, Option.some.injEq, Node.link.injEq] at hnode'
      subst hnode'
      obtain ⟨rfl, rfl⟩ := ih h'
      exact ⟨rfl, rfl⟩

/-- More entries lead at least as far. -/
theorem mono (hgrows : t.Grows t') (h : t.Leads p xs c q) : t'.Leads p xs c q := by
  induction h with
  | done p => exact .done p
  | dot hdir _ ih => exact .dot (hgrows hdir) ih
  | up hdir _ ih => exact .up (hgrows hdir) ih
  | down hdir hname hnode hlink _ ih => exact .down (hgrows hdir) hname (hgrows hnode) hlink ih
  | link hdir hname hnode _ ih => exact .link (hgrows hdir) hname (hgrows hnode) ih

/-- What is led somewhere along a run and on from there is led on from its end. -/
theorem of_append (h : t.Leads p xs c q) (h' : t.Leads p (xs ++ ys) d r) :
    ∃ e, t.Leads q ys e r ∧ c + e = d := by
  obtain ⟨q', c₁, c₂, h₁, h₂, hd⟩ := h'.split
  obtain ⟨rfl, rfl⟩ := h.unique h₁
  exact ⟨c₂, h₂, hd⟩

/-! ### Dots -/

/-- Dots can be left out. -/
theorem bare (h : t.Leads p xs c q) : t.Leads p (bare xs) c q := by
  induction xs generalizing p c with
  | nil => exact h
  | cons x xs ih =>
    rw [← List.singleton_append] at h
    obtain ⟨r, c₁, c₂, h₁, h₂, rfl⟩ := h.split
    rw [bare_cons]
    split
    · subst x
      cases h₁.of_dot
      simpa using ih h₂
    · exact h₁.append (ih h₂)

/-- Dots can be put in before a name. -/
theorem of_bare_append (hys : ys ≠ []) (h : t.Leads p (Files.bare xs ++ ys) c q) :
    t.Leads p (xs ++ ys) c q := by
  induction xs generalizing p c with
  | nil => exact h
  | cons x xs ih =>
    rw [bare_cons] at h
    split at h
    · subst x
      have hdir : t.get? p = some .dir := by
        obtain ⟨z, zs, hz⟩ := List.exists_cons_of_ne_nil
          (List.append_ne_nil_of_right_ne_nil (Files.bare xs) hys)
        rw [hz] at h
        exact h.dir_of_cons
      exact .dot hdir (ih h)
    · rw [List.cons_append, ← List.singleton_append] at h
      obtain ⟨r, c₁, c₂, h₁, h₂, rfl⟩ := h.split
      exact h₁.append (ih h₂)

end Leads

/-- Before more names, names that differ by dots alone lead to the same place. -/
theorem leads_append_congr (hbare : bare xs = bare ys) (hzs : bare zs = zs) (hne : zs ≠ []) :
    t.Leads p (xs ++ zs) c q ↔ t.Leads p (ys ++ zs) c q := by
  have key : ∀ {xs ys : List String}, bare xs = bare ys → t.Leads p (xs ++ zs) c q →
      t.Leads p (ys ++ zs) c q := by
    intro xs ys hxy h
    have hbare := h.bare
    rw [bare_append, hxy, hzs] at hbare
    exact hbare.of_bare_append hne
  exact ⟨key hbare, key hbare.symm⟩

/-! ### Walks -/

/-- What a walk does at a link: it goes on with one link less, or there is none left. -/
theorem walk_eq_walkWith (t : Tree) (follow : Bool) (k : Nat) :
    t.walk follow k = t.walkWith follow fun p xs ↦
      match k with
      | 0 => .error .tooManyLinks
      | k + 1 => t.walk follow k p xs := by
  cases k <;> rfl

theorem walk_dot (hdir : t.get? p = some .dir) :
    t.walk follow k p ("." :: xs) = t.walk follow k p xs := by
  rw [walk_eq_walkWith, walkWith]
  simp [hdir]

theorem walk_up (hdir : t.get? p = some .dir) :
    t.walk follow k p (".." :: xs) = t.walk follow k p.dropLast xs := by
  rw [walk_eq_walkWith, walkWith]
  simp [hdir]

theorem walk_down {name : String} {node : Node} (hdir : t.get? p = some .dir)
    (hname : GoesDown name) (hnode : t.get? (p ++ [name]) = some node)
    (hlink : ∀ target, node ≠ .link target) :
    t.walk follow k p (name :: xs) = t.walk follow k (p ++ [name]) xs := by
  obtain ⟨h1, h2, h3⟩ := hname
  rw [walk_eq_walkWith, walkWith]
  cases node <;> simp_all [Nat.not_lt.2 h3]

theorem walk_link {name target : String} (hdir : t.get? p = some .dir)
    (hname : GoesDown name) (hnode : t.get? (p ++ [name]) = some (.link target))
    (hfollow : follow = true ∨ xs ≠ []) :
    t.walk follow k p (name :: xs) =
      match k with
      | 0 => .error .tooManyLinks
      | k + 1 => t.walk follow k (origin p target) (steps target ++ xs) := by
  obtain ⟨h1, h2, h3⟩ := hname
  rw [walk_eq_walkWith, walkWith]
  have hnot : ¬(xs = [] ∧ follow = false) := by
    rintro ⟨rfl, rfl⟩
    simp at hfollow
  simp [hdir, h1, h2, Nat.not_lt.2 h3, hnode, hnot]

/-- **A walk follows what leads somewhere**, and goes on from there with the links that are left. -/
theorem walk_append_of_leads (h : t.Leads p xs c q) (hfollow : follow = true ∨ ys ≠ []) :
    t.walk follow (c + k) p (xs ++ ys) = t.walk follow k q ys := by
  induction h with
  | done p => simp
  | dot hdir _ ih => rw [List.cons_append, walk_dot hdir, ih]
  | up hdir _ ih => rw [List.cons_append, walk_up hdir, ih]
  | down hdir hname hnode hlink _ ih =>
    rw [List.cons_append, walk_down hdir hname hnode hlink, ih]
  | link hdir hname hnode _ ih =>
    rw [List.cons_append, walk_link hdir hname hnode (hfollow.imp_right (by simp_all)),
      Nat.add_right_comm]
    simpa using ih

/-- A walk with fewer links than lead somewhere runs out of them. -/
theorem walk_append_of_lt (h : t.Leads p xs c q) (hk : k < c)
    (hfollow : follow = true ∨ ys ≠ []) :
    t.walk follow k p (xs ++ ys) = .error .tooManyLinks := by
  induction h generalizing k with
  | done p => simp at hk
  | dot hdir _ ih => rw [List.cons_append, walk_dot hdir, ih hk]
  | up hdir _ ih => rw [List.cons_append, walk_up hdir, ih hk]
  | down hdir hname hnode hlink _ ih =>
    rw [List.cons_append, walk_down hdir hname hnode hlink, ih hk]
  | link hdir hname hnode _ ih =>
    rw [List.cons_append, walk_link hdir hname hnode (hfollow.imp_right (by simp_all))]
    cases k with
    | zero => rfl
    | succ k => simpa using ih (Nat.lt_of_succ_lt_succ hk)

/-- `t.Walks follow k p xs spot`: from the place `p` a walk along the names `xs` that may pass `k`
links ends at `spot`. -/
inductive Walks (t : Tree) (follow : Bool) : Nat → Place → List String → Spot → Prop
  | found {k : Nat} {p : Place} {node : Node} (hnode : t.get? p = some node) :
      Walks t follow k p [] (.found p node)
  | dot {k : Nat} {p : Place} {xs : List String} {spot : Spot} (hdir : t.get? p = some .dir)
      (h : Walks t follow k p xs spot) : Walks t follow k p ("." :: xs) spot
  | up {k : Nat} {p : Place} {xs : List String} {spot : Spot} (hdir : t.get? p = some .dir)
      (h : Walks t follow k p.dropLast xs spot) : Walks t follow k p (".." :: xs) spot
  | down {k : Nat} {p : Place} {name : String} {xs : List String} {node : Node} {spot : Spot}
      (hdir : t.get? p = some .dir) (hname : GoesDown name)
      (hnode : t.get? (p ++ [name]) = some node) (hlink : ∀ target, node ≠ .link target)
      (h : Walks t follow k (p ++ [name]) xs spot) : Walks t follow k p (name :: xs) spot
  | link {k : Nat} {p : Place} {name target : String} {xs : List String} {spot : Spot}
      (hdir : t.get? p = some .dir) (hname : GoesDown name)
      (hnode : t.get? (p ++ [name]) = some (.link target)) (hfollow : follow = true ∨ xs ≠ [])
      (h : Walks t follow k (origin p target) (steps target ++ xs) spot) :
      Walks t follow (k + 1) p (name :: xs) spot
  /-- The last name is a link, and is not followed. -/
  | last {k : Nat} {p : Place} {name target : String} (hdir : t.get? p = some .dir)
      (hname : GoesDown name) (hnode : t.get? (p ++ [name]) = some (.link target))
      (hfollow : follow = false) : Walks t follow k p [name] (.found (p ++ [name]) (.link target))
  | vacant {k : Nat} {p : Place} {name : String} (hdir : t.get? p = some .dir)
      (hname : GoesDown name) (hnone : t.get? (p ++ [name]) = none) :
      Walks t follow k p [name] (.vacant p name)

theorem walks_of_walkWith {pass : Place → List String → Except FileError Spot} {spot : Spot}
    (hpass : ∀ start names, pass start names = .ok spot →
      ∃ j, j + 1 = k ∧ t.Walks follow j start names spot)
    (h : t.walkWith follow pass p xs = .ok spot) : t.Walks follow k p xs spot := by
  -- one constructor of `Walks` for each way in which a walk goes on or ends
  fun_induction walkWith t follow pass p xs
  case case1 here node hhere =>
    obtain rfl := Except.ok.inj h
    exact .found hhere
  case case4 here rest hdir ih => exact .dot (by simpa using hdir) (ih h)
  case case5 here rest hdir _ ih => exact .up (by simpa using hdir) (ih h)
  case case7 here name hdir hdot hdots hlen hnone =>
    obtain rfl := Except.ok.inj h
    exact .vacant (by simpa using hdir) ⟨hdot, hdots, Nat.not_lt.1 hlen⟩ hnone
  case case9 here name hdir hdot hdots hlen target hnode hend =>
    obtain ⟨rfl, hfollow⟩ := hend
    obtain rfl := Except.ok.inj h
    exact .last (by simpa using hdir) ⟨hdot, hdots, Nat.not_lt.1 hlen⟩ hnode hfollow
  case case10 here name rest hdir hdot hdots hlen target hnode hgo =>
    obtain ⟨j, rfl, hrest⟩ := hpass _ _ h
    exact .link (by simpa using hdir) ⟨hdot, hdots, Nat.not_lt.1 hlen⟩ hnode
      (by cases follow <;> simp_all) hrest
  case case11 here name rest hdir hdot hdots hlen node hlink hnode ih =>
    exact .down (by simpa using hdir) ⟨hdot, hdots, Nat.not_lt.1 hlen⟩ hnode
      (fun target ht ↦ hlink target ht) (ih h)
  all_goals simp at h

/-- **A walk that comes to an end** goes there step by step. -/
theorem walks_of_walk {spot : Spot} (h : t.walk follow k p xs = .ok spot) :
    t.Walks follow k p xs spot := by
  induction k generalizing p xs with
  | zero => exact walks_of_walkWith (by simp) h
  | succ k ih => exact walks_of_walkWith (fun start names hpass ↦ ⟨k, rfl, ih hpass⟩) h

/-- **A walk that finds an entry is led there**, by no more links than it may pass. -/
theorem leads_of_walk {node : Node} (h : t.walk true k p xs = .ok (.found q node)) :
    ∃ c ≤ k, t.Leads p xs c q := by
  have hwalks := walks_of_walk h
  clear h
  generalize hspot : Spot.found q node = spot at hwalks
  induction hwalks with
  | found =>
    obtain ⟨rfl, -⟩ := Spot.found.inj hspot
    exact ⟨0, Nat.zero_le _, .done _⟩
  | dot hdir _ ih =>
    obtain ⟨c, hc, hleads⟩ := ih hspot
    exact ⟨c, hc, .dot hdir hleads⟩
  | up hdir _ ih =>
    obtain ⟨c, hc, hleads⟩ := ih hspot
    exact ⟨c, hc, .up hdir hleads⟩
  | down hdir hname hnode hlink _ ih =>
    obtain ⟨c, hc, hleads⟩ := ih hspot
    exact ⟨c, hc, .down hdir hname hnode hlink hleads⟩
  | link hdir hname hnode _ _ ih =>
    obtain ⟨c, hc, hleads⟩ := ih hspot
    exact ⟨c + 1, Nat.succ_le_succ hc, .link hdir hname hnode hleads⟩
  | last _ _ _ hfollow => simp at hfollow
  | vacant => simp at hspot

end Tree

end LuaBundler.Files
