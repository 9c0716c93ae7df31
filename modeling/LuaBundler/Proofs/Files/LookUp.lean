import LuaBundler.Proofs.Files.WellFormed

/-!
# Looking up the last name of a path

A walk goes along the names of a path up to the last one, through directories and links
(`Tree.Walks.split`), and looks that one up in the directory it has come to (`Machine.LooksUp`).
Whether links are followed matters only if the last name is one (`LooksUp.locate_false`,
`LooksUp.locate_of_not_link`).

Which entries there are besides directories and links does not matter on the way: a tree that keeps
those of another (`Tree.KeepsWays`) has its ways.
-/

namespace LuaBundler.Files

open Text

namespace Tree

variable {t t' : Tree} {p q : Place} {xs ys zs : List String} {c k : Nat} {follow : Bool}
  {spot : Spot} {x : String}

/-- Every directory and every link of one tree is one of the other. -/
structure KeepsWays (t t' : Tree) : Prop where
  dir : ∀ p, t.get? p = some .dir → t'.get? p = some .dir
  link : ∀ p target, t.get? p = some (.link target) → t'.get? p = some (.link target)

theorem Grows.keepsWays (h : t.Grows t') : t.KeepsWays t' :=
  ⟨fun _ hp ↦ h hp, fun _ _ hp ↦ h hp⟩

/-- What leads somewhere leads there also if only directories and links are kept and what it leads
to. -/
theorem Leads.of_keepsWays_of_isLive (hways : t.KeepsWays t') (hlive : t'.IsLive q)
    (h : t.Leads p xs c q) : t'.Leads p xs c q := by
  induction h with
  | done p => exact .done p
  | dot hp _ ih => exact .dot (hways.dir _ hp) (ih hlive)
  | up hp _ ih => exact .up (hways.dir _ hp) (ih hlive)
  | @down p q name xs c node hp hname hnode hlink h ih =>
    -- an entry that is passed is a directory: it is the end, or a name is looked up in it
    obtain ⟨node', hnode', hlink'⟩ : t'.IsLive (p ++ [name]) := by
      cases h with
      | done => exact hlive
      | _ => exact isLive_of_dir (hways.dir _ ‹_›)
    exact .down (hways.dir _ hp) hname hnode' hlink' (ih hlive)
  | link hp hname hnode _ ih =>
    exact .link (hways.dir _ hp) hname (hways.link _ _ hnode) (ih hlive)

/-- **What leads to a directory** leads there also if only directories and links are kept. -/
theorem Leads.of_keepsWays (hways : t.KeepsWays t') (hdir : t.get? q = some .dir)
    (h : t.Leads p xs c q) : t'.Leads p xs c q :=
  h.of_keepsWays_of_isLive hways (isLive_of_dir (hways.dir _ hdir))

namespace Walks

/-- **A walk is led along the first names**, and goes on from there with the links that are left. -/
theorem split (hzs : zs ≠ []) (h : t.Walks follow k p (ys ++ zs) spot) :
    ∃ c d, c ≤ k ∧ t.Leads p ys c d ∧ t.Walks follow (k - c) d zs spot := by
  -- the names of a link come in front of what is left of `ys`, so `ys` varies along the walk
  generalize hxs : ys ++ zs = xs at h
  induction h generalizing ys with
  | found hnode => exact absurd (List.append_eq_nil_iff.1 hxs).2 hzs
  | dot hdir h ih =>
    rcases List.append_eq_cons_iff.1 hxs with ⟨rfl, rfl⟩ | ⟨ys, rfl, rfl⟩
    · exact ⟨0, _, Nat.zero_le _, .done _, .dot hdir h⟩
    · obtain ⟨c, d, hc, hleads, hwalks⟩ := ih rfl
      exact ⟨c, d, hc, .dot hdir hleads, hwalks⟩
  | up hdir h ih =>
    rcases List.append_eq_cons_iff.1 hxs with ⟨rfl, rfl⟩ | ⟨ys, rfl, rfl⟩
    · exact ⟨0, _, Nat.zero_le _, .done _, .up hdir h⟩
    · obtain ⟨c, d, hc, hleads, hwalks⟩ := ih rfl
      exact ⟨c, d, hc, .up hdir hleads, hwalks⟩
  | down hdir hname hnode hlink h ih =>
    rcases List.append_eq_cons_iff.1 hxs with ⟨rfl, rfl⟩ | ⟨ys, rfl, rfl⟩
    · exact ⟨0, _, Nat.zero_le _, .done _, .down hdir hname hnode hlink h⟩
    · obtain ⟨c, d, hc, hleads, hwalks⟩ := ih rfl
      exact ⟨c, d, hc, .down hdir hname hnode hlink hleads, hwalks⟩
  | link hdir hname hnode hfollow h ih =>
    rcases List.append_eq_cons_iff.1 hxs with ⟨rfl, rfl⟩ | ⟨ys, rfl, rfl⟩
    · exact ⟨0, _, Nat.zero_le _, .done _, .link hdir hname hnode hfollow h⟩
    · obtain ⟨c, d, hc, hleads, hwalks⟩ := ih (List.append_assoc ..)
      refine ⟨c + 1, d, Nat.succ_le_succ hc, .link hdir hname hnode hleads, ?_⟩
      rwa [Nat.add_sub_add_right]
  | last hdir hname hnode hfollow =>
    rcases List.append_eq_cons_iff.1 hxs with ⟨rfl, rfl⟩ | ⟨ys, rfl, hnil⟩
    · exact ⟨0, _, Nat.zero_le _, .done _, .last hdir hname hnode hfollow⟩
    · exact absurd (List.append_eq_nil_iff.1 hnil.symm).2 hzs
  | vacant hdir hname hnone =>
    rcases List.append_eq_cons_iff.1 hxs with ⟨rfl, rfl⟩ | ⟨ys, rfl, hnil⟩
    · exact ⟨0, _, Nat.zero_le _, .done _, .vacant hdir hname hnone⟩
    · exact absurd (List.append_eq_nil_iff.1 hnil.symm).2 hzs

/-- Names are walked from directories. -/
theorem dir_of_cons (h : t.Walks follow k p (x :: xs) spot) : t.get? p = some .dir := by
  cases h <;> assumption

/-- A name that is no dot goes down. -/
theorem goesDown_of_cons (hdot : x ≠ ".") (hdots : x ≠ "..")
    (h : t.Walks follow k p (x :: xs) spot) : GoesDown x := by
  cases h with
  | dot => exact absurd rfl hdot
  | up => exact absurd rfl hdots
  | down _ hname => exact hname
  | link _ hname => exact hname
  | last _ hname => exact hname
  | vacant _ hname => exact hname

/-- One name is vacant, or a link to what is. -/
theorem of_singleton {e : Place} {y : String} (h : t.Walks follow k p [x] (.vacant e y)) :
    t.get? p = some .dir ∧ GoesDown x ∧ ((t.get? (p ++ [x]) = none ∧ p = e ∧ x = y) ∨
      (follow = true ∧ ∃ target, t.get? (p ++ [x]) = some (.link target))) := by
  cases h with
  | dot _ h => cases h
  | up _ h => cases h
  | down _ _ _ _ h => cases h
  | link hdir hname hnode hfollow _ =>
    exact ⟨hdir, hname, .inr ⟨hfollow.resolve_right (by simp), _, hnode⟩⟩
  | vacant hdir hname hnone => exact ⟨hdir, hname, .inl ⟨hnone, rfl, rfl⟩⟩

end Walks

end Tree

namespace Machine

variable {m m' : Machine} {p : Path} {d : Place} {x : String} {node : Node}

/-- The names of a path up to the last one lead to the directory `d`, and the last one is `x`. -/
structure LooksUp (m : Machine) (p : Path) (d : Place) (x : String) : Prop where
  ne_empty : p.text ≠ ""
  no_nul : '\x00' ∉ p.text.toList
  length_le : byteLength p.text.toList ≤ maxPath
  goesDown : Tree.GoesDown x
  dir : m.tree.get? d = some .dir
  leads : ∃ ys c, steps p.text = ys ++ [x] ∧ c ≤ maxLinks ∧
    m.tree.Leads (origin m.cwd p.text) ys c d

/-- The way to the last name is one of directories and links. -/
theorem LooksUp.keepsWays (h : m.LooksUp p d x) (hcwd : m'.cwd = m.cwd)
    (hways : m.tree.KeepsWays m'.tree) : m'.LooksUp p d x := by
  obtain ⟨ys, c, hsteps, hc, hleads⟩ := h.leads
  refine ⟨h.ne_empty, h.no_nul, h.length_le, h.goesDown, hways.dir _ h.dir, ys, c, hsteps, hc, ?_⟩
  rw [hcwd]
  exact hleads.of_keepsWays hways h.dir

theorem LooksUp.lastStep (h : m.LooksUp p d x) (hself : unslashed p = p) :
    lastStep p = some x := by
  obtain ⟨ys, c, hsteps, -⟩ := h.leads
  rw [Machine.lastStep, hself, hsteps, List.getLast?_concat]

theorem LooksUp.locate (h : m.LooksUp p d x) (follow : Bool) :
    ∃ k, m.locate follow p = m.tree.walk follow k d [x] := by
  obtain ⟨ys, c, hsteps, hc, hleads⟩ := h.leads
  refine ⟨maxLinks - c, ?_⟩
  simp only [Machine.locate, Tree.locate, h.ne_empty, h.no_nul, Nat.not_lt.2 h.length_le, if_false,
    hsteps]
  -- the links on the way there count against what may be passed in all
  rw [← Tree.walk_append_of_leads hleads (.inr (List.cons_ne_nil x [])), Nat.add_sub_cancel' hc]

/-- **What is looked up** is what the directory has of that name. -/
theorem LooksUp.locate_false (h : m.LooksUp p d x) : m.locate false p =
    match m.tree.get? (d ++ [x]) with
    | some node => .ok (.found (d ++ [x]) node)
    | none => .ok (.vacant d x) := by
  obtain ⟨k, hk⟩ := h.locate false
  obtain ⟨hdot, hdots, hlen⟩ := h.goesDown
  rw [hk, Tree.walk_eq_walkWith, Tree.walkWith]
  cases hnode : m.tree.get? (d ++ [x]) with
  | none => simp [h.dir, hdot, hdots, Nat.not_lt.2 hlen]
  | some node =>
    cases node <;> simp [h.dir, hdot, hdots, Nat.not_lt.2 hlen, Tree.walkWith, hnode]

/-- If the last name is no link, following links makes no difference. -/
theorem LooksUp.locate_of_not_link (h : m.LooksUp p d x)
    (hnode : m.tree.get? (d ++ [x]) = some node) (hlink : ∀ target, node ≠ .link target)
    (follow : Bool) : m.locate follow p = .ok (.found (d ++ [x]) node) := by
  obtain ⟨k, hk⟩ := h.locate follow
  rw [hk, Tree.walk_down h.dir h.goesDown hnode hlink, Tree.walk_eq_walkWith, Tree.walkWith, hnode]

/-- **A path that leads to a vacant name** has it as its last name, or a link there that leads on
to it. -/
theorem looksUp_of_locate {follow : Bool} {e : Place} {y : String}
    (h : m.locate follow p = .ok (.vacant e y)) :
    ∃ d x, m.LooksUp p d x ∧ ((m.tree.get? (d ++ [x]) = none ∧ d = e ∧ x = y) ∨
      (follow = true ∧ ∃ target, m.tree.get? (d ++ [x]) = some (.link target))) := by
  obtain ⟨hne, hnul, hlen, hwalk⟩ := locate_eq_ok_iff.1 h
  rcases List.eq_nil_or_concat (steps p.text) with hnil | ⟨ys, x, hsteps⟩
  · rw [hnil] at hwalk
    cases Tree.walks_of_walk hwalk
  · rw [List.concat_eq_append] at hsteps
    rw [hsteps] at hwalk
    obtain ⟨c, d, hc, hleads, hlast⟩ := (Tree.walks_of_walk hwalk).split (List.cons_ne_nil x [])
    obtain ⟨hdir, hname, hspot⟩ := hlast.of_singleton
    exact ⟨d, x, ⟨hne, hnul, hlen, hname, hdir, ys, c, hsteps, hc, hleads⟩, hspot⟩

/-- A path that is located without following links looks up its last name, if that is no dot. -/
theorem exists_looksUp_of_lastStep {spot : Spot} (hself : unslashed p = p)
    (hlast : lastStep p = some x) (hdot : x ≠ ".") (hdots : x ≠ "..")
    (h : m.locate false p = .ok spot) : ∃ d, m.LooksUp p d x := by
  rw [lastStep, hself] at hlast
  obtain ⟨ys, hsteps⟩ := List.getLast?_eq_some_iff.1 hlast
  obtain ⟨hne, hnul, hlen, hwalk⟩ := locate_eq_ok_iff.1 h
  rw [hsteps] at hwalk
  obtain ⟨c, d, hc, hleads, hend⟩ := (Tree.walks_of_walk hwalk).split (List.cons_ne_nil x [])
  exact ⟨d, hne, hnul, hlen, hend.goesDown_of_cons hdot hdots, hend.dir_of_cons, ys, c, hsteps, hc,
    hleads⟩

end Machine

end LuaBundler.Files
