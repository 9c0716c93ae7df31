import Mathlib.Data.List.Forall2

/-!
# Outcomes

What it takes for a computation that may fail to succeed, or to fail, when it is made from others.
-/

namespace Except

variable {ε α β : Type}

theorem map_eq_ok_iff {x : Except ε α} {f : α → β} {b : β} :
    x.map f = .ok b ↔ ∃ a, x = .ok a ∧ f a = b := by
  cases x <;> simp [Except.map]

theorem map_eq_error_iff {x : Except ε α} {f : α → β} {e : ε} :
    x.map f = .error e ↔ x = .error e := by
  cases x <;> simp [Except.map]

theorem bind_eq_ok_iff {x : Except ε α} {f : α → Except ε β} {b : β} :
    (x >>= f) = .ok b ↔ ∃ a, x = .ok a ∧ f a = .ok b := by
  cases x <;> simp [bind, Except.bind]

theorem bind_eq_error_iff {x : Except ε α} {f : α → Except ε β} {e : ε} :
    (x >>= f) = .error e ↔ x = .error e ∨ ∃ a, x = .ok a ∧ f a = .error e := by
  cases x <;> simp [bind, Except.bind]

/-- A computation that comes to something in the end succeeds. -/
theorem exists_of_toOption_map {x : Except ε α} {f : α → β} {b : β}
    (h : x.toOption.map f = some b) : ∃ a, x = .ok a ∧ f a = b := by
  cases x with
  | error e => simp [Except.toOption] at h
  | ok a => exact ⟨a, rfl, Option.some.inj h⟩

/-- The same of a run, with what holds of the state that it leaves. -/
theorem exists_of_run {σ : Type} {r : Except ε α × σ} {f : α → β} {b : β} {P : σ → Prop}
    (h : r.1.toOption.map f = some b) (hP : P r.2) : ∃ a s, r = (.ok a, s) ∧ f a = b ∧ P s := by
  obtain ⟨a, ha, hb⟩ := exists_of_toOption_map h
  exact ⟨a, r.2, Prod.ext ha rfl, hb, hP⟩

/-- Each item of a list that is mapped with success has its own result. -/
theorem forall₂_of_mapM {f : α → Except ε β} {xs : List α} {ys : List β}
    (h : xs.mapM f = .ok ys) : List.Forall₂ (fun x y ↦ f x = .ok y) xs ys := by
  induction xs generalizing ys with
  | nil =>
    obtain rfl : [] = ys := by simpa [pure, Except.pure] using h
    exact .nil
  | cons x xs ih =>
    rw [List.mapM_cons, bind_eq_ok_iff] at h
    obtain ⟨y, hy, h⟩ := h
    obtain ⟨ys', hys, h⟩ := bind_eq_ok_iff.1 h
    obtain rfl : y :: ys' = ys := by simpa [pure, Except.pure] using h
    exact .cons hy (ih hys)

/-- If a list is mapped with success, the results of its items are there. -/
theorem exists_of_mapM {f : α → Except ε β} {xs : List α} {ys : List β} {x : α}
    (h : xs.mapM f = .ok ys) (hx : x ∈ xs) : ∃ y ∈ ys, f x = .ok y := by
  obtain ⟨i, hi, rfl⟩ := List.mem_iff_getElem.1 hx
  have hall := forall₂_of_mapM h
  have hlen := hall.length_eq
  exact ⟨_, List.getElem_mem (hlen ▸ hi), hall.get hi (hlen ▸ hi)⟩

end Except
