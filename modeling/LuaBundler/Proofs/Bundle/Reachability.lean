import LuaBundler.Bundle.Collect
import LuaBundler.Proofs.Graph.Reachability

/-!
# What a bundle is made of

A bundle registers each name that the entry file leads to (`Bundle.Reaches`) once, the entry first,
and nothing else (`registers_collect`). If a name cannot be found, then a file that the entry leads to
requires it (`collect_notFound`).

What the work list adds up to (`Collected`) is proved from its end: the modules registered for a
work list are those of its items and of names not seen yet, and what they require is seen or
registered.
-/

namespace LuaBundler

open Text Files Source

namespace Bundle

/-- The names that an entry file leads to, each with its file. -/
inductive Reaches (m : Machine) (locate : String → Option Path) (entry : Path) :
    String → Path → Prop
  | entry : Reaches m locate entry rootName entry
  | require {name required : String} {p f : Path} {bytes : Bytes} (h : Reaches m locate entry name p)
      (hread : m.read p = .ok bytes) (hname : required ∈ requiresOf bytes)
      (hne : required ≠ rootName) (hlocate : locate required = some f) :
      Reaches m locate entry required f

variable {m : Machine} {locate : String → Option Path} {entry dir p q : Path}
  {name display searched : String} {templates seen seen' : List String}

/-- Every name but that of the entry has the file that it is located at. -/
theorem Reaches.eq_or_locate (h : Reaches m locate entry name p) :
    (name = rootName ∧ p = entry) ∨ (name ≠ rootName ∧ locate name = some p) := by
  cases h with
  | entry => exact .inl ⟨rfl, rfl⟩
  | require _ _ _ hne hlocate => exact .inr ⟨hne, hlocate⟩

theorem Reaches.unique (h : Reaches m locate entry name p) (h' : Reaches m locate entry name q) :
    p = q := by
  rcases h.eq_or_locate with ⟨hname, rfl⟩ | ⟨hname, hp⟩ <;>
    rcases h'.eq_or_locate with ⟨hname', rfl⟩ | ⟨hname', hq⟩
  · rfl
  · exact absurd hname hname'
  · exact absurd hname' hname
  · rwa [hp, Option.some.injEq] at hq

/-! ### One module -/

/-- What locating new names gives. -/
structure Located (locate : String → Option Path) (seen : List String) (references : List Reference)
    (found : List Pending) (seen' : List String) : Prop where
  nodup : (found.map (·.name)).Nodup
  mem_seen : ∀ name, name ∈ seen' ↔ name ∈ seen ∨ name ∈ found.map (·.name)
  fresh : ∀ p ∈ found, p.name ∉ seen
  located : ∀ p ∈ found, p.name ∈ references.map (·.name) ∧ locate p.name = some p.path
  references : ∀ ref ∈ references, ref.name ∈ seen'
  /-- New modules are called by their names in diagnostics. -/
  display : ∀ p ∈ found, p.display = p.name

theorem located_of_locateNew {references : List Reference} {found : List Pending}
    (h : locateNew locate display searched seen references = .ok (found, seen')) :
    Located locate seen references found seen' := by
  induction references generalizing seen found with
  | nil =>
    simp only [locateNew, Except.ok.injEq, Prod.mk.injEq] at h
    obtain ⟨rfl, rfl⟩ := h
    exact ⟨by simp, by simp, by simp, by simp, by simp, by simp⟩
  | cons ref rest ih =>
    rcases locateNew_cons_ok h with ⟨hseen, hrest⟩ | ⟨hseen, path, others, hlocate, hrest, rfl⟩
    · obtain ⟨h1, h2, h3, h4, h5, h6⟩ := ih hrest
      refine ⟨h1, h2, h3, fun p hp ↦ (h4 p hp).imp_left (List.mem_cons_of_mem _), fun r hr ↦ ?_, h6⟩
      rcases List.mem_cons.1 hr with rfl | hr
      · exact (h2 _).2 (.inl hseen)
      · exact h5 r hr
    · obtain ⟨h1, h2, h3, h4, h5, h6⟩ := ih hrest
      have hnew : ∀ p ∈ others, p.name ≠ ref.name ∧ p.name ∉ seen := by simpa using h3
      refine ⟨?_, fun name ↦ ?_, fun p hp ↦ ?_, fun p hp ↦ ?_, fun r hr ↦ ?_, fun p hp ↦ ?_⟩
      · rw [List.map_cons, List.nodup_cons]
        refine ⟨fun hmem ↦ ?_, h1⟩
        obtain ⟨p, hp, heq⟩ := List.mem_map.1 hmem
        exact (hnew p hp).1 heq
      · rw [h2, List.mem_cons, List.map_cons, List.mem_cons, or_assoc, or_left_comm]
      · rcases List.mem_cons.1 hp with rfl | hp
        · exact hseen
        · exact (hnew p hp).2
      · rcases List.mem_cons.1 hp with rfl | hp
        · exact ⟨List.mem_cons_self .., hlocate⟩
        · exact (h4 p hp).imp_left (List.mem_cons_of_mem _)
      · rcases List.mem_cons.1 hr with rfl | hr
        · exact (h2 _).2 (.inl (List.mem_cons_self ..))
        · exact h5 r hr
      · rcases List.mem_cons.1 hp with rfl | hp
        · rfl
        · exact h6 p hp

/-- The names that are seen in the end are those seen before, and those that are required. -/
theorem Located.mem_seen_iff {references : List Reference} {found : List Pending}
    (h : Located locate seen references found seen') :
    name ∈ seen' ↔ name ∈ seen ∨ name ∈ references.map (·.name) := by
  constructor
  · intro hmem
    refine ((h.mem_seen name).1 hmem).imp_right fun hmem ↦ ?_
    obtain ⟨p, hp, rfl⟩ := List.mem_map.1 hmem
    exact (h.located p hp).1
  · rintro (hmem | hmem)
    · exact (h.mem_seen name).2 (.inl hmem)
    · obtain ⟨ref, href, rfl⟩ := List.mem_map.1 hmem
      exact h.references ref href

/-- Locating new names fails for a new name that is located nowhere. -/
theorem exists_of_locateNew {references : List Reference} {e : CollectError}
    (h : locateNew locate display searched seen references = .error e) :
    ∃ ref ∈ references, ref.name ∉ seen ∧ locate ref.name = none ∧
      e = .moduleNotFound ref.name display searched := by
  induction references generalizing seen with
  | nil => simp [locateNew] at h
  | cons ref rest ih =>
    unfold locateNew at h
    split at h
    · obtain ⟨r, hr, hrest⟩ := ih h
      exact ⟨r, List.mem_cons_of_mem _ hr, hrest⟩
    · rename_i hseen
      split at h
      · rename_i hlocate
        rw [Except.error.injEq] at h
        exact ⟨ref, List.mem_cons_self .., hseen, hlocate, h.symm⟩
      · obtain ⟨r, hr, hnew, hrest⟩ := ih (Except.map_eq_error_iff.1 h)
        exact ⟨r, List.mem_cons_of_mem _ hr, fun hmem ↦ hnew (List.mem_cons_of_mem _ hmem), hrest⟩

/-- A module that requires nothing is read. -/
theorem readModule_of_none {next : Pending} {bytes : Bytes} (hread : m.read next.path = .ok bytes)
    (hfound : (discover (lossyString bytes)).literal = []) :
    readModule m dir templates seen next = .ok ⟨⟨next.name, lossyString bytes⟩, [], seen⟩ := by
  simp only [readModule, hread, hfound, locateNew, Except.map]

/-- A module that requires one other, which is new and found, is read. -/
theorem readModule_of_one {next : Pending} {bytes : Bytes} {ref : Reference} {f : Path}
    (hread : m.read next.path = .ok bytes) (hfound : (discover (lossyString bytes)).literal = [ref])
    (hnew : ref.name ∉ seen) (hlocate : SearchPath.locate m dir templates ref.name = some f) :
    readModule m dir templates seen next =
      .ok ⟨⟨next.name, lossyString bytes⟩, [⟨ref.name, f, ref.name⟩], ref.name :: seen⟩ := by
  simp only [readModule, hread, hfound, locateNew, if_neg hnew, hlocate, Except.map]

/-- A module that fails ends the collecting. -/
theorem collectFrom_error {next : Pending} {rest : List Pending} {e : CollectError}
    (h : readModule m dir templates seen next = .error e) :
    collectFrom m dir templates (next :: rest) seen = .error e := by
  rw [collectFrom]
  split
  · rename_i heq
    rw [Except.error.inj (h.symm.trans heq)]
  · rename_i heq
    rw [h] at heq
    simp at heq

/-- Reading a module puts those that it requires in front of the others. -/
theorem collectFrom_cons {next : Pending} {rest : List Pending} {step : Step}
    (h : readModule m dir templates seen next = .ok step) :
    collectFrom m dir templates (next :: rest) seen =
      (collectFrom m dir templates (step.found ++ rest) step.seen).map (step.module :: ·) := by
  rw [collectFrom]
  split
  · rename_i heq
    rw [h] at heq
    simp at heq
  · rename_i step' heq
    obtain rfl := Except.ok.inj (h.symm.trans heq)
    rfl

/-- What a module that is read is registered as, and the names that are located for it. -/
theorem readModule_eq_ok {next : Pending} {step : Step}
    (h : readModule m dir templates seen next = .ok step) :
    ∃ bytes, m.read next.path = .ok bytes ∧ step.module = ⟨next.name, lossyString bytes⟩ ∧
      locateNew (SearchPath.locate m dir templates) next.display
        (String.intercalate ";" templates) seen (discover (lossyString bytes)).literal =
          .ok (step.found, step.seen) := by
  unfold readModule at h
  split at h
  · simp at h
  · rename_i bytes hread
    obtain ⟨⟨found, seen'⟩, hfound, rfl⟩ := Except.map_eq_ok_iff.1 h
    exact ⟨bytes, hread, rfl, hfound⟩

/-- A module that is read is registered with its contents, and its new names are located. -/
theorem readModule_ok {next : Pending} {step : Step}
    (h : readModule m dir templates seen next = .ok step) :
    ∃ bytes, m.read next.path = .ok bytes ∧ step.module = ⟨next.name, lossyString bytes⟩ ∧
      Located (SearchPath.locate m dir templates) seen (discover (lossyString bytes)).literal
        step.found step.seen := by
  obtain ⟨bytes, hread, hmodule, hfound⟩ := readModule_eq_ok h
  exact ⟨bytes, hread, hmodule, located_of_locateNew hfound⟩

/-- A module fails that cannot be read, or that requires a new name which is located nowhere. -/
theorem readModule_eq_error {next : Pending} {e : CollectError}
    (h : readModule m dir templates seen next = .error e) :
    (∃ cause, m.read next.path = .error cause ∧ e = .read next.path cause) ∨
      ∃ bytes name, m.read next.path = .ok bytes ∧ name ∈ requiresOf bytes ∧ name ∉ seen ∧
        SearchPath.locate m dir templates name = none ∧
        e = .moduleNotFound name next.display (String.intercalate ";" templates) := by
  unfold readModule at h
  split at h
  · rename_i cause hread
    exact .inl ⟨cause, hread, (Except.error.inj h).symm⟩
  · rename_i bytes hread
    obtain ⟨ref, href, hseen, hlocate, heq⟩ := exists_of_locateNew (Except.map_eq_error_iff.1 h)
    exact .inr ⟨bytes, ref.name, hread, List.mem_map_of_mem href, hseen, hlocate, heq⟩

/-- A module that cannot be found is a new name that a module read requires. The failure says which
one that is, and where the name was looked for. -/
theorem readModule_notFound {next : Pending} {name requiredBy searched : String}
    (h : readModule m dir templates seen next = .error (.moduleNotFound name requiredBy searched)) :
    (∃ bytes, m.read next.path = .ok bytes ∧ name ∈ requiresOf bytes ∧ name ∉ seen ∧
      SearchPath.locate m dir templates name = none) ∧
      requiredBy = next.display ∧ searched = String.intercalate ";" templates := by
  rcases readModule_eq_error h with ⟨cause, -, heq⟩ | ⟨bytes, other, hread, hname, hseen, hlocate, heq⟩
  · simp at heq
  · rw [CollectError.moduleNotFound.injEq] at heq
    obtain ⟨rfl, hby, hsearched⟩ := heq
    exact ⟨⟨bytes, hread, hname, hseen, hlocate⟩, hby, hsearched⟩

/-! ### Work lists -/

/-- A work list of names that are seen, each once, with the files that an entry leads to. -/
structure IsWork (m : Machine) (locate : String → Option Path) (entry : Path) (work : List Pending)
    (seen : List String) : Prop where
  nodup : (work.map (·.name)).Nodup
  mem_seen : ∀ p ∈ work, p.name ∈ seen
  reaches : ∀ p ∈ work, Reaches m locate entry p.name p.path
  root : rootName ∈ seen

/-- The modules registered for a work list. -/
structure Collected (m : Machine) (locate : String → Option Path) (entry : Path)
    (work : List Pending) (seen : List String) (modules : List RegisteredModule) : Prop where
  nodup : (modules.map (·.name)).Nodup
  registered : ∀ p ∈ work, p.name ∈ modules.map (·.name)
  fresh : ∀ x ∈ modules, x.name ∈ work.map (·.name) ∨ x.name ∉ seen
  module : ∀ x ∈ modules, ∃ p bytes, Reaches m locate entry x.name p ∧ m.read p = .ok bytes ∧
    x.body = lossyString bytes ∧
    ∀ required ∈ requiresOf bytes, required ∈ seen ∨ required ∈ modules.map (·.name)

variable {work : List Pending} {modules : List RegisteredModule}

/-- The work list after a module was read is one again. -/
theorem IsWork.next {next : Pending} {rest found : List Pending} {bytes : Bytes}
    (h : IsWork m locate entry (next :: rest) seen) (hread : m.read next.path = .ok bytes)
    (hfound : Located locate seen (discover (lossyString bytes)).literal found seen') :
    IsWork m locate entry (found ++ rest) seen' := by
  have hseen : ∀ name ∈ seen, name ∈ seen' := fun name hname ↦ (hfound.mem_seen name).2 (.inl hname)
  refine ⟨?_, fun p hp ↦ ?_, fun p hp ↦ ?_, hseen _ h.root⟩
  · rw [List.map_append, List.nodup_append]
    refine ⟨hfound.nodup, (List.nodup_cons.1 h.nodup).2, ?_⟩
    intro a ha b hb heq
    obtain ⟨p, hp, rfl⟩ := List.mem_map.1 ha
    obtain ⟨q, hq, rfl⟩ := List.mem_map.1 hb
    exact hfound.fresh p hp (heq ▸ h.mem_seen q (List.mem_cons_of_mem _ hq))
  · rcases List.mem_append.1 hp with hp | hp
    · exact (hfound.mem_seen _).2 (.inr (List.mem_map_of_mem hp))
    · exact hseen _ (h.mem_seen p (List.mem_cons_of_mem _ hp))
  · rcases List.mem_append.1 hp with hp | hp
    · obtain ⟨hname, hlocate⟩ := hfound.located p hp
      refine .require (h.reaches next (List.mem_cons_self ..)) hread hname (fun heq ↦ ?_) hlocate
      exact hfound.fresh p hp (heq ▸ h.root)
    · exact h.reaches p (List.mem_cons_of_mem _ hp)

/-- A module that is read goes before those that are registered after it. -/
theorem Collected.cons {next : Pending} {rest found : List Pending} {bytes : Bytes}
    (hwork : IsWork m locate entry (next :: rest) seen) (hread : m.read next.path = .ok bytes)
    (hfound : Located locate seen (discover (lossyString bytes)).literal found seen')
    (h : Collected m locate entry (found ++ rest) seen' modules) :
    Collected m locate entry (next :: rest) seen
      (⟨next.name, lossyString bytes⟩ :: modules) := by
  -- a name is seen later only if it was seen before or is registered
  have hseen : ∀ name ∈ seen', name ∈ seen ∨ name ∈ modules.map (·.name) := by
    intro name hname
    refine ((hfound.mem_seen name).1 hname).imp_right fun hmem ↦ ?_
    obtain ⟨p, hp, rfl⟩ := List.mem_map.1 hmem
    exact h.registered p (List.mem_append_left _ hp)
  have hfresh : ∀ x ∈ modules, x.name ∈ rest.map (·.name) ∨ x.name ∉ seen := by
    intro x hx
    rcases h.fresh x hx with hmem | hnot
    · rw [List.map_append, List.mem_append] at hmem
      rcases hmem with hmem | hmem
      · obtain ⟨p, hp, heq⟩ := List.mem_map.1 hmem
        exact .inr (heq ▸ hfound.fresh p hp)
      · exact .inl hmem
    · exact .inr fun hmem ↦ hnot ((hfound.mem_seen _).2 (.inl hmem))
  refine ⟨?_, fun p hp ↦ ?_, fun x hx ↦ ?_, fun x hx ↦ ?_⟩
  · rw [List.map_cons, List.nodup_cons]
    refine ⟨fun hmem ↦ ?_, h.nodup⟩
    obtain ⟨x, hx, heq⟩ : ∃ x ∈ modules, x.name = next.name := by simpa using hmem
    rcases hfresh x hx with hmem | hnot
    · rw [heq] at hmem
      exact (List.nodup_cons.1 hwork.nodup).1 hmem
    · exact hnot (heq ▸ hwork.mem_seen next (List.mem_cons_self ..))
  · rcases List.mem_cons.1 hp with rfl | hp
    · exact List.mem_cons_self ..
    · exact List.mem_cons_of_mem _ (h.registered p (List.mem_append_right _ hp))
  · rcases List.mem_cons.1 hx with rfl | hx
    · exact .inl (List.mem_cons_self ..)
    · exact (hfresh x hx).imp_left (List.mem_cons_of_mem _)
  · rcases List.mem_cons.1 hx with rfl | hx
    · refine ⟨_, bytes, hwork.reaches next (List.mem_cons_self ..), hread, rfl, fun r hr ↦ ?_⟩
      obtain ⟨ref, href, rfl⟩ := List.mem_map.1 hr
      exact (hseen _ (hfound.references ref href)).imp_right (List.mem_cons_of_mem _)
    · obtain ⟨p, bytes', hreach, hread', hbody, hclosed⟩ := h.module x hx
      refine ⟨p, bytes', hreach, hread', hbody, fun r hr ↦ ?_⟩
      rcases hclosed r hr with hmem | hmem
      · exact (hseen r hmem).imp_right (List.mem_cons_of_mem _)
      · exact .inr (List.mem_cons_of_mem _ hmem)

/-- **What a work list that ends has registered.** -/
theorem collected_collectFrom
    (hwork : IsWork m (SearchPath.locate m dir templates) entry work seen)
    (h : collectFrom m dir templates work seen = .ok modules) :
    Collected m (SearchPath.locate m dir templates) entry work seen modules := by
  induction work, seen using collectFrom.induct m dir templates generalizing modules with
  -- nothing is left, the next module cannot be read, or it is registered and the rest follows
  | case1 seen =>
    rw [collectFrom, Except.ok.injEq] at h
    subst h
    exact ⟨by simp, by simp, by simp, by simp⟩
  | case2 seen next rest e heq => simp [collectFrom_error heq] at h
  | case3 seen next rest step heq _ ih =>
    obtain ⟨bytes, hread, hmodule, hfound⟩ := readModule_ok heq
    rw [collectFrom_cons heq] at h
    obtain ⟨later, hlater, rfl⟩ := Except.map_eq_ok_iff.1 h
    rw [hmodule]
    exact .cons hwork hread hfound (ih (hwork.next hread hfound) hlater)

/-- A module that a work list cannot find is required by a file that the entry leads to. -/
theorem collectFrom_notFound {requiredBy : String}
    (hwork : IsWork m (SearchPath.locate m dir templates) entry work seen)
    (h : collectFrom m dir templates work seen =
      .error (.moduleNotFound name requiredBy searched)) :
    ∃ source p bytes, Reaches m (SearchPath.locate m dir templates) entry source p ∧
      m.read p = .ok bytes ∧ name ∈ requiresOf bytes ∧ name ≠ rootName ∧
      SearchPath.locate m dir templates name = none := by
  induction work, seen using collectFrom.induct m dir templates with
  | case1 seen => simp [collectFrom] at h
  | case2 seen next rest e heq =>
    rw [collectFrom_error heq, Except.error.injEq] at h
    subst h
    obtain ⟨⟨bytes, hread, hname, hnew, hlocate⟩, -⟩ := readModule_notFound heq
    exact ⟨_, _, bytes, hwork.reaches next (List.mem_cons_self ..), hread, hname,
      fun hroot ↦ hnew (hroot ▸ hwork.root), hlocate⟩
  | case3 seen next rest step heq _ ih =>
    obtain ⟨bytes, hread, -, hfound⟩ := readModule_ok heq
    rw [collectFrom_cons heq] at h
    exact ih (hwork.next hread hfound) (Except.map_eq_error_iff.1 h)

/-! ### The bundle of an entry -/

/-- A document registers what an entry leads to, the entry first, and each name once. -/
structure Document.Registers (m : Machine) (locate : String → Option Path) (entry : Path)
    (d : Document) : Prop where
  prelude : d.prelude = Bundle.prelude
  epilogue : d.epilogue = Bundle.epilogue
  nodup : d.names.Nodup
  head : d.names.head? = some rootName
  registered : ∀ name p, Reaches m locate entry name p → ∃ bytes, m.read p = .ok bytes ∧
    ⟨name, lossyString bytes⟩ ∈ d.modules ∧ requiresOf bytes ⊆ d.names
  reaches : ∀ x ∈ d.modules, ∃ p bytes, Reaches m locate entry x.name p ∧ m.read p = .ok bytes ∧
    x.body = lossyString bytes

/-- What is registered is reached. -/
theorem Document.Registers.exists_reaches {d : Document} (h : d.Registers m locate entry)
    (hname : name ∈ d.names) : ∃ p, Reaches m locate entry name p := by
  obtain ⟨x, hx, rfl⟩ := List.mem_map.1 hname
  obtain ⟨p, bytes, hreach, -⟩ := h.reaches x hx
  exact ⟨p, hreach⟩

theorem isWork_start : IsWork m locate entry [⟨rootName, entry, display⟩] [rootName] :=
  ⟨by simp, by simp, by simpa using .entry, by simp⟩

/-- The first module registered for a work list is that of its first item. -/
theorem head_collectFrom {next : Pending} {rest : List Pending}
    (h : collectFrom m dir templates (next :: rest) seen = .ok modules) :
    (modules.map (·.name)).head? = some next.name := by
  cases hstep : readModule m dir templates seen next with
  | error e => simp [collectFrom_error hstep] at h
  | ok step =>
    obtain ⟨bytes, -, hmodule, -⟩ := readModule_ok hstep
    rw [collectFrom_cons hstep] at h
    obtain ⟨later, -, rfl⟩ := Except.map_eq_ok_iff.1 h
    simp [hmodule]

/-- **A bundle registers what its entry file leads to.** -/
theorem registers_collect {file : String} {d : Document}
    (h : collect m dir templates file = .ok d) :
    d.Registers m (SearchPath.locate m dir templates) (dir.join ⟨file⟩) := by
  obtain ⟨modules, hmodules, rfl⟩ := Except.map_eq_ok_iff.1 h
  have hcollected := collected_collectFrom isWork_start hmodules
  -- what is registered was read, and what it requires is registered
  have hread : ∀ x ∈ modules, ∃ p bytes,
      Reaches m (SearchPath.locate m dir templates) (dir.join ⟨file⟩) x.name p ∧
        m.read p = .ok bytes ∧ x.body = lossyString bytes ∧
        requiresOf bytes ⊆ modules.map (·.name) := by
    intro x hx
    obtain ⟨p, bytes, hreach, hread, hbody, hclosed⟩ := hcollected.module x hx
    refine ⟨p, bytes, hreach, hread, hbody, fun required hrequired ↦ ?_⟩
    rcases hclosed required hrequired with hseen | hmem
    · obtain rfl := List.mem_singleton.1 hseen
      exact hcollected.registered _ (List.mem_cons_self ..)
    · exact hmem
  refine ⟨rfl, rfl, hcollected.nodup, head_collectFrom hmodules, fun name p hreach ↦ ?_, fun x hx ↦ ?_⟩
  · have hname : name ∈ modules.map (·.name) := by
      induction hreach with
      | entry => exact hcollected.registered _ (List.mem_cons_self ..)
      | require hreach hbytes hname _ _ ih =>
        obtain ⟨x, hx, rfl⟩ := List.mem_map.1 ih
        obtain ⟨p', bytes', hreach', hread', -, hclosed⟩ := hread x hx
        obtain rfl := hreach.unique hreach'
        obtain rfl : _ = bytes' := by simpa [hbytes] using hread'
        exact hclosed hname
    obtain ⟨⟨_, body⟩, hx, rfl⟩ := List.mem_map.1 hname
    obtain ⟨p', bytes, hreach', hbytes, hbody, hclosed⟩ := hread _ hx
    obtain rfl := hreach.unique hreach'
    obtain rfl : body = lossyString bytes := hbody
    exact ⟨bytes, hbytes, hx, hclosed⟩
  · obtain ⟨p, bytes, hreach, hbytes, hbody, -⟩ := hread x hx
    exact ⟨p, bytes, hreach, hbytes, hbody⟩

/-- **A name that a bundle cannot find is required by a file that the entry leads to.** -/
theorem collect_notFound {file requiredBy : String}
    (h : collect m dir templates file = .error (.moduleNotFound name requiredBy searched)) :
    ∃ source p bytes, Reaches m (SearchPath.locate m dir templates) (dir.join ⟨file⟩) source p ∧
      m.read p = .ok bytes ∧ name ∈ requiresOf bytes ∧ name ≠ rootName ∧
      SearchPath.locate m dir templates name = none :=
  collectFrom_notFound isWork_start (Except.map_eq_error_iff.1 h)

end Bundle

end LuaBundler
