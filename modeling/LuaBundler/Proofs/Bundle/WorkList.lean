import LuaBundler.Proofs.Bundle.Reachability
import LuaBundler.Proofs.Graph.Exactness
import Mathlib.Logic.Relation

/-!
# The rounds of the work list

Collecting a bundle is a loop. A round reads the next module of the work list, registers it, and puts
the new names that it requires in front of the others (`Round`); the loop ends when nothing is left or
a module fails (`Loop.Ends`), and that is how collecting ends (`exists_rounds`).

Each round takes from the names that are still unmarked and the modules that are still to be read
(`Rounds.add_left_le`). Modules may be as many as the names that the files of the tree require, not
only as many as the files: several names may lead to one file.

A bundle that is collected is closed: what its bodies require is registered, and nothing else is
(`Document.IsClosed`).
-/

namespace LuaBundler

open Files Text Source Relation

/-! ### First matches -/

/-- The path that the first template yields which leads to a file. -/
def SearchPath.IsFirstMatch (m : Machine) (dir : Path) (templates : List String) (name : String)
    (p : Path) : Prop :=
  ∃ before template after, templates = before ++ template :: after ∧
    p = candidate dir name template ∧ m.isFile p = true ∧
    ∀ t ∈ before, m.isFile (candidate dir name t) = false

section

variable {m : Machine} {dir : Path} {templates : List String} {name : String} {p : Path}

theorem SearchPath.isFirstMatch_of_locate (h : locate m dir templates name = some p) :
    IsFirstMatch m dir templates name p := by
  obtain ⟨hfile, before, after, hsplit, hbefore⟩ := List.find?_eq_some_iff_append.1 h
  obtain ⟨front, rest, rfl, rfl, hrest⟩ := List.map_eq_append_iff.1 hsplit
  obtain ⟨template, back, rfl, rfl, rfl⟩ := List.map_eq_cons_iff.1 hrest
  exact ⟨front, template, back, rfl, rfl, hfile, fun t ht ↦ by
    simpa using hbefore _ (List.mem_map_of_mem ht)⟩

theorem SearchPath.isFile_of_locate (h : locate m dir templates name = none) :
    ∀ t ∈ templates, m.isFile (candidate dir name t) = false := by
  intro t ht
  simpa using List.find?_eq_none.1 h _ (List.mem_map_of_mem ht)

end

namespace Bundle

/-! ### The loop -/

/-- Where the loop is: the modules to read, the names seen, and the modules registered. -/
structure Loop where
  work : List Pending
  seen : List String
  registered : List RegisteredModule

/-- The loop starts with the entry file. -/
def Loop.start (dir : Path) (file : String) : Loop :=
  ⟨[⟨rootName, dir.join ⟨file⟩, file⟩], [rootName], []⟩

/-- What a loop has left: the names that are unmarked, and the modules to read. -/
def Loop.left (m : Machine) (s : Loop) : Nat :=
  remaining m s.seen + s.work.length

section

variable (m : Machine) (dir : Path) (templates : List String)

/-- A round reads the next module. -/
inductive Round : Loop → Loop → Prop
  | read {next : Pending} {rest : List Pending} {seen : List String}
      {registered : List RegisteredModule} {step : Step}
      (h : readModule m dir templates seen next = .ok step) :
      Round ⟨next :: rest, seen, registered⟩
        ⟨step.found ++ rest, step.seen, registered ++ [step.module]⟩

/-- Some number of rounds. -/
inductive Rounds : Nat → Loop → Loop → Prop
  | none {s : Loop} : Rounds 0 s s
  | more {n : Nat} {s t u : Loop} (h : Round m dir templates s t) (h' : Rounds n t u) :
      Rounds (n + 1) s u

/-- A loop ends with what is registered when nothing is left, or with the failure of a module. -/
inductive Loop.Ends : Loop → Except CollectError (List RegisteredModule) → Prop
  | done {seen : List String} {registered : List RegisteredModule} :
      Ends ⟨[], seen, registered⟩ (.ok registered)
  | failed {next : Pending} {rest : List Pending} {seen : List String}
      {registered : List RegisteredModule} {e : CollectError}
      (h : readModule m dir templates seen next = .error e) :
      Ends ⟨next :: rest, seen, registered⟩ (.error e)

end

variable {m : Machine} {locate : String → Option Path} {entry dir : Path} {templates : List String}
  {file name requiredBy searched display : String} {s t : Loop} {n : Nat}

/-! ### The loop ends -/

theorem Round.left_lt (h : Round m dir templates s t) : t.left m < s.left m := by
  obtain ⟨hread⟩ := h
  have := remaining_readModule hread
  simp only [Loop.left, List.length_append, List.length_cons]
  omega

/-- **Each round takes from what is left.** -/
theorem Rounds.add_left_le (h : Rounds m dir templates n s t) : n + t.left m ≤ s.left m := by
  induction h with
  | none => omega
  | more h _ ih =>
    have := h.left_lt
    omega

/-- A loop starts with at most as much left as the files of the tree require names, and the entry. -/
theorem Loop.left_start_le (m : Machine) (dir : Path) (file : String) :
    (start dir file).left m ≤ (requiredNames m.tree).length + 1 :=
  Nat.add_le_add_right (List.length_filter_le ..) 1

/-- **The loop ends**, and collecting is what it ends with. -/
theorem exists_rounds (m : Machine) (dir : Path) (templates : List String) (s : Loop) :
    ∃ n t, Rounds m dir templates n s t ∧ t.Ends m dir templates
      ((collectFrom m dir templates s.work s.seen).map (s.registered ++ ·)) := by
  obtain ⟨work, seen, registered⟩ := s
  induction work, seen using collectFrom.induct m dir templates generalizing registered with
  -- nothing is left, the next module fails, or it is registered and the rest follows
  | case1 seen =>
    refine ⟨0, _, .none, ?_⟩
    simpa [collectFrom, Except.map] using Loop.Ends.done
  | case2 seen next rest e h =>
    refine ⟨0, _, .none, ?_⟩
    rw [collectFrom_error h]
    exact .failed h
  | case3 seen next rest step h _ ih =>
    obtain ⟨n, t, hrounds, hends⟩ := ih (registered ++ [step.module])
    refine ⟨n + 1, t, .more (.read h) hrounds, ?_⟩
    rw [collectFrom_cons h]
    cases hrest : collectFrom m dir templates (step.found ++ rest) step.seen with
    | error e => simpa [hrest, Except.map] using hends
    | ok modules => simpa [hrest, Except.map] using hends

/-! ### What fails -/

/-- How diagnostics call a module: the entry by its file, the others by their names. -/
def displayOf (file name : String) : String :=
  if name = rootName then file else name

/-- A loop whose work list is what the entry leads to, each module called by its name. -/
structure Loop.Traces (m : Machine) (locate : String → Option Path) (entry : Path) (file : String)
    (s : Loop) : Prop where
  work : IsWork m locate entry s.work s.seen
  display : ∀ p ∈ s.work, p.display = displayOf file p.name

theorem Loop.traces_start : (start dir file).Traces m locate (dir.join ⟨file⟩) file :=
  ⟨isWork_start, by simp [start, displayOf]⟩

/-- A round leads on to what the module that is read requires. -/
theorem Loop.Traces.round (h : s.Traces m (SearchPath.locate m dir templates) entry file)
    (hround : Round m dir templates s t) :
    t.Traces m (SearchPath.locate m dir templates) entry file := by
  obtain ⟨hread⟩ := hround
  rename_i next rest seen registered step
  obtain ⟨bytes, hbytes, -, hfound⟩ := readModule_ok hread
  refine ⟨h.work.next hbytes hfound, fun p hp ↦ ?_⟩
  rcases List.mem_append.1 hp with hp | hp
  · -- the root is marked, so no new module is the entry
    have hne : p.name ≠ rootName := fun heq ↦ hfound.fresh p hp (heq ▸ h.work.root)
    rw [displayOf, if_neg hne, hfound.display p hp]
  · exact h.display p (List.mem_cons_of_mem _ hp)

theorem Loop.Traces.rounds (hrounds : Rounds m dir templates n s t)
    (h : s.Traces m (SearchPath.locate m dir templates) entry file) :
    t.Traces m (SearchPath.locate m dir templates) entry file := by
  induction hrounds with
  | none => exact h
  | more hround _ ih => exact ih (h.round hround)

/-- A loop that ends with a name that cannot be found was reading a module that requires it. -/
theorem Loop.Traces.notFound (h : s.Traces m (SearchPath.locate m dir templates) entry file)
    (hends : s.Ends m dir templates (.error (.moduleNotFound name requiredBy searched))) :
    ∃ source p bytes, Reaches m (SearchPath.locate m dir templates) entry source p ∧
      m.read p = .ok bytes ∧ name ∈ requiresOf bytes ∧ requiredBy = displayOf file source ∧
      searched = String.intercalate ";" templates ∧
      SearchPath.locate m dir templates name = none := by
  cases hends with
  | failed hread =>
    rename_i next rest seen registered
    obtain ⟨⟨bytes, hbytes, hname, -, hlocate⟩, rfl, hsearched⟩ := readModule_notFound hread
    exact ⟨next.name, next.path, bytes, h.work.reaches next (List.mem_cons_self ..), hbytes, hname,
      h.display next (List.mem_cons_self ..), hsearched, hlocate⟩

/-! ### What is collected -/

/-- The names that the body of a module requires by literals. -/
def RegisteredModule.requires (x : RegisteredModule) : List String :=
  (discover x.body).literal.map (·.name)

/-- A name is required in the body that is registered under another one. -/
def Document.Requires (d : Document) (name required : String) : Prop :=
  ∃ x ∈ d.modules, x.name = name ∧ required ∈ x.requires

/-- A document that registers the entry first, each name once and with its file, and exactly what the
bodies lead to. -/
structure Document.IsClosed (m : Machine) (dir : Path) (templates : List String) (file : String)
    (d : Document) : Prop where
  nodup : d.names.Nodup
  entry : ∃ bytes rest, m.read (dir.join ⟨file⟩) = .ok bytes ∧
    d.modules = ⟨rootName, lossyString bytes⟩ :: rest
  contents : ∀ x ∈ d.modules, x.name ≠ rootName → ∃ p bytes,
    SearchPath.IsFirstMatch m dir templates x.name p ∧ m.read p = .ok bytes ∧
    x.body = lossyString bytes
  closed : ∀ x ∈ d.modules, x.requires ⊆ d.names
  reached : ∀ name ∈ d.names, ReflTransGen d.Requires rootName name

/-- Registering what an entry leads to makes a closed document. -/
theorem Document.Registers.isClosed {d : Document}
    (h : d.Registers m (SearchPath.locate m dir templates) (dir.join ⟨file⟩)) :
    d.IsClosed m dir templates file := by
  refine ⟨h.nodup, ?_, fun x hx hne ↦ ?_, fun x hx ↦ ?_, fun name hname ↦ ?_⟩
  · obtain ⟨⟨name, body⟩, rest, hmodules⟩ := List.exists_cons_of_ne_nil (l := d.modules) (by
      rintro hnil
      simpa [Document.names, hnil] using h.head)
    obtain rfl : name = rootName := by simpa [Document.names, hmodules] using h.head
    obtain ⟨p, bytes, hreach, hread, rfl⟩ := h.reaches ⟨rootName, body⟩ (by simp [hmodules])
    obtain rfl := hreach.unique .entry
    exact ⟨bytes, rest, hread, hmodules⟩
  · obtain ⟨p, bytes, hreach, hread, hbody⟩ := h.reaches x hx
    rcases hreach.eq_or_locate with ⟨hroot, -⟩ | ⟨-, hlocate⟩
    · exact absurd hroot hne
    · exact ⟨p, bytes, SearchPath.isFirstMatch_of_locate hlocate, hread, hbody⟩
  · obtain ⟨p, bytes, hreach, hread, hbody⟩ := h.reaches x hx
    obtain ⟨bytes', hread', -, hclosed⟩ := h.registered x.name p hreach
    obtain rfl : bytes = bytes' := Except.ok.inj (hread.symm.trans hread')
    rw [RegisteredModule.requires, hbody]
    exact hclosed
  · obtain ⟨p, hreach⟩ := h.exists_reaches hname
    clear hname
    induction hreach with
    | entry => exact .refl
    | require hreach hread hrequired _ _ ih =>
      obtain ⟨bytes', hread', hmem, -⟩ := h.registered _ _ hreach
      obtain rfl := Except.ok.inj (hread.symm.trans hread')
      exact ih.tail ⟨_, hmem, rfl, hrequired⟩

/-- **Collecting ends, with a closed bundle or a failure.** The loop takes at most as many rounds as
the files of the tree require names, and one for the entry. A name that is reported as not found is
required by a file that the entry leads to, and no template leads to a file for it. -/
theorem collect_spec (m : Machine) (dir : Path) (templates : List String) (file : String) :
    (∀ n s, Rounds m dir templates n (.start dir file) s →
      n ≤ (requiredNames m.tree).length + 1) ∧
    (∃ n s r, Rounds m dir templates n (.start dir file) s ∧ s.Ends m dir templates r ∧
      collect m dir templates file = r.map fun modules ↦ { Document.empty with modules }) ∧
    (∀ d, collect m dir templates file = .ok d → d.IsClosed m dir templates file) ∧
    ∀ name requiredBy searched,
      collect m dir templates file = .error (.moduleNotFound name requiredBy searched) →
      ∃ source p bytes,
        Reaches m (SearchPath.locate m dir templates) (dir.join ⟨file⟩) source p ∧
        m.read p = .ok bytes ∧ name ∈ requiresOf bytes ∧ requiredBy = displayOf file source ∧
        searched = String.intercalate ";" templates ∧
        ∀ t ∈ templates, m.isFile (SearchPath.candidate dir name t) = false := by
  obtain ⟨n, s, hrounds, hends⟩ := exists_rounds m dir templates (.start dir file)
  have hcollect : collect m dir templates file =
      ((collectFrom m dir templates (Loop.start dir file).work (Loop.start dir file).seen).map
        ((Loop.start dir file).registered ++ ·)).map
          fun modules ↦ { Document.empty with modules } := by
    rw [collect, Loop.start]
    cases collectFrom m dir templates [⟨rootName, dir.join ⟨file⟩, file⟩] [rootName] <;> rfl
  refine ⟨fun k t hrun ↦ ?_, ⟨n, s, _, hrounds, hends, hcollect⟩,
    fun d hd ↦ (registers_collect hd).isClosed, fun name requiredBy searched hfail ↦ ?_⟩
  · have := hrun.add_left_le
    have := Loop.left_start_le m dir file
    omega
  · rw [hcollect, Except.map_eq_error_iff] at hfail
    rw [hfail] at hends
    obtain ⟨source, p, bytes, hreach, hread, hname, hby, hsearched, hlocate⟩ :=
      (Loop.traces_start.rounds hrounds).notFound hends
    exact ⟨source, p, bytes, hreach, hread, hname, hby, hsearched,
      SearchPath.isFile_of_locate hlocate⟩

/-- Two files that require each other, one of them under two names, and the same files looked for
where they are not. -/
theorem collect_spec_linkedProject :
    (∃ d, collect Graph.linkedProject ⟨"."⟩ ["./?.lua"] "Main.lua" = .ok d ∧
      d.names = [rootName, "a", "Main", "b"] ∧
      d.IsClosed Graph.linkedProject ⟨"."⟩ ["./?.lua"] "Main.lua") ∧
    collect Graph.linkedProject ⟨"."⟩ ["?/init.lua"] "Main.lua" =
      .error (.moduleNotFound "a" "Main.lua" "?/init.lua") ∧
    ∃ source p bytes, Reaches Graph.linkedProject
        (SearchPath.locate Graph.linkedProject ⟨"."⟩ ["?/init.lua"]) ⟨"./Main.lua"⟩ source p ∧
      Graph.linkedProject.read p = .ok bytes ∧ "a" ∈ requiresOf bytes ∧
      "Main.lua" = displayOf "Main.lua" source := by
  have hnames : (collect Graph.linkedProject ⟨"."⟩ ["./?.lua"] "Main.lua").toOption.map
      Document.names = some [rootName, "a", "Main", "b"] := by decide +kernel
  obtain ⟨d, hd, hnames⟩ := Except.exists_of_toOption_map hnames
  have hfail : collect Graph.linkedProject ⟨"."⟩ ["?/init.lua"] "Main.lua" =
      .error (.moduleNotFound "a" "Main.lua" "?/init.lua") := by decide +kernel
  obtain ⟨source, p, bytes, hreach, hread, hname, hby, -⟩ :=
    (collect_spec Graph.linkedProject ⟨"."⟩ ["?/init.lua"] "Main.lua").2.2.2 _ _ _ hfail
  exact ⟨⟨d, hd, hnames, (collect_spec ..).2.2.1 d hd⟩, hfail, source, p, bytes, hreach, hread,
    hname, hby⟩

end Bundle

end LuaBundler
