import LuaBundler.Proofs.Graph.Contents
import LuaBundler.Proofs.Graph.Exactness
import Mathlib.Data.List.Forall2

/-!
# A resolver stands by its first answers

A resolver is asked where modules are and of what kind they are, and the files may have changed in
any way before each question. Its answers to a name are all the one that it looked up when it was
asked for that name first (`Resolver.standsBy_askAll`). So as long as the files stay as they are,
each answer is what is looked up, whatever was asked before (`Resolver.askAll_unchanged`).

For a graph this means that, whatever happens to the files while it is built, all its references of
one name have one resolution (`Graph.Consistent`): no name is both that of a project module, which is
bundled, and that of a runtime module, which is left to the host. A build is taken apart into its
steps, each of which may find other files (`Traversal.Runs`); one on files that stay as they are is a
special case (`Traversal.runs_visit`). What carries the result through the nested visits is that the
resolver knows the resolution of each reference in the graph (`Traversal.Settled`), and never forgets
one.
-/

namespace LuaBundler.Resolver

open Files

/-- A question to a resolver. -/
inductive Query where
  /-- Where a module is. -/
  | resolve (name : String)
  /-- What kind of module it is. -/
  | classify (name : String)
  deriving Repr, DecidableEq

/-- An answer of a resolver. -/
inductive Reply where
  | resolution (answer : Resolution)
  | kind (name : String)
  deriving Repr, DecidableEq

/-- The name that is asked for. -/
def Query.name : Query → String
  | resolve name => name
  | classify name => name

/-- What is said of a resolution. -/
def Query.replyOf : Query → Resolution → Reply
  | resolve _, answer => .resolution answer
  | classify _, answer => .kind answer.kindName

/-- The answer to a question, and the resolver after it. -/
def ask (r : Resolver) (m : Machine) : Query → Reply × Resolver
  | .resolve name => (.resolution (r.resolve m name).1, (r.resolve m name).2)
  | .classify name => (.kind (r.classify m name).1, (r.classify m name).2)

/-- The answers to questions one after another, each with the files as they are then. -/
def askAll (r : Resolver) : List (Machine × Query) → List Reply
  | [] => []
  | (m, q) :: rest => (r.ask m q).1 :: askAll (r.ask m q).2 rest

/-- The files as they were when a name was first asked for. -/
def firstAsked (events : List (Machine × Query)) (name : String) : Option Machine :=
  (events.find? fun e ↦ e.2.name = name).map (·.1)

/-- An answer is what was looked up when its name was first asked for. -/
def StandsBy (r : Resolver) (events : List (Machine × Query)) (event : Machine × Query)
    (reply : Reply) : Prop :=
  ∃ first, firstAsked events event.2.name = some first ∧
    reply = event.2.replyOf (r.lookUp first event.2.name)

variable {r r' : Resolver} {past events : List (Machine × Query)} {m first : Machine} {q : Query}
  {name : String}

/-! ### One question -/

/-- Any question asks for the resolution of its name. -/
theorem ask_eq (r : Resolver) (m : Machine) (q : Query) :
    r.ask m q = (q.replyOf (r.resolve m q.name).1, (r.resolve m q.name).2) := by
  cases q <;> rfl

theorem firstAsked_append (past events : List (Machine × Query)) (name : String) :
    firstAsked (past ++ events) name = (firstAsked past name).or (firstAsked events name) := by
  rw [firstAsked, List.find?_append, Option.map_or]
  rfl

theorem firstAsked_cons_self (m : Machine) (q : Query) (events : List (Machine × Query)) :
    firstAsked ((m, q) :: events) q.name = some m := by
  simp [firstAsked]

theorem firstAsked_singleton_of_ne (m : Machine) (h : q.name ≠ name) :
    firstAsked [(m, q)] name = none := by
  simp [firstAsked, h]

/-- A resolver that was asked some questions: it knows what it looked up at the first one for each
name, and nothing else. -/
structure Recalls (r : Resolver) (past : List (Machine × Query)) (r' : Resolver) : Prop where
  roots : r'.roots = r.roots
  runtime : r'.runtime = r.runtime
  known : ∀ name, r'.known.lookup name =
    (firstAsked past name).map fun first ↦ r.lookUp first name

theorem Recalls.lookUp (h : r.Recalls past r') (m : Machine) (name : String) :
    r'.lookUp m name = r.lookUp m name := by
  simp only [Resolver.lookUp, h.roots, h.runtime]

/-- The answer to one more question is what was looked up first. -/
theorem Recalls.resolve_eq (h : r.Recalls past r') (m : Machine) (q : Query) :
    ∃ first, firstAsked (past ++ [(m, q)]) q.name = some first ∧
      (r'.resolve m q.name).1 = r.lookUp first q.name := by
  rw [firstAsked_append, firstAsked_cons_self]
  have hknown := h.known q.name
  cases hfirst : firstAsked past q.name with
  | some first =>
    rw [hfirst, Option.map_some] at hknown
    exact ⟨first, rfl, by rw [resolve_known hknown]⟩
  | none =>
    rw [hfirst, Option.map_none] at hknown
    exact ⟨m, rfl, (resolve_new hknown m).trans (h.lookUp m q.name)⟩

/-- **What one question adds** to what a resolver knows. -/
theorem Recalls.ask (h : r.Recalls past r') (m : Machine) (q : Query) :
    r.Recalls (past ++ [(m, q)]) (r'.ask m q).2 := by
  rw [ask_eq]
  have hknown := h.known q.name
  cases hfirst : firstAsked past q.name with
  | some first =>
    rw [hfirst, Option.map_some] at hknown
    rw [resolve_known hknown]
    refine ⟨h.roots, h.runtime, fun name ↦ ?_⟩
    rw [h.known name, firstAsked_append]
    by_cases hname : q.name = name
    · subst hname
      rw [hfirst, Option.some_or]
    · rw [firstAsked_singleton_of_ne m hname, Option.or_none]
  | none =>
    rw [hfirst, Option.map_none] at hknown
    have hnext : (r'.resolve m q.name).2 =
        { r' with known := (q.name, r.lookUp m q.name) :: r'.known } := by
      simp [resolve, hknown, h.lookUp]
    rw [hnext]
    refine ⟨h.roots, h.runtime, fun name ↦ ?_⟩
    rw [firstAsked_append, List.lookup_cons]
    by_cases hname : q.name = name
    · subst hname
      rw [hfirst, firstAsked_cons_self, beq_self_eq_true]
      rfl
    · rw [firstAsked_singleton_of_ne m hname, Option.or_none, ← h.known name,
        beq_false_of_ne (Ne.symm hname)]

/-! ### Any number of questions -/

/-- Answers to questions that follow some others. -/
theorem Recalls.standsBy (h : r.Recalls past r') (events : List (Machine × Query)) :
    List.Forall₂ (r.StandsBy (past ++ events)) events (r'.askAll events) := by
  induction events generalizing past r' with
  | nil => exact .nil
  | cons e rest ih =>
    obtain ⟨m, q⟩ := e
    obtain ⟨first, hfirst, hanswer⟩ := h.resolve_eq m q
    have hrest := ih (h.ask m q)
    rw [List.append_assoc, List.singleton_append] at hrest
    refine .cons ⟨first, ?_, ?_⟩ hrest
    · rw [List.append_cons, firstAsked_append, hfirst, Option.some_or]
    · rw [ask_eq, hanswer]

theorem recalls_nil (roots : List Path) (runtime : Option Path) :
    Recalls ⟨roots, runtime, []⟩ [] ⟨roots, runtime, []⟩ :=
  ⟨rfl, rfl, fun _ ↦ rfl⟩

/-- **Each answer is what was looked up when its name was first asked for.** -/
theorem standsBy_askAll (roots : List Path) (runtime : Option Path)
    (events : List (Machine × Query)) :
    List.Forall₂ (StandsBy ⟨roots, runtime, []⟩ events) events
      (askAll ⟨roots, runtime, []⟩ events) :=
  (recalls_nil roots runtime).standsBy events

/-- **On files that stay as they are each answer is what is looked up**, whatever was asked before. -/
theorem askAll_unchanged (roots : List Path) (runtime : Option Path) (m : Machine)
    (queries : List Query) :
    askAll ⟨roots, runtime, []⟩ (queries.map fun q ↦ (m, q)) =
      queries.map fun q ↦ q.replyOf (lookUp ⟨roots, runtime, []⟩ m q.name) := by
  have hstands := standsBy_askAll roots runtime (queries.map fun q ↦ (m, q))
  have hfirst : ∀ name first, firstAsked (queries.map fun q ↦ (m, q)) name = some first →
      first = m := by
    intro name first h
    obtain ⟨e, he, rfl⟩ := Option.map_eq_some_iff.1 h
    obtain ⟨q, -, rfl⟩ := List.mem_map.1 (List.mem_of_find?_eq_some he)
    rfl
  have hall : List.Forall₂ (fun q reply ↦
      reply = Query.replyOf q (lookUp ⟨roots, runtime, []⟩ m q.name)) queries
        (askAll ⟨roots, runtime, []⟩ (queries.map fun q ↦ (m, q))) := by
    refine (List.forall₂_map_left_iff.1 hstands).imp fun q reply h ↦ ?_
    obtain ⟨first, hasked, rfl⟩ := h
    rw [hfirst _ _ hasked]
  rw [← List.forall₂_eq_eq_eq, List.forall₂_map_right_iff]
  exact hall.flip

end LuaBundler.Resolver

namespace LuaBundler

open Text Files Source

/-! ### Building while files change -/

namespace Traversal

/-- What is left to do: to visit a module, or to follow references. -/
inductive Task where
  | visit (target : Path)
  | follow (references : List Reference)

/-- A successful build of part of a graph, each step on the files as they are then. Following
references also gives their resolutions. -/
inductive Runs : Traversal → Task → Traversal → List Dependency → Prop
  /-- The module is still being read. -/
  | back {t : Traversal} {target : Path} (m : Machine)
      (h : t.active.any (·.same (m.normalize target)) = true) :
      Runs t (.visit target) { t with graph := t.graph.addCycle (m.normalize target) } []
  /-- The module was read before. -/
  | pass {t : Traversal} {target : Path} (m : Machine)
      (hactive : t.active.any (·.same (m.normalize target)) = false)
      (h : t.graph.contains (m.normalize target) = true) : Runs t (.visit target) t []
  /-- The module is new, and is read. -/
  | read {t t' : Traversal} {target : Path} {bytes : Bytes} {dependencies : List Dependency}
      (m m' : Machine) (hactive : t.active.any (·.same (m.normalize target)) = false)
      (hnew : t.graph.contains (m.normalize target) = false)
      (hread : m'.read (m.normalize target) = .ok bytes)
      (h : Runs ((t.enter (m.normalize target)).record (m.normalize target)
          (discover (lossyString bytes)).dynamic)
        (.follow (discover (lossyString bytes)).literal) t' dependencies) :
      Runs t (.visit target) (t'.leave (m.normalize target) dependencies) []
  /-- No reference is left. -/
  | done {t : Traversal} : Runs t (.follow []) t []
  /-- A reference does not lead to a project module. -/
  | leaf {t t' : Traversal} {reference : Reference} {rest : List Reference}
      {resolution : Resolution} {resolver : Resolver} {dependencies : List Dependency} (m : Machine)
      (hanswer : t.resolver.resolve m reference.name = (resolution, resolver))
      (hleaf : resolution.projectPath? = none)
      (h : Runs { t with resolver } (.follow rest) t' dependencies) :
      Runs t (.follow (reference :: rest)) t' (⟨reference.name, resolution⟩ :: dependencies)
  /-- A reference leads to a project module, which is visited. -/
  | into {t t' t'' : Traversal} {reference : Reference} {rest : List Reference} {target : Path}
      {resolver : Resolver} {dependencies : List Dependency} (m : Machine)
      (hanswer : t.resolver.resolve m reference.name = (.project target, resolver))
      (hvisit : Runs { t with resolver } (.visit target) t' [])
      (h : Runs t' (.follow rest) t'' dependencies) :
      Runs t (.follow (reference :: rest)) t'' (⟨reference.name, .project target⟩ :: dependencies)

variable {m : Machine} {t t' : Traversal} {dependencies : List Dependency}

theorem runs_followAll {visit : Traversal → Path → Except GraphError Traversal}
    (hvisit : ∀ t target t', visit t target = .ok t' → Runs t (.visit target) t' [])
    {references : List Reference}
    (h : followAll m visit t references = .ok (t', dependencies)) :
    Runs t (.follow references) t' dependencies := by
  induction references generalizing t dependencies with
  | nil =>
    simp only [followAll, Except.ok.injEq, Prod.mk.injEq] at h
    obtain ⟨rfl, rfl⟩ := h
    exact .done
  | cons ref rest ih =>
    rcases hanswer : t.resolver.resolve m ref.name with ⟨resolution, resolver⟩
    obtain ⟨next, others, hnext, hothers, rfl⟩ := followAll_cons hanswer h
    cases resolution with
    | project target => exact .into m hanswer (hvisit _ _ _ hnext) (ih hothers)
    | runtime path =>
      obtain rfl := Except.ok.inj hnext
      exact .leaf m hanswer rfl (ih hothers)
    | unresolved =>
      obtain rfl := Except.ok.inj hnext
      exact .leaf m hanswer rfl (ih hothers)

/-- **A visit that succeeds is a build on files that stay as they are.** -/
theorem runs_visit {depth : Nat} {target : Path} (h : visit m depth t target = .ok t') :
    Runs t (.visit target) t' [] := by
  induction depth using Nat.strongRecOn generalizing t t' target with
  | ind depth ih =>
  rcases visit_cases h with ⟨⟨p, hp, heq⟩, rfl⟩ | ⟨hactive, hcontains, rfl⟩ |
    ⟨hactive, hnew, below, bytes, last, dependencies, rfl, hread, hfollow, rfl⟩
  · exact .back m (List.any_eq_true.2 ⟨p, hp, (Path.same_iff ..).2 heq⟩)
  · exact .pass m hactive hcontains
  · exact .read m m hactive hnew hread
      (runs_followAll (fun _ _ _ ↦ ih below (Nat.lt_succ_self below)) hfollow)

/-! ### What the resolver knows -/

/-- A resolver knows what another one knows. -/
def Knows (r r' : Resolver) : Prop :=
  ∀ name answer, r.known.lookup name = some answer → r'.known.lookup name = some answer

theorem Knows.refl (r : Resolver) : Knows r r :=
  fun _ _ h ↦ h

theorem Knows.trans {r r' r'' : Resolver} (h : Knows r r') (h' : Knows r' r'') : Knows r r'' :=
  fun name answer hanswer ↦ h' name answer (h name answer hanswer)

/-- A resolver that is asked forgets nothing. -/
theorem knows_resolve (r : Resolver) (m : Machine) (name : String) :
    Knows r (r.resolve m name).2 := by
  intro other answer hother
  cases hknown : r.known.lookup name with
  | some known => rwa [Resolver.resolve_known hknown]
  | none =>
    have hne : other ≠ name := by
      rintro rfl
      simp [hknown] at hother
    simp only [Resolver.resolve, hknown, List.lookup_cons, beq_false_of_ne hne]
    exact hother

/-- The resolver knows the resolution of each reference in the graph. -/
def Settled (t : Traversal) : Prop :=
  ∀ n ∈ t.graph.nodes, ∀ d ∈ n.2.dependencies,
    t.resolver.known.lookup d.name = some d.resolution

theorem Settled.of_knows {resolver : Resolver} (h : t.Settled) (hknows : Knows t.resolver resolver) :
    Settled { t with resolver } :=
  fun n hn d hd ↦ hknows _ _ (h n hn d hd)

/-- Putting a node whose references are known into the graph. -/
theorem Settled.insert {p : Path} {node : ModuleNode} (h : t.Settled)
    (hnode : ∀ d ∈ node.dependencies, t.resolver.known.lookup d.name = some d.resolution) :
    Settled { t with graph := t.graph.insert p node } := by
  intro n hn d hd
  rcases Graph.mem_nodes_insert hn with ⟨hn, -⟩ | ⟨rfl, -⟩
  · exact h n hn d hd
  · exact hnode d hd

/-- **What is built keeps to what the resolver knows**: it forgets nothing, and knows the resolution
of each reference that was followed and of each one in the graph. -/
theorem Runs.settled {task : Task} (h : Runs t task t' dependencies) :
    Knows t.resolver t'.resolver ∧
      (∀ d ∈ dependencies, t'.resolver.known.lookup d.name = some d.resolution) ∧
      (t.Settled → t'.Settled) := by
  induction h with
  | back m _ =>
    refine ⟨.refl _, by simp, fun hsettled n hn ↦ hsettled n ?_⟩
    rwa [Graph.nodes_addCycle] at hn
  | pass => exact ⟨.refl _, by simp, id⟩
  | @read t t' target bytes dependencies m m' _ _ _ _ ih =>
    obtain ⟨hknows, hknown, hsettled⟩ := ih
    refine ⟨hknows, by simp, fun ht ↦ ?_⟩
    exact Settled.insert (hsettled (ht.insert (by simp))) hknown
  | done => exact ⟨.refl _, by simp, id⟩
  | @leaf t t' reference rest resolution resolver dependencies m hanswer _ _ ih =>
    obtain ⟨hknows, hknown, hsettled⟩ := ih
    obtain ⟨rfl, rfl⟩ := Prod.mk.inj hanswer
    have hasked := knows_resolve t.resolver m reference.name
    refine ⟨hasked.trans hknows, fun d hd ↦ ?_, fun ht ↦ hsettled (ht.of_knows hasked)⟩
    rcases List.mem_cons.1 hd with rfl | hd
    · exact hknows _ _ (Resolver.lookup_resolve ..)
    · exact hknown d hd
  | @into t t' t'' reference rest target resolver dependencies m hanswer _ _ ihvisit ih =>
    obtain ⟨hvisited, -, hvisit⟩ := ihvisit
    obtain ⟨hknows, hknown, hsettled⟩ := ih
    obtain ⟨hproject, rfl⟩ := Prod.mk.inj hanswer
    have hasked := knows_resolve t.resolver m reference.name
    refine ⟨(hasked.trans hvisited).trans hknows, fun d hd ↦ ?_,
      fun ht ↦ hsettled (hvisit (ht.of_knows hasked))⟩
    rcases List.mem_cons.1 hd with rfl | hd
    · refine hknows _ _ (hvisited _ _ ?_)
      rw [← hproject]
      exact Resolver.lookup_resolve ..
    · exact hknown d hd

end Traversal

/-! ### Graphs -/

namespace Graph

variable {g : Graph} {r : Resolver} {m : Machine} {entry : Path} {built : BuiltGraph}
  {name : String}

/-- All references of one name have one resolution. -/
def Consistent (g : Graph) : Prop :=
  ∀ x ∈ g.references, ∀ y ∈ g.references, x.2.name = y.2.name → x.2.resolution = y.2.resolution

/-- No name of a runtime module is also the name of a project module. -/
def KeepsApart (g : Graph) : Prop :=
  ∀ name ∈ g.runtimeNames, ∀ x ∈ g.references, x.2.name = name → ∀ p, x.2.resolution ≠ .project p

theorem Consistent.keepsApart (h : g.Consistent) : g.KeepsApart := by
  intro name hname x hx heq p hproject
  obtain ⟨y, hy, hruntime, rfl⟩ := mem_runtimeNames.1 hname
  rw [← h x hx y hy heq, hproject] at hruntime
  simp [Resolution.isRuntime] at hruntime

theorem mem_references {x : ModuleNode × Dependency} :
    x ∈ g.references ↔ ∃ n ∈ g.nodes, n.2 = x.1 ∧ x.2 ∈ n.2.dependencies := by
  obtain ⟨node, d⟩ := x
  simp only [references, List.mem_flatMap, List.mem_map, Prod.mk.injEq]
  constructor
  · rintro ⟨n, hn, d, hd, rfl, rfl⟩
    exact ⟨n, hn, rfl, hd⟩
  · rintro ⟨n, hn, rfl, hd⟩
    exact ⟨n, hn, d, hd, rfl, rfl⟩

/-- A graph whose references a resolver knows is consistent. -/
theorem consistent_of_settled {t : Traversal} (h : t.Settled) : t.graph.Consistent := by
  intro x hx y hy hname
  obtain ⟨n, hn, -, hd⟩ := mem_references.1 hx
  obtain ⟨n', hn', -, hd'⟩ := mem_references.1 hy
  have hknown := h n hn x.2 hd
  rw [hname, h n' hn' y.2 hd'] at hknown
  exact (Option.some.inj hknown).symm

/-- **A graph is consistent even if files change while it is built.** -/
theorem consistent_of_runs {t : Traversal}
    (h : Traversal.Runs ⟨r, .start entry, [], []⟩ (.visit entry) t []) : t.graph.Consistent :=
  consistent_of_settled (h.settled.2.2 fun _ hn ↦ absurd hn List.not_mem_nil)

/-- A graph that was built was built on files that stay as they are. -/
theorem exists_runs_of_build (h : build m r entry = .ok built) :
    ∃ t, Traversal.Runs ⟨r, .start (m.normalize entry), [], []⟩ (.visit (m.normalize entry)) t [] ∧
      t.graph = built.graph := by
  obtain ⟨t, ht, h⟩ := Except.bind_eq_ok_iff.1 h
  obtain rfl := Except.ok.inj h
  exact ⟨t, Traversal.runs_visit ht, rfl⟩

/-- Each reference in the graph of a new resolver has the resolution that is looked up. -/
theorem resolution_of_build {roots : List Path} {runtime : Option Path}
    (h : build m ⟨roots, runtime, []⟩ entry = .ok built) {x : ModuleNode × Dependency}
    (hx : x ∈ built.graph.references) :
    x.2.resolution = Resolver.lookUp ⟨roots, runtime, []⟩ m x.2.name := by
  obtain ⟨n, hn, -, hd⟩ := mem_references.1 hx
  exact (holds_build h).resolution_eq hn hd

/-- **What a resolver says of a name is settled by the first question for it.** Each answer is what
was looked up then, whatever became of the files, and what is looked up now if they stay as they are.
So a graph has one resolution for each name, also if its files change while it is built, and no name
of a project module is the name of a runtime module. -/
theorem firstAnswers_settle (roots : List Path) (runtime : Option Path) :
    (∀ events, List.Forall₂ (Resolver.StandsBy ⟨roots, runtime, []⟩ events) events
      (Resolver.askAll ⟨roots, runtime, []⟩ events)) ∧
    (∀ m (queries : List Resolver.Query),
      Resolver.askAll ⟨roots, runtime, []⟩ (queries.map fun q ↦ (m, q)) =
        queries.map fun q ↦ q.replyOf (Resolver.lookUp ⟨roots, runtime, []⟩ m q.name)) ∧
    (∀ r entry t, Traversal.Runs ⟨r, .start entry, [], []⟩ (.visit entry) t [] →
      t.graph.Consistent ∧ t.graph.KeepsApart) ∧
    (∀ r m entry built, build m r entry = .ok built →
      built.graph.Consistent ∧ built.graph.KeepsApart) ∧
    ∀ m entry built, build m ⟨roots, runtime, []⟩ entry = .ok built →
      ∀ x ∈ built.graph.references,
        x.2.resolution = Resolver.lookUp ⟨roots, runtime, []⟩ m x.2.name := by
  have hruns : ∀ r entry t, Traversal.Runs ⟨r, .start entry, [], []⟩ (.visit entry) t [] →
      t.graph.Consistent ∧ t.graph.KeepsApart :=
    fun _ _ _ h ↦ ⟨consistent_of_runs h, (consistent_of_runs h).keepsApart⟩
  refine ⟨Resolver.standsBy_askAll roots runtime, Resolver.askAll_unchanged roots runtime, hruns,
    fun r m entry built h ↦ ?_, fun m entry built h x ↦ resolution_of_build h⟩
  obtain ⟨t, ht, hgraph⟩ := exists_runs_of_build h
  exact hgraph ▸ hruns _ _ _ ht

/-- A resolver that found a module says so also when no file is left, and the graph of a project with
a link has one resolution for each name. -/
theorem firstAnswers_settle_linkedProject :
    List.Forall₂ (Resolver.StandsBy ⟨[⟨"."⟩], none, []⟩
        [(linkedProject, .resolve "a"), ({ linkedProject with tree := ⟨[]⟩ }, .classify "a")])
      [(linkedProject, .resolve "a"), ({ linkedProject with tree := ⟨[]⟩ }, .classify "a")]
      [.resolution (.project ⟨"/p/a.lua"⟩), .kind "local"] ∧
    ∃ built, build linkedProject ⟨[⟨"."⟩], none, []⟩ ⟨"Main.lua"⟩ = .ok built ∧
      built.graph.Consistent ∧
      (∃ t, Traversal.Runs ⟨⟨[⟨"."⟩], none, []⟩, .start ⟨"/p/Main.lua"⟩, [], []⟩
        (.visit ⟨"/p/Main.lua"⟩) t [] ∧ t.graph.Consistent) ∧
      ∀ x ∈ built.graph.references,
        x.2.resolution = Resolver.lookUp ⟨[⟨"."⟩], none, []⟩ linkedProject x.2.name := by
  obtain ⟨hstands, -, hruns, hbuilds, hlooked⟩ := firstAnswers_settle [⟨"."⟩] none
  have hanswers : Resolver.askAll ⟨[⟨"."⟩], none, []⟩
      [(linkedProject, .resolve "a"), ({ linkedProject with tree := ⟨[]⟩ }, .classify "a")] =
        [.resolution (.project ⟨"/p/a.lua"⟩), .kind "local"] := by
    decide +kernel
  have hentry : linkedProject.normalize ⟨"Main.lua"⟩ = ⟨"/p/Main.lua"⟩ := by decide +kernel
  obtain ⟨built, hbuild, -⟩ := exists_build_linkedProject
  obtain ⟨t, ht, -⟩ := exists_runs_of_build hbuild
  rw [hentry] at ht
  exact ⟨hanswers ▸ hstands _, built, hbuild, (hbuilds _ _ _ _ hbuild).1,
    ⟨t, ht, (hruns _ _ _ ht).1⟩, hlooked _ _ _ hbuild⟩

end Graph

end LuaBundler
