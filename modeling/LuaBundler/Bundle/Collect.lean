import LuaBundler.Bundle.Document
import LuaBundler.Files.Contents
import LuaBundler.SearchPath
import LuaBundler.Source.Require

/-!
# Collecting modules

A bundle is collected from its entry file by a work list of modules to read. Each module is
registered when it is read; the names it requires that were not seen before are marked as seen,
located by the search path, and put in front of the work list in source order.

Names are marked on first sight, so each is registered once, and every name that is ever marked is
required in some file of the tree: the names still unmarked, together with the work list, get fewer
with each step.
-/

namespace LuaBundler.Bundle

open Files Source Text

/-- A module to read: its registration name, its file, and how diagnostics call it. -/
structure Pending where
  name : String
  path : Path
  display : String
  deriving Repr, DecidableEq

/-- Why a bundle cannot be collected. -/
inductive CollectError where
  | moduleNotFound (name requiredBy searched : String)
  | read (path : Path) (cause : FileError)
  deriving Repr, DecidableEq

/-- The wording of each cause. -/
def CollectError.message : CollectError → String
  | moduleNotFound name requiredBy searched =>
    "Could not find module '" ++ name ++ "' required by '" ++ requiredBy ++ "'. Searched: " ++
      searched
  | read path cause => "Failed to read " ++ path.text ++ ": " ++ cause.message

/-- Locates the names among `references` that were not seen, and marks them. -/
def locateNew (locate : String → Option Path) (display searched : String) :
    List String → List Reference → Except CollectError (List Pending × List String)
  | seen, [] => .ok ([], seen)
  | seen, reference :: rest =>
    if reference.name ∈ seen then locateNew locate display searched seen rest
    else
      match locate reference.name with
      | none => .error (.moduleNotFound reference.name display searched)
      | some path =>
        (locateNew locate display searched (reference.name :: seen) rest).map fun (found, seen) =>
          (⟨reference.name, path, reference.name⟩ :: found, seen)

/-- The names that the files of a tree require. -/
def requiredNames (t : Tree) : List String :=
  t.contents.flatMap fun bytes => (discover (lossyString bytes)).literal.map (·.name)

/-- The names that are not marked yet. -/
def unseen (names seen : List String) : List String :=
  names.filter fun name => !seen.contains name

theorem length_unseen_cons_lt {names seen : List String} {name : String} (h : name ∈ names)
    (hs : name ∉ seen) : (unseen names (name :: seen)).length < (unseen names seen).length := by
  have hsplit : unseen names (name :: seen) = (unseen names seen).filter (· != name) := by
    simp only [unseen, List.filter_filter]
    congr 1
    funext other
    by_cases hn : other = name <;> simp [hn]
  rw [hsplit]
  refine List.length_filter_lt_length_iff_exists.2 ⟨name, ?_, by simp⟩
  simp [unseen, h, hs]

/-- What locating new names does with the first reference. -/
theorem locateNew_cons_ok {locate : String → Option Path} {display searched : String}
    {seen seen' : List String} {reference : Reference} {rest : List Reference} {found : List Pending}
    (h : locateNew locate display searched seen (reference :: rest) = .ok (found, seen')) :
    (reference.name ∈ seen ∧ locateNew locate display searched seen rest = .ok (found, seen')) ∨
      (reference.name ∉ seen ∧ ∃ path others, locate reference.name = some path ∧
        locateNew locate display searched (reference.name :: seen) rest = .ok (others, seen') ∧
        found = ⟨reference.name, path, reference.name⟩ :: others) := by
  unfold locateNew at h
  split at h
  · exact .inl ⟨‹_›, h⟩
  · refine .inr ⟨‹_›, ?_⟩
    split at h
    · simp at h
    · rename_i path hlocate
      simp only [Except.map] at h
      split at h
      · simp at h
      · rename_i later hlater
        simp only [Except.ok.injEq, Prod.mk.injEq] at h
        obtain ⟨rfl, rfl⟩ := h
        exact ⟨path, _, hlocate, hlater, rfl⟩

/-- Locating new names takes each of them from the unmarked ones. -/
theorem length_locateNew {locate : String → Option Path} {display searched : String}
    {names seen seen' : List String} {references : List Reference} {found : List Pending}
    (hmem : ∀ r ∈ references, r.name ∈ names)
    (h : locateNew locate display searched seen references = .ok (found, seen')) :
    (unseen names seen').length + found.length ≤ (unseen names seen).length := by
  induction references generalizing seen found with
  | nil =>
    simp only [locateNew, Except.ok.injEq, Prod.mk.injEq] at h
    obtain ⟨rfl, rfl⟩ := h
    simp
  | cons r rest ih =>
    have hrest : ∀ r ∈ rest, r.name ∈ names := fun r hr => hmem r (List.mem_cons_of_mem _ hr)
    rcases locateNew_cons_ok h with ⟨-, hlater⟩ | ⟨hseen, path, others, -, hlater, rfl⟩
    · exact ih hrest hlater
    · have h1 := ih hrest hlater
      have h2 := length_unseen_cons_lt (hmem r (List.mem_cons_self ..)) hseen
      simp only [List.length_cons]
      omega

/-- A module as it is read, the new modules it requires, and the names seen after it. -/
structure Step where
  module : RegisteredModule
  found : List Pending
  seen : List String

/-- Reads one module. -/
def readModule (m : Machine) (dir : Path) (templates : List String) (seen : List String)
    (next : Pending) : Except CollectError Step :=
  match m.read next.path with
  | .error cause => .error (.read next.path cause)
  | .ok bytes =>
    let body := lossyString bytes
    (locateNew (SearchPath.locate m dir templates) next.display
      (String.intercalate ";" templates) seen (discover body).literal).map fun (found, seen) =>
        ⟨⟨next.name, body⟩, found, seen⟩

/-- The names still unmarked when some have been seen. -/
def remaining (m : Machine) (seen : List String) : Nat :=
  (unseen (requiredNames m.tree) seen).length

/-- Reading a module takes the new names from the unmarked ones. -/
theorem remaining_readModule {m : Machine} {dir : Path} {templates seen : List String}
    {next : Pending} {step : Step} (h : readModule m dir templates seen next = .ok step) :
    remaining m step.seen + step.found.length ≤ remaining m seen := by
  unfold readModule at h
  split at h
  · simp at h
  · rename_i bytes hread
    simp only [Except.map] at h
    split at h
    · simp at h
    · rename_i hfound
      simp only [Except.ok.injEq] at h
      subst h
      exact length_locateNew (fun r hr => List.mem_flatMap.2
        ⟨bytes, Machine.mem_contents_of_read hread, List.mem_map_of_mem hr⟩) hfound

/-- Reads the modules of a work list and those that they require. -/
def collectFrom (m : Machine) (dir : Path) (templates : List String) (work : List Pending)
    (seen : List String) : Except CollectError (List RegisteredModule) :=
  match work with
  | [] => .ok []
  | next :: rest =>
    match h : readModule m dir templates seen next with
    | .error e => .error e
    | .ok step =>
      have := remaining_readModule h
      (collectFrom m dir templates (step.found ++ rest) step.seen).map (step.module :: ·)
termination_by remaining m seen + work.length
decreasing_by
  simp only [List.length_append, List.length_cons]
  omega

/-- The bundle of an entry file. -/
def collect (m : Machine) (dir : Path) (templates : List String) (entry : String) :
    Except CollectError Document :=
  (collectFrom m dir templates [⟨rootName, dir.join ⟨entry⟩, entry⟩] [rootName]).map fun modules =>
    { Document.empty with modules }

end LuaBundler.Bundle
