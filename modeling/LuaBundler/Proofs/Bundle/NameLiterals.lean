import LuaBundler.Proofs.Bundle.TextStripping
import LuaBundler.Proofs.Source.ShortString

/-!
# The names of registrations

The first line of a registration opens with the name as a short string, and that line is all that
Lua has of the name (`registeredName?`). What it reads there is the name, for every name without a
carriage return (`nameLiterals_readBack`). A carriage return stays as it is, breaks the line off for
Lua, and leaves no short string (`not_nameLiterals_readBack_carriageReturn`).
-/

namespace LuaBundler.Bundle

open Text Source

/-- The first line of the registration of a name. -/
def registrationLine (name : String) : String :=
  registerCall ++ quoted name ++ ", " ++ bodyParameters

/-- The name that Lua reads in the first line of a registration: what the first argument denotes, if
that is one short string and the body comes right after it. -/
def registeredName? (line : Bytes) : Option Bytes :=
  let call := encodeString registerCall
  if call.isPrefixOf line then
    (shortString? (line.drop call.length)).bind fun r ↦
      if r.2 = encodeString (", " ++ bodyParameters) then some r.1 else none
  else none

/-- **The line of a registration gives its name**, unless the name has a carriage return. -/
theorem registeredName?_registrationLine (name : String) :
    registeredName? (encodeString (registrationLine name)) =
      if '\r' ∈ name.toList then none else some (encodeString name) := by
  have hline : encodeString (registrationLine name) = encodeString registerCall ++
      (encodeString (quoted name) ++ encodeString (", " ++ bodyParameters)) := by
    simp [encodeString, registrationLine]
  have hcall : (encodeString registerCall).isPrefixOf (encodeString registerCall ++
      (encodeString (quoted name) ++ encodeString (", " ++ bodyParameters))) = true :=
    List.isPrefixOf_iff_prefix.2 (List.prefix_append ..)
  rw [hline, registeredName?, if_pos hcall, List.drop_left, shortString?_quoted]
  split <;> simp

/-- A registration is its first line, and then its body. -/
theorem RegisteredModule.render_eq (x : RegisteredModule) :
    x.render = registrationLine x.name ++ "\n" ++ (endedBody x.body ++ "end)\n") := by
  simp only [RegisteredModule.render, registrationLine, String.append_assoc]

/-- A written name stays on its line. -/
theorem not_mem_quoted (name : String) : '\n' ∉ (quoted name).toList := fun h ↦
  ((mem_quoted_iff name (by decide)).1 h).2 rfl

/-- The first line of a registration is one line. -/
theorem not_mem_registrationLine (name : String) : '\n' ∉ (registrationLine name).toList := by
  have hcall : '\n' ∉ registerCall.toList := by decide
  have hbody : '\n' ∉ bodyParameters.toList := by decide
  simp [registrationLine, hcall, not_mem_quoted name, hbody]

/-- **Names are read back exactly if they have no carriage return.** The written form of such a name
is one short string, which has no line break and denotes the name, and so does the first line of each
registration of a document. The written form of a name with a carriage return has that line break,
and is no short string. Different names have different written forms in any case. -/
theorem nameLiterals_readBack (d : Document) :
    (∀ (name : String) (rest : Bytes), shortString? (encodeString (quoted name) ++ rest) =
      if '\r' ∈ name.toList then none else some (encodeString name, rest)) ∧
    (∀ name : String, '\n' ∉ (quoted name).toList ∧
      ('\r' ∈ (quoted name).toList ↔ '\r' ∈ name.toList)) ∧
    (∀ name other : String, quoted name = quoted other ↔ name = other) ∧
    ∀ before x after, d.modules = before ++ x :: after → ∃ line rest : String,
      d.render = d.prelude ++ String.join (before.map RegisteredModule.render) ++
        (line ++ "\n" ++ rest) ∧ '\n' ∉ line.toList ∧
      registeredName? (encodeString line) =
        if '\r' ∈ x.name.toList then none else some (encodeString x.name) := by
  refine ⟨shortString?_quoted, fun name ↦ ⟨not_mem_quoted name, ?_⟩, fun name other ↦ quoted_inj,
    fun before x after hmodules ↦ ?_⟩
  · rw [mem_quoted_iff name (by decide)]
    exact and_iff_left (by decide)
  -- what comes behind the line is the body and the other registrations
  refine ⟨registrationLine x.name, endedBody x.body ++ "end)\n" ++
    String.join (after.map RegisteredModule.render) ++ d.epilogue, ?_,
    not_mem_registrationLine x.name, registeredName?_registrationLine x.name⟩
  rw [← String.toList_inj, d.toList_render, hmodules]
  simp [blocks, x.render_eq, String.toList_join, List.flatMap_map]

/-- A document with a name that takes every escape. -/
def escapedNames : Document :=
  ⟨prelude, [⟨"__root", "return 1"⟩, ⟨"a\"\\\nb", "return 2\n"⟩], epilogue⟩

/-- A name with a quote, a backslash and a line feed is read back from the document. -/
theorem nameLiterals_readBack_escapedNames :
    escapedNames.modules = [⟨"__root", "return 1"⟩] ++ ⟨"a\"\\\nb", "return 2\n"⟩ :: [] ∧
      ∃ line rest : String,
        escapedNames.render = prelude ++ String.join ([⟨"__root", "return 1"⟩].map
          RegisteredModule.render) ++ (line ++ "\n" ++ rest) ∧ '\n' ∉ line.toList ∧
        registeredName? (encodeString line) = some (encodeString "a\"\\\nb") := by
  refine ⟨rfl, ?_⟩
  obtain ⟨line, rest, hrender, hline, hname⟩ :=
    (nameLiterals_readBack escapedNames).2.2.2 [⟨"__root", "return 1"⟩]
      ⟨"a\"\\\nb", "return 2\n"⟩ [] rfl
  exact ⟨line, rest, hrender, hline, hname⟩

/-- **A name with a carriage return is not read back**: its written form has a line break, and is no
short string. -/
theorem not_nameLiterals_readBack_carriageReturn :
    ¬∀ name : String, (∀ b : Char, b = '\n' ∨ b = '\r' → b ∉ (quoted name).toList) ∧
      shortString? (encodeString (quoted name)) = some (encodeString name, []) := by
  intro h
  have hnone : shortString? (encodeString (quoted "a\rb")) = none := by decide +kernel
  have hread := (h "a\rb").2
  rw [hnone] at hread
  simp at hread

end LuaBundler.Bundle
