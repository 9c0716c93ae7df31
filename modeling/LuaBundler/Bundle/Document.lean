import LuaBundler.Bundle.Prelude

/-!
# Bundle documents

A bundle document is a prelude, a list of registered modules and an epilogue; its text is their
concatenation, each module as a registration block. A bundle that came as text alone is kept as it
is. `find?`, `push` and `erase` act on the list of modules, and the lemmas say what each does to the
names.

Names stand in the text as short Lua strings between double quotes. A double quote and a backslash
get a backslash in front, a line feed is written `\n`, and every other character stands for itself.
-/

namespace LuaBundler.Source

/-- The written form of one character. -/
def quotedChar (c : Char) : List Char :=
  if c = '"' ∨ c = '\\' then ['\\', c]
  else if c = '\n' then ['\\', 'n']
  else [c]

/-- The written form of the characters of a name. -/
def quotedBody (cs : List Char) : List Char :=
  cs.flatMap quotedChar

/-- A name as a short Lua string. -/
def quoted (name : String) : String :=
  String.ofList ('"' :: quotedBody name.toList ++ ['"'])

end LuaBundler.Source

namespace LuaBundler.Bundle

/-- A module body under the name it is required by. -/
structure RegisteredModule where
  name : String
  body : String
  deriving Repr, DecidableEq

/-- A bundle as parts. -/
structure Document where
  prelude : String
  modules : List RegisteredModule
  epilogue : String
  deriving Repr, DecidableEq

/-- What a bundling engine hands back: a document, or text it does not take apart. -/
inductive Output where
  | structured (document : Document)
  | text (text : String)
  deriving Repr, DecidableEq

/-- The standard epilogue: it requires the entry module. -/
def epilogue : String :=
  rootRequireCall ++ Source.quoted rootName ++ ")\n"

/-- A module body, with a line feed after a last line that has none. -/
def endedBody (body : String) : String :=
  match body.toList.getLast? with
  | none => body
  | some c => if c = '\n' then body else body.push '\n'

/-- A module as a registration block. -/
def RegisteredModule.render (m : RegisteredModule) : String :=
  registerCall ++ Source.quoted m.name ++ ", " ++ bodyParameters ++ "\n" ++ endedBody m.body ++
    "end)\n"

namespace Document

/-- The document with the standard runtime and no module. -/
def empty : Document := ⟨Bundle.prelude, [], Bundle.epilogue⟩

/-- The names of the modules, in registration order. -/
def names (d : Document) : List String :=
  d.modules.map (·.name)

/-- Registers a module after the others. -/
def push (d : Document) (name body : String) : Document :=
  { d with modules := d.modules ++ [⟨name, body⟩] }

/-- The first module of a name. -/
def find? (d : Document) (name : String) : Option RegisteredModule :=
  d.modules.find? fun m => m.name == name

/-- The document without the modules of a name. -/
def erase (d : Document) (name : String) : Document :=
  { d with modules := d.modules.filter fun m => m.name != name }

/-- The text of a document. -/
def render (d : Document) : String :=
  d.prelude ++ String.join (d.modules.map RegisteredModule.render) ++ d.epilogue

@[simp] theorem names_push (d : Document) (name body : String) :
    (d.push name body).names = d.names ++ [name] := by
  simp [names, push]

/-- Erasing a name takes exactly its occurrences out of the names. -/
theorem names_erase (d : Document) (name : String) :
    (d.erase name).names = d.names.filter (· != name) := by
  simp [names, erase, List.filter_map, Function.comp_def]

theorem find?_isSome (d : Document) (name : String) :
    (d.find? name).isSome = true ↔ name ∈ d.names := by
  simp [find?, names]

end Document

/-- The bundle as Lua text. -/
def Output.render : Output → String
  | .structured d => d.render
  | .text t => t

end LuaBundler.Bundle
