import LuaBundler.Files.Machine

/-!
# Entry files

A project is entered through `Main.lua`, or the same name in lower or upper case. An entry file of
any other name stands alone: it is deployed as it is.
-/

namespace LuaBundler.Entry

open Files

/-- The names of entry files, the first one preferred. -/
def candidates : List String := ["Main.lua", "main.lua", "MAIN.LUA"]

/-- The entry file of a project. -/
def find? (m : Machine) (project : Path) : Option String :=
  candidates.find? fun name => m.isFile (project.join ⟨name⟩)

/-- A text with its ASCII letters in lower case. -/
def foldCase (s : String) : String :=
  s.map Char.toLower

/-- Whether an entry file stands alone. -/
def isSingleFile (entry : String) : Bool :=
  let name := (Path.fileName? ⟨entry⟩).getD entry
  !candidates.any fun candidate => foldCase candidate == foldCase name

end LuaBundler.Entry
