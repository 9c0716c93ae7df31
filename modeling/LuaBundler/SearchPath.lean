import LuaBundler.Files.Machine
import LuaBundler.Text.Blank

/-!
# Search paths

A search path is a list of templates. A module is looked for by putting its name, dots made slashes,
in place of every `?` of a template, and taking the first template that yields a file. In text,
templates are separated by semicolons; blanks around them and empty ones do not count, and a text
without templates stands for the default ones.
-/

namespace LuaBundler.SearchPath

open Text Files

/-- The separator between templates. -/
def separator : Char := ';'

/-- The mark that a template has for the name. -/
def mark : Char := '?'

/-- The templates of a project directory. -/
def defaultTemplates : List String := ["./?.lua", "./?/init.lua"]

/-- The templates that a text gives. -/
def templatesOf (text : String) : List String :=
  match (((splitOn separator text.toList).map trim).filter (· ≠ [])).map String.ofList with
  | [] => defaultTemplates
  | templates => templates

/-- A module name with slashes for dots. -/
def slashed (name : List Char) : List Char :=
  name.map fun c => if c = '.' then '/' else c

/-- A template with a name put in. -/
def instantiate (template name : List Char) : List Char :=
  template.flatMap fun c => if c = mark then slashed name else [c]

/-- The file that a template gives for a name, seen from a directory. -/
def candidate (dir : Path) (name : String) (template : String) : Path :=
  dir.join ⟨String.ofList (instantiate template.toList name.toList)⟩

/-- The first file that the templates give for a name. -/
def locate (m : Machine) (dir : Path) (templates : List String) (name : String) : Option Path :=
  (templates.map (candidate dir name)).find? m.isFile

end LuaBundler.SearchPath
