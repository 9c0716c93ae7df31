import LuaBundler.Path

/-!
# Module names

A module is required by a dotted name. A name whose segments are all nonempty and free of slashes
and backslashes has a stem, the relative path of its segments; other names denote no file. Under a
root a module is looked for in two places, `<stem>.lua` and then `<stem>/init.lua`.
-/

namespace LuaBundler.ModuleName

open Text

/-- The extension of script modules. -/
def moduleExtension : String := "lua"

/-- The file name of the entry module of a package, without its extension. -/
def packageInit : String := "init"

/-- Whether a segment of a name may be a path component. -/
def isSegment (segment : List Char) : Bool :=
  segment ≠ [] && segment ≠ ['.', '.'] && segment.all fun c => c ≠ '/' && c ≠ '\\'

/-- The relative path of a name, without an extension. -/
def stem? (name : String) : Option Path :=
  let segments := splitOn '.' name.toList
  if segments.all isSegment then some ⟨String.ofList (Text.join '/' segments)⟩ else none

/-- The file of a stem under a root: the plain form. -/
def plainFile (root stem : Path) : Path :=
  (root.join stem).withSuffix moduleExtension

/-- The file of a stem under a root: the package form. -/
def packageFile (root stem : Path) : Path :=
  ((root.join stem).join ⟨packageInit⟩).withSuffix moduleExtension

/-- The files a module may have under a root, the first one preferred. -/
def candidates (root stem : Path) : List Path :=
  [plainFile root stem, packageFile root stem]

end LuaBundler.ModuleName
