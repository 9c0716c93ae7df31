/-!
# The prelude of a bundle

The fixed Lua text around the registered modules of a bundle: the prelude, which registers module
bodies and resolves `require` inside the bundle, and the epilogue, which starts the entry module. A
name that no registration provides falls through to the `require` of the host.
-/

namespace LuaBundler.Bundle

/-- The lines of the standard prelude. -/
def preludeLines : List String := [
  "local __bundle_require, __bundle_loaded, __bundle_register, __bundle_modules = " ++
    "(function(superRequire)",
  "\tlocal loadingPlaceholder = \x7b[\x7b\x7d] = true\x7d",
  "",
  "\tlocal register",
  "\tlocal modules = \x7b\x7d",
  "",
  "\tlocal require",
  "\tlocal loaded = \x7b\x7d",
  "",
  "\tregister = function(name, body)",
  "\t\tif not modules[name] then",
  "\t\t\tmodules[name] = body",
  "\t\tend",
  "\tend",
  "",
  "\trequire = function(name)",
  "\t\tlocal loadedModule = loaded[name]",
  "",
  "\t\tif loadedModule then",
  "\t\t\tif loadedModule == loadingPlaceholder then",
  "\t\t\t\treturn nil",
  "\t\t\tend",
  "\t\telse",
  "\t\t\tif not modules[name] then",
  "\t\t\t\tif not superRequire then",
  "\t\t\t\t\tlocal identifier = type(name) == 'string' and '\\\"' .. name .. '\\\"' " ++
    "or tostring(name)",
  "\t\t\t\t\terror('Tried to require ' .. identifier .. " ++
    "', but no such module has been registered')",
  "\t\t\t\telse",
  "\t\t\t\t\treturn superRequire(name)",
  "\t\t\t\tend",
  "\t\t\tend",
  "",
  "\t\t\tloaded[name] = loadingPlaceholder",
  "\t\t\tloadedModule = modules[name](require, loaded, register, modules)",
  "\t\t\tloaded[name] = loadedModule",
  "\t\tend",
  "",
  "\t\treturn loadedModule",
  "\tend",
  "",
  "\treturn require, loaded, register, modules",
  "end)(require)"
]

/-- The standard prelude: its lines, each ended by a line feed. -/
def prelude : String :=
  String.join (preludeLines.map fun line => line ++ "\n")

/-- The text that opens a registration block. -/
def registerCall : String := "__bundle_register("

/-- The text that opens the epilogue. -/
def rootRequireCall : String := "return __bundle_require("

/-- The parameters of a registered module body. -/
def bodyParameters : String :=
  "function(require, _LOADED, __bundle_register, __bundle_modules)"

/-- The name under which the entry module is registered. -/
def rootName : String := "__root"

end LuaBundler.Bundle
