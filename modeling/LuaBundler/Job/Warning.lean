import LuaBundler.Path
import LuaBundler.Text.Digits

/-!
# Warnings

What a job reports without failing, and how each warning is worded.
-/

namespace LuaBundler

open Text

/-- Something a job reports without failing. -/
inductive Warning where
  /-- A require that leads back to a module still being read. -/
  | cycle (path : Path)
  /-- A runtime module that got no stub. -/
  | stubCreation (module reason : String)
  /-- A stub or a stub directory that could not be removed. -/
  | cleanup (path : Path) (reason : String)
  /-- A require whose argument is not a literal name. -/
  | dynamicRequire (path : Path) (line column : Nat) (expression : String)
  /-- Two module files whose paths differ only by case. -/
  | caseCollision (first second : Path)
  /-- No compiler was found for the syntax check. -/
  | validatorUnavailable
  /-- A runtime module that the bundle does not register. -/
  | missingRegistration (module : String)
  deriving Repr, DecidableEq

/-- The wording of each warning. -/
def Warning.message : Warning → String
  | cycle path => "circular require detected at " ++ path.text
  | stubCreation module reason =>
    "could not create stub for runtime module '" ++ module ++ "': " ++ reason
  | cleanup path reason => "could not remove stub " ++ path.text ++ ": " ++ reason
  | dynamicRequire path line column expression =>
    "non-literal require(" ++ expression ++ ") in " ++ path.text ++ " at " ++ decimal line ++ ":" ++
      decimal column
  | caseCollision first second => first.text ++ " and " ++ second.text ++ " differ only by case"
  | validatorUnavailable => "Lua compiler not found, syntax validation skipped"
  | missingRegistration module =>
    "no registration block for runtime module '" ++ module ++ "' in bundle"

end LuaBundler
