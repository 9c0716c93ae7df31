/-!
# Environments

The environment of a process maps variable names to values. It is a list of pairs in which the first
pair of a name counts; setting a variable drops the pairs it had.
-/

namespace LuaBundler

/-- Variables and their values. -/
abbrev Environment := List (String × String)

namespace Environment

/-- The value of a variable. -/
def get? (env : Environment) (name : String) : Option String :=
  List.lookup name env

/-- The environment with a variable set. -/
def set (env : Environment) (name value : String) : Environment :=
  (name, value) :: env.filter fun v => v.1 != name

/-- The environment with variables set one after another. -/
def setAll (env : Environment) (vars : List (String × String)) : Environment :=
  vars.foldl (fun env v => env.set v.1 v.2) env

/-- The value of a variable, an empty one counting as none. -/
def nonempty? (env : Environment) (name : String) : Option String :=
  (env.get? name).filter (· ≠ "")

@[simp] theorem get?_set_self (env : Environment) (name value : String) :
    (env.set name value).get? name = some value := by
  simp [get?, set]

end Environment

end LuaBundler
