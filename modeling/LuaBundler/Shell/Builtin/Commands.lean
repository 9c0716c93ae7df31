import LuaBundler.Shell.Builtin.Basic
import LuaBundler.Shell.Lookup

/-!
# Builtins: commands

What commands are and where programs have been found, and aliases.
-/

namespace LuaBundler.Shell.Builtin

open LuaBundler.System LuaBundler.Text

/-! ### Aliases -/

/-- The definition of an alias. -/
def aliasLine (name text : String) : String :=
  name ++ "=" ++ quoted text ++ "\n"

/-- An argument taken apart at the first equals sign after its first character. -/
def splitAlias (arg : String) : Option (String × String) :=
  match arg.toList with
  | [] => none
  | c :: cs =>
    let name := cs.takeWhile (· ≠ '=')
    match cs.drop name.length with
    | _ :: text => some (String.ofList (c :: name), String.ofList text)
    | [] => none

/-- Defines aliases, or shows them. -/
def defineAliases (args : List String) : Sh Nat := do
  if args.isEmpty then
    for (name, text) in (← Sh.get).aliases.mergeSort fun a b => chain a.1 ≤ chain b.1 do
      Sh.print (aliasLine name text)
    return 0
  else
    let mut status := 0
    for arg in args do
      match splitAlias arg with
      | some (name, text) =>
        Sh.modify fun s => { s with aliases := Shell.putEntry name text s.aliases }
      | none =>
        match (← Sh.get).aliases.lookup arg with
        | some text => Sh.print (aliasLine arg text)
        | none =>
          Sh.writeError ("alias: " ++ arg ++ " not found\n")
          status := 1
    return status
where
  /-- The chain that an alias is kept in. -/
  chain (name : String) : Nat := Shell.chainOf 39 name

/-- Takes aliases away. -/
def unalias (args : List String) : Sh Nat := do
  let (opts, names) ← options "a" args
  if !opts.isEmpty then
    Sh.modify fun s => { s with aliases := [] }
    return 0
  else
    let mut status := 0
    for name in names do
      if ((← Sh.get).aliases.lookup name).isSome then
        Sh.modify fun s => { s with aliases := Shell.dropEntry name s.aliases }
      else
        Sh.writeError ("unalias: " ++ name ++ " not found\n")
        status := 1
    return status

/-! ### What commands are -/

/-- Says what a command is: in a sentence, or just how it is called. -/
def describe (path? : Option String) (isVerbose : Bool) (name : String) : Sh Nat := do
  let say (sentence plain : String) : Sh Nat := do
    Sh.print ((if isVerbose then name ++ sentence else plain) ++ "\n")
    return 0
  let s ← Sh.get
  if keywords.any (·.1 == name) then say " is a shell keyword" name
  else match s.aliases.lookup name with
    | some text => say (" is an alias for " ++ text) ("alias " ++ name ++ "=" ++ quoted text)
    | none =>
      let path := path?.getD (searchPath s)
      let isTracked := path?.isNone && (s.located.lookup name).isSome
      let found ← match (if path?.isNone then s.located.lookup name else none) with
        | some l => do
          if (s.functions.lookup name).isSome then find { path, checksPath := true } name
          else pure (.program l.index)
        | none => find { path, checksPath := true } name
      match found with
      | .function _ => say " is a shell function" name
      | .builtin =>
        say (if specialNames.contains name then " is a special shell builtin"
          else " is a shell builtin") name
      | .path => say (" is " ++ name) name
      | .program index =>
        let program := foundPath path name index
        say ((if isTracked then " is a tracked alias for " else " is ") ++ program) program
      | .unknown =>
        if isVerbose then Sh.print (name ++ ": not found\n")
        return 127

/-- Says what commands are. -/
def type (args : List String) : Sh Nat := do
  let mut status := 0
  for name in args do
    if (← describe none true name) ≠ 0 then status := 127
  return status

/-- Says what a command is; it is not run. -/
def command (args : List String) : Sh Nat := do
  let (opts, args) ← options "pvV" args
  let has (c : Char) : Bool := opts.any (·.1 == c)
  match args with
  | name :: _ =>
    if has 'v' || has 'V' then
      describe (if has 'p' then some safePath else none) (has 'V') name
    else return 0
  | [] => return 0

/-! ### Where programs have been found -/

/-- Shows where programs have been found, or finds some anew. -/
def hash (args : List String) : Sh Nat := do
  let (opts, names) ← options "r" args
  let s ← Sh.get
  if !opts.isEmpty then
    Sh.set { s with located := [] }
    return 0
  else if names.isEmpty then
    let chain (l : String × Located) : Nat := Shell.chainOf 31 l.1
    for (name, l) in s.located.mergeSort fun a b => chain a ≤ chain b do
      Sh.print (foundPath (searchPath s) name l.index ++ (if l.isStale then "*" else "") ++ "\n")
    return 0
  else
    let mut status := 0
    for name in names do
      Sh.modify fun s => { s with located := Shell.dropEntry name s.located }
      match ← find { path := searchPath (← Sh.get), complains := true } name with
      | .unknown => status := 1
      | _ => pure ()
    return status

end LuaBundler.Shell.Builtin
