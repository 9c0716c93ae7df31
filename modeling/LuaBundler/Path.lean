import LuaBundler.Text.Split

/-!
# Paths

A path is a text; its components are what the text means. Slashes that repeat or trail, and `.`
after the start, carry no component, so one list of components has many texts. Joining, cutting off
the last component and cutting off a leading path act on the text and keep what they do not touch;
comparison is by components (`Path.same`).

A text is taken apart into a head (the root slash or a leading `.`) and the pieces of its body
between slashes; a piece that is empty or `.` is idle.
-/

namespace LuaBundler

open Text

/-- A path, as it is written. -/
structure Path where
  text : String
  deriving Repr, DecidableEq, Inhabited

/-- What a path means, step by step. -/
inductive Component where
  | root
  | current
  | parent
  | name (text : String)
  deriving Repr, DecidableEq

namespace Path

/-- A piece of a path body that carries no component. -/
def isIdle (piece : List Char) : Bool :=
  piece = [] || piece = ['.']

/-- Whether a path starts at the root. -/
def isAbsolute (p : Path) : Bool :=
  p.text.toList.head? = some '/'

/-- What a path starts with: the root slash, a leading `.`, or nothing. -/
def head (p : Path) : List Char :=
  if p.isAbsolute then ['/']
  else if (splitOn '/' p.text.toList).head? = some ['.'] then ['.']
  else []

/-- The pieces of a path after its head. -/
def body (p : Path) : List (List Char) :=
  splitOn '/' (p.text.toList.drop p.head.length)

/-- The pieces without the idle ones at the end. -/
def trimIdleEnd (pieces : List (List Char)) : List (List Char) :=
  (pieces.reverse.dropWhile isIdle).reverse

/-- The pieces of the body, idle ones at the end left out. -/
def trimmedBody (p : Path) : List (List Char) :=
  trimIdleEnd p.body

/-- The path of a head and the pieces of a body. -/
def ofPieces (head : List Char) (pieces : List (List Char)) : Path :=
  ⟨String.ofList (head ++ Text.join '/' pieces)⟩

/-- The component of a piece that is not idle. -/
def componentOf (piece : List Char) : Component :=
  if piece = ['.', '.'] then .parent else .name (String.ofList piece)

/-- The component of a head, if it carries one. -/
def headComponents (head : List Char) : List Component :=
  match head with
  | '/' :: _ => [.root]
  | '.' :: _ => [.current]
  | _ => []

/-- The components of a path. -/
def components (p : Path) : List Component :=
  headComponents p.head ++ (p.body.filter fun piece => !isIdle piece).map componentOf

/-- Whether two paths have the same components. -/
def same (p q : Path) : Bool :=
  p.components = q.components

/-- Whether two paths are the same as paths is a matter of their components alone. -/
theorem same_iff (p q : Path) : p.same q = true ↔ p.components = q.components := by
  simp [same]

@[simp] theorem same_refl (p : Path) : p.same p = true := by
  simp [same]

/-! ### Building paths -/

/-- The path `q` seen from `p`: an absolute `q` stands for itself, and otherwise a slash is put
between the two unless `p` is empty or ends in one. -/
def join (p q : Path) : Path :=
  if q.isAbsolute then q
  else match p.text.toList.getLast? with
    | none => q
    | some c => if c = '/' then ⟨p.text ++ q.text⟩ else ⟨p.text ++ "/" ++ q.text⟩

/-- The path with an extension put after its last character. -/
def withSuffix (p : Path) (extension : String) : Path :=
  ⟨p.text ++ "." ++ extension⟩

/-! ### Taking paths apart -/

/-- The path without its last component; the root and the empty path have none. -/
def parent? (p : Path) : Option Path :=
  match p.trimmedBody with
  | [] => if p.head = ['.'] then some ⟨""⟩ else none
  | pieces => some (ofPieces p.head (trimIdleEnd pieces.dropLast))

/-- The last component, if it is a name. -/
def fileName? (p : Path) : Option String :=
  match p.trimmedBody.getLast? with
  | some piece => if piece = ['.', '.'] then none else some (String.ofList piece)
  | none => none

/-- The path and those that cutting off last components leaves, at most `steps` times. -/
def ancestorsWithin : Nat → Path → List Path
  | 0, p => [p]
  | steps + 1, p =>
    match p.parent? with
    | some q => p :: ancestorsWithin steps q
    | none => [p]

/-- The path and all that cutting off last components leaves. -/
def ancestors (p : Path) : List Path :=
  ancestorsWithin (p.components.length + 1) p

/-- The pieces after the first `count` that are not idle. -/
def dropPieces : Nat → List (List Char) → List (List Char)
  | 0, pieces => pieces
  | _ + 1, [] => []
  | count + 1, piece :: pieces =>
    if isIdle piece then dropPieces (count + 1) pieces else dropPieces count pieces

/-- The path relative to a leading path, if `base` is one. -/
def relativeTo? (p base : Path) : Option Path :=
  if base.components.isPrefixOf p.components then
    if base.components = [] then some (ofPieces p.head p.trimmedBody)
    else
      let passed := base.components.length - (headComponents base.head).length
      some (ofPieces [] ((dropPieces passed p.trimmedBody).dropWhile isIdle))
  else none

/-- The path relative to a leading path, or the path itself. -/
def relativeTo (p base : Path) : Path :=
  (p.relativeTo? base).getD p

/-- The extension of a file name: what follows its last dot, unless that dot starts the name. -/
def extensionOf? (name : String) : Option String :=
  match name.toList.reverse.span (· ≠ '.') with
  | (_, []) => none
  | (_, [_]) => none
  | (tail, _) => some (String.ofList tail.reverse)

/-- The extension of the last component. -/
def extension? (p : Path) : Option String :=
  p.fileName?.bind extensionOf?

/-! ### Absolute paths -/

/-- The text of a component. -/
def componentText : Component → String
  | .root => "/"
  | .current => "."
  | .parent => ".."
  | .name text => text

/-- Joins components one after another. -/
def extend (p : Path) (cs : List Component) : Path :=
  cs.foldl (fun q c => q.join ⟨componentText c⟩) p

/-- The path made absolute from a directory without looking at files: idle pieces go, `..` stays,
two leading slashes and a trailing slash are kept. The empty path has no absolute form. -/
def absolute? (p cwd : Path) : Option Path :=
  let cs := p.text.toList
  if cs = [] then none
  else
    let steps := match p.components with
      | .current :: rest => rest
      | all => all
    let made :=
      if p.isAbsolute then
        if cs.take 2 = ['/', '/'] ∧ cs[2]? ≠ some '/' then extend ⟨"//"⟩ (steps.drop 1)
        else extend ⟨""⟩ steps
      else extend cwd steps
    some (if cs.getLast? = some '/' then made.join ⟨""⟩ else made)

end Path

end LuaBundler
