import LuaBundler.Source.Segment
import LuaBundler.Text.Blank
import LuaBundler.Text.Word

/-!
# Requires in Lua text

A call site is the word `require` at a word boundary, followed by blanks and one of: a quoted name
alone in parentheses, a quoted name, or parentheses on one line that hold anything without a closing
one. Sites are looked for in the masked text from left to right, and the search goes on after the
end of each site (`sitesFrom`), so sites do not overlap.

`discover` keeps the sites that are neither field nor method accesses nor inside a string literal,
and sorts them by argument: literal names, and expressions.
-/

namespace LuaBundler.Source

open LuaBundler.Text

/-- What a call site passes to `require`. -/
inductive Argument where
  | name (text : List Char)
  | expression (text : List Char)
  deriving Repr, DecidableEq

/-! ### One call site

A reader looks at the start of a text. It gives what it found there and the number of characters that
this takes. -/

/-- How many blanks a text starts with. -/
def blanks (cs : List Char) : Nat :=
  (cs.takeWhile isBlank).length

/-- A character that a quoted name between `quote`s may hold. -/
def isNameChar (quote c : Char) : Bool :=
  c ≠ quote && c ≠ '\\' && c ≠ '\n'

/-- A name between two quotes of one kind. -/
def quotedName? : List Char → Option (List Char × Nat)
  | [] => none
  | q :: cs =>
    let name := cs.takeWhile (isNameChar q)
    if (q = '"' ∨ q = '\'') ∧ (cs.drop name.length).head? = some q then
      some (name, name.length + 2)
    else none

/-- A quoted name, blanks around it, and a closing parenthesis. -/
def enclosedName? (cs : List Char) : Option (List Char × Nat) :=
  let start := blanks cs
  match quotedName? (cs.drop start) with
  | none => none
  | some (name, size) =>
    let stop := start + size + blanks (cs.drop (start + size))
    if (cs.drop stop).head? = some ')' then some (name, stop + 1) else none

/-- A character that an expression argument may hold. -/
def isExpressionChar (c : Char) : Bool :=
  c ≠ ')' && c ≠ '\n'

/-- The text up to a closing parenthesis on the same line, and that parenthesis. -/
def expression? (cs : List Char) : Option (List Char × Nat) :=
  let text := cs.takeWhile isExpressionChar
  if (cs.drop text.length).head? = some ')' then some (text, text.length + 1) else none

/-- The argument of a call, after the word `require` and blanks. -/
def argument? : List Char → Option (Argument × Nat)
  | '(' :: cs =>
    match enclosedName? cs with
    | some (name, size) => some (.name name, size + 1)
    | none => (expression? cs).map fun (text, size) => (.expression text, size + 1)
  | cs => (quotedName? cs).map fun (name, size) => (.name name, size)

/-- The word that a call starts with. -/
def keyword : List Char := ['r', 'e', 'q', 'u', 'i', 'r', 'e']

/-- A call. -/
def call? (cs : List Char) : Option (Argument × Nat) :=
  if keyword.isPrefixOf cs then
    let start := keyword.length + blanks (cs.drop keyword.length)
    (argument? (cs.drop start)).map fun (argument, size) => (argument, start + size)
  else none

/-- A call is the word `require`, blanks and an argument. -/
theorem eq_of_call? {cs : List Char} {a : Argument} {size : Nat} (h : call? cs = some (a, size)) :
    ∃ tail width, cs = keyword ++ tail ∧ argument? (tail.drop (blanks tail)) = some (a, width) ∧
      size = keyword.length + blanks tail + width := by
  unfold call? at h
  split at h
  · rename_i hkeyword
    obtain ⟨tail, rfl⟩ := List.isPrefixOf_iff_prefix.1 hkeyword
    obtain ⟨⟨a, width⟩, hargument, heq⟩ := Option.map_eq_some_iff.1 h
    obtain ⟨rfl, rfl⟩ := Prod.mk.inj heq
    rw [List.drop_left, ← List.drop_drop, List.drop_left] at hargument
    exact ⟨tail, width, rfl, hargument, by rw [List.drop_left]⟩
  · simp at h

/-- A call takes the word `require` at least. -/
theorem length_keyword_le_of_call? {cs : List Char} {a : Argument} {size : Nat}
    (h : call? cs = some (a, size)) : keyword.length ≤ size := by
  obtain ⟨tail, width, -, -, rfl⟩ := eq_of_call? h
  omega

/-! ### All call sites of a text -/

/-- A call with the place of its first character and the character before it. -/
structure CallSite where
  before : Option Char
  position : Position
  argument : Argument
  deriving Repr, DecidableEq

/-- Whether a word may start after a character. -/
def startsWord (before : Option Char) : Bool :=
  before.all fun c => !isWord c

/-- A call at a word boundary, after the character `before`. -/
def callAfter? (before : Option Char) (cs : List Char) : Option (Argument × Nat) :=
  if startsWord before then call? cs else none

theorem pos_of_callAfter? {before : Option Char} {cs : List Char} {a : Argument} {size : Nat}
    (h : callAfter? before cs = some (a, size)) : 0 < size := by
  unfold callAfter? at h
  split at h
  · exact Nat.lt_of_lt_of_le (by decide) (length_keyword_le_of_call? h)
  · simp at h

/-- The call sites of a text that is read from `position` on, after the character `before`. -/
def sitesFrom (before : Option Char) (position : Position) (cs : List Char) : List CallSite :=
  match cs with
  | [] => []
  | c :: rest =>
    match _ : callAfter? before (c :: rest) with
    | some (argument, size) =>
      let taken := (c :: rest).take size
      ⟨before, position, argument⟩ ::
        sitesFrom taken.getLast? (position.pass taken) ((c :: rest).drop size)
    | none => sitesFrom (some c) (position.advance c) rest
termination_by cs.length
decreasing_by
  · have := pos_of_callAfter? ‹callAfter? before (c :: rest) = some (argument, size)›
    simp only [List.length_drop, List.length_cons]
    omega
  · simp only [List.length_cons]
    omega

/-- The call sites of a masked text. -/
def sites (cs : List Char) : List CallSite :=
  sitesFrom none .start cs

/-- A site that is neither a field nor a method access. -/
def CallSite.isFree (site : CallSite) : Bool :=
  site.before ≠ some '.' && site.before ≠ some ':'

/-! ### Discovery -/

/-- A `require` of a literal name, and where it stands. -/
structure Reference where
  name : String
  line : Nat
  column : Nat
  deriving Repr, DecidableEq

/-- A `require` of an expression, and where it stands. -/
structure DynamicRequire where
  expression : String
  line : Nat
  column : Nat
  deriving Repr, DecidableEq

/-- The requires of a source text, each kind in source order. -/
structure Requires where
  literal : List Reference
  dynamic : List DynamicRequire
  deriving Repr, DecidableEq

/-- The literal require at a site, if it is one. -/
def CallSite.reference? (site : CallSite) : Option Reference :=
  match site.argument with
  | .name text => some ⟨String.ofList text, site.position.line, site.position.column⟩
  | .expression _ => none

theorem CallSite.reference?_eq_some_iff {site : CallSite} {ref : Reference} :
    site.reference? = some ref ↔ ∃ name, site.argument = .name name ∧
      ref = ⟨String.ofList name, site.position.line, site.position.column⟩ := by
  unfold reference?
  split <;> simp_all [eq_comm]

/-- The dynamic require at a site, if it is one; blanks around the expression are dropped. -/
def CallSite.dynamic? (site : CallSite) : Option DynamicRequire :=
  match site.argument with
  | .name _ => none
  | .expression text =>
    some ⟨String.ofList (trim text), site.position.line, site.position.column⟩

/-- The sites of a text that are requires: free, and outside string literals. -/
def requireSites (cs : List Char) : List CallSite :=
  let ranges := literals cs
  (sites (masked cs)).filter fun site =>
    site.isFree && !covered ranges site.position.offset

/-- Every require of a source text. -/
def discover (source : String) : Requires :=
  let found := requireSites source.toList
  ⟨found.filterMap CallSite.reference?, found.filterMap CallSite.dynamic?⟩

end LuaBundler.Source
