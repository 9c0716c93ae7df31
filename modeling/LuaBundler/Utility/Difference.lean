/-!
# Differences of sequences

Which elements of two sequences have to be taken out of the first one and put into the second one so
that the same is left of both. Two searches for the longest common part, one from the start and one
from the end, meet in the middle, and both halves are searched in turn; then runs of changes are
moved as far towards the end as they can go, so that they meet other runs.

Elements are told apart by number.
-/

namespace LuaBundler.Utility.Difference

/-- Which elements of two sequences have been changed. -/
structure Marks where
  first : Array Bool
  second : Array Bool

/-! ### Common parts -/

/-- A rectangle of two sequences: from a position of each to another one. -/
structure Area where
  x : Nat
  xEnd : Nat
  y : Nat
  yEnd : Nat

/-- The diagonals that two searches have reached: how far on each, and which ones. -/
structure Reach where
  values : Array Int
  least : Int
  most : Int

/-- What a search knows of an area: two sequences, the bounds of diagonals, and where the entries of
diagonals start. -/
structure Field where
  first : Array Nat
  second : Array Nat
  area : Area
  least : Int
  most : Int
  base : Int

namespace Field

/-- The entry of a diagonal. -/
def entry (f : Field) (r : Reach) (d : Int) : Int :=
  r.values.getD (d + f.base).toNat 0

/-- The reach with the entry of a diagonal set. -/
def setEntry (f : Field) (r : Reach) (d v : Int) : Reach :=
  { r with values := r.values.setIfInBounds (d + f.base).toNat v }

/-- Whether two elements are the same. -/
def same (f : Field) (x y : Int) : Bool :=
  f.first.getD x.toNat 0 == f.second.getD y.toNat 0

/-- How far two sequences go on being the same from a place on. -/
def slideOn (f : Field) (d : Int) : Nat → Int → Int
  | 0, x => x
  | steps + 1, x =>
    if x < f.area.xEnd ∧ x - d < f.area.yEnd ∧ f.same x (x - d) then f.slideOn d steps (x + 1) else x

/-- How far two sequences are the same back from a place. -/
def slideBack (f : Field) (d : Int) : Nat → Int → Int
  | 0, x => x
  | steps + 1, x =>
    if (f.area.x : Int) < x ∧ (f.area.y : Int) < x - d ∧ f.same (x - 1) (x - d - 1) then
      f.slideBack d steps (x - 1)
    else x

/-- A reach with one more diagonal on either side, or one less where there are no more. -/
def widen (f : Field) (r : Reach) (blank : Int) : Reach :=
  let r := if f.least < r.least then f.setEntry { r with least := r.least - 1 } (r.least - 2) blank
    else { r with least := r.least + 1 }
  if r.most < f.most then f.setEntry { r with most := r.most + 1 } (r.most + 2) blank
  else { r with most := r.most - 1 }

/-- Goes one step further from the start on each diagonal; gives the place where the searches
meet. -/
def stepOn (f : Field) (isOdd : Bool) (back : Reach) : Nat → Int → Reach → Reach × Option (Int × Int)
  | 0, _, r => (r, none)
  | steps + 1, d, r =>
    if d < r.least then (r, none)
    else
      let low := f.entry r (d - 1)
      let high := f.entry r (d + 1)
      let start := if low < high then high else low + 1
      let x := f.slideOn d (f.area.xEnd - f.area.x + 1) start
      let r := f.setEntry r d x
      if isOdd && back.least ≤ d && d ≤ back.most && f.entry back d ≤ x then (r, some (x, x - d))
      else f.stepOn isOdd back steps (d - 2) r

/-- Goes one step further back from the end on each diagonal. -/
def stepBack (f : Field) (isOdd : Bool) (on : Reach) : Nat → Int → Reach → Reach × Option (Int × Int)
  | 0, _, r => (r, none)
  | steps + 1, d, r =>
    if d < r.least then (r, none)
    else
      let low := f.entry r (d - 1)
      let high := f.entry r (d + 1)
      let start := if low < high then low else high - 1
      let x := f.slideBack d (f.area.xEnd - f.area.x + 1) start
      let r := f.setEntry r d x
      if !isOdd && on.least ≤ d && d ≤ on.most && x ≤ f.entry on d then (r, some (x, x - d))
      else f.stepBack isOdd on steps (d - 2) r

/-- The place where the two searches meet. -/
def meeting (f : Field) (isOdd : Bool) (far : Int) : Nat → Reach → Reach → Int × Int
  | 0, _, _ => (f.area.x, f.area.y)
  | steps + 1, on, back =>
    let on := f.widen on (-1)
    let count := (on.most - on.least).toNat + 1
    match f.stepOn isOdd back count on.most on with
    | (_, some place) => place
    | (on, none) =>
      let back := f.widen back far
      let count := (back.most - back.least).toNat + 1
      match f.stepBack isOdd on count back.most back with
      | (_, some place) => place
      | (back, none) => f.meeting isOdd far steps on back

end Field

/-- A place in the middle of a shortest way through an area. -/
def middle (first second : Array Nat) (a : Area) : Nat × Nat :=
  let least : Int := (a.x : Int) - a.yEnd
  let most : Int := (a.xEnd : Int) - a.y
  let f : Field := { first, second, area := a, least, most, base := 2 - least }
  let size := (most - least).toNat + 5
  let start : Int := (a.x : Int) - a.y
  let stop : Int := (a.xEnd : Int) - a.yEnd
  let blank : Reach := ⟨Array.replicate size 0, 0, 0⟩
  let on := f.setEntry { blank with least := start, most := start } start a.x
  let back := f.setEntry { blank with least := stop, most := stop } stop a.xEnd
  let (x, y) := f.meeting ((start - stop) % 2 ≠ 0) (a.xEnd + a.yEnd + 1000000) (size + 1) on back
  (x.toNat, y.toNat)

/-- An area without what is the same at its start. -/
def Area.dropStart (first second : Array Nat) : Nat → Area → Area
  | 0, a => a
  | steps + 1, a =>
    if a.x < a.xEnd ∧ a.y < a.yEnd ∧ first.getD a.x 0 = second.getD a.y 0 then
      dropStart first second steps { a with x := a.x + 1, y := a.y + 1 }
    else a

/-- An area without what is the same at its end. -/
def Area.dropEnd (first second : Array Nat) : Nat → Area → Area
  | 0, a => a
  | steps + 1, a =>
    if a.x < a.xEnd ∧ a.y < a.yEnd ∧ first.getD (a.xEnd - 1) 0 = second.getD (a.yEnd - 1) 0 then
      dropEnd first second steps { a with xEnd := a.xEnd - 1, yEnd := a.yEnd - 1 }
    else a

/-- Marks the elements of an area that have been changed. -/
def mark (first second : Array Nat) : Nat → Area → Marks → Marks
  | 0, _, m => m
  | depth + 1, a, m =>
    let a := a.dropStart first second (a.xEnd - a.x)
    let a := a.dropEnd first second (a.xEnd - a.x)
    let fill (start stop : Nat) (marks : Array Bool) : Array Bool :=
      (List.range (stop - start)).foldl (fun ms i => ms.setIfInBounds (start + i) true) marks
    if a.x = a.xEnd then { m with second := fill a.y a.yEnd m.second }
    else if a.y = a.yEnd then { m with first := fill a.x a.xEnd m.first }
    else
      let (x, y) := middle first second a
      let m := mark first second depth { a with xEnd := x, yEnd := y } m
      mark first second depth { a with x, y } m

/-! ### Moving changes -/

/-- The state of a pass over the changes of one sequence: its marks, those of the other one, and a
position in each. -/
structure Pass where
  marks : Array Bool
  others : Array Bool
  i : Nat := 0
  j : Nat := 0
  start : Nat := 0
  /-- Where the run ended when it last stood opposite to a run of the other sequence. -/
  opposite : Nat := 0

namespace Pass

/-- Whether an element is marked. -/
def isMarked (p : Pass) (i : Nat) : Bool := p.marks.getD i false

/-- Whether an element of the other sequence is marked. -/
def isOtherMarked (p : Pass) (j : Nat) : Bool := p.others.getD j false

/-- Goes on in the other sequence over marked elements and one more. -/
def skipOther (p : Pass) : Nat → Nat → Nat
  | 0, j => j
  | steps + 1, j => if p.isOtherMarked j then p.skipOther steps (j + 1) else j + 1

/-- Goes on over elements that are not marked. -/
def skipSame (p : Pass) : Nat → Pass
  | 0 => p
  | steps + 1 =>
    if p.i < p.marks.size && !p.isMarked p.i then
      skipSame { p with i := p.i + 1, j := p.skipOther (p.others.size + 1) p.j } steps
    else p

/-- The first element from a position on that is not marked. -/
def runEnd (p : Pass) : Nat → Nat → Nat
  | 0, i => i
  | steps + 1, i => if p.isMarked i then p.runEnd steps (i + 1) else i

/-- The first element of the other sequence from a position on that is not marked. -/
def otherRunEnd (p : Pass) : Nat → Nat → Nat
  | 0, j => j
  | steps + 1, j => if p.isOtherMarked j then p.otherRunEnd steps (j + 1) else j

/-- The start of the run that ends before a position. -/
def runStart (p : Pass) : Nat → Nat → Nat
  | 0, i => i
  | steps + 1, i => if i ≠ 0 && p.isMarked (i - 1) then p.runStart steps (i - 1) else i

/-- Goes back in the other sequence to the element before that is not marked. -/
def otherBack (p : Pass) : Nat → Nat → Nat
  | 0, j => j
  | steps + 1, j => if p.isOtherMarked (j - 1) then p.otherBack steps (j - 1) else j - 1

/-- Moves a run one element back. -/
def moveBack (p : Pass) : Pass :=
  let marks := (p.marks.setIfInBounds (p.start - 1) true).setIfInBounds (p.i - 1) false
  { p with marks, start := p.start - 1, i := p.i - 1 }

/-- Moves a run back as far as it goes. -/
def pullBack (p : Pass) (elements : Array Nat) : Nat → Pass
  | 0 => p
  | steps + 1 =>
    if p.start ≠ 0 && elements.getD (p.start - 1) 0 == elements.getD (p.i - 1) 0 then
      let p := p.moveBack
      let p := { p with start := p.runStart p.marks.size p.start }
      pullBack { p with j := p.otherBack (p.others.size + 1) p.j } elements steps
    else p

/-- Goes on by one element and over marked ones in the other sequence; the run stands opposite to a
run where there are such. -/
def otherOn (p : Pass) : Nat → Pass
  | 0 => p
  | steps + 1 =>
    let p := { p with j := p.j + 1 }
    if p.isOtherMarked p.j then otherOn { p with opposite := p.i } steps else p

/-- Moves a run on as far as it goes. -/
def pushOn (p : Pass) (elements : Array Nat) : Nat → Pass
  | 0 => p
  | steps + 1 =>
    if p.i < p.marks.size && elements.getD p.start 0 == elements.getD p.i 0 then
      let marks := (p.marks.setIfInBounds p.start false).setIfInBounds p.i true
      let p := { p with marks, start := p.start + 1, i := p.i + 1 }
      let p := { p with i := p.runEnd p.marks.size p.i }
      pushOn (p.otherOn (p.others.size + 1)) elements steps
    else p

/-- Moves a run to and fro until it does not meet other runs any more. -/
def settle (p : Pass) (elements : Array Nat) : Nat → Pass
  | 0 => p
  | steps + 1 =>
    let length := p.i - p.start
    let p := p.pullBack elements (p.marks.size + 1)
    let p := { p with opposite := if p.j ≠ 0 && p.isOtherMarked (p.j - 1) then p.i
      else p.marks.size }
    let p := p.pushOn elements (p.marks.size + 1)
    if length = p.i - p.start then p else settle p elements steps

/-- Moves a run back to where it stood opposite to a run of the other sequence. -/
def align (p : Pass) : Nat → Pass
  | 0 => p
  | steps + 1 =>
    if p.opposite < p.i then
      let p := p.moveBack
      align { p with j := p.otherBack (p.others.size + 1) p.j } steps
    else p

/-- Moves all runs. -/
def moveRuns (elements : Array Nat) : Nat → Pass → Array Bool
  | 0, p => p.marks
  | steps + 1, p =>
    let size := p.marks.size
    let p := p.skipSame (size + 1)
    if size ≤ p.i then p.marks
    else
      let p := { p with start := p.i }
      let p := { p with i := p.runEnd (size + 1) (p.i + 1) }
      let p := { p with j := p.otherRunEnd (p.others.size + 1) p.j }
      moveRuns elements steps ((p.settle elements (size + 1)).align (size + 1))

end Pass

/-- The marks with their runs moved, in both sequences. -/
def shifted (first second : Array Nat) (m : Marks) : Marks :=
  let a := Pass.moveRuns first (first.size + 1) { marks := m.first, others := m.second }
  let b := Pass.moveRuns second (second.size + 1) { marks := m.second, others := a }
  ⟨a, b⟩

/-! ### Scripts -/

/-- A change: elements of the first sequence from a position on, so many, and elements of the second
one that stand in their place. -/
structure Step where
  x : Nat
  removed : Nat
  y : Nat
  added : Nat
  deriving Repr, DecidableEq

/-- The changes that marks tell. -/
def changesWithin (m : Marks) : Nat → Nat → Nat → List Step
  | 0, _, _ => []
  | steps + 1, x, y =>
    let removed := runLength m.first (m.first.size - x) x
    let added := runLength m.second (m.second.size - y) y
    let rest := if m.first.size ≤ x + removed ∧ m.second.size ≤ y + added then []
      else changesWithin m steps (x + removed + 1) (y + added + 1)
    if removed = 0 ∧ added = 0 then rest else ⟨x, removed, y, added⟩ :: rest
where
  /-- How many elements are marked from a position on. -/
  runLength (marks : Array Bool) : Nat → Nat → Nat
    | 0, _ => 0
    | steps + 1, i => if marks.getD i false then 1 + runLength marks steps (i + 1) else 0

/-! ### What tells sequences apart -/

/-- What an element says about where two sequences are the same: a place, nothing because the other
sequence does not have it, or little because the other sequence has it very often. -/
inductive Weight where
  | telling
  | absent
  | frequent
  deriving DecidableEq

namespace Weight

/-- How often an element can be in a sequence of a size that still tells a place. -/
def limit (size : Nat) : Nat :=
  5 * doubled (size + 1) (size / 64 / 4)
where
  /-- Two to the power of how often a number can be divided by four. -/
  doubled : Nat → Nat → Nat
    | 0, _ => 1
    | steps + 1, n => if n = 0 then 1 else 2 * doubled steps (n / 4)

/-- Makes the frequent elements at the start of a run telling, up to three absent ones in a row or an
absent one that is far enough from the start. -/
def keepEdge : Nat → Nat → List Weight → List Weight
  | _, _, [] => []
  | place, absents, w :: ws =>
    if w = absent then
      if 8 ≤ place ∨ absents = 2 then w :: ws else w :: keepEdge (place + 1) (absents + 1) ws
    else telling :: keepEdge (place + 1) 0 ws

/-- The weights of a run that starts and ends with absent elements: frequent elements are passed over
only where they are few. -/
def settleRun (run : List Weight) : List Weight :=
  let size := run.length
  let many := if (run.filter (· = frequent)).length * 4 > size then 1
    else limit.doubled size (size / 4 / 4) + 1
  let run := (run.splitBy (· = ·)).flatMap fun part =>
    if part.head? = some frequent ∧ many ≤ part.length then part.map fun _ => telling else part
  (keepEdge 0 0 (keepEdge 0 0 run).reverse).reverse

/-- The weights of elements that are not telling, one after the other. -/
def settlePart (part : List Weight) : List Weight :=
  let start := part.takeWhile (· = frequent)
  let rest := part.drop start.length
  let stop := rest.reverse.takeWhile (· = frequent)
  let run := rest.take (rest.length - stop.length)
  start.map (fun _ => telling) ++ settleRun run ++ stop.map fun _ => telling

/-- The weights of the elements of a sequence that is compared with another one. -/
def ofElements (elements others : Array Nat) : List Weight :=
  let size := (elements ++ others).foldl max 0 + 1
  let counts := others.foldl (fun (a : Array Nat) n => a.modify n (· + 1)) (Array.replicate size 0)
  let weights := elements.toList.map fun n =>
    let count := counts.getD n 0
    if count = 0 then absent else if limit elements.size < count then frequent else telling
  (weights.splitBy fun a b => (a = telling) = (b = telling)).flatMap fun part =>
    if part.head? = some telling then part else settlePart part

end Weight

/-- The positions of the elements of a sequence that tell where it is the same as another one. -/
def telling (elements others : Array Nat) : Array Nat :=
  ((Weight.ofElements elements others).zipIdx.filterMap fun (w, i) =>
    if w = .telling then some i else none).toArray

/-- The changes that lead from one sequence to another one, which are the same outside an area. -/
def changes (first second : Array Nat) (inner : Area) : List Step :=
  let cut (xs : Array Nat) (start stop : Nat) : Array Nat := xs.extract start stop
  let a := cut first inner.x inner.xEnd
  let b := cut second inner.y inner.yEnd
  let keptA := telling a b
  let keptB := telling b a
  let elements (xs kept : Array Nat) : Array Nat := kept.map fun i => xs.getD i 0
  let a' := elements a keptA
  let b' := elements b keptB
  let found := mark a' b' (a'.size + b'.size + 1) ⟨0, a'.size, 0, b'.size⟩
    ⟨Array.replicate a'.size false, Array.replicate b'.size false⟩
  let spread (size : Nat) (kept : Array Nat) (marks : Array Bool) : Array Bool :=
    (kept.zip marks).foldl (fun ms (i, isMarked) => ms.setIfInBounds i isMarked)
      (Array.replicate size true)
  let m := shifted a b ⟨spread a.size keptA found.first, spread b.size keptB found.second⟩
  (changesWithin m (a.size + b.size + 2) 0 0).map fun c =>
    { c with x := c.x + inner.x, y := c.y + inner.y }

end LuaBundler.Utility.Difference
