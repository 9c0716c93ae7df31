import LuaBundler.System.Octets
import Std.Data.HashSet

/-!
# Regular expressions

A regular expression is a tree. It is compiled to instructions whose jumps are relative, so that the
instructions of a tree are those of its parts put together. A search runs them from every position
in turn, keeping the ways that are still to be tried, and remembers where it has been: a way that
comes to the same point again can lead to nothing new. What is found is the longest of the matches
that start first.

Texts are octet texts.
-/

namespace LuaBundler.Utility.Regex

/-! ### Octets -/

/-- A set of octets. -/
structure Octets where
  table : Array Bool

namespace Octets

/-- The octets that a test holds for. -/
def of (test : Char → Bool) : Octets :=
  ⟨(Array.range 256).map fun n => test (Char.ofNat n)⟩

/-- Whether a set has an octet. -/
def has (s : Octets) (b : UInt8) : Bool :=
  s.table.getD b.toNat false

/-- Whether a set has the octet of a character. -/
def hasChar (s : Octets) (c : Char) : Bool :=
  s.table.getD c.toNat false

/-- A character in the other case. -/
def otherCase (c : Char) : Char :=
  if c.isUpper then c.toLower else c.toUpper

/-- The set with the other case of each of its letters. -/
def foldCase (s : Octets) : Octets :=
  .of fun c => s.hasChar c || s.hasChar (otherCase c)

end Octets

/-- Whether a character can be part of a word. -/
def isWordChar (c : Char) : Bool :=
  c.isAlphanum || c = '_'

/-! ### Trees -/

/-- A kind of places between octets. -/
inductive Place where
  | textStart
  | textEnd
  | lineStart
  | lineEnd
  | wordStart
  | wordEnd
  | wordEdge
  | noWordEdge
  /-- Where no word character comes before. -/
  | afterGap
  /-- Where no word character follows. -/
  | beforeGap
  deriving DecidableEq

/-- A regular expression. -/
inductive Tree where
  | empty
  | one (s : Octets)
  | place (p : Place)
  | group (n : Nat) (t : Tree)
  /-- The text of a group once more. -/
  | again (n : Nat)
  | seq (a b : Tree)
  | either (a b : Tree)
  /-- A number of times, and any greater number up to a bound if there is one. -/
  | repeated (least : Nat) (most? : Option Nat) (t : Tree)

/-! ### Instructions -/

/-- An instruction; distances are relative to it. -/
inductive Instr where
  | one (s : Octets)
  | place (p : Place)
  | again (n : Nat)
  /-- Notes the position under a number. -/
  | mark (slot : Nat)
  | jump (distance : Int)
  /-- Goes on at one of two distances, the first one first. -/
  | split (first second : Int)

/-- The instructions of a tree. -/
def Tree.code : Tree → Array Instr
  | empty => #[]
  | one s => #[.one s]
  | place p => #[.place p]
  | group n t => #[.mark (2 * n)] ++ t.code ++ #[.mark (2 * n + 1)]
  | again n => #[.again n]
  | seq a b => a.code ++ b.code
  | either a b =>
    let first := a.code
    let second := b.code
    #[.split 1 (first.size + 2)] ++ first ++ #[.jump (second.size + 1)] ++ second
  | repeated least most? t =>
    let body := t.code
    let start := (List.range least).foldl (fun code _ => code ++ body) #[]
    match most? with
    | none => start ++ #[.split 1 (body.size + 2)] ++ body ++ #[.jump (-(body.size + 1))]
    | some most =>
      let distance (left : Nat) : Int := left * (body.size + 1)
      (List.range (most - least)).foldl
        (fun code i => code ++ #[.split 1 (distance (most - least - i))] ++ body) start

/-- A regular expression that is ready to be searched for. -/
structure Compiled where
  code : Array Instr
  groups : Nat
  /-- Whether it asks for the text of a group once more. -/
  looksBack : Bool
  ignoresCase : Bool := false

/-! ### Places -/

/-- Whether the octet before a position is part of a word. -/
def wordBefore (text : ByteArray) (at_ : Nat) : Bool :=
  at_ ≠ 0 && isWordChar (Char.ofNat (text.get! (at_ - 1)).toNat)

/-- Whether the octet after a position is part of a word. -/
def wordAfter (text : ByteArray) (at_ : Nat) : Bool :=
  at_ < text.size && isWordChar (Char.ofNat (text.get! at_).toNat)

/-- Whether a position is of a kind; `byLines` says whether lines start and end inside the text. -/
def Place.holds (p : Place) (byLines : Bool) (text : ByteArray) (at_ : Nat) : Bool :=
  match p with
  | textStart => at_ = 0
  | textEnd => at_ = text.size
  | lineStart => at_ = 0 || (byLines && text.get! (at_ - 1) = 0x0a)
  | lineEnd => at_ = text.size || (byLines && text.get! at_ = 0x0a)
  | wordStart => !wordBefore text at_ && wordAfter text at_
  | wordEnd => wordBefore text at_ && !wordAfter text at_
  | wordEdge => wordBefore text at_ != wordAfter text at_
  | noWordEdge => wordBefore text at_ == wordAfter text at_
  | afterGap => !wordBefore text at_
  | beforeGap => !wordAfter text at_

/-! ### Searching -/

/-- The positions that were noted, the last one of a slot first. -/
abbrev Marks := List (Nat × Nat)

/-- A way that is still to be tried. -/
structure Way where
  next : Nat
  at_ : Nat
  marks : Marks

/-- A point that a search has come to: the instruction and the position, and if the text of groups
matters, where they are. -/
abbrev Point := Nat × List (Option Nat)

/-- What a search has found so far: the end and the marks of the longest match. -/
abbrev Best := Option (Nat × Marks)

namespace Compiled

/-- The point that a way has come to. -/
def point (c : Compiled) (text : ByteArray) (w : Way) : Point :=
  (w.next * (text.size + 1) + w.at_,
    if c.looksBack then (List.range (2 * c.groups + 2)).map fun s => w.marks.lookup s else [])

/-- The part of a text that a group has matched. -/
def span? (marks : Marks) (n : Nat) : Option (Nat × Nat) :=
  match marks.lookup (2 * n), marks.lookup (2 * n + 1) with
  | some a, some b => if a ≤ b then some (a, b) else none
  | _, _ => none

/-- Whether the octets at two positions agree for a length. -/
def sameAt (c : Compiled) (text : ByteArray) (i j length : Nat) : Bool :=
  let shown (n : Nat) : Char :=
    let o := Char.ofNat (text.get! n).toNat
    if c.ignoresCase then o.toLower else o
  j + length ≤ text.size && (List.range length).all fun n => shown (i + n) == shown (j + n)

/-- The ways that a way leads to with its instruction. -/
def step (c : Compiled) (byLines : Bool) (text : ByteArray) (w : Way) : Instr → List Way
  | .one s =>
    if w.at_ < text.size && s.has (text.get! w.at_) then [⟨w.next + 1, w.at_ + 1, w.marks⟩] else []
  | .place p => if p.holds byLines text w.at_ then [{ w with next := w.next + 1 }] else []
  | .again n =>
    match span? w.marks n with
    | none => []
    | some (a, b) =>
      if c.sameAt text a w.at_ (b - a) then [⟨w.next + 1, w.at_ + (b - a), w.marks⟩] else []
  | .mark s => [⟨w.next + 1, w.at_, (s, w.at_) :: w.marks⟩]
  | .jump d => [{ w with next := (w.next + d).toNat }]
  | .split a b => [{ w with next := (w.next + a).toNat }, { w with next := (w.next + b).toNat }]

/-- Tries ways until none is left, or a match reaches the end of the text. Gives the longest match
and the points it has been at. -/
def tryWithin (c : Compiled) (byLines : Bool) (text : ByteArray) :
    Nat → List Way → Std.HashSet Point → Best → Best × Std.HashSet Point
  | 0, _, seen, best => (best, seen)
  | _ + 1, [], seen, best => (best, seen)
  | steps + 1, w :: ways, seen, best =>
    match c.code[w.next]? with
    | none =>
      if w.at_ = text.size then (some (w.at_, w.marks), seen)
      else
        let isLonger := match best with
          | none => true
          | some (stop, _) => stop < w.at_
        tryWithin c byLines text steps ways seen (if isLonger then some (w.at_, w.marks) else best)
    | some (.split a b) =>
      let p := c.point text w
      if seen.contains p then tryWithin c byLines text steps ways seen best
      else
        tryWithin c byLines text steps (c.step byLines text w (.split a b) ++ ways) (seen.insert p)
          best
    | some i => tryWithin c byLines text steps (c.step byLines text w i ++ ways) seen best

/-- How many steps a search takes at most. -/
def maxSteps : Nat := 1000000000000000

/-- What a match is made of: the whole, and the groups that took part in it, each from a position to
a position. -/
abbrev Match := Array (Option (Nat × Nat))

/-- The match that starts at a position and was found. -/
def matchOf (c : Compiled) (start : Nat) (found : Nat × Marks) : Match :=
  (#[some (start, found.1)] : Match) ++
    ((List.range c.groups).map fun n => span? found.2 (n + 1)).toArray

/-- Searches from one position after the other. -/
def searchWithin (c : Compiled) (byLines : Bool) (text : ByteArray) :
    Nat → Nat → Std.HashSet Point → Option Match
  | 0, _, _ => none
  | starts + 1, start, seen =>
    match c.tryWithin byLines text maxSteps [⟨0, start, []⟩] seen none with
    | (some found, _) => some (c.matchOf start found)
    | (none, seen) => searchWithin c byLines text starts (start + 1) seen

/-- The longest of the matches that start first, from a position on. -/
def search? (c : Compiled) (text : ByteArray) (start : Nat) (byLines : Bool) : Option Match :=
  c.searchWithin byLines text (text.size + 1 - start) start ∅

/-- The longest match that starts at a position. -/
def matchAt? (c : Compiled) (text : ByteArray) (start : Nat) : Option Match :=
  c.searchWithin false text 1 start ∅

end Compiled

end LuaBundler.Utility.Regex
