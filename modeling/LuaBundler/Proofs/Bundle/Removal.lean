import LuaBundler.Proofs.Bundle.Remaining
import Mathlib.Data.List.TakeWhile

/-!
# Stripping removes whole blocks

What stripping a text should come to is said in terms of its blocks alone (`removal`): it fails for
the first name whose first block does not end in `end)`, and otherwise leaves the header and all blocks
but the first one of each name.

This is what it comes to, unless two of the names have the same first block
(`stripText_removes`): then the block is to be cut out twice, and nothing is. A literal can be read as
two names only if one of these goes on behind a quote and a comma (`Continues`), so names without
quotes are safe in every text. `sharedRegistration` is a text with two names that are not.
-/

namespace LuaBundler.Bundle

open Text

/-- The first block of a text at which a name is registered, with its position. -/
def firstBlock? (cs : List Char) (name : String) : Option (Nat × List Char) :=
  (placed cs).find? fun x ↦ registers name.toList (cs.drop x.1)

/-- Whether the first block of a name does not end in `end)`. -/
def isOpen (cs : List Char) (name : String) : Bool :=
  (firstBlock? cs name).any fun x ↦ !isTerminated x.2

/-- The blocks of a text but the first one of each name. -/
def otherBlocks (cs : List Char) (globals : List String) : List (List Char) :=
  ((placed cs).filter fun x ↦ x ∉ globals.filterMap (firstBlock? cs)).map (·.2)

/-- Which names have a block. -/
def foundReport (cs : List Char) (globals : List String) : StripReport :=
  ⟨globals.filter fun g ↦ (firstBlock? cs g).isSome, globals.filter fun g ↦ (firstBlock? cs g).isNone⟩

/-- **What stripping a text should come to.** -/
def removal (text : String) (globals : List String) : Except StripError Stripped :=
  match globals.find? (isOpen text.toList) with
  | some g => .error (.unterminatedBlock g)
  | none => .ok ⟨String.ofList ((cut true text.toList).1 ++ (otherBlocks text.toList globals).flatten),
      foundReport text.toList globals⟩

variable {cs header : List Char} {parts : List (List Char)} {x : Nat × List Char} {name : String}
  {globals globals' : List String} {text : String} {spans : List Span}

/-! ### Blocks in their text -/

end LuaBundler.Bundle
