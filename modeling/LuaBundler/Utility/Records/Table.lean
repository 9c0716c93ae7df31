import LuaBundler.Utility.Basic
import LuaBundler.Utility.Records.Value

/-!
# Arrays of record programs

An array has values under keys, which are texts; whole numbers are keys too, and stand for their
texts. Keys lie in slots by their hash, and each slot has the keys that were used last first. This
order is the one in which a loop goes through an array.

Whole numbers have slots of their own. An array that was only used with numbers gets the slots for
texts when one is asked for.
-/

namespace LuaBundler.Utility.Records

open LuaBundler.Text

/-- A key as it is asked for. -/
inductive Key where
  | number (n : Int)
  | text (s : String)

/-- The hash of a text, into which its octets are mixed one after the other. -/
def hashOf (s : String) : Nat :=
  s.foldl (fun h c => (h ^^^ c.toNat) * 16777619 % 4294967296) 2166136261

/-- A value with its key. -/
structure Entry where
  number? : Option Int := none
  text? : Option String := none
  hash : Nat := 0
  value : Value := .absent

/-- An array. Entries are named by numbers. -/
structure Table where
  entries : Array (Option Entry) := #[]
  size : Nat := 0
  byNumber : Array (List Nat) := Array.replicate 64 []
  byText : Array (List Nat) := Array.replicate 64 []
  /-- Whether entries have slots by their texts. -/
  hasTexts : Bool := false
  /-- Whether it just holds the values of numbers from one on. -/
  isPlain : Bool := false

namespace Table

/-- How many entries there may be for each slot. -/
def density : Nat := 12

/-- An entry. -/
def entry (t : Table) (id : Nat) : Entry :=
  (t.entries.getD id none).getD {}

/-- An array with one entry changed. -/
def setEntry (t : Table) (id : Nat) (e : Entry) : Table :=
  { t with entries := t.entries.setIfInBounds id (some e) }

/-- The slot of a number. -/
def numberSlot (t : Table) (n : Int) : Nat :=
  (n % t.byNumber.size).toNat

/-- The slot of a hash. -/
def textSlot (t : Table) (hash : Nat) : Nat :=
  hash % t.byText.size

/-- A list with one element taken to the front. -/
def toFront (ids : List Nat) (id : Nat) : List Nat :=
  id :: ids.filter (· != id)

/-- An array with twice as many slots. -/
def double (t : Table) : Table :=
  let size := 2 * t.byText.size
  let spread (slots : Array (List Nat)) (slotOf : Nat → Nat) : Array (List Nat) :=
    slots.map (fun ids => ids.filter fun id => slotOf id < slots.size) ++
      slots.map fun ids => ids.filter fun id => slots.size ≤ slotOf id
  { t with
    byText := spread t.byText fun id => (t.entry id).hash % size
    byNumber := spread t.byNumber fun id => (((t.entry id).number?.getD 0) % size).toNat }

/-- An array with one more entry. -/
def add (t : Table) (e : Entry) : Table × Nat :=
  let t := { t with entries := t.entries.push (some e), size := t.size + 1 }
  (t, t.entries.size - 1)

/-- Doubles the slots if there are too many entries. -/
def adjust (t : Table) : Table :=
  if t.byText.size * density < t.size then t.double else t

/-- An array whose numbers have slots. -/
def spreadNumbers (t : Table) : Table :=
  if !t.isPlain then t
  else
    let size := slotCount t.size 64 t.size
    let slots := (List.range t.size).foldl (fun (slots : Array (List Nat)) id =>
      slots.modify ((id + 1) % size) (id :: ·)) (Array.replicate size [])
    { t with isPlain := false, byNumber := slots, byText := Array.replicate size [] }
where
  /-- The slots that so many entries need. -/
  slotCount (entries : Nat) (size : Nat) : Nat → Nat
    | 0 => size
    | steps + 1 => if size * density < entries then slotCount entries (2 * size) steps else size

/-- An array whose entries have slots by their texts. -/
def spreadTexts (t : Table) : Table :=
  if t.hasTexts then t
  else
    let t := t.spreadNumbers
    let ids := t.byNumber.toList.flatten
    let t := ids.foldl (fun t id =>
      let e := t.entry id
      match e.text?, e.number? with
      | none, some n =>
        let text := integerText n
        let hash := hashOf text
        let t := t.setEntry id { e with text? := some text, hash }
        { t with byText := t.byText.modify (t.textSlot hash) (id :: ·) }
      | _, _ => t) t
    { t with hasTexts := true }

/-- The entry of a text, which is made if it is not there and `creates` says so. -/
def findText (t : Table) (text : String) (creates : Bool) : Table × Option Nat :=
  let t := t.spreadTexts
  let hash := hashOf text
  let slot := t.textSlot hash
  let ids := t.byText.getD slot []
  match ids.find? fun id => (t.entry id).text? == some text with
  | some id => ({ t with byText := t.byText.setIfInBounds slot (toFront ids id) }, some id)
  | none =>
    if !creates then (t, none)
    else
      let (t, id) := t.add { text? := some text, hash }
      (({ t with byText := t.byText.modify slot (id :: ·) } : Table).adjust, some id)

/-- The entry of a number. -/
def findNumber (t : Table) (n : Int) (creates : Bool) : Table × Option Nat :=
  if t.isPlain && 1 ≤ n && n ≤ t.size then (t, some (n - 1).toNat)
  else if t.isPlain && !creates then (t, none)
  else
    let t := t.spreadNumbers
    let ids := t.byNumber.getD (t.numberSlot n) []
    match ids.find? fun id => (t.entry id).number? == some n with
    | some id =>
      ({ t with byNumber := t.byNumber.setIfInBounds (t.numberSlot n) (toFront ids id) }, some id)
    | none =>
      let (t, found?) :=
        if t.hasTexts then t.findText (integerText n) creates
        else if creates then
          let (t, id) := t.add {}
          (t.adjust, some id)
        else (t, none)
      match found? with
      | none => (t, none)
      | some id =>
        let t := t.setEntry id { t.entry id with number? := some n }
        ({ t with byNumber := t.byNumber.modify (t.numberSlot n) (id :: ·) }, some id)

/-- The entry of a key. -/
def find (t : Table) (k : Key) (creates : Bool) : Table × Option Nat :=
  if t.size = 0 && !creates then (t, none)
  else
    let t := if t.size = 0 then {} else t
    match k with
    | .number n => t.findNumber n creates
    | .text s => t.findText s creates

/-- Whether a key is there. -/
def has (t : Table) (k : Key) : Table × Bool :=
  let (t, id?) := t.find k false
  (t, id?.isSome)

/-- The value of a key, which is made if it is not there. -/
def get (t : Table) (k : Key) : Table × Value :=
  let (t, id?) := t.find k true
  (t, (id?.map fun id => (t.entry id).value).getD .absent)

/-- An array with a value under a key. -/
def set (t : Table) (k : Key) (v : Value) : Table :=
  let (t, id?) := t.find k true
  match id? with
  | some id => t.setEntry id { t.entry id with value := v }
  | none => t

/-- An array without a key. -/
def erase (t : Table) (k : Key) : Table :=
  let t := t.spreadNumbers
  match t.find k false with
  | (t, none) => t
  | (t, some id) =>
    if t.size = 1 then {}
    else
      let e := t.entry id
      let drop (slots : Array (List Nat)) (slot : Nat) : Array (List Nat) :=
        slots.modify slot fun ids => ids.filter (· != id)
      { t with
        entries := t.entries.setIfInBounds id none
        size := t.size - 1
        byText := if e.text?.isSome then drop t.byText (t.textSlot e.hash) else t.byText
        byNumber := match e.number? with
          | some n => drop t.byNumber (t.numberSlot n)
          | none => t.byNumber }

/-- The keys in the order in which a loop goes through them. -/
def keys (t : Table) : Table × List String :=
  let t := t.spreadTexts
  (t, t.byText.toList.flatten.filterMap fun id => (t.entry id).text?)

/-- The array of a list of values, from one on. -/
def ofList (values : List Value) : Table :=
  { entries := (values.zipIdx.map fun (v, i) =>
      some ({ number? := some ((i : Int) + 1), value := v } : Entry)).toArray
    size := values.length
    isPlain := !values.isEmpty }

end Table

end LuaBundler.Utility.Records
