import LuaBundler.Text.Digits

/-!
# JSON values and tokens

A JSON value keeps the members of an object in their order, repeated names included. A number keeps
its sign, its digits as one integer, its decimal exponent, and whether it was written as an integer.

The tokens of a value are its brackets, separators, names and scalars in the order they are written;
`tokens` and `Token.render` give the compact text.
-/

namespace LuaBundler.Json

open Text

/-- A decimal number: `mantissa` times ten to the `exponent`. -/
structure Number where
  negative : Bool
  mantissa : Nat
  exponent : Int
  integral : Bool
  deriving Repr, DecidableEq

/-- A JSON value. -/
inductive Value where
  | null
  | bool (value : Bool)
  | number (value : Number)
  | string (value : String)
  | array (items : List Value)
  | object (members : List (String × Value))
  deriving Repr, Inhabited

/-- A lexical unit of JSON text. -/
inductive Token where
  | openArray | closeArray | openObject | closeObject | comma | colon
  | null
  | bool (value : Bool)
  | number (value : Number)
  | string (value : String)
  deriving Repr, DecidableEq

/-! ### Tokens of a value -/

/-- The lists of tokens with a comma between each two. -/
def separated : List (List Token) → List Token
  | [] => []
  | [ts] => ts
  | ts :: us :: rest => ts ++ .comma :: separated (us :: rest)

mutual

/-- The tokens of a value. -/
def Value.tokens : Value → List Token
  | .null => [.null]
  | .bool b => [.bool b]
  | .number n => [.number n]
  | .string s => [.string s]
  | .array items => .openArray :: separated (itemTokens items) ++ [.closeArray]
  | .object members => .openObject :: separated (memberTokens members) ++ [.closeObject]

/-- The tokens of each item of an array. -/
def itemTokens : List Value → List (List Token)
  | [] => []
  | v :: vs => v.tokens :: itemTokens vs

/-- The tokens of each member of an object. -/
def memberTokens : List (String × Value) → List (List Token)
  | [] => []
  | (name, v) :: ms => (.string name :: .colon :: v.tokens) :: memberTokens ms

end

/-! ### Compact text -/

/-- A character inside a JSON string: the two delimiters and the control characters are escaped. -/
def escaped (c : Char) : List Char :=
  match c with
  | '"' => ['\\', '"']
  | '\\' => ['\\', '\\']
  | '\x08' => ['\\', 'b']
  | '\x0c' => ['\\', 'f']
  | '\n' => ['\\', 'n']
  | '\r' => ['\\', 'r']
  | '\t' => ['\\', 't']
  | c =>
    if c.toNat < 0x20 then
      ['\\', 'u', '0', '0', hexDigit (c.toNat / 16), hexDigit (c.toNat % 16)]
    else [c]

/-- The text of a number. -/
def Number.render (n : Number) : List Char :=
  (if n.negative then ['-'] else []) ++ Nat.toDigits 10 n.mantissa ++
    if n.integral then [] else
      'e' :: (if n.exponent < 0 then ['-'] else []) ++ Nat.toDigits 10 n.exponent.natAbs

/-- The text of a token. -/
def Token.render : Token → List Char
  | openArray => ['[']
  | closeArray => [']']
  | openObject => ['\x7b']
  | closeObject => ['\x7d']
  | comma => [',']
  | colon => [':']
  | null => "null".toList
  | bool b => if b then "true".toList else "false".toList
  | number n => n.render
  | string s => '"' :: s.toList.flatMap escaped ++ ['"']

/-- The compact text of a value. -/
def Value.render (v : Value) : String :=
  String.ofList (v.tokens.flatMap Token.render)

/-! ### Records

A record is written as an object with one member for each field, or as an array of its fields in
order. A variant record also has a tag: one more member, or the first item. Members of an object may
come in any order; those that are neither the tag nor a field are passed over, and a tag or a field
that comes twice makes the record unreadable. -/

/-- The fields of a record as written: named members, or items in field order. -/
inductive Payload where
  | members (ms : List (String × Value))
  | items (vs : List Value)
  deriving Repr

/-- The payload of a record without a tag. -/
def Value.payload? : Value → Option Payload
  | .object ms => some (.members ms)
  | .array vs => some (.items vs)
  | _ => none

/-- The value of the only member of a name. -/
def onlyMember? (name : String) (ms : List (String × Value)) : Option Value :=
  match ms.filter fun m => m.1 == name with
  | [m] => some m.2
  | _ => none

/-- The tag of a variant record, and its payload. -/
def Value.tagged? (tag : String) : Value → Option (Value × Payload)
  | .object ms =>
    (onlyMember? tag ms).map fun v => (v, .members (ms.filter fun m => m.1 != tag))
  | .array (v :: vs) => some (v, .items vs)
  | _ => none

/-- The values of the named fields, in the order of the names. -/
def Payload.fields? (names : List String) : Payload → Option (List Value)
  | members ms => names.mapM fun name => onlyMember? name ms
  | items vs => if vs.length = names.length then some vs else none

/-- The string of a value that is one. -/
def Value.string? : Value → Option String
  | .string s => some s
  | _ => none

/-- The items of a value that is an array. -/
def Value.items? : Value → Option (List Value)
  | .array vs => some vs
  | _ => none

/-- Which of the variants a tag names: by its name or, where that is allowed, by its index. -/
def Value.variant? (names : List String) (byIndex : Bool) : Value → Option Nat
  | .string s => names.findIdx? (· == s)
  | .number n =>
    if byIndex && n.integral && !n.negative && n.mantissa < names.length then some n.mantissa
    else none
  | _ => none

end LuaBundler.Json
