import SheetExport.Decimal.Shortest

/-!
# JSON values

A value keeps the members of its objects in document order, repeated names
included; `canonical` sorts them and keeps the last of a name. `compact` writes
a value without blanks, `pretty` with one member or element per line.
-/

namespace SheetExport

/-- A JSON number: an integer of at most 64 bits, or a double. -/
inductive Json.Number where
  | int (i : Int)
  | float (x : Float)

/-- A JSON value; objects hold their members in order. -/
inductive Json where
  | null
  | bool (b : Bool)
  | number (n : Json.Number)
  | string (s : String)
  | array (items : List Json)
  | object (members : List (String × Json))
  deriving Inhabited

namespace Json

/-- Lower-case hexadecimal digits of a character below U+0020, four of them. -/
def controlCode (c : Char) : List Char :=
  ['0', '0', Nat.digitChar (c.toNat / 16), Nat.digitChar (c.toNat % 16)]

def escapedChar (c : Char) : List Char :=
  if c = '"' then ['\\', '"']
  else if c = '\\' then ['\\', '\\']
  else if c = '\n' then ['\\', 'n']
  else if c = '\r' then ['\\', 'r']
  else if c = '\t' then ['\\', 't']
  else if c = '\x08' then ['\\', 'b']
  else if c = '\x0c' then ['\\', 'f']
  else if c.toNat < 0x20 then '\\' :: 'u' :: controlCode c
  else [c]

def stringText (s : String) : List Char := '"' :: s.toList.flatMap escapedChar ++ ['"']

/-- Doubles are positional with a fraction from 10^-5 to below 10^16, otherwise
with a signed exponent. -/
def floatText (x : Float) : String := (Decimal.shortest x).scaled (-5) 16

def intText (i : Int) : String := toString i

/-- Integers in decimal; a double that is not finite is written as null. -/
def Number.text : Number → String
  | .int i => intText i
  | .float x => if x.isFinite then floatText x else "null"

mutual

def compact : Json → List Char
  | .null => "null".toList
  | .bool true => "true".toList
  | .bool false => "false".toList
  | .number n => n.text.toList
  | .string s => stringText s
  | .array items => '[' :: compactItems items
  | .object members => '\x7b' :: compactMembers members

def compactItems : List Json → List Char
  | [] => [']']
  | [v] => compact v ++ [']']
  | v :: w :: vs => compact v ++ ',' :: compactItems (w :: vs)

def compactMembers : List (String × Json) → List Char
  | [] => ['\x7d']
  | [(k, v)] => stringText k ++ ':' :: compact v ++ ['\x7d']
  | (k, v) :: m :: ms => stringText k ++ ':' :: compact v ++ ',' :: compactMembers (m :: ms)

end

def newline (depth : Nat) : List Char := '\n' :: List.replicate (2 * depth) ' '

mutual

/-- The text of a value with one member or element per line. -/
def pretty (depth : Nat) : Json → List Char
  | .array [] => ['[', ']']
  | .object [] => ['\x7b', '\x7d']
  | .array (v :: vs) => '[' :: prettyItems (depth + 1) (v :: vs)
  | .object (m :: ms) => '\x7b' :: prettyMembers (depth + 1) (m :: ms)
  | .null => "null".toList
  | .bool true => "true".toList
  | .bool false => "false".toList
  | .number n => n.text.toList
  | .string s => stringText s

/-- The elements of an array, each on its own line, and its closing bracket. -/
def prettyItems (depth : Nat) : List Json → List Char
  | [] => [']']
  | [v] => newline depth ++ pretty depth v ++ newline (depth - 1) ++ [']']
  | v :: w :: vs => newline depth ++ pretty depth v ++ ',' :: prettyItems depth (w :: vs)

/-- The members of an object, each on its own line, and its closing brace. -/
def prettyMembers (depth : Nat) : List (String × Json) → List Char
  | [] => ['\x7d']
  | [(k, v)] =>
    newline depth ++ stringText k ++ ':' :: ' ' :: pretty depth v ++ newline (depth - 1) ++ ['\x7d']
  | (k, v) :: m :: ms =>
    newline depth ++ stringText k ++ ':' :: ' ' :: pretty depth v ++ ',' ::
      prettyMembers depth (m :: ms)

end

def text (v : Json) : String := String.ofList (compact v)

def prettyText (v : Json) : String := String.ofList (pretty 0 v)

/-- Puts a member at its place in a list sorted by name; a member of that name
is replaced. -/
def putSorted (k : String) (v : Json) : List (String × Json) → List (String × Json)
  | [] => [(k, v)]
  | (k', v') :: ms =>
    if k < k' then (k, v) :: (k', v') :: ms
    else if k = k' then (k, v) :: ms
    else (k', v') :: putSorted k v ms

mutual

/-- Members sorted by name, only the last of a name kept, at every depth. -/
def canonical : Json → Json
  | .array items => .array (canonicalItems items)
  | .object members => .object (canonicalMembers [] members)
  | v => v

def canonicalItems : List Json → List Json
  | [] => []
  | v :: vs => canonical v :: canonicalItems vs

def canonicalMembers (done : List (String × Json)) : List (String × Json) → List (String × Json)
  | [] => done
  | (k, v) :: ms => canonicalMembers (putSorted k (canonical v) done) ms

end

end Json

end SheetExport
