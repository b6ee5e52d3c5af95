import SheetExport.Json.Reader
import SheetExport.Json.Value

/-!
# Cells

What a cell can hold, and the two forms in which it is read.
-/

/-!
## Values of cells

A cell is empty, a truth value, an integer of 64 bits, a double or a text.
`Cell.ofJson` reads one from the answer of the sheets service, `Cell.display`
is what a user sees of it and `Cell.toJson` writes it back.
-/

namespace SheetExport

/-- The value of one cell. -/
inductive Cell where
  | null
  | bool (b : Bool)
  | int (i : Int64)
  | float (x : Float)
  | text (s : String)
  deriving Inhabited

/-- A table of cells, row by row; rows may differ in length. -/
abbrev Grid := List (List Cell)

namespace Cell

/-- An integer within 64 bits stays an integer, others become the nearest
double. -/
def ofInt (i : Int) : Cell :=
  if Int64.minValue.toInt ≤ i ∧ i ≤ Int64.maxValue.toInt then .int (Int64.ofInt i)
  else .float (Float.ofInt i)

def ofNumber : Json.Number → Cell
  | .int i => ofInt i
  | .float x => .float x

/-- The cell of a JSON value; an array or object becomes its text. -/
def ofJson : Json → Cell
  | .null => .null
  | .bool b => .bool b
  | .number n => ofNumber n
  | .string s => .text s
  | v => .text v.canonical.text

/-- The JSON value of a cell; a double that is not finite has none. -/
def toJson : Cell → Json
  | .null => .null
  | .bool b => .bool b
  | .int i => .number (.int i.toInt)
  | .float x => if x.isFinite then .number (.float x) else .null
  | .text s => .string s

def floatDisplay (x : Float) : String :=
  if x.isNaN then "NaN"
  else if x.isInf then (if x < 0 then "-inf" else "inf")
  else (Decimal.shortest x).plain

def display : Cell → String
  | .null => ""
  | .bool true => "TRUE"
  | .bool false => "FALSE"
  | .int i => Json.intText i.toInt
  | .float x => floatDisplay x
  | .text s => s

/-- The cell shows nothing at all. -/
def isBlank (c : Cell) : Bool := c.display == ""

end Cell

end SheetExport

/-!
## Stored cells

Cells are stored as the JSON values `Cell.toJson` gives. `Cell.ofStored?` reads
one back: it tries the kinds of cells in turn, and the first that can hold the
value takes it. No kind holds an array or an object. `Cell.parseRow` reads a text
of a whole row.
-/

namespace SheetExport.Cell

/-- The kinds of cells. -/
inductive Kind where
  | null
  | bool
  | int
  | float
  | text
  deriving DecidableEq, Repr

/-- The cell of a kind that holds a value. A double also holds an integer, or the
double nearest to it. -/
def Kind.hold? : Kind → Json → Option Cell
  | .null, .null => some .null
  | .bool, .bool b => some (.bool b)
  | .int, .number (.int i) =>
    if Int64.minValue.toInt ≤ i ∧ i ≤ Int64.maxValue.toInt then some (.int (Int64.ofInt i))
    else none
  | .float, .number (.int i) => some (.float (Float.ofInt i))
  | .float, .number (.float x) => some (.float x)
  | .text, .string s => some (.text s)
  | _, _ => none

/-- The kinds in the order in which they are tried. -/
def kinds : List Kind := [.null, .bool, .int, .float, .text]

def ofStored? (v : Json) : Option Cell := kinds.findSome? fun k => k.hold? v

/-- What is said of a value that stores no cell. -/
def noVariant : String := "data did not match any variant of untagged enum CellValue"

def readStored (depth : Nat) : Json.Reader Cell := fun cs => do
  let (v, rest) ← Json.value depth cs
  match ofStored? v with
  | some c => return (c, rest)
  | none => Json.mismatchOf (.other noVariant) rest

def readRow (depth : Nat) : Json.Reader (List Cell) := fun cs =>
  match Json.skipGaps cs, depth with
  | '[' :: rest, 0 => Json.faultAt .tooDeep ('[' :: rest)
  | '[' :: rest, d + 1 =>
    Json.closing Json.endList Json.pastList
      (Json.elements true (readStored d) (rest.length + 1) true rest)
  | cs, _ => Json.unlike "a sequence" cs

def parseRow (s : String) : Except Json.Error (List Cell) :=
  Json.document (readRow Json.depthLimit) s

end SheetExport.Cell
