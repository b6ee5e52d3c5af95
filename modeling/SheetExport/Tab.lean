import SheetExport.Cell.Stored

/-!
# Tabs and their text

A tab of a spreadsheet is saved as delimited text in a file of its own.
-/

/-!
## Delimited text

A grid is written with one line per row and a delimiter between the fields of a
row. A field that holds the delimiter, a double quote or a line feed stands
between double quotes, and a double quote inside is doubled.
-/

namespace SheetExport

/-- How fields are set apart. -/
structure Csv where
  delimiter : Char := ','
  deriving DecidableEq, Repr

namespace Csv

/-- Fields set apart by tabulators. -/
def tabs : Csv := ⟨'\t'⟩

/-- Written plain, the text would not read back as one field. -/
def needsQuotes (f : Csv) (cs : List Char) : Bool :=
  cs.any fun c => c == f.delimiter || c == '"' || c == '\n'

def doubled (cs : List Char) : List Char :=
  cs.flatMap fun c => if c = '"' then ['"', '"'] else [c]

def quoteField (f : Csv) (cs : List Char) : List Char :=
  if f.needsQuotes cs then '"' :: doubled cs ++ ['"'] else cs

def field (f : Csv) (c : Cell) : List Char := f.quoteField c.display.toList

def row (f : Csv) (cells : List Cell) : List Char :=
  [f.delimiter].intercalate (cells.map f.field)

/-- The rows of a grid as lines, the last one without a line feed. A grid
without rows has no text. -/
def grid (f : Csv) (rows : Grid) : Option String :=
  if rows = [] then none else some (String.ofList (['\n'].intercalate (rows.map f.row)))

end Csv

end SheetExport

/-!
## Tabs

A tab is a named grid. It is saved in a file of its own, whose name is the
tab's with the characters that separate path components replaced.
-/

namespace SheetExport

/-- A named grid. -/
structure Tab where
  name : String
  rows : Grid
  deriving Inhabited

namespace Tab

/-- Characters that would split a file name into components. -/
def isSeparator (c : Char) : Bool := c == '/' || c == '\\'

/-- The name as a single path component. -/
def stem (name : String) : String :=
  String.ofList (name.toList.map fun c => if isSeparator c then '_' else c)

def fileName (name : String) : String := stem name ++ ".csv"

def text (t : Tab) (f : Csv) : Option String := f.grid t.rows

def widths (t : Tab) : List Nat := t.rows.map List.length

end Tab

end SheetExport
