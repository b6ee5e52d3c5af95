import SheetExport.Decimal.Shortest
import SheetExport.Schema

/-!
# YAML texts and their tokens

The errors of YAML documents, the cursor that goes through a text, and the tokens
that it is cut into.
-/

/-!
## Errors of YAML documents

A text that is no YAML document is malformed. A document that is not the
expected one differs from it at a path and, if that is known, at a mark.
-/

namespace SheetExport.Yaml

/-- A place in a text: the lines before it, and the characters before it on its
line. -/
structure Mark where
  line : Nat
  column : Nat
  deriving DecidableEq, Repr, Inhabited

/-- Why a text was refused. -/
inductive Error where
  | malformed
  | unfit (path : String) (mismatch : Schema.Mismatch) (mark : Mark)

def floatText (x : Float) : String :=
  if x.isNaN then "NaN"
  else if x.isInf then (if x < 0 then "-inf" else "inf")
  else
    let s := (Decimal.shortest x).plain
    if s.toList.contains '.' then s else s ++ ".0"

def wording : Schema.Wording := ⟨"unit value", floatText⟩

def rootPath : String := "."

/-- The wording of an error. The start of a text counts as no place. -/
def Error.message : Error → String
  | .malformed => "malformed document"
  | .unfit path m mark =>
    (if path = rootPath then "" else path ++ ": ") ++ m.message wording ++
      (if mark = ⟨0, 0⟩ then ""
        else " at line " ++ toString (mark.line + 1) ++ " column " ++ toString (mark.column + 1))

end SheetExport.Yaml

/-!
## Cursors

A cursor is what is left of a YAML text together with the place reached. All
movement is by whole characters or whole line breaks; five kinds of line break
are known. At the end of the text every test for a blank or a break succeeds
as it does for a line break.
-/

namespace SheetExport.Yaml

/-- What is left of a text, and where that is. -/
structure Cursor where
  rest : List Char
  index : Nat
  mark : Mark
  deriving Inhabited

/-- A space or a tabulator. -/
def isBlank (c : Char) : Bool := c == ' ' || c == '\t'

def isBreak (c : Char) : Bool :=
  c == '\n' || c == '\r' || c.toNat == 0x85 || c.toNat == 0x2028 || c.toNat == 0x2029

def isNameChar (c : Char) : Bool := c.isAlphanum || c == '_' || c == '-'

def isAllowed (c : Char) : Bool :=
  let n := c.toNat
  n == 9 || n == 10 || n == 13 || (0x20 ≤ n && n ≤ 0x7E) || n == 0x85 ||
    (0xA0 ≤ n && n ≤ 0xD7FF) || (0xE000 ≤ n && n ≤ 0xFFFD) || 0x10000 ≤ n

namespace Cursor

/-- The start of a text. -/
def start (s : String) : Cursor := ⟨s.toList, 0, ⟨0, 0⟩⟩

def column (c : Cursor) : Nat := c.mark.column

def peek? (c : Cursor) (n : Nat) : Option Char := c.rest[n]?

/-- A character ahead is the given one. -/
def has (c : Cursor) (ch : Char) (n : Nat) : Bool := c.peek? n == some ch

/-- A character ahead is a blank. -/
def blankAt (c : Cursor) (n : Nat) : Bool := (c.peek? n).any isBlank

def breakAt (c : Cursor) (n : Nat) : Bool := (c.peek? n).any isBreak

def endAt (c : Cursor) (n : Nat) : Bool := (c.peek? n).isNone

/-- A character ahead is a line break, or the text ends there. -/
def breakOrEndAt (c : Cursor) (n : Nat) : Bool := c.breakAt n || c.endAt n

/-- A character ahead is a blank or a line break, or the text ends there. -/
def gapAt (c : Cursor) (n : Nat) : Bool := c.blankAt n || c.breakOrEndAt n

def skip (c : Cursor) (n : Nat) : Cursor :=
  ⟨c.rest.drop n, c.index + n, ⟨c.mark.line, c.mark.column + n⟩⟩

def skipWhile (c : Cursor) (p : Char → Bool) : Cursor := c.skip (c.rest.takeWhile p).length

def takeWhile (c : Cursor) (p : Char → Bool) : List Char := c.rest.takeWhile p

def skipBreak (c : Cursor) : Cursor :=
  let n := if c.has '\r' 0 && c.has '\n' 1 then 2 else 1
  ⟨c.rest.drop n, c.index + n, ⟨c.mark.line + 1, 0⟩⟩

/-- What a line break stands for in a scalar; nothing at the end of the text. -/
def breakText (c : Cursor) : List Char :=
  match c.rest with
  | [] => []
  | ch :: _ => if ch.toNat == 0x2028 || ch.toNat == 0x2029 then [ch] else ['\n']

/-- Past a line break, or nowhere at the end of the text. -/
def skipBreakOrEnd (c : Cursor) : Cursor := if c.breakAt 0 then c.skipBreak else c

def skipLine (c : Cursor) : Cursor := c.skipWhile fun ch => !isBreak ch

def skipComment (c : Cursor) : Cursor := if c.has '#' 0 then c.skipLine else c

/-- The mark of a document's start or end stands at the start of this line. -/
def atDocumentMark (c : Cursor) : Bool :=
  c.column == 0 && c.gapAt 3 &&
    ((c.has '-' 0 && c.has '-' 1 && c.has '-' 2) || (c.has '.' 0 && c.has '.' 1 && c.has '.' 2))

/-- A bound for the number of steps still to take. -/
def bound (c : Cursor) : Nat := c.rest.length + 1

end Cursor

end SheetExport.Yaml

/-!
## YAML tokens

The tokens of a text. Block structure, which a text shows by indentation, is
made explicit by tokens for its start and end.
-/

namespace SheetExport.Yaml

/-- How a scalar is written. -/
inductive Style where
  | plain
  | singleQuoted
  | doubleQuoted
  | literal
  | folded
  deriving DecidableEq, Repr, Inhabited

/-- What a token is. -/
inductive TokenKind where
  | versionDirective (major minor : Nat)
  | tagDirective (handle start : String)
  | documentStart
  | documentEnd
  | blockSequenceStart
  | blockMappingStart
  | blockEnd
  | flowSequenceStart
  | flowSequenceEnd
  | flowMappingStart
  | flowMappingEnd
  | blockEntry
  | flowEntry
  | key
  | value
  | alias (name : String)
  | anchor (name : String)
  | tag (handle suffix : String)
  | scalar (style : Style) (text : String)
  | streamEnd
  deriving DecidableEq, Repr, Inhabited

/-- A token and the marks around it. -/
structure Token where
  kind : TokenKind
  start : Mark
  stop : Mark
  deriving DecidableEq, Repr, Inhabited

end SheetExport.Yaml
