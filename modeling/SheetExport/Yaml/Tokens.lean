import SheetExport.Yaml.Scalar

/-!
# The tokens of a text

`Lexer.run?` gives the tokens of a whole text, or nothing where it is malformed.
The lexer keeps the indentations of the blocks it is in, and for every level of
brackets the place where a key without an indicator may have begun; when its
colon comes, the tokens for the key are put in front of it.
-/

namespace SheetExport.Yaml

/-- A place where a key may have begun: the number of tokens before it. A
required one must turn out to be a key. -/
structure SimpleKey where
  tokens : Nat
  required : Bool
  index : Nat
  mark : Mark
  deriving Inhabited

/-- The state of the lexer. `keys` has an entry for each level of brackets and
one for the block around them. -/
structure Lexer where
  cursor : Cursor
  tokens : Array Token := #[]
  indent : Option Nat := none
  indents : List (Option Nat) := []
  keyAllowed : Bool := true
  keys : List (Option SimpleKey) := [none]
  deriving Inhabited

namespace Lexer

/-- The longest a key without an indicator can be. -/
def keyLimit : Nat := 1024

/-- Within brackets. -/
def flow (s : Lexer) : Bool := 1 < s.keys.length

def column (s : Lexer) : Nat := s.cursor.column

def push (s : Lexer) (kind : TokenKind) (c : Cursor) : Lexer :=
  { s with cursor := c, tokens := s.tokens.push ⟨kind, s.cursor.mark, c.mark⟩ }

def pushIndicator (s : Lexer) (kind : TokenKind) (n : Nat) : Lexer :=
  s.push kind (s.cursor.skip n)

def pushEmpty (s : Lexer) (kind : TokenKind) : Lexer := s.push kind s.cursor

/-- Puts a token without characters among the others. -/
def insert (s : Lexer) (n : Nat) (kind : TokenKind) (m : Mark) : Lexer :=
  { s with tokens := (s.tokens.toList.take n ++ ⟨kind, m, m⟩ :: s.tokens.toList.drop n).toArray }

/-- Past blanks, comments and line breaks. A line break outside of brackets
allows a key. -/
def toNextToken : Nat → Lexer → Lexer
  | 0, s => s
  | steps + 1, s =>
    let c := s.cursor
    let c := if c.column = 0 && c.has (Char.ofNat 0xFEFF) 0 then c.skip 1 else c
    let tabs := s.flow || !s.keyAllowed
    let c := (c.skipWhile fun ch => ch == ' ' || (tabs && ch == '\t')).skipComment
    if c.breakAt 0 then
      toNextToken steps
        { s with cursor := c.skipBreak, keyAllowed := s.keyAllowed || !s.flow }
    else { s with cursor := c }

/-- A key can no longer have begun there. -/
def isStale (c : Cursor) (k : SimpleKey) : Bool :=
  k.mark.line < c.mark.line || k.index + keyLimit < c.index

/-- Forgets the places where a key can no longer have begun; a required one is a
fault. -/
def dropStale (s : Lexer) : Option Lexer :=
  let stale := fun k : Option SimpleKey => k.any (isStale s.cursor)
  if s.keys.any fun k => stale k && k.any SimpleKey.required then none
  else some { s with keys := s.keys.map fun k => if stale k then none else k }

def unroll (column : Option Nat) : List (Option Nat) → Lexer → Lexer
  | indents, s =>
    match indents with
    | [] => s
    | outer :: rest =>
      match s.indent with
      | none => s
      | some i =>
        if column.all (· < i) then
          unroll column rest { s.pushEmpty .blockEnd with indent := outer, indents := rest }
        else s

/-- Ends the blocks that are indented more than a column; brackets have no
blocks. -/
def unrollTo (s : Lexer) (column : Option Nat) : Lexer :=
  if s.flow then s else unroll column s.indents s

/-- Begins a block if a column is indented more than the present one. -/
def roll (s : Lexer) (column : Nat) (place : Nat) (kind : TokenKind) (m : Mark) : Lexer :=
  if s.flow || s.indent.any (column ≤ ·) then s
  else
    { s.insert place kind m with indent := some column, indents := s.indent :: s.indents }

/-- Forgets the place where a key may have begun on this level. -/
def dropKey (s : Lexer) : Option Lexer :=
  match s.keys with
  | some k :: ks => if k.required then none else some { s with keys := none :: ks }
  | _ => some s

/-- Remembers this place as one where a key may begin, if one is allowed. -/
def markKey (s : Lexer) : Option Lexer :=
  if s.keyAllowed then do
    let s' ← s.dropKey
    let k : SimpleKey :=
      ⟨s.tokens.size, !s.flow && s.indent == some s.column, s.cursor.index, s.cursor.mark⟩
    return { s' with keys := some k :: s'.keys.tail }
  else some s

def fetchDirective (s : Lexer) : Option Lexer := do
  let s ← (s.unrollTo none).dropKey
  let (kind, stop, c) ← directive s.cursor
  return { s with
    cursor := c, keyAllowed := false, tokens := s.tokens.push ⟨kind, s.cursor.mark, stop⟩ }

def fetchDocumentMark (s : Lexer) (kind : TokenKind) : Option Lexer := do
  let s ← (s.unrollTo none).dropKey
  return { s with keyAllowed := false }.pushIndicator kind 3

def fetchOpening (s : Lexer) (kind : TokenKind) : Option Lexer := do
  let s ← s.markKey
  return { s with keys := none :: s.keys, keyAllowed := true }.pushIndicator kind 1

def fetchClosing (s : Lexer) (kind : TokenKind) : Option Lexer := do
  let s ← s.dropKey
  let keys := if s.flow then s.keys.tail else s.keys
  return { s with keys := keys, keyAllowed := false }.pushIndicator kind 1

def fetchFlowEntry (s : Lexer) : Option Lexer := do
  return { ← s.dropKey with keyAllowed := true }.pushIndicator .flowEntry 1

/-- Begins a block at this column. -/
def rollHere (s : Lexer) (kind : TokenKind) : Option Lexer :=
  if s.flow then some s
  else if s.keyAllowed then some (s.roll s.column s.tokens.size kind s.cursor.mark)
  else none

def fetchBlockEntry (s : Lexer) : Option Lexer := do
  let s ← (← s.rollHere .blockSequenceStart).dropKey
  return { s with keyAllowed := true }.pushIndicator .blockEntry 1

def fetchKey (s : Lexer) : Option Lexer := do
  let s ← (← s.rollHere .blockMappingStart).dropKey
  return { s with keyAllowed := !s.flow }.pushIndicator .key 1

def fetchValue (s : Lexer) : Option Lexer :=
  match s.keys with
  | some k :: ks =>
    let s := s.insert k.tokens .key k.mark
    let s := s.roll k.mark.column k.tokens .blockMappingStart k.mark
    some ({ s with keys := none :: ks, keyAllowed := false }.pushIndicator .value 1)
  | _ => do
    let s ← s.rollHere .blockMappingStart
    return { s with keyAllowed := !s.flow }.pushIndicator .value 1

def fetchAnchor (s : Lexer) (kind : String → TokenKind) : Option Lexer := do
  let s ← s.markKey
  let (name, c) ← anchorName (s.cursor.skip 1)
  return { s with keyAllowed := false }.push (kind name) c

def fetchTag (s : Lexer) : Option Lexer := do
  let s ← s.markKey
  let (kind, c) ← tag s.flow s.cursor
  return { s with keyAllowed := false }.push kind c

def pushScalar (s : Lexer) (style : Style) (t : ScalarText) : Lexer :=
  { s with
    cursor := t.after
    tokens := s.tokens.push ⟨.scalar style (String.ofList t.text), s.cursor.mark, t.stop⟩ }

def fetchBlockScalar (s : Lexer) (style : Style) : Option Lexer := do
  let s ← s.dropKey
  let t ← blockScalar (style == .folded) s.indent (s.cursor.skip 1)
  return { s with keyAllowed := true }.pushScalar style t

def fetchQuoted (s : Lexer) (style : Style) : Option Lexer := do
  let s ← s.markKey
  let c := s.cursor.skip 1
  let t ← quotedScalar (style == .singleQuoted) c.bound [] c
  return { s with keyAllowed := false }.pushScalar style t

/-- Reads a plain scalar. One that ends with its line allows a key. -/
def fetchPlain (s : Lexer) : Option Lexer := do
  let s ← s.markKey
  let least := match s.indent with
    | some i => i + 1
    | none => 0
  let c := s.cursor
  let (t, broken) ← plainScalar s.flow least c.bound [] c.mark {} c
  return { s with keyAllowed := broken }.pushScalar .plain t

/-- A character with which no plain scalar begins, unless what follows it says
so. -/
def isIndicator (c : Char) : Bool :=
  isFlowIndicator c || ['-', '?', ':', '#', '&', '*', '!', '|', '>', '\'', '"', '%', '@',
    '\x60'].contains c

/-- A plain scalar can begin at a cursor. -/
def plainBegins (flow : Bool) (c : Cursor) : Bool :=
  (!c.gapAt 0 && !(c.peek? 0).any isIndicator) ||
    (c.has '-' 0 && !c.blankAt 1) ||
    (!flow && (c.has '?' 0 || c.has ':' 0) && !c.gapAt 1)

/-- Reads the token that begins at the cursor, which is not at the end. -/
def fetch (s : Lexer) : Option Lexer :=
  let c := s.cursor
  if c.column = 0 && c.has '%' 0 then s.fetchDirective
  else if c.atDocumentMark then
    s.fetchDocumentMark (if c.has '-' 0 then .documentStart else .documentEnd)
  else if c.has '[' 0 then s.fetchOpening .flowSequenceStart
  else if c.has '\x7b' 0 then s.fetchOpening .flowMappingStart
  else if c.has ']' 0 then s.fetchClosing .flowSequenceEnd
  else if c.has '\x7d' 0 then s.fetchClosing .flowMappingEnd
  else if c.has ',' 0 then s.fetchFlowEntry
  else if c.has '-' 0 && c.gapAt 1 then s.fetchBlockEntry
  else if c.has '?' 0 && (s.flow || c.gapAt 1) then s.fetchKey
  else if c.has ':' 0 && (s.flow || c.gapAt 1) then s.fetchValue
  else if c.has '*' 0 then s.fetchAnchor .alias
  else if c.has '&' 0 then s.fetchAnchor .anchor
  else if c.has '!' 0 then s.fetchTag
  else if c.has '|' 0 && !s.flow then s.fetchBlockScalar .literal
  else if c.has '>' 0 && !s.flow then s.fetchBlockScalar .folded
  else if c.has '\'' 0 then s.fetchQuoted .singleQuoted
  else if c.has '"' 0 then s.fetchQuoted .doubleQuoted
  else if plainBegins s.flow c then s.fetchPlain
  else none

def finish (s : Lexer) : Option Lexer := do
  let c := s.cursor
  let c := if c.column = 0 then c else { c with mark := ⟨c.mark.line + 1, 0⟩ }
  let s ← ({ s with cursor := c }.unrollTo none).dropKey
  return s.pushEmpty .streamEnd

/-- Reads the tokens that are left; every step reads a character. -/
def run : Nat → Lexer → Option Lexer
  | 0, _ => none
  | steps + 1, s => do
    let s ← (toNextToken s.cursor.bound s).dropStale
    let s := s.unrollTo (some s.column)
    if s.cursor.endAt 0 then s.finish else run steps (← s.fetch)

def run? (text : String) : Option (List Token) :=
  let c := Cursor.start text
  if c.rest.all isAllowed then (run c.bound { cursor := c }).map fun s => s.tokens.toList
  else none

end Lexer

end SheetExport.Yaml
