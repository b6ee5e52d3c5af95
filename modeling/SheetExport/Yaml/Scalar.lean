import SheetExport.Text.Bytes
import SheetExport.Yaml.Cursor

/-!
# Scalars, anchors and tags

Readers for the tokens with a text of their own.
-/

/-!
## Reading scalars

Plain and quoted scalars may go on over lines; what stands between two words
is then a `Gap`, and folding it gives a space or the line breaks after the
first. Block scalars keep the lines that are indented enough.
-/

namespace SheetExport.Yaml

/-- Blanks, or a first line break and more of them, between two words. -/
structure Gap where
  blanks : List Char := []
  broken : Bool := false
  first : List Char := []
  more : List Char := []

namespace Gap

/-- What a gap stands for: a single line break is a space, further ones stay. -/
def folded (g : Gap) : List Char :=
  if g.broken then
    if g.first = ['\n'] then (if g.more = [] then [' '] else g.more) else g.first ++ g.more
  else g.blanks

/-- Reads on to the next word. In plain scalars a tabulator must not stand
where a continued line has its indentation. -/
def read (indent : Option Nat) : Nat → Gap → Cursor → Option (Gap × Cursor)
  | 0, g, c => some (g, c)
  | steps + 1, g, c =>
    match c.rest with
    | [] => some (g, c)
    | ch :: _ =>
      if isBlank ch then
        if g.broken && ch == '\t' && indent.any (c.column < ·) then none
        else
          read indent steps (if g.broken then g else { g with blanks := g.blanks ++ [ch] })
            (c.skip 1)
      else if isBreak ch then
        let g' : Gap :=
          if g.broken then { g with more := g.more ++ c.breakText }
          else ⟨[], true, c.breakText, []⟩
        read indent steps g' c.skipBreak
      else some (g, c)

end Gap

/-- A scalar as read, and where it ends. -/
structure ScalarText where
  text : List Char
  stop : Mark
  after : Cursor

/-! ### Plain scalars -/

/-- A character that has a meaning of its own inside brackets. -/
def isFlowIndicator (c : Char) : Bool :=
  c == ',' || c == '[' || c == ']' || c == '\x7b' || c == '\x7d'

/-- The word of a plain scalar at a cursor ends here. -/
def plainWordEnds (flow : Bool) (c : Cursor) : Bool :=
  c.gapAt 0 || (c.has ':' 0 && c.gapAt 1) || (flow && (c.peek? 0).any isFlowIndicator)

/-- A colon inside brackets runs into the next indicator. -/
def colonRunsOn (flow : Bool) (c : Cursor) : Bool :=
  flow && c.has ':' 0 && (c.peek? 1).any fun ch => isFlowIndicator ch || ch == '?'

def plainWord (flow : Bool) : Nat → Cursor → Option (List Char × Cursor)
  | 0, c => some ([], c)
  | steps + 1, c =>
    match c.rest with
    | [] => some ([], c)
    | ch :: _ =>
      if c.gapAt 0 then some ([], c)
      else if colonRunsOn flow c then none
      else if plainWordEnds flow c then some ([], c)
      else do
        let (w, c) ← plainWord flow steps (c.skip 1)
        return (ch :: w, c)

/-- Reads a plain scalar: its text, where it ends, the cursor after the gap that
ended it, and whether that gap has a line break. -/
def plainScalar (flow : Bool) (indent : Nat) :
    Nat → List Char → Mark → Gap → Cursor → Option (ScalarText × Bool)
  | 0, text, stop, gap, c => some (⟨text, stop, c⟩, gap.broken)
  | steps + 1, text, stop, gap, c =>
    if c.atDocumentMark || c.has '#' 0 then some (⟨text, stop, c⟩, gap.broken)
    else do
      let (w, c) ← plainWord flow c.bound c
      let (text, stop, gap) :=
        if w = [] then (text, stop, gap) else (text ++ gap.folded ++ w, c.mark, {})
      if c.blankAt 0 || c.breakAt 0 then
        let (gap, c) ← gap.read (some indent) c.bound c
        if !flow && c.column < indent then some (⟨text, stop, c⟩, gap.broken)
        else plainScalar flow indent steps text stop gap c
      else some (⟨text, stop, c⟩, gap.broken)

/-! ### Quoted scalars -/

def escapeChar? (c : Char) : Option Char :=
  match c with
  | '0' => some '\x00'
  | 'a' => some '\x07'
  | 'b' => some '\x08'
  | 't' => some '\t'
  | '\t' => some '\t'
  | 'n' => some '\n'
  | 'v' => some '\x0b'
  | 'f' => some '\x0c'
  | 'r' => some '\r'
  | 'e' => some '\x1b'
  | ' ' => some ' '
  | '"' => some '"'
  | '/' => some '/'
  | '\\' => some '\\'
  | 'N' => some (Char.ofNat 0x85)
  | '_' => some (Char.ofNat 0xA0)
  | 'L' => some (Char.ofNat 0x2028)
  | 'P' => some (Char.ofNat 0x2029)
  | _ => none

def escapeDigits (c : Char) : Nat :=
  match c with
  | 'x' => 2
  | 'u' => 4
  | 'U' => 8
  | _ => 0

def hexValue? (c : Char) : Option Nat :=
  if c.isDigit then some (c.toNat - '0'.toNat)
  else if 'a' ≤ c && c ≤ 'f' then some (c.toNat - 'a'.toNat + 10)
  else if 'A' ≤ c && c ≤ 'F' then some (c.toNat - 'A'.toNat + 10)
  else none

def hexChar? (ds : List Char) : Option Char := do
  let n ← ds.foldlM (fun n d => do return n * 16 + (← hexValue? d)) 0
  if n.isValidChar then some (Char.ofNat n) else none

def escape (c : Cursor) : Option (Char × Cursor) :=
  match c.rest with
  | [] => none
  | e :: ds =>
    match escapeChar? e with
    | some ch => some (ch, c.skip 1)
    | none =>
      let n := escapeDigits e
      if n = 0 || ds.length < n then none
      else do
        let ch ← hexChar? (ds.take n)
        return (ch, c.skip (n + 1))

/-- Reads one word of a quoted scalar; also whether it ends in an escaped line
break. -/
def quotedWord (single : Bool) : Nat → Cursor → Option (List Char × Bool × Cursor)
  | 0, c => some ([], false, c)
  | steps + 1, c =>
    match c.rest with
    | [] => some ([], false, c)
    | ch :: _ =>
      if c.gapAt 0 then some ([], false, c)
      else if single && ch == '\'' && c.has '\'' 1 then do
        let (w, e, c) ← quotedWord single steps (c.skip 2)
        return ('\'' :: w, e, c)
      else if ch == (if single then '\'' else '"') then some ([], false, c)
      else if !single && ch == '\\' then
        if c.breakAt 1 then some ([], true, (c.skip 1).skipBreak)
        else do
          let (x, c) ← escape (c.skip 1)
          let (w, e, c) ← quotedWord single steps c
          return (x :: w, e, c)
      else do
        let (w, e, c) ← quotedWord single steps (c.skip 1)
        return (ch :: w, e, c)

def quotedScalar (single : Bool) : Nat → List Char → Cursor → Option ScalarText
  | 0, _, _ => none
  | steps + 1, text, c =>
    if c.atDocumentMark || c.endAt 0 then none
    else do
      let (w, escaped, c) ← quotedWord single c.bound c
      let text := text ++ w
      if c.has (if single then '\'' else '"') 0 then
        let c := c.skip 1
        some ⟨text, c.mark, c⟩
      else
        let (gap, c) ← ({ broken := escaped } : Gap).read none c.bound c
        quotedScalar single steps (text ++ gap.folded) c

/-! ### Block scalars -/

/-- What becomes of the line breaks at the end of a block scalar. -/
inductive Chomping where
  | strip
  | clip
  | keep
  deriving DecidableEq, Repr

def chompingMark (c : Cursor) : Option Chomping × Cursor :=
  if c.has '+' 0 then (some .keep, c.skip 1)
  else if c.has '-' 0 then (some .strip, c.skip 1)
  else (none, c)

/-- Reads the indentation indicator, if there is one; it must not be zero. -/
def indentMark (c : Cursor) : Option (Nat × Cursor) :=
  match c.peek? 0 with
  | some d =>
    if d = '0' then none
    else if d.isDigit then some (d.toNat - '0'.toNat, c.skip 1)
    else some (0, c)
  | none => some (0, c)

def blockHeader (c : Cursor) : Option (Chomping × Nat × Cursor) :=
  match chompingMark c with
  | (some k, c) => do
    let (n, c) ← indentMark c
    return (k, n, c)
  | (none, c) => do
    let (n, c) ← indentMark c
    if n = 0 then return (.clip, 0, c)
    else
      let (k, c) := chompingMark c
      return (k.getD .clip, n, c)

/-- Reads indentation and empty lines. With no indentation known (`0`) all
spaces count, and the widest of the lines is remembered. -/
def emptyLines (indent : Nat) :
    Nat → Nat → List Char → Mark → Cursor → Option (Nat × List Char × Mark × Cursor)
  | 0, widest, breaks, stop, c => some (widest, breaks, stop, c)
  | steps + 1, widest, breaks, stop, c =>
    let spaces := (c.takeWhile (· == ' ')).length
    let c := c.skip (if indent = 0 then spaces else min spaces (indent - c.column))
    let widest := max widest c.column
    if (indent = 0 || c.column < indent) && c.has '\t' 0 then none
    else if c.breakAt 0 then
      let next := c.skipBreak
      emptyLines indent steps widest (breaks ++ c.breakText) next.mark next
    else some (widest, breaks, stop, c)

/-- Reads the lines of a block scalar: its text, the line break after the last
of them, and the further breaks after that. -/
def blockLines (folded : Bool) (indent : Nat) :
    Nat → List Char → List Char → List Char → Bool → Mark → Cursor →
      Option (List Char × List Char × List Char × Mark × Cursor)
  | 0, text, lead, trail, _, stop, c => some (text, lead, trail, stop, c)
  | steps + 1, text, lead, trail, leadBlank, stop, c =>
    if c.column == indent && !c.endAt 0 then
      let blank := c.blankAt 0
      let joint :=
        if folded && lead == ['\n'] && !leadBlank && !blank then
          (if trail = [] then [' '] else trail)
        else lead ++ trail
      let line := c.takeWhile fun ch => !isBreak ch
      let c := c.skipLine
      let lead := c.breakText
      let c := c.skipBreakOrEnd
      match emptyLines indent c.bound 0 [] c.mark c with
      | none => none
      | some (_, trail, stop, c) =>
        blockLines folded indent steps (text ++ joint ++ line) lead trail blank stop c
    else some (text, lead, trail, stop, c)

/-- Reads a block scalar after its first character; `parent` is the indentation
of the block around it, `none` outside of any. -/
def blockScalar (folded : Bool) (parent : Option Nat) (c : Cursor) : Option ScalarText := do
  let (chomping, increment, c) ← blockHeader c
  let c := (c.skipWhile isBlank).skipComment
  if !c.breakOrEndAt 0 then none
  else
    let c := c.skipBreakOrEnd
    let given := if increment = 0 then 0 else parent.getD 0 + increment
    let (widest, trail, stop, c) ← emptyLines given c.bound 0 [] c.mark c
    let least := match parent with
      | some n => n + 1
      | none => 1
    let indent := if given = 0 then max widest least else given
    let (text, lead, trail, stop, c) ← blockLines folded indent c.bound [] [] trail false stop c
    let tail := match chomping with
      | .strip => []
      | .clip => lead
      | .keep => lead ++ trail
    return ⟨text ++ tail, stop, c⟩

end SheetExport.Yaml

/-!
## Reading anchors, tags and directives

Anchors and aliases are names. A tag is a handle between exclamation marks and
a suffix, or is written in full between angle brackets; octets that its suffix
cannot hold are written by code. Directives give the version of a document or a
meaning to a handle.
-/

namespace SheetExport.Yaml

def anchorName (c : Cursor) : Option (String × Cursor) :=
  let name := c.takeWhile isNameChar
  let c := c.skipWhile isNameChar
  let ends := c.gapAt 0 ||
    (c.peek? 0).any fun ch => ['?', ':', ',', ']', '\x7d', '%', '@', '\x60'].contains ch
  if name ≠ [] && ends then some (String.ofList name, c) else none

/-- A character that the suffix of a tag may hold besides those of names;
`full` for a tag between angle brackets. -/
def isTagMark (full : Bool) (c : Char) : Bool :=
  [';', '/', '?', ':', '@', '&', '=', '+', '$', '.', '%', '!', '~', '*', '\'', '(', ')'].contains c
    || (full && [',', '[', ']'].contains c)

def octets (n : Nat) : Nat :=
  if n < 0x80 then 1
  else if n / 0x20 = 6 then 2
  else if n / 0x10 = 14 then 3
  else if n / 8 = 30 then 4
  else 0

def octet (c : Cursor) : Option (Nat × Cursor) :=
  match c.rest with
  | '%' :: a :: b :: _ => do return ((← hexDigit a) * 16 + (← hexDigit b), c.skip 3)
  | _ => none
where
  hexDigit (c : Char) : Option Nat :=
    if c.isDigit then some (c.toNat - '0'.toNat)
    else if 'a' ≤ c && c ≤ 'f' then some (c.toNat - 'a'.toNat + 10)
    else if 'A' ≤ c && c ≤ 'F' then some (c.toNat - 'A'.toNat + 10)
    else none

def moreOctets : Nat → Cursor → Option (List UInt8 × Cursor)
  | 0, c => some ([], c)
  | n + 1, c => do
    let (o, c) ← octet c
    if o / 0x40 = 2 then
      let (os, c) ← moreOctets n c
      return (o.toUInt8 :: os, c)
    else none

/-- Reads the octets of a character that is written by code. -/
def codedChar (c : Cursor) : Option (List UInt8 × Cursor) := do
  let (o, c) ← octet c
  match octets o with
  | 0 => none
  | n + 1 => do
    let (os, c) ← moreOctets n c
    return (o.toUInt8 :: os, c)

def tagOctets (full : Bool) : Nat → Cursor → Option (List UInt8 × Cursor)
  | 0, c => some ([], c)
  | steps + 1, c =>
    match c.rest with
    | [] => some ([], c)
    | ch :: _ =>
      if isNameChar ch || isTagMark full ch then do
        let (os, c) ← if ch = '%' then codedChar c else some (String.utf8EncodeChar ch, c.skip 1)
        let (more, c) ← tagOctets full steps c
        return (os ++ more, c)
      else some ([], c)

/-- Reads the suffix of a tag. Without characters before it, it is not empty. -/
def tagSuffix (full : Bool) (before : List Char) (c : Cursor) : Option (String × Cursor) := do
  let (os, after) ← tagOctets full c.bound c
  if before = [] && os = [] then none
  else
    return (String.ofList (Text.Utf8.decodeLossy (Text.Utf8.encode before.tail ++ os)), after)

def tagHandle (c : Cursor) : Option (List Char × Cursor) :=
  if c.has '!' 0 then
    let name := (c.skip 1).takeWhile isNameChar
    let c := (c.skip 1).skipWhile isNameChar
    if c.has '!' 0 then some ('!' :: name ++ ['!'], c.skip 1) else some ('!' :: name, c)
  else none

/-- The characters form a handle that is closed by a mark of its own. -/
def isClosedHandle (h : List Char) : Bool := 2 ≤ h.length && h.getLast? == some '!'

def tag (flow : Bool) (c : Cursor) : Option (TokenKind × Cursor) := do
  let (kind, c) ←
    if c.has '<' 1 then do
      let (suffix, c) ← tagSuffix true [] (c.skip 2)
      if c.has '>' 0 then some (TokenKind.tag "" suffix, c.skip 1) else none
    else do
      let (h, c) ← tagHandle c
      if isClosedHandle h then do
        let (suffix, c) ← tagSuffix false [] c
        some (TokenKind.tag (String.ofList h) suffix, c)
      else do
        let (suffix, c) ← tagSuffix false h c
        some (if suffix = "" then TokenKind.tag "" "!" else TokenKind.tag "!" suffix, c)
  if c.gapAt 0 || (flow && c.has ',' 0) then some (kind, c) else none

def versionNumber (c : Cursor) : Option (Nat × Cursor) :=
  let ds := c.takeWhile Char.isDigit
  if ds = [] || 9 < ds.length then none
  else some (ds.foldl (fun n d => n * 10 + (d.toNat - '0'.toNat)) 0, c.skip ds.length)

def directive (c : Cursor) : Option (TokenKind × Mark × Cursor) := do
  let c := c.skip 1
  let name := String.ofList (c.takeWhile isNameChar)
  let c := c.skipWhile isNameChar
  if !c.gapAt 0 then none
  else
    let (kind, c) ←
      if name = "YAML" then do
        let (major, c) ← versionNumber (c.skipWhile isBlank)
        if c.has '.' 0 then do
          let (minor, c) ← versionNumber (c.skip 1)
          some (TokenKind.versionDirective major minor, c)
        else none
      else if name = "TAG" then do
        let (h, c) ← tagHandle (c.skipWhile isBlank)
        if !c.blankAt 0 || !(h = ['!'] || isClosedHandle h) then none
        else do
          let (start, c) ← tagSuffix true [] (c.skipWhile isBlank)
          if c.gapAt 0 then some (TokenKind.tagDirective (String.ofList h) start, c) else none
      else none
    let stop := c.mark
    let c := (c.skipWhile isBlank).skipComment
    if c.breakOrEndAt 0 then return (kind, stop, c.skipBreakOrEnd) else none

end SheetExport.Yaml
