import SheetExport.Yaml.Cursor
import SheetExport.Yaml.Tokens

/-!
# YAML documents

The nodes of a document, read from its tokens, and texts that hold one document.
-/

/-!
## YAML nodes

A document is a tree of nodes. An alias is a leaf that names an anchor by its
number; `Document.target?` looks the anchored node up. Anchors are numbered by
the count of names known when they are set, so setting a name again can give
two names one number; the anchor set last then has it.
-/

namespace SheetExport.Yaml

/-- A scalar: its tag, how it was written, and its text. -/
structure ScalarNode where
  tag : Option String
  style : Style
  text : String
  deriving DecidableEq, Repr, Inhabited

/-- A node and the place where it begins. -/
inductive Node where
  | scalar (mark : Mark) (s : ScalarNode)
  | seq (mark : Mark) (tag : Option String) (items : List Node)
  | map (mark : Mark) (tag : Option String) (pairs : List (Node × Node))
  | alias (mark : Mark) (anchor : Nat)
  deriving Inhabited

def Node.mark : Node → Mark
  | .scalar m _ => m
  | .seq m _ _ => m
  | .map m _ _ => m
  | .alias m _ => m

mutual

/-- The number of events that make a node: one for a leaf, and for any other
its start, its end and those of its parts. -/
def Node.events : Node → Nat
  | .scalar _ _ => 1
  | .alias _ _ => 1
  | .seq _ _ items => 2 + eventsOfItems items
  | .map _ _ pairs => 2 + eventsOfPairs pairs

def eventsOfItems : List Node → Nat
  | [] => 0
  | n :: ns => n.events + eventsOfItems ns

def eventsOfPairs : List (Node × Node) → Nat
  | [] => 0
  | (k, v) :: ps => k.events + v.events + eventsOfPairs ps

end

/-- A document: its root if it is not empty, the order in which the anchor of
each number was set, and the anchored nodes in that order. -/
structure Document where
  root : Option Node
  places : List (Nat × Nat) := []
  anchored : List (Nat × Node) := []
  deriving Inhabited

namespace Document

def target? (d : Document) (anchor : Nat) : Option Node := do
  d.anchored.lookup (← d.places.lookup anchor)

def events (d : Document) : Nat := (d.root.map Node.events).getD 1

end Document

/-! ### Building nodes from tokens -/

/-- The tokens left, the meanings of tag handles, and the anchors set so far. -/
structure Builder where
  tokens : List Token
  handles : List (String × String) := []
  names : List (String × Nat) := []
  places : List (Nat × Nat) := []
  anchored : List (Nat × Node) := []
  deriving Inhabited

namespace Builder

def kind (b : Builder) : TokenKind := (b.tokens.head?.map Token.kind).getD .streamEnd

/-- Where the next token begins. -/
def mark (b : Builder) : Mark := (b.tokens.head?.map Token.start).getD ⟨0, 0⟩

def stop (b : Builder) : Mark := (b.tokens.head?.map Token.stop).getD ⟨0, 0⟩

def next (b : Builder) : Builder := { b with tokens := b.tokens.tail }

def emptyAt (m : Mark) : Node := .scalar m ⟨none, .plain, ""⟩

/-- Names an anchor: its number is the count of other names known, and the
place it takes is the last so far. -/
def setAnchor (b : Builder) (name : String) : Builder :=
  let n := b.names.length
  { b with
    names := (name, n) :: b.names.filter (·.1 ≠ name)
    places := (n, b.places.length) :: b.places }

/-- Records the node of the anchor that took a place. -/
def fillAnchor (b : Builder) (place : Option Nat) (n : Node) : Builder :=
  match place with
  | some p => { b with anchored := (p, n) :: b.anchored }
  | none => b

/-- The anchor and the tag in front of a node. -/
structure Properties where
  anchor : Option String := none
  tag : Option (String × String) := none

/-- Reads the anchor and the tag in front of a node, in either order. -/
def properties (b : Builder) : Properties × Builder :=
  match b.kind with
  | .anchor a =>
    match b.next.kind with
    | .tag h s => (⟨some a, some (h, s)⟩, b.next.next)
    | _ => (⟨some a, none⟩, b.next)
  | .tag h s =>
    match b.next.kind with
    | .anchor a => (⟨some a, some (h, s)⟩, b.next.next)
    | _ => (⟨none, some (h, s)⟩, b.next)
  | _ => ({}, b)

/-- The full form of a tag. -/
def resolveTag (b : Builder) : Option (String × String) → Option (Option String)
  | none => some none
  | some ("", suffix) => some (some suffix)
  | some (handle, suffix) => do return some ((← b.handles.lookup handle) ++ suffix)

/-- A reader of a node, `block` and `flat` telling whether block structure is
possible and whether entries may begin without indentation. -/
abbrev Reader (α : Type) := Builder → Option (α × Builder)

/-- Reads an element of a block sequence, given the kinds of tokens before which
there is none. -/
def entryOr (ends : TokenKind → Bool) (empty : Mark) (item : Reader Node) : Reader Node :=
  fun b => if ends b.kind then some (emptyAt empty, b) else item b

/-- Where no node follows, properties alone make an empty scalar. -/
def missing (m : Mark) (props : Properties) (tag : Option String) : Reader Node := fun b =>
  if props.anchor.isSome || tag.isSome then some (.scalar m ⟨tag, .plain, ""⟩, b) else none

/-- Reads the value of a key in brackets, if there is one. -/
def flowValue (ends : TokenKind → Bool) (item : Reader Node) : Reader Node := fun b =>
  match b.kind with
  | .value => if ends b.next.kind then some (emptyAt b.next.mark, b.next) else item b.next
  | _ => some (emptyAt b.mark, b)

mutual

def node : Nat → Bool → Bool → Reader Node
  | 0, _, _, _ => none
  | steps + 1, block, flat, b => do
    match b.kind with
    | .alias name =>
      let n ← b.names.lookup name
      return (.alias b.mark n, b.next)
    | _ =>
      let m := b.mark
      let (props, b) := b.properties
      let tag ← b.resolveTag props.tag
      let place := props.anchor.map fun _ => b.places.length
      let b := match props.anchor with
        | some a => b.setAnchor a
        | none => b
      let (n, b) ← body steps block flat m props tag b
      return (n, b.fillAnchor place n)

/-- Reads what follows the properties of a node. -/
def body : Nat → Bool → Bool → Mark → Properties → Option String → Reader Node
  | 0, _, _, _, _, _, _ => none
  | steps + 1, block, flat, m, props, tag, b =>
    match b.kind with
    | .scalar style text =>
      some (.scalar m ⟨if tag = some "!" then none else tag, style, text⟩, b.next)
    | .flowSequenceStart => do
      let (items, b) ← flowItems steps true b.next
      return (.seq m tag items, b)
    | .flowMappingStart => do
      let (pairs, b) ← flowPairs steps true b.next
      return (.map m tag pairs, b)
    | .blockEntry =>
      if flat then do
        let (items, b) ← flatItems steps b
        return (.seq m tag items, b)
      else missing m props tag b
    | .blockSequenceStart =>
      if block then do
        let (items, b) ← blockItems steps b.next
        return (.seq m tag items, b)
      else missing m props tag b
    | .blockMappingStart =>
      if block then do
        let (pairs, b) ← blockPairs steps b.next
        return (.map m tag pairs, b)
      else missing m props tag b
    | _ => missing m props tag b

def blockItems : Nat → Reader (List Node)
  | 0, _ => none
  | steps + 1, b =>
    match b.kind with
    | .blockEntry => do
      let ends := fun k : TokenKind => k == .blockEntry || k == .blockEnd
      let (n, b) ← entryOr ends b.stop (node steps true false) b.next
      let (ns, b) ← blockItems steps b
      return (n :: ns, b)
    | .blockEnd => some ([], b.next)
    | _ => none

def flatItems : Nat → Reader (List Node)
  | 0, _ => none
  | steps + 1, b =>
    match b.kind with
    | .blockEntry => do
      let ends := fun k : TokenKind =>
        k == .blockEntry || k == .key || k == .value || k == .blockEnd
      let (n, b) ← entryOr ends b.stop (node steps true false) b.next
      let (ns, b) ← flatItems steps b
      return (n :: ns, b)
    | _ => some ([], b)

/-- Reads the keys and values of a block mapping and its end. -/
def blockPairs : Nat → Reader (List (Node × Node))
  | 0, _ => none
  | steps + 1, b =>
    match b.kind with
    | .key => do
      let ends := fun k : TokenKind => k == .key || k == .value || k == .blockEnd
      let (k, b) ← entryOr ends b.stop (node steps true true) b.next
      let (v, b) ← match b.kind with
        | .value => entryOr ends b.stop (node steps true true) b.next
        | _ => some (emptyAt b.mark, b)
      let (ps, b) ← blockPairs steps b
      return ((k, v) :: ps, b)
    | .blockEnd => some ([], b.next)
    | _ => none

def flowItems : Nat → Bool → Reader (List Node)
  | 0, _, _ => none
  | steps + 1, first, b =>
    match b.kind with
    | .flowSequenceEnd => some ([], b.next)
    | k =>
      if !first && k != .flowEntry then none
      else
        let b := if first then b else b.next
        match b.kind with
        | .flowSequenceEnd => some ([], b.next)
        | .key => do
          let (p, b) ← flowPair steps b.mark b.next
          let (ns, b) ← flowItems steps false b
          return (p :: ns, b)
        | _ => do
          let (n, b) ← node steps false false b
          let (ns, b) ← flowItems steps false b
          return (n :: ns, b)

/-- Reads a single key and value that stand as an element in brackets. Where
the key is empty the token after its indicator does not count. -/
def flowPair : Nat → Mark → Reader Node
  | 0, _, _ => none
  | steps + 1, m, b => do
    let ends := fun k : TokenKind => k == .flowEntry || k == .flowSequenceEnd
    let (k, b) ←
      if b.kind == .value || ends b.kind then some (emptyAt b.stop, b.next)
      else node steps false false b
    let (v, b) ← flowValue ends (node steps false false) b
    return (.map m none [(k, v)], b)

/-- Reads the keys and values of a mapping in brackets and its end. -/
def flowPairs : Nat → Bool → Reader (List (Node × Node))
  | 0, _, _ => none
  | steps + 1, first, b =>
    match b.kind with
    | .flowMappingEnd => some ([], b.next)
    | k =>
      if !first && k != .flowEntry then none
      else
        let b := if first then b else b.next
        let ends := fun k : TokenKind => k == .flowEntry || k == .flowMappingEnd
        match b.kind with
        | .flowMappingEnd => some ([], b.next)
        | .key => do
          let b := b.next
          let (k, b) ←
            if b.kind == .value || ends b.kind then some (emptyAt b.mark, b)
            else node steps false false b
          let (v, b) ← flowValue ends (node steps false false) b
          let (ps, b) ← flowPairs steps false b
          return ((k, v) :: ps, b)
        | _ => do
          let (k, b) ← node steps false false b
          let (ps, b) ← flowPairs steps false b
          return ((k, emptyAt b.mark) :: ps, b)

end

end Builder

end SheetExport.Yaml

/-!
## Texts of one document

`Document.parse?` reads a text of one document, with its directives and marks.
A text without any node is an empty document; a second document makes the text
malformed.
-/

namespace SheetExport.Yaml

/-- The meanings that tag handles have without a directive. -/
def standardHandles : List (String × String) := [("!", "!"), ("!!", "tag:yaml.org,2002:")]

namespace Builder

def knownVersion (major minor : Nat) : Bool := major == 1 && (minor == 1 || minor == 2)

/-- Reads the directives of a document; each version and handle is given once. -/
def directives : Nat → Bool → List (String × String) → Builder → Option Builder
  | 0, _, _, _ => none
  | steps + 1, versioned, handles, b =>
    match b.kind with
    | .versionDirective major minor =>
      if versioned || !knownVersion major minor then none
      else directives steps true handles b.next
    | .tagDirective handle start =>
      if (handles.lookup handle).isSome then none
      else directives steps versioned ((handle, start) :: handles) b.next
    | _ => some { b with handles := handles ++ standardHandles }

/-- A token with which no content of a document begins. -/
def isOutside : TokenKind → Bool
  | .versionDirective _ _ => true
  | .tagDirective _ _ => true
  | .documentStart => true
  | .documentEnd => true
  | .streamEnd => true
  | _ => false

def skipEnds (b : Builder) : Builder :=
  { b with tokens := b.tokens.dropWhile fun t => t.kind == .documentEnd }

/-- More steps than are needed to read the tokens left. -/
def bound (b : Builder) : Nat := 4 * b.tokens.length + 16

/-- Reads the root of a document, which may be preceded by directives. -/
def root (b : Builder) : Option (Option Node × Builder) :=
  match b.kind with
  | .streamEnd => some (none, b)
  | k =>
    if isOutside k && k != .documentEnd then do
      let b ← b.directives b.bound false []
      if b.kind != .documentStart then none
      else
        let b := b.next
        if isOutside b.kind then some (some (emptyAt b.mark), b)
        else do
          let (n, b) ← node b.bound true false b
          return (some n, b)
    else do
      let (n, b) ← node b.bound true false { b with handles := standardHandles }
      return (some n, b)

end Builder

namespace Document

def ofTokens? (ts : List Token) : Option Document := do
  let (root, b) ← ({ tokens := ts } : Builder).root
  match b.skipEnds.kind with
  | .streamEnd => return ⟨root, b.places, b.anchored⟩
  | _ => none

def parse? (text : String) : Option Document := do ofTokens? (← Lexer.run? text)

end Document

end SheetExport.Yaml
