import SheetExport.Schema
import SheetExport.Yaml.Value

/-!
# Reading YAML documents by a schema

`Schema.ofNode` reads a node as its schema says. Texts are taken from scalars
as they are written; nothing may be written as an empty scalar. A mismatch is
reported at the innermost node that was being read as a whole.
-/

namespace SheetExport.Yaml

open Schema (Found Mismatch Content)

/-- Why a document is not the expected one: a limit of nesting or of aliases, or
a mismatch with the path and mark of its node if they are known. -/
inductive Fault where
  | limit
  | unfit (place : Option (String × Mark)) (m : Mismatch)

/-- The document, and the path and remaining depth of the node that is read. -/
structure Site where
  document : Document
  path : String := rootPath
  depth : Nat := Document.depthLimit

namespace Site

/-- What stands in front of a name in a path. -/
def stem (s : Site) : String := if s.path = rootPath then "" else s.path ++ "."

/-- The site of the value of a key; keys that are no scalars have no name. -/
def member (s : Site) (key : Node) : Site :=
  match key with
  | .scalar _ k => { s with path := s.stem ++ k.text }
  | _ => { s with path := s.stem ++ "?" }

def element (s : Site) (i : Nat) : Site :=
  { s with path := s.path ++ "[" ++ toString i ++ "]" }

/-- The node itself, or the one its alias stands for. -/
def follow (s : Site) (n : Node) : Reading Fault Node := s.document.follow .limit n

end Site

/-- A mismatch of the node that is being read. -/
def unfitAt {α : Type} (s : Site) (mark : Mark) (m : Mismatch) : Reading Fault α :=
  throw (.unfit (some (s.path, mark)) m)

/-- A mismatch whose place is that of the node around. -/
def unfit {α : Type} (m : Mismatch) : Reading Fault α := throw (.unfit none m)

/-- Gives a mismatch without a place that of a node. -/
def placed {α : Type} (s : Site) (mark : Mark) (r : Reading Fault α) : Reading Fault α :=
  fun left =>
    match r left with
    | .error (.unfit none m) => .error (.unfit (some (s.path, mark)) m)
    | other => other

def deeper {α : Type} (s : Site) (f : Site → Reading Fault α) : Reading Fault α :=
  match s.depth with
  | 0 => throw .limit
  | depth + 1 => f { s with depth := depth }

def Meaning.found : Meaning → Found
  | .null => .unit
  | .bool b => .bool b
  | .int i => .int i
  | .wide i =>
    .other ("integer \x60" ++ toString i ++ "\x60 as " ++ (if i < 0 then "i128" else "u128"))
  | .float x => .float x
  | .text s => .text s

/-- How a scalar differs from what was expected. -/
def scalarMismatch (s : ScalarNode) (tagged : Bool) (expected : String) : Mismatch :=
  match s.meaning tagged with
  | .ok m => .invalidType m.found expected
  | .error u => .invalidValue (.text u.text) u.expected

def unlike {α : Type} (s : Site) (n : Node) (expected : String) : Reading Fault α :=
  match n with
  | .scalar mark v => unfitAt s mark (scalarMismatch v false expected)
  | .seq mark _ _ => unfitAt s mark (.invalidType .list expected)
  | .map mark _ _ => unfitAt s mark (.invalidType .map expected)
  | .alias _ _ => throw .limit

/-- A plain scalar without text, which can stand for a list or a record. -/
def ScalarNode.isBare (s : ScalarNode) : Bool := s.text = "" && s.style == .plain

def readText (s : Site) (n : Node) (expected : String) : Reading Fault (String × Mark) := do
  match ← s.follow n with
  | .scalar mark v => return (v.text, mark)
  | n => unlike s n expected

/-- A plain scalar, or a literal one with the tag of integers, can be a number. -/
def canBeNumber (s : ScalarNode) : Bool :=
  s.style == .plain || (s.style == .literal && s.tag == some (standardTag "int"))

def readNatural (s : Site) (n : Node) : Reading Fault Nat := do
  match ← s.follow n with
  | .scalar mark v =>
    match if canBeNumber v then (unsigned? v.text.toList).filter (· < UInt64.size) else none with
    | some k => return k
    | none => unlike s (.scalar mark v) "u64"
  | n => unlike s n "u64"

/-- Nothing is written as an empty or null plain scalar, whose tag must agree. -/
def isNothing (n : Node) : Except Mismatch Bool :=
  match n with
  | .scalar _ v =>
    if v.style ≠ .plain then .ok false
    else if v.tag = some (standardTag "null") then
      if isNull v.text.toList then .ok true else .error (.invalidValue (.text v.text) "null")
    else if v.tag.isSome then .ok false
    else .ok (v.text = "" || isNull v.text.toList)
  | _ => .ok false

def readName {α : Type} (s : Site) (options : List (String × α)) (n : Node) :
    Reading Fault α := do
  let (name, mark) ← readText s n "variant identifier"
  match options.lookup name with
  | some a => return a
  | none => unfitAt s mark (.unknownVariant name (options.map Prod.fst))

/-- What follows the tag that names an option stands for nothing. -/
def expectNothing (s : Site) (n : Node) : Reading Fault Unit :=
  match n with
  | .scalar mark v =>
    if v.style == .plain && (v.text = "" || isNull v.text.toList) then return ()
    else unfitAt s mark (.invalidValue (.text v.text) "null")
  | n => unlike s n "unit"

/-- Reads an option, named by a text or by a tag. -/
def readOption {α : Type} (s : Site) (options : List (String × α)) (n : Node) :
    Reading Fault α := do
  let n ← s.follow n
  let tag := match n with
    | .scalar _ v => ownTag? v.tag
    | .seq _ t _ => ownTag? t
    | .map _ t _ => ownTag? t
    | .alias _ _ => none
  match tag, n with
  | some t, n =>
    match options.lookup t with
    | some a => do
      expectNothing s n
      return a
    | none => unfit (.unknownVariant t (options.map Prod.fst))
  | none, .scalar _ _ => readName s options n
  | none, n => unlike s n "a YAML tag starting with '!'"

/-- What is said of a tag where none can be kept. -/
def tagRefused : Mismatch :=
  .other "untagged and internally tagged enums do not support enum input"

/-- A meaning as a content; there is none for wide integers. -/
def Meaning.content? : Meaning → Option Content
  | .null => some .unit
  | .bool b => some (.bool b)
  | .int i => some (.int i)
  | .wide _ => none
  | .float x => some (.float x)
  | .text s => some (.text s)

def scalarContent (s : Site) (mark : Mark) (v : ScalarNode) : Reading Fault Content :=
  match (v.meaning false).toOption.bind Meaning.content? with
  | some c => return c
  | none => unfitAt s mark (scalarMismatch v false "any value")

/-- Reads a node without a schema; `fuel` is at least the remaining depth. -/
def readContent : Nat → Site → Node → Reading Fault Content
  | fuel, s, n => do
    match ← s.follow n with
    | .scalar mark v =>
      if (ownTag? v.tag).isSome then unfitAt s mark tagRefused else scalarContent s mark v
    | .seq mark tag items =>
      if (ownTag? tag).isSome then unfitAt s mark tagRefused
      else
        match fuel with
        | 0 => throw .limit
        | fuel + 1 => deeper s fun s => do
          let cs ← items.zipIdx.mapM fun p => readContent fuel (s.element p.2) p.1
          return .list cs
    | .map mark tag pairs =>
      if (ownTag? tag).isSome then unfitAt s mark tagRefused
      else
        match fuel with
        | 0 => throw .limit
        | fuel + 1 => deeper s fun s => do
          let ps ← pairs.mapM fun p => do
            let k ← readContent fuel s p.1
            let v ← readContent fuel (s.member p.1) p.2
            return (k, v)
          return .map ps
    | .alias _ _ => throw .limit

/-- Reads the members of a union: the value of its tag by the names of the
variants, all others as they are. -/
def readTagged (s : Site) (tag : String) (names : List (String × String)) :
    Option String → List (Content × Content) → List (Node × Node) →
      Reading Fault (String × Content)
  | some t, done, [] => return (t, .map done.reverse)
  | none, _, [] => unfit (.missingField tag)
  | found, done, (k, v) :: ps => do
    match ← readContent s.depth s k with
    | .text key =>
      if key = tag then
        if found.isSome then unfit (.duplicateField tag)
        else
          let t ← readName (s.member k) names v
          readTagged s tag names (some t) done ps
      else
        let c ← readContent s.depth (s.member k) v
        readTagged s tag names found ((.text key, c) :: done) ps
    | key => do
      let c ← readContent s.depth (s.member k) v
      readTagged s tag names found ((key, c) :: done) ps

/-- Reads a union as the name of its variant and a content of the others. -/
def readUnion (s : Site) (name tag : String) (names : List String) (n : Node) :
    Reading Fault (String × Content) := do
  let names := names.map fun n => (n, n)
  let expected := "internally tagged enum " ++ name
  match ← s.follow n with
  | .scalar mark v =>
    if (ownTag? v.tag).isSome then unfitAt s mark (.invalidType .tagged expected)
    else unlike s (.scalar mark v) expected
  | .seq mark t items =>
    if (ownTag? t).isSome then unfitAt s mark (.invalidType .tagged expected)
    else placed s mark <| deeper s fun s =>
      match items with
      | [] => unfit (.missingField tag)
      | first :: rest => do
        let t ← readName (s.element 0) names first
        let cs ← rest.zipIdx.mapM fun p => readContent s.depth (s.element (p.2 + 1)) p.1
        return (t, .list cs)
  | .map mark t pairs =>
    if (ownTag? t).isSome then unfitAt s mark (.invalidType .tagged expected)
    else placed s mark <| deeper s fun s => readTagged s tag names none [] pairs
  | .alias _ _ => throw .limit

end SheetExport.Yaml

namespace SheetExport.Schema

open Yaml

/-- Reads the pairs of a mapping into a draft, given how a member is read. -/
def readPairs {δ : Type} (s : Site) (step : String → Node → Site → δ → Reading Yaml.Fault δ) :
    δ → List (Yaml.Node × Yaml.Node) → Reading Yaml.Fault δ
  | d, [] => return d
  | d, (k, v) :: ps => do
    let (key, _) ← Yaml.readText s k "field identifier"
    readPairs s step (← step key v (s.member k) d) ps

mutual

def ofNode {α : Type} : Schema α → Site → Node → Reading Yaml.Fault α
  | .text expected read, s, n => do
    let (t, mark) ← Yaml.readText s n expected
    match read t with
    | .ok a => return a
    | .error words => unfitAt s mark (.other words)
  | .any, s, n => readContent s.depth s n
  | .natural, s, n => Yaml.readNatural s n
  | .optional inner, s, n => do
    let n ← s.follow n
    match isNothing n with
    | .ok true => return none
    | .ok false => return some (← inner.ofNode s n)
    | .error m => unfit m
  | .list inner, s, n => do
    match ← s.follow n with
    | .seq mark _ items =>
      placed s mark <| deeper s fun s =>
        items.zipIdx.mapM fun p => inner.ofNode (s.element p.2) p.1
    | .scalar mark v => if v.isBare then return [] else Yaml.unlike s (.scalar mark v) "a sequence"
    | n => Yaml.unlike s n "a sequence"
  | .choice options, s, n => Yaml.readOption s options n
  | .record name fields build, s, n => do
    match ← s.follow n with
    | .map mark _ pairs =>
      placed s mark do
        let draft ← deeper s fun s => readPairs s fields.readNode fields.empty pairs
        match fields.finish draft with
        | .ok r => return build r
        | .error m => unfit m
    | .scalar mark v =>
      if v.isBare then
        match fields.finish fields.empty with
        | .ok r => return build r
        | .error m => unfitAt s mark m
      else Yaml.unlike s (.scalar mark v) ("struct " ++ name)
    | n => Yaml.unlike s n ("struct " ++ name)
  | .union name tag variants, s, n => do
    let (t, c) ← Yaml.readUnion s name tag variants.names n
    match variants.ofContent variants.names t c with
    | .ok a => return a
    | .error m => unfit m

/-- Reads a member into a draft; a member without a field is passed over. -/
def Fields.readNode {δ σ : Type} : Fields δ σ → String → Node → Site → δ → Reading Yaml.Fault δ
  | .nil, _, _, _, d => return d
  | .cons name _ inner rest, key, n, s, (a, d) =>
    if key = name then
      if a.isSome then unfit (.duplicateField name)
      else do return (some (← inner.ofNode s n), d)
    else do return (a, ← rest.readNode key n s d)

end

def ofNothing {α : Type} : Schema α → Option α
  | .record _ fields build => ((fields.finish fields.empty).toOption).map build
  | .optional _ => some none
  | .list _ => some []
  | _ => none

/-- What a YAML text stands for. A document that does not fit is called
malformed if it is not regular either. -/
def parseYaml {α : Type} (schema : Schema α) (text : String) : Except Yaml.Error α :=
  match Document.parse? text with
  | none => .error .malformed
  | some d =>
    match d.root with
    | none =>
      match schema.ofNothing with
      | some a => .ok a
      | none => .error .malformed
    | some n =>
      match (schema.ofNode ⟨d, rootPath, Document.depthLimit⟩ n).run d.budget with
      | .ok (a, _) => .ok a
      | .error (.unfit place m) =>
        if d.isRegular then
          let (path, mark) := place.getD (rootPath, ⟨0, 0⟩)
          .error (.unfit path m mark)
        else .error .malformed
      | .error .limit => .error .malformed

end SheetExport.Schema
