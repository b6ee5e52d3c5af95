import SheetExport.Yaml.Document

/-!
# YAML values

What scalars stand for, and the documents that have a value at all.
-/

/-!
## Plain scalars

What a plain scalar stands for depends on its text alone: nothing, a truth
value, a whole number in one of four bases, a double, or a text. Digits after a
leading zero are no number.
-/

namespace SheetExport.Yaml

/-- What a scalar stands for. A whole number may be too wide for 64 bits. -/
inductive Meaning where
  | null
  | bool (b : Bool)
  | int (i : Int)
  | wide (i : Int)
  | float (x : Float)
  | text (s : String)

def isNull (cs : List Char) : Bool :=
  cs == "null".toList || cs == "Null".toList || cs == "NULL".toList || cs == ['~']

def truth? (cs : List Char) : Option Bool :=
  if cs == "true".toList || cs == "True".toList || cs == "TRUE".toList then some true
  else if cs == "false".toList || cs == "False".toList || cs == "FALSE".toList then some false
  else none

def digitIn? (base : Nat) (c : Char) : Option Nat :=
  let v :=
    if c.isDigit then c.toNat - '0'.toNat
    else if 'a' ≤ c && c ≤ 'f' then c.toNat - 'a'.toNat + 10
    else if 'A' ≤ c && c ≤ 'F' then c.toNat - 'A'.toNat + 10
    else base
  if v < base then some v else none

def natIn? (base : Nat) (cs : List Char) : Option Nat :=
  if cs = [] then none
  else cs.foldlM (fun n c => do return n * base + (← digitIn? base c)) 0

def base? : List Char → Option (Nat × List Char)
  | '0' :: 'x' :: cs => some (16, cs)
  | '0' :: 'o' :: cs => some (8, cs)
  | '0' :: 'b' :: cs => some (2, cs)
  | _ => none

def basedNat? (cs : List Char) : Option Nat := do
  let (base, ds) ← base? cs
  natIn? base ds

/-- Digits that are no number because of a leading zero. -/
def isZeroPadded (cs : List Char) : Bool :=
  let ds := match cs with
    | '-' :: ds => ds
    | '+' :: ds => ds
    | ds => ds
  1 < ds.length && ds.head? == some '0' && ds.all Char.isDigit

def unsigned? (cs : List Char) : Option Nat :=
  let ds := match cs with
    | '+' :: ds => ds
    | ds => ds
  basedNat? ds <|> if isZeroPadded cs then none else natIn? 10 ds

def negative? (cs : List Char) : Option Int :=
  match cs with
  | '-' :: ds => do
    let n ← basedNat? ds <|> if isZeroPadded cs then none else natIn? 10 ds
    return -(n : Int)
  | _ => none

/-- A whole number of at most 128 bits, marked when it is wider than 64. -/
def whole? (cs : List Char) : Option Meaning :=
  match unsigned? cs with
  | some n =>
    if n < UInt64.size then some (.int n)
    else if n < Nat.pow 2 128 then some (.wide n) else none
  | none => do
    let i ← negative? cs
    if Int64.minValue.toInt ≤ i then some (.int i)
    else if -(Nat.pow 2 127 : Int) ≤ i then some (.wide i) else none

/-- The double nearest to `n * 10^e`. Numbers far outside the range of doubles are
not worked out. -/
def nearestFloat (n : Nat) (e : Int) : Float :=
  let len := Decimal.digitCount n
  if n = 0 then 0
  else if 400 < e + len then 1 / 0
  else if e + len < -400 then 0
  else if 0 ≤ e then Float.ofScientific n false e.toNat
  else Float.ofScientific n true e.natAbs

def floatExponent? : List Char → Option Int
  | [] => some 0
  | c :: cs =>
    if c = 'e' ∨ c = 'E' then
      match cs with
      | '-' :: ds => do return -((← natIn? 10 ds) : Int)
      | '+' :: ds => do return ((← natIn? 10 ds) : Int)
      | ds => do return ((← natIn? 10 ds) : Int)
    else none

/-- The double of a text of digits with a point or an exponent. -/
def decimalFloat? (cs : List Char) : Option Float := do
  let ds := cs.takeWhile Char.isDigit
  let rest := cs.dropWhile Char.isDigit
  let (fs, rest) := match rest with
    | '.' :: rest => (rest.takeWhile Char.isDigit, rest.dropWhile Char.isDigit)
    | rest => ([], rest)
  if ds = [] && fs = [] then none
  else
    let e ← floatExponent? rest
    let n ← natIn? 10 (ds ++ fs)
    return nearestFloat n (e - fs.length)

def float? (cs : List Char) : Option Float :=
  let ds := match cs with
    | '+' :: ds => ds
    | ds => ds
  let infinite := [".inf".toList, ".Inf".toList, ".INF".toList]
  if cs.head? == some '+' && (ds.head? == some '+' || ds.head? == some '-') then none
  else if infinite.contains ds then some (1 / 0)
  else if cs.head? == some '-' && infinite.contains cs.tail then some (-1 / 0)
  else if [".nan".toList, ".NaN".toList, ".NAN".toList].contains cs then some (0 / 0)
  else do
    let x ← match ds with
      | '-' :: ds => (decimalFloat? ds).map fun x => -x
      | ds => decimalFloat? ds
    if x.isFinite then some x else none

def plainMeaning (s : String) : Meaning :=
  let cs := s.toList
  if cs = [] || isNull cs then .null
  else
    match truth? cs with
    | some b => .bool b
    | none =>
      match whole? cs with
      | some m => m
      | none =>
        match if isZeroPadded cs then none else float? cs with
        | some x => .float x
        | none => .text s

/-- The start of the tags of the standard types. -/
def standardTag (name : String) : String := "tag:yaml.org,2002:" ++ name

/-- A scalar that does not fit its tag: the text, and what the tag asks for. -/
structure Unfitting where
  text : String
  expected : String

/-- What a scalar stands for; where its own tag does not count (`tagged`), its
text decides alone. -/
def ScalarNode.meaning (s : ScalarNode) (tagged : Bool) : Except Unfitting Meaning :=
  let cs := s.text.toList
  let byText : Meaning := if s.style = .plain then plainMeaning s.text else .text s.text
  match s.tag, tagged with
  | some t, false =>
    if t = standardTag "bool" then
      match truth? cs with
      | some b => .ok (.bool b)
      | none => .error ⟨s.text, "a boolean"⟩
    else if t = standardTag "int" then
      match whole? cs with
      | some m => .ok m
      | none => .error ⟨s.text, "an integer"⟩
    else if t = standardTag "float" then
      match float? cs with
      | some x => .ok (.float x)
      | none => .error ⟨s.text, "a float"⟩
    else if t = standardTag "null" then
      if isNull cs then .ok .null else .error ⟨s.text, "null"⟩
    else if t.toList.head? = some '!' then .ok byText
    else .ok (.text s.text)
  | _, _ => .ok byText

/-- A tag of the document's own, without its mark. -/
def ownTag? (tag : Option String) : Option String := do
  match (← tag).toList with
  | '!' :: cs => some (String.ofList cs)
  | _ => none

end SheetExport.Yaml

/-!
## Documents with a value

`Document.value?` reads a document for its own sake. That fails where scalars do
not fit their tags, where a mapping has a key twice, and where nodes are nested
too deeply or aliases followed too often; `Document.isRegular` tells whether it
succeeds.
-/

namespace SheetExport.Yaml

/-- The value of a node. -/
inductive Value where
  | null
  | bool (b : Bool)
  | int (i : Int)
  | float (x : Float)
  | text (s : String)
  | list (items : List Value)
  | map (pairs : List (Value × Value))
  | tagged (tag : String) (v : Value)
  deriving Inhabited

namespace Value

mutual

/-- Equality of keys; the order of pairs does not matter, and all values that
are no numbers are one. -/
def same : Value → Value → Bool
  | .null, .null => true
  | .bool a, .bool b => a == b
  | .int a, .int b => a == b
  | .float a, .float b => a == b || (a.isNaN && b.isNaN)
  | .text a, .text b => a == b
  | .list as, .list bs => sameItems as bs
  | .map as, .map bs => as.length == bs.length && within as bs
  | .tagged s a, .tagged t b => s == t && same a b
  | _, _ => false

def sameItems : List Value → List Value → Bool
  | [], [] => true
  | a :: as, b :: bs => same a b && sameItems as bs
  | _, _ => false

/-- All pairs are among others. -/
def within : List (Value × Value) → List (Value × Value) → Bool
  | [], _ => true
  | (k, v) :: as, bs => bs.any (fun p => same k p.1 && same v p.2) && within as bs

end

end Value

abbrev Budget := Nat

/-- Reads a document, following aliases within a budget. -/
abbrev Reading (ε α : Type) := StateT Budget (Except ε) α

namespace Document

/-- How deeply sequences and mappings may be nested. -/
def depthLimit : Nat := 128

/-- How often aliases may be followed: a hundred times for each event. -/
def budget (d : Document) : Budget := d.events * 100

/-- The node itself, or the one its alias stands for. -/
def follow {ε : Type} (d : Document) (limit : ε) (n : Node) : Reading ε Node :=
  match n with
  | .alias _ a => fun left =>
    match left, d.target? a with
    | left + 1, some n => .ok (n, left)
    | _, _ => .error limit
  | n => return n

def scalarValue (s : ScalarNode) (tagged : Bool) : Option Value :=
  match s.meaning tagged with
  | .ok .null => some .null
  | .ok (.bool b) => some (.bool b)
  | .ok (.int i) => some (.int i)
  | .ok (.wide _) => none
  | .ok (.float x) => some (.float x)
  | .ok (.text t) => some (.text t)
  | .error _ => none

/-- A value under its tag; an empty tag is refused. -/
def withTag (tag : Option String) (v : Value) : Option Value :=
  match ownTag? tag with
  | none => some v
  | some "" => none
  | some t => some (.tagged t v)

def need {α : Type} : Option α → Reading Unit α
  | some a => return a
  | none => throw ()

/-- The value of a node; `depth` counts the levels that may still be nested. -/
def readValue (d : Document) : Nat → Node → Reading Unit Value
  | depth, n => do
    match ← d.follow () n with
    | .scalar _ s => do
      let v ← need (scalarValue s (ownTag? s.tag).isSome)
      need (withTag s.tag v)
    | .seq _ tag items =>
      match depth with
      | 0 => throw ()
      | depth + 1 => do
        let vs ← items.mapM (readValue d depth)
        need (withTag tag (.list vs))
    | .map _ tag pairs =>
      match depth with
      | 0 => throw ()
      | depth + 1 => do
        let ps ← pairs.foldlM (fun done p => do
          let k ← readValue d depth p.1
          if done.any fun q => q.1.same k then throw ()
          else
            let v ← readValue d depth p.2
            return done ++ [(k, v)]) []
        need (withTag tag (.map ps))
    | .alias _ _ => throw ()

/-- The value of a document; an empty one has the empty value. -/
def value? (d : Document) : Option Value :=
  match d.root with
  | none => some .null
  | some n =>
    match (d.readValue depthLimit n).run d.budget with
    | .ok (v, _) => some v
    | .error _ => none

/-- The document can be read for its own sake. -/
def isRegular (d : Document) : Bool := d.value?.isSome

end Document

end SheetExport.Yaml
