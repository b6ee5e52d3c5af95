import SheetExport.Json.Lexeme
import SheetExport.Schema

/-!
# Reading JSON

Lists and objects, whole values, and documents that are read by a schema.
-/

/-!
## Lists and objects of JSON texts

`elements` and `members` read what stands between brackets, given a reader for
one element or for the value of one member. Both loops need at most one round
per character. `closing` reads the end of a list or object whose content has
been read or refused, and gives a mismatch of the content its place.
-/

namespace SheetExport.Json

/-- Reads up to the next element of a list, after its bracket (`first`) or an
element: whether there is one. A `strict` reader reports a comma before the
closing bracket as such. -/
def nextElement (strict first : Bool) : Reader Bool := fun cs =>
  match skipGaps cs with
  | [] => fault .endInList []
  | ']' :: rest => .ok (false, ']' :: rest)
  | c :: rest =>
    if first then .ok (true, c :: rest)
    else if c = ',' then
      if strict then
        match skipGaps rest with
        | [] => fault .endInValue []
        | ']' :: rest => faultAt .trailingComma (']' :: rest)
        | rest => .ok (true, rest)
      else .ok (true, rest)
    else faultAt .expectedListCommaOrEnd (c :: rest)

/-- Reads up to and with the opening quote of the next key of an object: whether
there is one. -/
def nextKey (strict first : Bool) : Reader Bool := fun cs =>
  match skipGaps cs with
  | [] => fault .endInObject []
  | '\x7d' :: rest => .ok (false, '\x7d' :: rest)
  | c :: rest =>
    if first then
      if c = '"' then .ok (true, rest) else faultAt .keyMustBeString (c :: rest)
    else if c = ',' then
      match skipGaps rest with
      | [] => fault (if strict then .endInValue else .endInObject) []
      | '"' :: rest => .ok (true, rest)
      | c :: rest =>
        faultAt (if strict && c == '\x7d' then .trailingComma else .keyMustBeString) (c :: rest)
    else faultAt .expectedObjectCommaOrEnd (c :: rest)

def colon (cs : List Char) : Except Fault (List Char) :=
  match skipGaps cs with
  | [] => fault .endInObject []
  | ':' :: rest => .ok rest
  | rest => faultAt .expectedColon rest

def elements {α : Type} (strict : Bool) (item : Reader α) : Nat → Bool → Reader (List α)
  | 0, _, cs => fault .endInList cs
  | rounds + 1, first, cs => do
    let (more, cs) ← nextElement strict first cs
    if more then
      let (a, cs) ← item cs
      let (as, cs) ← elements strict item rounds false cs
      return (a :: as, cs)
    else return ([], cs)

/-- Reads the members of an object, up to its closing brace: `key` reads a key
after its quote, `step` goes on from there with the state so far. -/
def members {κ σ : Type} (strict : Bool) (key : Reader κ) (step : κ → σ → Reader σ) :
    Nat → Bool → σ → Reader σ
  | 0, _, _, cs => fault .endInObject cs
  | rounds + 1, first, s, cs => do
    let (more, cs) ← nextKey strict first cs
    if more then
      let (k, cs) ← key cs
      let (s, cs) ← step k s cs
      members strict key step rounds false s cs
    else return (s, cs)

def readKey : Reader String := fun cs => do
  let (k, cs) ← stringBody none cs
  return (String.ofList k, cs)

def readString : Reader String := readKey

def endList (cs : List Char) : Except Fault (List Char) :=
  match skipGaps cs with
  | [] => fault .endInList []
  | ']' :: rest => .ok rest
  | ',' :: rest =>
    match skipGaps rest with
    | ']' :: rest => faultAt .trailingComma (']' :: rest)
    | rest => faultAt .trailingCharacters rest
  | rest => faultAt .trailingCharacters rest

def endObject (cs : List Char) : Except Fault (List Char) :=
  match skipGaps cs with
  | [] => fault .endInObject []
  | '\x7d' :: rest => .ok rest
  | ',' :: rest => faultAt .trailingComma (',' :: rest)
  | rest => faultAt .trailingCharacters rest

/-- Where a reader stands after it tried to read the end of a list. -/
def pastList (cs : List Char) : List Char :=
  match skipGaps cs with
  | ']' :: rest => rest
  | ',' :: rest => skipGaps rest
  | rest => rest

/-- Where a reader stands after it tried to read the end of an object. -/
def pastObject (cs : List Char) : List Char :=
  match skipGaps cs with
  | '\x7d' :: rest => rest
  | rest => rest

/-- The result of a content together with the end of its list or object: a
fault of the content wins, and if it has no place it is put past the end. -/
def closing {α : Type} (ending : List Char → Except Fault (List Char))
    (past : List Char → List Char) : Except Fault (α × List Char) → Except Fault (α × List Char)
  | .ok (a, cs) => do return (a, ← ending cs)
  | .error e => .error (if e.located then e else { e with rest := past e.rest, located := true })

end SheetExport.Json

/-!
## Reading JSON values

`value` reads any JSON value, with at most 127 brackets open at a time. `skip`
passes over a value of any depth and asks less of it: halves of surrogate pairs
and the size of numbers do not matter. `document` reads a whole text with a
given reader and refuses anything after it.
-/

namespace SheetExport.Json

/-- The number of brackets that may be open at a time. -/
def depthLimit : Nat := 127

/-- A value after its gaps whose first character shows that it holds no others;
`none` for an opening bracket. -/
def scalar? (cs : List Char) : Except Fault (Option (Json × List Char)) :=
  match cs with
  | [] => fault .endInValue []
  | 'n' :: rest => do return some (.null, ← ident ['u', 'l', 'l'] rest)
  | 't' :: rest => do return some (.bool true, ← ident ['r', 'u', 'e'] rest)
  | 'f' :: rest => do return some (.bool false, ← ident ['a', 'l', 's', 'e'] rest)
  | '-' :: rest => do
    let (n, rest) ← readNumber true rest
    return some (.number n, rest)
  | '"' :: rest => do
    let (s, rest) ← readString rest
    return some (.string s, rest)
  | '[' :: _ => .ok none
  | '\x7b' :: _ => .ok none
  | c :: rest =>
    if c.isDigit then do
      let (n, rest) ← readNumber false (c :: rest)
      return some (.number n, rest)
    else faultAt .expectedValue (c :: rest)

def memberWith (item : Reader Json) (k : String) (ms : List (String × Json)) :
    Reader (List (String × Json)) := fun cs => do
  let cs ← colon cs
  let (v, cs) ← item cs
  return ((k, v) :: ms, cs)

/-- Reads a value; `depth` is the number of brackets that may still be opened. -/
def value (depth : Nat) : Reader Json := fun cs => do
  let cs := skipGaps cs
  match ← scalar? cs with
  | some (v, rest) => return (v, rest)
  | none =>
    match depth with
    | 0 => faultAt .tooDeep cs
    | d + 1 =>
      if cs.head? = some '[' then
        let (items, rest) ← closing endList pastList
          (elements true (value d) cs.length true cs.tail)
        return (.array items, rest)
      else
        let (ms, rest) ← closing endObject pastObject
          (members true readKey (memberWith (value d)) cs.length true [] cs.tail)
        return (.object ms.reverse, rest)
termination_by structural depth

def skipMember (item : Reader Unit) (_ _ : Unit) : Reader Unit := fun cs => do
  item (← colon cs)

/-- Passes over a value; `depth` bounds the number of brackets left. -/
def skipWithin : Nat → Reader Unit
  | 0, cs => fault .endInValue cs
  | depth + 1, cs => do
    match skipGaps cs with
    | [] => fault .endInValue []
    | 'n' :: rest => return ((), ← ident ['u', 'l', 'l'] rest)
    | 't' :: rest => return ((), ← ident ['r', 'u', 'e'] rest)
    | 'f' :: rest => return ((), ← ident ['a', 'l', 's', 'e'] rest)
    | '-' :: rest => return ((), ← skipNumber rest)
    | '"' :: rest => return ((), ← skipString rest)
    | '[' :: rest =>
      let (_, rest) ← elements false (skipWithin depth) (rest.length + 1) true rest
      return ((), ← endList rest)
    | '\x7b' :: rest =>
      let (_, rest) ← members false (fun cs => do return ((), ← skipString cs))
        (skipMember (skipWithin depth)) (rest.length + 1) true () rest
      return ((), ← endObject rest)
    | c :: rest =>
      if c.isDigit then return ((), ← skipNumber (c :: rest))
      else faultAt .expectedValue (c :: rest)

def skip : Reader Unit := fun cs => skipWithin (cs.length + 1) cs

def document {α : Type} (read : Reader α) (s : String) : Except Error α :=
  let cs := s.toList
  match read cs with
  | .error e => .error (e.toError cs)
  | .ok (a, rest) =>
    match skipGaps rest with
    | [] => .ok a
    | c :: rest => .error ((⟨.trailingCharacters, c :: rest, 1, true⟩ : Fault).toError cs)

def parse (s : String) : Except Error Json := document (value depthLimit) s

end SheetExport.Json

/-!
## Reading JSON texts by a schema

`Schema.ofJson` reads a text as its schema says: records are objects, or lists
of their fields in order; members without a field are passed over. Of a union
the whole object is read before the variant is known.
-/

namespace SheetExport.Json

open Schema (Found Mismatch Content)

def found : Json → Found
  | .null => .unit
  | .bool b => .bool b
  | .number (.int i) => .int i
  | .number (.float x) => .float x
  | .string s => .text s
  | .array _ => .list
  | .object _ => .map

mutual

def toContent : Json → Content
  | .null => .unit
  | .bool b => .bool b
  | .number (.int i) => .int i
  | .number (.float x) => .float x
  | .string s => .text s
  | .array items => .list (toContents items)
  | .object ms => .map (toPairs ms)

def toContents : List Json → List Content
  | [] => []
  | v :: vs => toContent v :: toContents vs

def toPairs : List (String × Json) → List (Content × Content)
  | [] => []
  | (k, v) :: ms => (.text k, toContent v) :: toPairs ms

end

mutual

/-- A content as a value; members whose keys are no texts are left out. -/
def ofContent : Content → Json
  | .unit => .null
  | .bool b => .bool b
  | .int i => .number (.int i)
  | .float x => .number (.float x)
  | .text s => .string s
  | .list items => .array (ofContents items)
  | .map ms => .object (ofPairs ms)

def ofContents : List Content → List Json
  | [] => []
  | c :: cs => ofContent c :: ofContents cs

def ofPairs : List (Content × Content) → List (String × Json)
  | [] => []
  | (.text k, c) :: ms => (k, ofContent c) :: ofPairs ms
  | _ :: ms => ofPairs ms

end

mutual

theorem ofContent_toContent : (v : Json) → ofContent (toContent v) = v
  | .null => rfl
  | .bool _ => rfl
  | .number (.int _) => rfl
  | .number (.float _) => rfl
  | .string _ => rfl
  | .array items => by simp [toContent, ofContent, ofContents_toContents items]
  | .object ms => by simp [toContent, ofContent, ofPairs_toPairs ms]

theorem ofContents_toContents : (vs : List Json) → ofContents (toContents vs) = vs
  | [] => rfl
  | v :: vs => by
    simp [toContents, ofContents, ofContent_toContent v, ofContents_toContents vs]

theorem ofPairs_toPairs : (ms : List (String × Json)) → ofPairs (toPairs ms) = ms
  | [] => rfl
  | (k, v) :: ms => by simp [toPairs, ofPairs, ofContent_toContent v, ofPairs_toPairs ms]

end

/-- The value ahead is none of what was expected. -/
def unlike {α : Type} (expected : String) (cs : List Char) : Except Fault α := do
  match ← scalar? cs with
  | some (v, rest) => mismatchAt (.invalidType (found v) expected) rest
  | none =>
    mismatchAt (.invalidType (if cs.head? = some '[' then .list else .map) expected) cs

def expectString (expected : String) : Reader String := fun cs =>
  match skipGaps cs with
  | '"' :: rest => readString rest
  | cs => unlike expected cs

def readNatural : Reader Nat := fun cs => do
  let cs := skipGaps cs
  match ← scalar? cs with
  | some (.number (.int i), rest) =>
    if 0 ≤ i then return (i.toNat, rest)
    else mismatchAt (.invalidValue (.int i) "u64") rest
  | _ => unlike "u64" cs

def readChoice {α : Type} (options : List (String × α)) : Reader α := fun cs => do
  let (name, rest) ← expectString "variant identifier" cs
  match options.lookup name with
  | some a => return (a, rest)
  | none => mismatchAt (.unknownVariant name (options.map Prod.fst)) rest

/-- Reads an option, or an object of one null member named for it. -/
def readOption {α : Type} (depth : Nat) (options : List (String × α)) : Reader α := fun cs =>
  match skipGaps cs with
  | [] => fault .endInValue []
  | '"' :: rest => readChoice options ('"' :: rest)
  | '\x7b' :: rest =>
    if depth = 0 then faultAt .tooDeep ('\x7b' :: rest)
    else do
      let (a, rest) ← readChoice options rest
      let rest := skipGaps (← colon rest)
      let rest ← match rest with
        | 'n' :: rest => ident ['u', 'l', 'l'] rest
        | rest => unlike "unit" rest
      match skipGaps rest with
      | [] => fault .endInObject []
      | '\x7d' :: rest => return (a, rest)
      | rest => fault .expectedValue rest
  | rest => faultAt .expectedValue rest

/-- Reads a member of a union: the tag by the names of the variants, all others
as they are. -/
def readTagged (depth : Nat) (tag : String) (names : List String) (key : String)
    (s : Option String × List (String × Json)) : Reader (Option String × List (String × Json)) :=
  fun cs =>
    if key = tag then
      if s.1.isSome then mismatchOf (.duplicateField tag) cs
      else do
        let (t, cs) ← readChoice (names.map fun n => (n, n)) (← colon cs)
        return ((some t, s.2), cs)
    else do
      let (v, cs) ← value depth (← colon cs)
      return ((s.1, (key, v) :: s.2), cs)

/-- Reads a union as the name of its variant and a content of the others. -/
def readUnion (depth : Nat) (name tag : String) (names : List String) :
    Reader (String × Content) := fun cs =>
  match skipGaps cs, depth with
  | '[' :: rest, 0 => faultAt .tooDeep ('[' :: rest)
  | '\x7b' :: rest, 0 => faultAt .tooDeep ('\x7b' :: rest)
  | '[' :: rest, d + 1 => closing endList pastList do
    let (more, cs) ← nextElement true true rest
    if more then
      let (t, cs) ← readChoice (names.map fun n => (n, n)) cs
      let (items, cs) ← elements true (value d) (cs.length + 1) false cs
      return ((t, .list (toContents items)), cs)
    else mismatchOf (.missingField tag) cs
  | '\x7b' :: rest, d + 1 => closing endObject pastObject do
    let ((t, ms), cs) ←
      members true readKey (readTagged d tag names) (rest.length + 1) true (none, []) rest
    match t with
    | some t => return ((t, .map (toPairs ms.reverse)), cs)
    | none => mismatchOf (.missingField tag) cs
  | cs, _ => unlike ("internally tagged enum " ++ name) cs

end SheetExport.Json

namespace SheetExport.Schema

open Json

mutual

/-- Reads a text by a schema; `depth` is the number of brackets that may still
be opened. -/
def ofJson {α : Type} : Schema α → Nat → Reader α
  | .text expected read, _, cs => do
    let (s, rest) ← expectString expected cs
    match read s with
    | .ok a => return (a, rest)
    | .error words => mismatchAt (.other words) rest
  | .any, depth, cs => do
    let (v, rest) ← value depth cs
    return (toContent v, rest)
  | .natural, _, cs => readNatural cs
  | .optional s, depth, cs =>
    match skipGaps cs with
    | 'n' :: rest => do return (none, ← ident ['u', 'l', 'l'] rest)
    | cs => do
      let (a, rest) ← s.ofJson depth cs
      return (some a, rest)
  | .list s, depth, cs =>
    match skipGaps cs, depth with
    | '[' :: rest, 0 => faultAt .tooDeep ('[' :: rest)
    | '[' :: rest, d + 1 =>
      closing endList pastList (elements true (s.ofJson d) (rest.length + 1) true rest)
    | cs, _ => unlike "a sequence" cs
  | .choice options, depth, cs => readOption depth options cs
  | .record name fields build, depth, cs =>
    match skipGaps cs, depth with
    | '[' :: rest, 0 => faultAt .tooDeep ('[' :: rest)
    | '\x7b' :: rest, 0 => faultAt .tooDeep ('\x7b' :: rest)
    | '[' :: rest, d + 1 => closing endList pastList do
      let (r, cs) ← fields.readList d (withElements ("struct " ++ name) fields.names.length) 0 rest
      return (build r, cs)
    | '\x7b' :: rest, d + 1 => closing endObject pastObject do
      let (draft, cs) ←
        members true readKey (fields.readMember d) (rest.length + 1) true fields.empty rest
      match fields.finish draft with
      | .ok r => return (build r, cs)
      | .error m => mismatchOf m cs
    | cs, _ => unlike ("struct " ++ name) cs
  | .union name tag variants, depth, cs => do
    let ((t, content), rest) ← readUnion depth name tag variants.names cs
    match variants.ofContent variants.names t content with
    | .ok a => return (a, rest)
    | .error m => mismatchOf m rest

/-- Reads a member into a draft, after its key; a member without a field is
passed over. -/
def Fields.readMember {δ σ : Type} : Fields δ σ → Nat → String → δ → Reader δ
  | .nil, _, _, d, cs => do
    let (_, cs) ← skip (← colon cs)
    return (d, cs)
  | .cons name _ s rest, depth, key, (a, d), cs =>
    if key = name then
      if a.isSome then mismatchOf (.duplicateField name) cs
      else do
        let (a, cs) ← s.ofJson depth (← colon cs)
        return ((some a, d), cs)
    else do
      let (d, cs) ← rest.readMember depth key d cs
      return ((a, d), cs)

/-- Reads the fields in order from the elements of a list, `i` of which have
been read. -/
def Fields.readList {δ σ : Type} : Fields δ σ → Nat → String → Nat → Reader σ
  | .nil, _, _, _, cs => .ok ((), cs)
  | .cons _ missing s rest, depth, expected, i, cs => do
    let (more, cs) ← nextElement true (i == 0) cs
    if more then
      let (a, cs) ← s.ofJson depth cs
      let (r, cs) ← rest.readList depth expected (i + 1) cs
      return ((a, r), cs)
    else
      match missing with
      | .always a => do
        let (r, cs) ← rest.readList depth expected (i + 1) cs
        return ((a, r), cs)
      | _ => mismatchOf (.invalidLength i expected) cs

end

def parseJson {α : Type} (s : Schema α) (text : String) : Except Json.Error α :=
  Json.document (s.ofJson Json.depthLimit) text

end SheetExport.Schema
