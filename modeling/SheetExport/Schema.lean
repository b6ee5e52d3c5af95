import SheetExport.Text.Quoted

/-!
# Schemas of documents

What a document must look like to be read as a value, apart from the format it is
written in: the ways in which it can differ, schemas, and reading what was read before.
-/

/-!
## Mismatches

A well-formed document may still differ from what its reader expects.
`Mismatch` lists the ways, `Mismatch.message` words them. Document formats name
an empty value and write a number in their own ways: that is their `Wording`.
-/

namespace SheetExport.Schema

/-- What a document holds where something else was expected. -/
inductive Found where
  | unit
  | bool (b : Bool)
  | int (i : Int)
  | float (x : Float)
  | text (s : String)
  | list
  | map
  | tagged
  | other (words : String)

/-- How a document format names values. -/
structure Wording where
  unit : String
  float : Float → String

def Found.describe (w : Wording) : Found → String
  | .unit => w.unit
  | .bool b => "boolean `" ++ toString b ++ "`"
  | .int i => "integer `" ++ toString i ++ "`"
  | .float x => "floating point `" ++ w.float x ++ "`"
  | .text s => "string " ++ Text.quoted s
  | .list => "sequence"
  | .map => "map"
  | .tagged => "enum"
  | .other words => words

/-- How a document differs from what its reader expects. -/
inductive Mismatch where
  | invalidType (found : Found) (expected : String)
  | invalidValue (found : Found) (expected : String)
  | invalidLength (length : Nat) (expected : String)
  | unknownVariant (name : String) (known : List String)
  | missingField (name : String)
  | duplicateField (name : String)
  | other (words : String)

/-- A list of names to choose from, each between backticks. -/
def oneOf : List String → String
  | [] => "there are no variants"
  | [a] => "`" ++ a ++ "`"
  | [a, b] => "`" ++ a ++ "` or `" ++ b ++ "`"
  | names => "one of " ++ String.intercalate ", " (names.map fun n => "`" ++ n ++ "`")

def Mismatch.message (w : Wording) : Mismatch → String
  | .invalidType f e => "invalid type: " ++ f.describe w ++ ", expected " ++ e
  | .invalidValue f e => "invalid value: " ++ f.describe w ++ ", expected " ++ e
  | .invalidLength n e => "invalid length " ++ toString n ++ ", expected " ++ e
  | .unknownVariant n known => "unknown variant `" ++ n ++ "`, expected " ++ oneOf known
  | .missingField n => "missing field `" ++ n ++ "`"
  | .duplicateField n => "duplicate field `" ++ n ++ "`"
  | .other words => words

end SheetExport.Schema

/-!
## Document schemas

A `Schema α` says what a document must look like to be read as an `α`; it does
not say in which format the document is written. A record schema lists its
fields with what to do when one is missing. While a record is read its fields
are collected in a draft, one optional value per field; `Fields.finish` turns
the draft into the record or names the first required field that is missing.
A union is a record whose tag field selects the variant the others belong to.
-/

namespace SheetExport

namespace Schema

/-- What a field that a document does not mention becomes: an error, a value
that stands in only when fields are named, or a value that always stands in. -/
inductive Missing (α : Type) where
  | required
  | byName (a : α)
  | always (a : α)

/-- A document without its format. -/
inductive Content where
  | unit
  | bool (b : Bool)
  | int (i : Int)
  | float (x : Float)
  | text (s : String)
  | list (items : List Content)
  | map (members : List (Content × Content))
  deriving Inhabited

end Schema

mutual

/-- What a document must look like to be read as an `α`. -/
inductive Schema : Type → Type 1 where
  /-- A text, read further by a function of its own. -/
  | text {α : Type} (expected : String) (read : String → Except String α) : Schema α
  /-- Anything. -/
  | any : Schema Schema.Content
  /-- A natural number below 2^64. -/
  | natural : Schema Nat
  /-- A value or nothing. -/
  | optional {α : Type} (s : Schema α) : Schema (Option α)
  | list {α : Type} (s : Schema α) : Schema (List α)
  /-- One of some names. -/
  | choice {α : Type} (options : List (String × α)) : Schema α
  | record {δ σ α : Type} (name : String) (fields : Schema.Fields δ σ) (build : σ → α) : Schema α
  | union {α : Type} (name tag : String) (variants : Schema.Variants α) : Schema α

/-- The fields of a record: `δ` is the type of its drafts, `σ` that of its
complete values. -/
inductive Schema.Fields : Type → Type → Type 1 where
  | nil : Schema.Fields Unit Unit
  | cons {α δ σ : Type} (name : String) (missing : Schema.Missing α) (s : Schema α)
      (rest : Schema.Fields δ σ) : Schema.Fields (Option α × δ) (α × σ)

/-- The variants of a union, each with the name that selects it. -/
inductive Schema.Variants : Type → Type 1 where
  | nil {α : Type} : Schema.Variants α
  | cons {δ σ α : Type} (name title : String) (fields : Schema.Fields δ σ) (build : σ → α)
      (rest : Schema.Variants α) : Schema.Variants α

end

namespace Schema

-- the type has its name also beside `Schema.Mismatch` and `Schema.Content`
export SheetExport (Schema)

def string : Schema String := .text "a string" Except.ok

def path : Schema String := .text "path string" Except.ok

namespace Fields

def empty {δ σ : Type} : Fields δ σ → δ
  | .nil => ()
  | .cons _ _ _ rest => (none, rest.empty)

def names {δ σ : Type} : Fields δ σ → List String
  | .nil => []
  | .cons name _ _ rest => name :: rest.names

/-- The record of a draft, or the first required field without a value. -/
def finish {δ σ : Type} : Fields δ σ → δ → Except Mismatch σ
  | .nil, () => .ok ()
  | .cons _ _ _ rest, (some a, d) => do return (a, ← rest.finish d)
  | .cons name missing _ rest, (none, d) =>
    match missing with
    | .required => .error (.missingField name)
    | .byName a => do return (a, ← rest.finish d)
    | .always a => do return (a, ← rest.finish d)

end Fields

def Variants.names {α : Type} : Variants α → List String
  | .nil => []
  | .cons name _ _ _ rest => name :: rest.names

/-- How a record of `n` fields is named when a list has the wrong length. -/
def withElements (title : String) (n : Nat) : String :=
  title ++ " with " ++ toString n ++ (if n = 1 then " element" else " elements")

end Schema

end SheetExport

/-!
## Values already read

A `Content` is a document that was read without a schema. `Schema.ofContent`
reads it with one. A list may stand for a record, its elements being the fields
in order; a key that is a number names a field by its place.
-/

namespace SheetExport.Schema

def Content.found : Content → Found
  | .unit => .unit
  | .bool b => .bool b
  | .int i => .int i
  | .float x => .float x
  | .text s => .text s
  | .list _ => .list
  | .map _ => .map

def Content.unlike {α : Type} (c : Content) (expected : String) : Except Mismatch α :=
  .error (.invalidType c.found expected)

def choose {α : Type} (options : List (String × α)) (name : String) : Except Mismatch α :=
  match options.lookup name with
  | some a => .ok a
  | none => .error (.unknownVariant name (options.map Prod.fst))

/-- How a list of the wrong length was expected to be. -/
def elementsInList (n : Nat) : String :=
  toString n ++ (if n = 1 then " element" else " elements") ++ " in sequence"

/-- The name a key stands for; `none` for a place where there is no field. -/
def keyName (names : List String) : Content → Except Mismatch (Option String)
  | .text s => .ok (some s)
  | .int i =>
    if 0 ≤ i then .ok names[i.toNat]? else (Content.int i).unlike "field identifier"
  | c => c.unlike "field identifier"

/-- The members of a union other than its tag, and the value of the tag. -/
def splitTag (tag : String) (done : List (Content × Content)) (found : Option Content) :
    List (Content × Content) → Except Mismatch (Content × List (Content × Content))
  | [] =>
    match found with
    | some v => .ok (v, done.reverse)
    | none => .error (.missingField tag)
  | (.text k, v) :: ms =>
    if k = tag then
      if found.isSome then .error (.duplicateField tag) else splitTag tag done (some v) ms
    else splitTag tag ((.text k, v) :: done) found ms
  | m :: ms => splitTag tag (m :: done) found ms

def Content.variantName : Content → Except Mismatch String
  | .text s => .ok s
  | c => c.unlike "variant identifier"

/-- Reads a content as a record, given how a member is put into a draft and how
the fields are read from a list. -/
def Fields.ofContentWith {δ σ : Type} (fs : Fields δ σ) (title : String)
    (put : String → Content → δ → Except Mismatch δ)
    (ofList : String → Nat → List Content → Except Mismatch (σ × Nat))
    (c : Content) : Except Mismatch σ :=
  match c with
  | .map ms => do
    fs.finish (← ms.foldlM
      (fun d m => do
        match ← keyName fs.names m.1 with
        | some k => put k m.2 d
        | none => return d)
      fs.empty)
  | .list items => do
    let (r, left) ← ofList (withElements title fs.names.length) 0 items
    if left = 0 then return r
    else .error (.invalidLength items.length (elementsInList (items.length - left)))
  | c => c.unlike title

mutual

def ofContent {α : Type} : Schema α → Content → Except Mismatch α
  | .text expected read, c =>
    match c with
    | .text s =>
      match read s with
      | .ok a => .ok a
      | .error words => .error (.other words)
    | c => c.unlike expected
  | .any, c => .ok c
  | .natural, c =>
    match c with
    | .int i => if 0 ≤ i then .ok i.toNat else .error (.invalidValue (.int i) "u64")
    | c => c.unlike "u64"
  | .optional s, c =>
    match c with
    | .unit => .ok none
    | c => do return some (← s.ofContent c)
  | .list s, c =>
    match c with
    | .list items => items.mapM s.ofContent
    | c => c.unlike "a sequence"
  | .choice options, c =>
    match c with
    | .text name => choose options name
    | .map [(k, v)] => do
      let a ← choose options (← k.variantName)
      match v with
      | .unit => return a
      | v => v.unlike "unit"
    | .map _ => .error (.invalidValue .map "map with a single key")
    | c => c.unlike "string or map"
  | .record name fields build, c => do
    return build (← fields.ofContentWith ("struct " ++ name) fields.put fields.ofList c)
  | .union name tag variants, c =>
    match c with
    | .list [] => .error (.missingField tag)
    | .list (t :: items) => do variants.ofContent variants.names (← t.variantName) (.list items)
    | .map ms => do
      let (t, ms) ← splitTag tag [] none ms
      variants.ofContent variants.names (← t.variantName) (.map ms)
    | c => c.unlike ("internally tagged enum " ++ name)

/-- Puts a member into a draft; a name without a field is passed over. -/
def Fields.put {δ σ : Type} : Fields δ σ → String → Content → δ → Except Mismatch δ
  | .nil, _, _, d => .ok d
  | .cons name _ s rest, k, v, (a, d) =>
    if k = name then
      if a.isSome then .error (.duplicateField name) else do return (some (← s.ofContent v), d)
    else do return (a, ← rest.put k v d)

/-- Reads the fields in order from a list; also the number of elements left. -/
def Fields.ofList {δ σ : Type} :
    Fields δ σ → String → Nat → List Content → Except Mismatch (σ × Nat)
  | .nil, _, _, items => .ok ((), items.length)
  | .cons _ missing s rest, expected, i, items =>
    match items with
    | v :: items => do
      let a ← s.ofContent v
      let (r, left) ← rest.ofList expected (i + 1) items
      return ((a, r), left)
    | [] =>
      match missing with
      | .always a => do
        let (r, left) ← rest.ofList expected (i + 1) []
        return ((a, r), left)
      | _ => .error (.invalidLength i expected)

def Variants.ofContent {α : Type} :
    Variants α → List String → String → Content → Except Mismatch α
  | .nil, known, tag, _ => .error (.unknownVariant tag known)
  | .cons name title fields build rest, known, tag, c =>
    if tag = name then do
      return build
        (← fields.ofContentWith ("struct variant " ++ title) fields.put fields.ofList c)
    else rest.ofContent known tag c

end

end SheetExport.Schema
