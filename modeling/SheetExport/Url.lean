import SheetExport.Url.Authority
import SheetExport.Url.Form

/-!
# Addresses

What an address is, and reading one, by itself or from a base.
-/

/-!
## Addresses as written

A `Url` is a scheme, an authority that may be missing, a path, a query and a
fragment. `Url.chars` writes it, `Url.pairs` reads its query as form pairs,
`Url.addPairs` adds to them and `Url.pushSegments?` adds to its path.
-/

namespace SheetExport

/-- An address. The authority of a file on this machine has an empty host. -/
structure Url where
  scheme : List Char
  authority : Option Url.Authority
  path : Url.Path
  query : Option (List Char) := none
  fragment : Option (List Char) := none
  deriving DecidableEq, Repr

namespace Url

/-- What stands before a path of its own that begins with two slashes, so that
it is not taken for an authority. -/
def guard (u : Url) : List Char :=
  match u.authority, u.path.chars with
  | none, '/' :: '/' :: _ => ['/', '.']
  | _, _ => []

/-- The part of an address before its query. -/
def stem (u : Url) : List Char :=
  u.scheme ++ ':' ::
    (match u.authority with
      | some a => '/' :: '/' :: a.chars
      | none => []) ++
    u.guard ++ u.path.chars

/-- A part that may be missing, after its sign. -/
def after (sign : Char) : Option (List Char) → List Char
  | some cs => sign :: cs
  | none => []

def chars (u : Url) : List Char := u.stem ++ after '?' u.query ++ after '#' u.fragment

def text (u : Url) : String := String.ofList u.chars

def host? (u : Url) : Option Host := do
  let a ← u.authority
  if a.host = .domain [] then none else return a.host

def pairs (u : Url) : List (String × String) := Form.decode (u.query.getD [])

def addPairs (u : Url) (ps : List (String × String)) : Url :=
  { u with query := some (Form.append (u.query.getD []) ps) }

/-- The address with more segments in its path; an empty last segment goes
first. There is none if the path is a plain text. -/
def pushSegments? (u : Url) (texts : List (List Char)) : Option Url :=
  match u.path with
  | .plain _ => none
  | .segments ss =>
    let pushed := texts.foldl (Segments.push (isSpecial u.scheme)) (Segments.dropEmptyEnd ss)
    let path := if u.scheme = fileScheme then Segments.dropEmpty pushed else pushed
    some { u with path := .segments path }

end Url

end SheetExport

/-!
## Reading addresses

`Url.parse` reads an address that stands by itself, `Url.resolve` one that may
leave out what it has in common with a base. Blanks and controls around the text
and line ends and tabs within are no part of it.
-/

namespace SheetExport.Url

/-- A blank or control. -/
def isMargin (c : Char) : Bool := c.toNat ≤ 0x20

/-- The text of an address without what is no part of it. -/
def clean (cs : List Char) : List Char :=
  (((cs.dropWhile isMargin).reverse.dropWhile isMargin).reverse).filter
    fun c => !Segments.isIgnored c

def isSchemeChar (c : Char) : Bool := c.isAlphanum || c == '+' || c == '-' || c == '.'

/-- The scheme at the start of a text, in lower case, and what follows its
colon. -/
def scheme? (cs : List Char) : Option (List Char × List Char) :=
  match cs.takeWhile isSchemeChar, cs.dropWhile isSchemeChar with
  | c :: name, ':' :: rest => if c.isAlpha then some ((c :: name).map Char.toLower, rest) else none
  | _, _ => none

/-- The query and fragment at the end of a text that goes on after a path. -/
def ending (special : Bool) (cs : List Char) : Option (List Char) × Option (List Char) :=
  let fragment := match cs.dropWhile (· ≠ '#') with
    | [] => none
    | _ :: f => some (percentEncode .fragment f)
  match cs with
  | '?' :: rest => (some (percentEncode (.query special) (rest.takeWhile (· ≠ '#'))), fragment)
  | _ => (none, fragment)

/-- The address of its first parts and the text from its path's end on. -/
def finish (scheme : List Char) (authority : Option Authority) (path : Path) (rest : List Char) :
    Url :=
  let (query, fragment) := ending (isSpecial scheme) rest
  { scheme, authority, path, query, fragment }

def segmentsFrom (special : Bool) (below : Segments) (cs : List Char) : Segments :=
  Segments.follow below.reverse ((Text.pieces (isSlash special) cs).map (percentEncode .path))

/-- An address whose path is in a text up to a question or number sign and goes
on from others. -/
def onPath (scheme : List Char) (authority : Option Authority) (below : Segments)
    (cs : List Char) : Url :=
  let ss := segmentsFrom (isSpecial scheme) below (cs.takeWhile fun c => !endsPath c)
  finish scheme authority (.segments ss) (cs.dropWhile fun c => !endsPath c)

def afterAuthority (scheme : List Char) (a : Authority) (cs : List Char) : Url :=
  let special := isSpecial scheme
  match cs with
  | [] => finish scheme (some a) (.segments (if special then [[]] else [])) []
  | c :: rest =>
    if isSlash special c then onPath scheme (some a) [] rest
    else if endsPath c && !special then finish scheme (some a) (.segments []) cs
    else onPath scheme (some a) [] cs

def onAuthority (scheme cs : List Char) : Except Fault Url := do
  let (a, rest) ← Authority.parse scheme cs
  return afterAuthority scheme a rest

/-- The address of a file: no empty segments at the start of its path, and no
host before a drive. -/
def fileAddress (u : Url) : Url :=
  match u.path with
  | .plain _ => u
  | .segments ss =>
    let ss := Segments.nameDrive (Segments.dropEmpty ss)
    { u with
      path := .segments ss
      authority := if Segments.onDrive ss then some { host := .domain [] } else u.authority }

/-- The rest of the address of a file, which may leave out what it has in common
with a base. -/
def onFile (base : Option Url) (cs : List Char) : Except Fault Url := do
  let here : Option Authority := (base.bind Url.authority).getD { host := .domain [] }
  let below : Segments := match base.map Url.path with
    | some (.segments ss) => ss
    | _ => []
  match cs with
  | a :: b :: rest =>
    if isSlash true a && isSlash true b then
      let (host, rest) ← Authority.parseFile rest
      return fileAddress (afterAuthority fileScheme host rest)
    else if isSlash true a then return fileAddress (onPath fileScheme here [] (b :: rest))
    else return fileAddress (relative here below cs)
  | _ => return fileAddress (relative here below cs)
where
  relative (here : Option Authority) (below : Segments) (cs : List Char) : Url :=
    match cs with
    | [] => finish fileScheme here (.segments (if below = [] then [[]] else below)) []
    | c :: rest =>
      if isSlash true c then onPath fileScheme here [] rest
      else if endsPath c then
        finish fileScheme here (.segments (if below = [] then [[]] else below)) cs
      else onPath fileScheme here below.dropLast cs

/-- The rest of an address that has its scheme in common with a base. -/
def onBase (base : Url) (below : Segments) (cs : List Char) : Except Fault Url := do
  let special := isSpecial base.scheme
  match cs with
  | [] => return { base with fragment := none }
  | '#' :: rest => return { base with fragment := some (percentEncode .fragment rest) }
  | '?' :: _ =>
    let (query, fragment) := ending special cs
    return { base with query, fragment }
  | '/' :: '/' :: rest => onAuthority base.scheme rest
  | c :: rest =>
    if c = '/' || c = '\\' then
      match rest with
      | d :: _ =>
        if d = '/' || d = '\\' then
          onAuthority base.scheme (rest.dropWhile fun c => c == '/' || c == '\\')
        else return onPath base.scheme base.authority [] rest
      | [] => return onPath base.scheme base.authority [] rest
    else return onPath base.scheme base.authority below.dropLast cs

def afterScheme (base : Option Url) (scheme cs : List Char) : Except Fault Url :=
  let slash := fun c => c == '/' || c == '\\'
  if scheme = fileScheme then onFile (base.filter (·.scheme = fileScheme)) cs
  else if isSpecial scheme then
    match base with
    | some b =>
      match b.path with
      | .segments below =>
        if (cs.takeWhile slash).length < 2 && b.scheme = scheme then onBase b below cs
        else onAuthority scheme (cs.dropWhile slash)
      | .plain _ => onAuthority scheme (cs.dropWhile slash)
    | none => onAuthority scheme (cs.dropWhile slash)
  else
    match cs with
    | '/' :: '/' :: rest => onAuthority scheme rest
    | '/' :: rest => .ok (onPath scheme none [] rest)
    | _ =>
      let plain := percentEncode .controls (cs.takeWhile fun c => !endsPath c)
      .ok (finish scheme none (.plain plain) (cs.dropWhile fun c => !endsPath c))

def ofClean (base : Option Url) (cs : List Char) : Except Fault Url :=
  match scheme? cs with
  | some (scheme, rest) => afterScheme base scheme rest
  | none =>
    match base with
    | none => .error .relativeWithoutBase
    | some b =>
      match cs, b.path with
      | '#' :: rest, _ => .ok { b with fragment := some (percentEncode .fragment rest) }
      | _, .plain _ => .error .relativeToOpaque
      | _, .segments below =>
        if b.scheme = fileScheme then onFile (some b) cs else onBase b below cs

/-- The address of a text that stands by itself. -/
def parse (s : String) : Except Fault Url := ofClean none (clean s.toList)

/-- The address of a text, read at a base. -/
def resolve (base : Url) (s : String) : Except Fault Url := ofClean (some base) (clean s.toList)

end SheetExport.Url
