import SheetExport.Text.Character
import SheetExport.Url.Domain
import SheetExport.Url.Form

/-!
# Parts of addresses

The host, the path and the authority of an address, each with the forms in which it
may be written.
-/

/-!
## Hosts

The host of an address is a domain name, an IPv4 address, an IPv6 address in
brackets, or, outside the schemes of the web, any text. A domain name whose last
label is a number must be an IPv4 address; its parts may be written in base 8,
10 or 16 and the last one fills the bytes that are left.
-/

namespace SheetExport.Url

/-- Why a text is no address. -/
inductive Fault where
  | relativeWithoutBase
  | relativeToOpaque
  | emptyHost
  | invalidPort
  | invalidIpv4
  | invalidIpv6
  | invalidDomain
  | invalidDomainCharacter
  deriving DecidableEq, Repr

def Fault.message : Fault → String
  | .relativeWithoutBase => "relative URL without a base"
  | .relativeToOpaque => "relative URL with a cannot-be-a-base base"
  | .emptyHost => "empty host"
  | .invalidPort => "invalid port number"
  | .invalidIpv4 => "invalid IPv4 address"
  | .invalidIpv6 => "invalid IPv6 address"
  | .invalidDomain => "invalid international domain name"
  | .invalidDomainCharacter => "invalid domain character"

/-- The host of an address. -/
inductive Host where
  | domain (name : List Char)
  | ipv4 (n : Nat)
  | ipv6 (pieces : List Nat)
  deriving DecidableEq, Repr

namespace Host

/-! ### IPv4 -/

def digitIn? (base : Nat) (c : Char) : Option Nat := (hexValue? c).filter (· < base)

def numberIn? (base : Nat) (cs : List Char) : Option Nat :=
  cs.foldlM (fun n c => do return n * base + (← digitIn? base c)) 0

def ipv4Part? : List Char → Option Nat
  | [] => none
  | '0' :: 'x' :: cs => numberIn? 16 cs
  | '0' :: 'X' :: cs => numberIn? 16 cs
  | '0' :: c :: cs => numberIn? 8 (c :: cs)
  | cs => numberIn? 10 cs

def labels (cs : List Char) : List (List Char) :=
  let ls := Text.pieces (· == '.') cs
  if ls.getLast? = some [] && 1 < ls.length then ls.dropLast else ls

/-- The last label is a number, so the name must be an IPv4 address. -/
def endsInNumber (cs : List Char) : Bool :=
  match (labels cs).getLast? with
  | none => false
  | some [] => false
  | some l => l.all Char.isDigit || (ipv4Part? l).isSome

def ipv4OfParts? (parts : List Nat) : Option Nat := do
  let last ← parts.getLast?
  let front := parts.dropLast
  if 4 < parts.length || front.any (255 < ·) || Nat.pow 256 (4 - front.length) ≤ last then none
  else return front.zipIdx.foldl (fun n p => n + p.1 * Nat.pow 256 (3 - p.2)) last

def ipv4? (cs : List Char) : Option Nat := do ipv4OfParts? (← (labels cs).mapM ipv4Part?)

def ipv4Text (n : Nat) : List Char :=
  ['.'].intercalate
    ([n / 0x1000000, n / 0x10000 % 256, n / 256 % 256, n % 256].map (Nat.toDigits 10))

/-! ### IPv6 -/

/-- Reads a decimal byte without a leading zero. -/
def ipv6Byte? (cs : List Char) : Option Nat := do
  let n ← numberIn? 10 cs
  if cs = [] || 255 < n || (1 < cs.length && cs.head? == some '0') then none else return n

/-- The last two pieces of an address that ends in IPv4 form. -/
def ipv6Tail? (cs : List Char) : Option (List Nat) := do
  match ← (Text.pieces (· == '.') cs).mapM ipv6Byte? with
  | [a, b, c, d] => return [a * 256 + b, c * 256 + d]
  | _ => none

def ipv6Piece? (cs : List Char) : Option Nat :=
  if cs = [] || 4 < cs.length then none else numberIn? 16 cs

/-- The pieces between colons; the last may be in IPv4 form. -/
def ipv6Pieces? : List (List Char) → Option (List Nat)
  | [] => some []
  | [cs] => if cs.contains '.' then ipv6Tail? cs else do return [← ipv6Piece? cs]
  | cs :: rest => do return (← ipv6Piece? cs) :: (← ipv6Pieces? rest)

/-- The texts before and after the first double colon. -/
def splitDouble : List Char → List Char × Option (List Char)
  | ':' :: ':' :: cs => ([], some cs)
  | [] => ([], none)
  | c :: cs => (c :: (splitDouble cs).1, (splitDouble cs).2)

/-- The pieces of a text between colons, none for an empty one. -/
def ipv6Part? (cs : List Char) : Option (List Nat) :=
  if cs = [] then some [] else ipv6Pieces? (Text.pieces (· == ':') cs)

/-- The pieces of an IPv6 address. A double colon stands for zeros, at least
one of them. -/
def ipv6? (cs : List Char) : Option (List Nat) := do
  match splitDouble cs with
  | (a, none) => do
    let ps ← ipv6Part? a
    if ps.length = 8 then return ps else none
  | (a, some b) => do
    if a.contains '.' then none
    else
      let ps ← ipv6Part? a
      let qs ← ipv6Part? b
      if ps.length + qs.length < 8 then
        return ps ++ List.replicate (8 - ps.length - qs.length) 0 ++ qs
      else none

def zeros (ps : List Nat) : Nat := (ps.takeWhile (· = 0)).length

/-- Where the longest run of at least two zeros begins, and its length; the
first of several. -/
def longestZeros (ps : List Nat) : Nat × Nat :=
  (List.range ps.length).foldl
    (fun best i =>
      let n := zeros (ps.drop i)
      if best.2 < n && 2 ≤ n then (i, n) else best)
    (ps.length, 0)

def ipv6Run (ps : List Nat) : List Char := [':'].intercalate (ps.map (Nat.toDigits 16))

/-- An IPv6 address as written, the longest run of zeros as a double colon. -/
def ipv6Text (ps : List Nat) : List Char :=
  let (i, n) := longestZeros ps
  if n = 0 then ipv6Run ps
  else ipv6Run (ps.take i) ++ ':' :: ':' :: ipv6Run (ps.drop (i + n))

/-! ### Hosts -/

def chars : Host → List Char
  | .domain name => name
  | .ipv4 n => ipv4Text n
  | .ipv6 ps => '[' :: ipv6Text ps ++ [']']

def bracketed? (cs : List Char) : Option (Except Fault Host) :=
  match cs with
  | '[' :: rest =>
    some <|
      if rest.getLast? = some ']' then
        match ipv6? rest.dropLast with
        | some ps => .ok (.ipv6 ps)
        | none => .error .invalidIpv6
      else .error .invalidIpv6
  | _ => none

def parse (cs : List Char) : Except Fault Host :=
  match bracketed? cs with
  | some r => r
  | none =>
    match Domain.toAscii? (percentDecode cs) with
    | none => .error .invalidDomain
    | some [] => .error .emptyHost
    | some name =>
      if endsInNumber name then
        match ipv4? name with
        | some n => .ok (.ipv4 n)
        | none => .error .invalidIpv4
      else .ok (.domain name)

/-- A character that no host holds. -/
def isNeverInHost (c : Char) : Bool :=
  ['\x00', '\t', '\n', '\r', ' ', '#', '/', ':', '<', '>', '?', '@', '[', '\\', ']', '^',
    '|'].contains c

def parseOpaque (cs : List Char) : Except Fault Host :=
  match bracketed? cs with
  | some r => r
  | none =>
    if cs.any isNeverInHost then .error .invalidDomainCharacter
    else .ok (.domain (percentEncode EncodeSet.controls cs))

end Host

end SheetExport.Url

/-!
## Paths

The path of an address is a list of segments, or a plain text where the address
is not hierarchical. Reading a path resolves the segments that stand for the
place itself or the one above it. `Segments.push` adds one segment whose text
may hold anything.
-/

namespace SheetExport.Url

/-- The parts of a path between slashes, after the first slash. -/
abbrev Segments := List (List Char)

/-- The path of an address. -/
inductive Path where
  | plain (text : List Char)
  | segments (ss : Segments)
  deriving DecidableEq, Repr

def isCurrent (s : List Char) : Bool :=
  s == ['.'] || s.map Char.toLower == ['%', '2', 'e']

def isParent (s : List Char) : Bool :=
  [['.', '.'], ['.', '%', '2', 'e'], ['%', '2', 'e', '.'],
    ['%', '2', 'e', '%', '2', 'e']].contains (s.map Char.toLower)

/-- A letter and a colon or bar, as drives are named. -/
def isDrive : List Char → Bool
  | [a, b] => a.isAlpha && (b == ':' || b == '|')
  | _ => false

/-- A drive, by itself or before a backslash. -/
def beginsWithDrive (s : List Char) : Bool :=
  isDrive (s.take 2) && (s.length = 2 || (s.drop 2).head? == some '\\')

namespace Segments

/-- Drops the last of some segments, which come last first. A drive stays. -/
def up : Segments → Segments
  | [] => []
  | s :: ss => if beginsWithDrive s then s :: ss else ss

/-- The path of written segments, below others that come last first: those that
stand for the place itself or the one above are resolved. -/
def follow : Segments → Segments → Segments
  | done, [] => done.reverse
  | done, [s] =>
    if isParent s then (up done).reverse ++ [[]]
    else if isCurrent s then done.reverse ++ [[]]
    else done.reverse ++ [s]
  | done, s :: ss =>
    if isParent s then follow (up done) ss
    else if isCurrent s then follow done ss
    else follow (s :: done) ss

/-- Drops empty segments at the start, but not the only one. -/
def dropEmpty : Segments → Segments
  | [] :: s :: ss => dropEmpty (s :: ss)
  | ss => ss

/-- Names a drive at the start with a colon. -/
def nameDrive : Segments → Segments
  | [a, '|'] :: ss => if a.isAlpha then [a, ':'] :: ss else [a, '|'] :: ss
  | ss => ss

/-- The path begins with a drive. -/
def onDrive (ss : Segments) : Bool := (ss.head?.map isDrive).getD false

/-- The path without an empty segment at its end. -/
def dropEmptyEnd (ss : Segments) : Segments :=
  if ss.getLast? = some [] then ss.dropLast else ss

/-- A character that is not part of an address. -/
def isIgnored (c : Char) : Bool := c == '\t' || c == '\n' || c == '\r'

/-- The segments that one is added below: a path that is a slash alone counts as
empty. -/
def core (ss : Segments) : Segments := if ss = [[]] then [] else ss

def segment (special : Bool) (text : List Char) : List Char :=
  percentEncode (.segment special) (text.filter fun c => !isIgnored c)

/-- Adds a segment. A single or double dot adds nothing. -/
def push (special : Bool) (ss : Segments) (text : List Char) : Segments :=
  if text = ['.'] || text = ['.', '.'] then ss
  else follow (core ss).reverse [segment special text]

def chars (ss : Segments) : List Char := ss.flatMap ('/' :: ·)

end Segments

def Path.chars : Path → List Char
  | .plain text => text
  | .segments ss => ss.chars

end SheetExport.Url

/-!
## Authorities

The authority of an address is its host, perhaps after a user and before a port.
-/

namespace SheetExport.Url

/-- Where an address leads. -/
structure Authority where
  user : List Char := []
  password : Option (List Char) := none
  host : Host
  port : Option Nat := none
  deriving DecidableEq, Repr

def defaultPort? (scheme : List Char) : Option Nat :=
  if scheme = ['h', 't', 't', 'p'] || scheme = ['w', 's'] then some 80
  else if scheme = ['h', 't', 't', 'p', 's'] || scheme = ['w', 's', 's'] then some 443
  else if scheme = ['f', 't', 'p'] then some 21
  else none

def fileScheme : List Char := ['f', 'i', 'l', 'e']

def isSpecial (scheme : List Char) : Bool := scheme = fileScheme || (defaultPort? scheme).isSome

def isSlash (special : Bool) (c : Char) : Bool := c == '/' || (special && c == '\\')

def endsPath (c : Char) : Bool := c == '?' || c == '#'

def endsAuthority (special : Bool) (c : Char) : Bool := isSlash special c || endsPath c

namespace Authority

/-- The texts before and after the last character of a kind. -/
def splitLast (d : Char) (cs : List Char) : Option (List Char × List Char) :=
  if cs.contains d then
    let after := (cs.reverse.takeWhile (· ≠ d)).reverse
    some (cs.take (cs.length - after.length - 1), after)
  else none

/-- The texts before the first colon outside brackets and from it on. -/
def splitPort (inside : Bool) : List Char → List Char × List Char
  | [] => ([], [])
  | c :: cs =>
    if c = ':' && !inside then ([], c :: cs)
    else
      let r := splitPort (if c = '[' then true else if c = ']' then false else inside) cs
      (c :: r.1, r.2)

def largestPort : Nat := 65535

def port? (scheme cs : List Char) : Except Fault (Option Nat × List Char) :=
  let digits := cs.takeWhile Char.isDigit
  let rest := cs.dropWhile Char.isDigit
  let n := digits.foldl (fun n d => n * 10 + (d.toNat - 48)) 0
  let rightAfter := match rest with
    | [] => true
    | c :: _ => c == '/' || c == '\\' || endsPath c
  if largestPort < n || !rightAfter then .error .invalidPort
  else if digits = [] || defaultPort? scheme = some n then .ok (none, rest)
  else .ok (some n, rest)

def hostPort (scheme cs : List Char) : Except Fault (Host × Option Nat × List Char) := do
  let special := isSpecial scheme
  let (name, rest) := splitPort false cs
  if special && name.isEmpty then throw .emptyHost
  let host ← if special then Host.parse name else Host.parseOpaque name
  match rest with
  | [] => return (host, none, [])
  | _ :: rest =>
    if host = .domain [] then throw .emptyHost
    let (port, rest) ← port? scheme rest
    return (host, port, rest)

def parse (scheme cs : List Char) : Except Fault (Authority × List Char) := do
  let special := isSpecial scheme
  let text := cs.takeWhile fun c => !endsAuthority special c
  let rest := cs.dropWhile fun c => !endsAuthority special c
  match splitLast '@' text with
  | none =>
    let (host, port, left) ← hostPort scheme text
    return ({ host, port }, left ++ rest)
  | some (info, place) =>
    if info.isEmpty && place.isEmpty && !rest.isEmpty then throw .emptyHost
    let user := percentEncode .userinfo (info.takeWhile (· ≠ ':'))
    let secret := percentEncode .userinfo (info.dropWhile (· ≠ ':')).tail
    let password := if secret = [] then none else some secret
    let (host, port, left) ← hostPort scheme place
    if host = .domain [] && (user ≠ [] || password.isSome) then throw .emptyHost
    return ({ user, password, host, port }, left ++ rest)

/-- The authority of the address of a file: a host other than this one. -/
def parseFile (cs : List Char) : Except Fault (Authority × List Char) := do
  let name := cs.takeWhile fun c => !endsAuthority true c
  let rest := cs.dropWhile fun c => !endsAuthority true c
  if isDrive name then return ({ host := .domain [] }, '/' :: cs)
  else if name = [] then return ({ host := .domain [] }, rest)
  else
    let host ← Host.parse name
    if host = .domain "localhost".toList then return ({ host := .domain [] }, rest)
    else return ({ host }, rest)

def userChars (a : Authority) : List Char :=
  match a.password with
  | some p => a.user ++ ':' :: p ++ ['@']
  | none => if a.user = [] then [] else a.user ++ ['@']

def chars (a : Authority) : List Char :=
  a.userChars ++ a.host.chars ++
    match a.port with
    | some n => ':' :: Nat.toDigits 10 n
    | none => []

end Authority

end SheetExport.Url
