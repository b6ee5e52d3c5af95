import SheetExport.Digest.Sha256
import SheetExport.Text.Bytes
import SheetExport.Text.Quoted

/-!
# Signing keys

A key is a section of a text that holds its parts in a distinguished encoding; a sound
one signs digests.
-/

/-!
## Distinguished encoding

A value is a tag, a length and so many bytes. The encoding is distinguished:
lengths and numbers have no more bytes than they need. `Reader` functions take
a value from the front of some bytes and leave the rest.
-/

namespace SheetExport.Signing.Der

/-- The tags of values. -/
def integerTag : UInt8 := 0x02
def octetsTag : UInt8 := 0x04
def sequenceTag : UInt8 := 0x30
def attributesTag : UInt8 := 0xA0

/-- The length at the front of some bytes, of two bytes at most. -/
def length? : List UInt8 → Option (Nat × List UInt8)
  | [] => none
  | 0x81 :: a :: bs => if 0x80 ≤ a then some (a.toNat, bs) else none
  | 0x82 :: a :: b :: bs =>
    let n := a.toNat * 256 + b.toNat
    if 0x100 ≤ n then some (n, bs) else none
  | a :: bs => if a < 0x80 then some (a.toNat, bs) else none

/-- The bytes of the value at the front, if it has a tag, and what follows. -/
def take? (tag : UInt8) : List UInt8 → Option (List UInt8 × List UInt8)
  | [] => none
  | t :: bs => do
    let (n, bs) ← length? bs
    if t = tag && n ≤ bs.length then return (bs.take n, bs.drop n) else none

/-- The number of some bytes, the first one the highest. -/
def number (bs : List UInt8) : Nat := bs.foldl (fun n b => n * 256 + b.toNat) 0

/-- The bytes are the shortest form of a number that is not negative. -/
def isNatural : List UInt8 → Bool
  | [] => false
  | [a] => a < 0x80
  | a :: b :: _ => a < 0x80 && (a ≠ 0 || 0x80 ≤ b)

/-- The number at the front, and what follows. -/
def natural? (bs : List UInt8) : Option (Nat × List UInt8) := do
  let (value, rest) ← take? integerTag bs
  if isNatural value then return (number value, rest) else none

/-- The bytes of the only value, if it has a tag. -/
def only? (tag : UInt8) (bs : List UInt8) : Option (List UInt8) := do
  let (value, rest) ← take? tag bs
  if rest = [] then return value else none

/-- The numbers at the front, as many as asked for, and what follows. -/
def naturals? : Nat → List UInt8 → Option (List Nat × List UInt8)
  | 0, bs => some ([], bs)
  | k + 1, bs => do
    let (n, bs) ← natural? bs
    let (ns, bs) ← naturals? k bs
    return (n :: ns, bs)

end SheetExport.Signing.Der

/-!
## Labelled sections

A key is kept as a section of text: a line that begins it and names its label,
lines of base 64, and a line that ends it. `Section.first?` finds the first
section with a label that is known; what stands outside sections is passed over.
-/

namespace SheetExport.Signing

/-- What a section holds, by its label. -/
inductive Label where
  | privateKey
  | rsaPrivateKey
  | other
  deriving DecidableEq, Repr

def Label.all : List (String × Label) :=
  [("PRIVATE KEY", .privateKey), ("RSA PRIVATE KEY", .rsaPrivateKey), ("CERTIFICATE", .other),
    ("PUBLIC KEY", .other), ("EC PRIVATE KEY", .other), ("X509 CRL", .other),
    ("CERTIFICATE REQUEST", .other)]

/-- Why a text has no first section. -/
inductive PemFault where
  | illegalStart (line : String)
  | missingEnd (label : String)
  | invalidCharacter (byte : UInt8)
  | earlyFilling
  | badFilling
  deriving DecidableEq, Repr

def PemFault.message : PemFault → String
  | .illegalStart line => "illegal section start: " ++ Text.quoted line
  | .missingEnd label => "section end " ++ Text.quoted label ++ " missing"
  | .invalidCharacter byte => "InvalidCharacter(" ++ toString byte.toNat ++ ")"
  | .earlyFilling => "PrematurePadding"
  | .badFilling => "InvalidTrailingPadding"

/-! ### Base 64 with blanks and filling -/

def isGap (c : Char) : Bool := ('\t' ≤ c && c ≤ '\r') || c == ' '

/-- A digit of base 64, or `none` for filling. -/
def digit? (c : Char) : Except PemFault (Option Nat) :=
  if c = '=' then .ok none
  else
    match Text.Base64.standard.value? c with
    | some n => .ok (some n)
    | none => .error (.invalidCharacter ((String.utf8EncodeChar c).headD 0))

/-- The bytes of two to four digits. Bits that belong to no byte count for
nothing. -/
def groupBytes : List Nat → List UInt8
  | [a, b] => [(a * 4 + b / 16).toUInt8]
  | [a, b, c] => [(a * 4 + b / 16).toUInt8, (b % 16 * 16 + c / 4).toUInt8]
  | [a, b, c, d] =>
    [(a * 4 + b / 16).toUInt8, (b % 16 * 16 + c / 4).toUInt8, (c % 4 * 64 + d).toUInt8]
  | _ => []

/-- The bytes of the last group: filling makes up for one or two digits. -/
def lastGroup (g : List (Option Nat)) : Except PemFault (List UInt8) :=
  match g with
  | [] => .ok []
  | [some a, some b] => .ok (groupBytes [a, b])
  | [some a, some b, none, none] => .ok (groupBytes [a, b])
  | [some a, some b, some c] => .ok (groupBytes [a, b, c])
  | [some a, some b, some c, none] => .ok (groupBytes [a, b, c])
  | [some a, some b, some c, some d] => .ok (groupBytes [a, b, c, d])
  | _ => .error .badFilling

def sectionBytes : List (Option Nat) → Except PemFault (List UInt8)
  | a :: b :: c :: d :: e :: rest =>
    match a, b, c, d with
    | some a, some b, some c, some d => do
      return groupBytes [a, b, c, d] ++ (← sectionBytes (e :: rest))
    | _, _, _, _ => .error .earlyFilling
  | g => lastGroup g

def decodeLines (lines : List (List Char)) : Except PemFault (List UInt8) := do
  sectionBytes (← (lines.flatten.filter fun c => !isGap c).mapM digit?)

/-! ### Sections -/

/-- The lines of a text, each with the character that ends it. -/
def linesOf : List Char → List (List Char)
  | [] => []
  | c :: cs =>
    if c = '\n' || c = '\r' then [c] :: linesOf cs
    else
      match linesOf cs with
      | [] => [[c]]
      | l :: ls => (c :: l) :: ls

def opening : List Char := "-----BEGIN ".toList

/-- What a line that ends a section of a label begins with. -/
def closing (label : List Char) : List Char := "-----END ".toList ++ label ++ "-----".toList

/-- The label in a line that begins a section: up to the five dashes at the end
of the line. -/
def labelOf (line : List Char) : Except PemFault (List Char) :=
  let isTail := fun c => c == '-' || c == ' ' || c == '\n' || c == '\r'
  let tail := line.reverse.takeWhile isTail
  if tail.count '-' = 5 then
    let afterDashes := (tail.reverse.takeWhile (· ≠ '-')).length
    .ok ((line.take (line.length - tail.length + afterDashes)).drop opening.length)
  else .error (.illegalStart (String.ofList line))

/-- The first section with a known label, from what is open: the label of the
section and the lines within it. -/
def firstSection? : Option (List Char) → List (List Char) → List (List Char) →
    Except PemFault (Option (Label × List UInt8))
  | none, _, [] => .ok none
  | some label, _, [] => .error (.missingEnd (String.ofList label))
  | current, held, line :: lines =>
    if opening.isPrefixOf line then do
      firstSection? (some (← labelOf line)) held lines
    else
      match current with
      | none => firstSection? none held lines
      | some label =>
        if (closing label).isPrefixOf line then
          match Label.all.lookup (String.ofList label) with
          | some kind => do return some (kind, ← decodeLines held.reverse)
          | none => firstSection? none [] lines
        else firstSection? (some label) (line :: held) lines

def firstSection (text : String) : Except PemFault (Option (Label × List UInt8)) :=
  firstSection? none [] (linesOf text.toList)

end SheetExport.Signing

/-!
## RSA signatures

A private key has a modulus with its two prime factors, a public and a private
exponent, and what belongs to each factor. `PrivateKey.isSound` states what must
hold between the parts. `PrivateKey.sign` signs a SHA-256 digest: it computes
with each factor, joins the results and checks the signature before giving it.
-/

namespace SheetExport.Signing

def powMod (m b e : Nat) : Nat :=
  if e = 0 then 1 % m
  else
    let h := powMod m (b * b % m) (e / 2)
    if e % 2 = 1 then b * h % m else h
termination_by e

def bitLength (n : Nat) : Nat := if n = 0 then 0 else Nat.log2 n + 1

/-- The bytes of a number, so many, the highest first. -/
def bytesOf : Nat → Nat → List UInt8
  | 0, _ => []
  | k + 1, n => bytesOf k (n / 256) ++ [(n % 256).toUInt8]

/-- A factor of a modulus with its exponent. -/
structure Factor where
  prime : Nat
  exponent : Nat
  deriving DecidableEq, Repr

/-- A private key. The first factor is the larger one; `inverse` is that of the
second factor, modulo the first. -/
structure PrivateKey where
  modulus : Nat
  publicExponent : Nat
  privateExponent : Nat
  first : Factor
  second : Factor
  inverse : Nat
  deriving DecidableEq, Repr

namespace PrivateKey

/-- The smallest and largest size of a modulus in bits. -/
def smallest : Nat := 2048
def largest : Nat := 4096

/-- The smallest and largest public exponent. -/
def leastPublic : Nat := 65537
def greatestPublic : Nat := Nat.pow 2 33 - 1

def size (k : PrivateKey) : Nat := (bitLength k.modulus + 7) / 8

/-- A factor has half the bits of the modulus and an odd exponent below it. -/
def factorSound (k : PrivateKey) (f : Factor) : Bool :=
  bitLength f.prime = (bitLength k.modulus + 1) / 2 && bitLength f.prime % 512 = 0 &&
    f.prime % 2 = 1 && f.exponent < f.prime && f.exponent % 2 = 1

/-- What must hold between the parts of a key. -/
def isSound (k : PrivateKey) : Bool :=
  k.modulus % 2 = 1 && smallest ≤ k.size * 8 && bitLength k.modulus ≤ largest &&
    leastPublic ≤ k.publicExponent && k.publicExponent ≤ greatestPublic &&
    k.publicExponent % 2 = 1 &&
    k.factorSound k.first && k.factorSound k.second &&
    k.first.prime * k.second.prime % k.modulus = 0 &&
    (bitLength k.modulus + 1) / 2 < bitLength k.privateExponent &&
    k.privateExponent < k.modulus && k.privateExponent % 2 = 1 &&
    k.inverse < k.first.prime && k.second.prime * k.inverse % k.first.prime = 1

/-- The key of its numbers, the larger factor first. -/
def ofParts (n e d : Nat) (p q : Factor) (inverse : Nat) : PrivateKey :=
  if p.prime < q.prime then ⟨n, e, d, q, p, powMod q.prime p.prime (q.prime - 2)⟩
  else ⟨n, e, d, p, q, inverse⟩

def ofPlain? (bs : List UInt8) : Option PrivateKey := do
  match ← Der.naturals? 9 (← Der.only? Der.sequenceTag bs) with
  | ([0, n, e, d, p, q, dp, dq, inverse], []) =>
    let k := ofParts n e d ⟨p, dp⟩ ⟨q, dq⟩ inverse
    if k.isSound then return k else none
  | _ => none

/-- The name of the kind of key in a wrapped encoding. -/
def algorithm : List UInt8 :=
  [0x06, 0x09, 0x2A, 0x86, 0x48, 0x86, 0xF7, 0x0D, 0x01, 0x01, 0x01, 0x05, 0x00]

def onlyAttributes (bs : List UInt8) : Bool :=
  bs = [] || (Der.only? Der.attributesTag bs).isSome

def ofWrapped? (bs : List UInt8) : Option PrivateKey := do
  let (version, bs) ← Der.natural? (← Der.only? Der.sequenceTag bs)
  let (kind, bs) ← Der.take? Der.sequenceTag bs
  let (key, bs) ← Der.take? Der.octetsTag bs
  if version = 0 && kind = algorithm && onlyAttributes bs then ofPlain? key else none

/-- What stands before a SHA-256 digest that is signed. -/
def digestMark : List UInt8 :=
  [0x30, 0x31, 0x30, 0x0D, 0x06, 0x09, 0x60, 0x86, 0x48, 0x01, 0x65, 0x03, 0x04, 0x02, 0x01, 0x05,
    0x00, 0x04, 0x20]

/-- What is signed for a message, so many bytes: filling and the digest. -/
def padded (size : Nat) (message : List UInt8) : List UInt8 :=
  let tail := digestMark ++ Digest.Sha256.digest message
  0 :: 1 :: List.replicate (size - tail.length - 3) 0xFF ++ 0 :: tail

/-- A number to the private exponent, computed with each factor. -/
def power (k : PrivateKey) (c : Nat) : Nat :=
  let a := powMod k.first.prime (c % k.first.prime) k.first.exponent
  let b := powMod k.second.prime (c % k.second.prime) k.second.exponent
  let p := k.first.prime
  b + (a + p - b % p) * k.inverse % p * k.second.prime

/-- The signature of a message, if it proves right. -/
def sign? (k : PrivateKey) (message : List UInt8) : Option (List UInt8) :=
  let c := Der.number (padded k.size message)
  let s := k.power c
  if powMod k.modulus s k.publicExponent = c then some (bytesOf k.size s) else none

end PrivateKey

end SheetExport.Signing
