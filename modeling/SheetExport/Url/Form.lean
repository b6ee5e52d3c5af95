import SheetExport.Text.Bytes
import SheetExport.Text.Character

/-!
# Codes and forms

Characters that need a code in an address, and forms of names and values.
-/

/-!
## Percent encoding

A byte is written as a percent sign and two hexadecimal digits. Which characters
need that depends on the part of an address: each part has a set of its own.
Characters beyond ASCII always need it. Decoding keeps what is no code.
-/

namespace SheetExport.Url

/-- The characters that a part of an address cannot hold as they are. -/
abbrev EncodeSet := Char → Bool

namespace EncodeSet

/-- Controls. -/
def controls : EncodeSet := fun c => c.toNat < 0x20 || c.toNat == 0x7F

/-- What a fragment cannot hold. -/
def fragment : EncodeSet := fun c => controls c || [' ', '"', '<', '>', '\x60'].contains c

def path : EncodeSet := fun c => fragment c || ['#', '?', '\x7b', '\x7d'].contains c

/-- What a single segment of a path cannot hold; `special` if a backslash
separates segments too. -/
def segment (special : Bool) : EncodeSet := fun c =>
  path c || c == '/' || c == '%' || (special && c == '\\')

def userinfo : EncodeSet := fun c =>
  path c || ['/', ':', ';', '=', '@', '[', '\\', ']', '^', '|'].contains c

/-- What a query cannot hold; `special` for the schemes of the web. -/
def query (special : Bool) : EncodeSet := fun c =>
  controls c || [' ', '"', '#', '<', '>'].contains c || (special && c == '\'')

end EncodeSet

def hexDigit (n : Nat) : Char := Char.ofNat (if n < 10 then n + 48 else n + 55)

def hexValue? (c : Char) : Option Nat :=
  if '0' ≤ c && c ≤ '9' then some (c.toNat - 48)
  else if 'A' ≤ c && c ≤ 'F' then some (c.toNat - 55)
  else if 'a' ≤ c && c ≤ 'f' then some (c.toNat - 87)
  else none

def coded (b : UInt8) : List Char := ['%', hexDigit (b.toNat / 16), hexDigit (b.toNat % 16)]

/-- A character, coded if it is in a set or beyond ASCII. -/
def encodeChar (set : EncodeSet) (c : Char) : List Char :=
  if set c || 0x80 ≤ c.toNat then (String.utf8EncodeChar c).flatMap coded else [c]

def percentEncode (set : EncodeSet) (cs : List Char) : List Char := cs.flatMap (encodeChar set)

def percentDecode : List Char → List UInt8
  | [] => []
  | '%' :: a :: b :: cs =>
    match hexValue? a, hexValue? b with
    | some m, some n => (m * 16 + n).toUInt8 :: percentDecode cs
    | _, _ => 0x25 :: percentDecode (a :: b :: cs)
  | c :: cs => String.utf8EncodeChar c ++ percentDecode cs

def percentDecodeText (cs : List Char) : List Char :=
  Text.Utf8.decodeLossy (percentDecode cs)

end SheetExport.Url

/-!
## Form pairs

Names and values are written as `name=value` with ampersands between the pairs.
A space is written as a plus sign; letters, digits and `*-._` stay, all else is
coded. Reading skips empty pairs.
-/

namespace SheetExport.Url.Form

def isPlain (c : Char) : Bool :=
  c.isAlphanum || c == '*' || c == '-' || c == '.' || c == '_'

def encodeChar (c : Char) : List Char :=
  if c = ' ' then ['+']
  else if isPlain c then [c]
  else (String.utf8EncodeChar c).flatMap coded

def encodeText (s : String) : List Char := s.toList.flatMap encodeChar

def encodePair (p : String × String) : List Char := encodeText p.1 ++ '=' :: encodeText p.2

def encode (ps : List (String × String)) : List Char := ['&'].intercalate (ps.map encodePair)

def decodeText (cs : List Char) : String :=
  String.ofList (percentDecodeText (cs.map fun c => if c = '+' then ' ' else c))

/-- A pair as read; without an equals sign the value is empty. -/
def decodePair (cs : List Char) : String × String :=
  (decodeText (cs.takeWhile (· ≠ '=')), decodeText (cs.dropWhile (· ≠ '=')).tail)

def decode (cs : List Char) : List (String × String) :=
  ((Text.pieces (· == '&') cs).filter (· ≠ [])).map decodePair

def append (cs : List Char) (ps : List (String × String)) : List Char :=
  if ps = [] then cs else if cs = [] then encode ps else cs ++ '&' :: encode ps

end SheetExport.Url.Form
