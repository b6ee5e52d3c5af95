/-!
# Texts and bytes

Texts as bytes, and bytes as texts of a small alphabet.
-/

/-!
## UTF-8

`encode` writes a text as bytes. `decodeLossy` reads any bytes as a text: every
longest piece that is the start of no character, and every byte that starts
none, becomes one replacement character.
-/

namespace SheetExport.Text.Utf8

def encode (cs : List Char) : List UInt8 := cs.flatMap String.utf8EncodeChar

def ofString (s : String) : List UInt8 := encode s.toList

def size (cs : List Char) : Nat := cs.foldl (fun n c => n + c.utf8Size) 0

def replacement : Char := Char.ofNat 0xFFFD

/-- The continuation bytes that may follow a first byte: how many, and the
range of the first of them. `none` for a byte that starts no longer sequence. -/
def shape (b : UInt8) : Option (Nat × UInt8 × UInt8) :=
  let n := b.toNat
  if 0xC2 ≤ n && n ≤ 0xDF then some (1, 0x80, 0xBF)
  else if n == 0xE0 then some (2, 0xA0, 0xBF)
  else if n == 0xED then some (2, 0x80, 0x9F)
  else if 0xE1 ≤ n && n ≤ 0xEF then some (2, 0x80, 0xBF)
  else if n == 0xF0 then some (3, 0x90, 0xBF)
  else if 0xF1 ≤ n && n ≤ 0xF3 then some (3, 0x80, 0xBF)
  else if n == 0xF4 then some (3, 0x80, 0x8F)
  else none

/-- The payload bits of a first byte with `k` continuation bytes. -/
def leadBits (k : Nat) (b : UInt8) : Nat :=
  if k = 1 then b.toNat % 0x20 else if k = 2 then b.toNat % 0x10 else b.toNat % 8

/-- Takes up to `k` continuation bytes, the first of them within `lo` and `hi`:
the character if all are there, the replacement otherwise, and the bytes left. -/
def continuation : Nat → UInt8 → UInt8 → Nat → List UInt8 → Char × List UInt8
  | 0, _, _, acc, bs => (Char.ofNat acc, bs)
  | _ + 1, _, _, _, [] => (replacement, [])
  | k + 1, lo, hi, acc, b :: bs =>
    if lo ≤ b && b ≤ hi then continuation k 0x80 0xBF (acc * 64 + b.toNat % 64) bs
    else (replacement, b :: bs)

theorem continuation_length_le (k : Nat) (lo hi : UInt8) (acc : Nat) (bs : List UInt8) :
    (continuation k lo hi acc bs).2.length ≤ bs.length := by
  induction k generalizing lo hi acc bs with
  | zero => simp [continuation]
  | succ k ih =>
    cases bs with
    | nil => simp [continuation]
    | cons b bs =>
      simp only [continuation]
      split
      · have := ih 0x80 0xBF (acc * 64 + b.toNat % 64) bs
        simp only [List.length_cons]
        omega
      · simp

/-- Reads any bytes as a text. -/
def decodeLossy : List UInt8 → List Char
  | [] => []
  | b :: bs =>
    if b < 0x80 then Char.ofNat b.toNat :: decodeLossy bs
    else
      match shape b with
      | none => replacement :: decodeLossy bs
      | some (k, lo, hi) =>
        let step := continuation k lo hi (leadBits k b) bs
        step.1 :: decodeLossy step.2
termination_by bs => bs.length
decreasing_by
  · simp
  · simp
  · have := continuation_length_le k lo hi (leadBits k b) bs
    simp only [List.length_cons]
    omega

end SheetExport.Text.Utf8

/-!
## Base 64

Three bytes are written as four digits of six bits. One or two bytes at the end
take two or three digits. `encode` writes with the digits that are safe in an
address and without filling, `decode?` reads that form back.
-/

namespace SheetExport.Text.Base64

/-- The two digits in which the alphabets differ. -/
structure Alphabet where
  d62 : Char
  d63 : Char

/-- The digits of mail and keys. -/
def standard : Alphabet := ⟨'+', '/'⟩

/-- The digits that are safe in an address. -/
def urlSafe : Alphabet := ⟨'-', '_'⟩

def Alphabet.digit (t : Alphabet) (n : Nat) : Char :=
  if n < 26 then Char.ofNat (n + 65)
  else if n < 52 then Char.ofNat (n + 71)
  else if n < 62 then Char.ofNat (n - 4)
  else if n = 62 then t.d62
  else t.d63

def Alphabet.value? (t : Alphabet) (c : Char) : Option Nat :=
  if 'A' ≤ c && c ≤ 'Z' then some (c.toNat - 65)
  else if 'a' ≤ c && c ≤ 'z' then some (c.toNat - 71)
  else if '0' ≤ c && c ≤ '9' then some (c.toNat + 4)
  else if c = t.d62 then some 62
  else if c = t.d63 then some 63
  else none

def Alphabet.encode (t : Alphabet) : List UInt8 → List Char
  | [] => []
  | [a] => [t.digit (a.toNat / 4), t.digit (a.toNat % 4 * 16)]
  | [a, b] =>
    [t.digit (a.toNat / 4), t.digit (a.toNat % 4 * 16 + b.toNat / 16),
      t.digit (b.toNat % 16 * 4)]
  | a :: b :: c :: bs =>
    t.digit (a.toNat / 4) :: t.digit (a.toNat % 4 * 16 + b.toNat / 16) ::
      t.digit (b.toNat % 16 * 4 + c.toNat / 64) :: t.digit (c.toNat % 64) :: t.encode bs

/-- The bytes of digit values. The bits of the last digit that belong to no byte
must be zero. -/
def bytes? : List Nat → Option (List UInt8)
  | [] => some []
  | [_] => none
  | [a, b] => if b % 16 = 0 then some [(a * 4 + b / 16).toUInt8] else none
  | [a, b, c] =>
    if c % 4 = 0 then some [(a * 4 + b / 16).toUInt8, (b % 16 * 16 + c / 4).toUInt8] else none
  | a :: b :: c :: d :: ns => do
    return (a * 4 + b / 16).toUInt8 :: (b % 16 * 16 + c / 4).toUInt8 :: (c % 4 * 64 + d).toUInt8 ::
      (← bytes? ns)

def Alphabet.decode? (t : Alphabet) (cs : List Char) : Option (List UInt8) := do
  bytes? (← cs.mapM t.value?)

/-- Bytes in the form that is safe in an address, without filling. -/
def encode (bs : List UInt8) : String := String.ofList (urlSafe.encode bs)

/-- Reads the form that is safe in an address, without filling. -/
def decode? (s : String) : Option (List UInt8) := urlSafe.decode? s.toList

end SheetExport.Text.Base64
