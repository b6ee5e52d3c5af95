/-!
# The fewest digits of a binary fraction

`Binary64.ofFloat` splits a finite double into a sign and a value `m * 2^q`.
`shortest` finds the decimal with the fewest digits among those nearer to the
value than to any other double, and of these the nearest to the value. `plain`
writes a decimal without an exponent, `scaled` with one outside a range of
magnitudes.
-/

namespace SheetExport

/-- A decimal `(-1)^neg * coeff * 10^exp`. -/
structure Decimal where
  neg : Bool
  coeff : Nat
  exp : Int
  deriving DecidableEq, Repr

namespace Decimal

/-- The finite value `(-1)^neg * m * 2^q`, with a flag for the doubles whose
lower neighbour is half as far as the upper one. -/
structure Binary64 where
  neg : Bool
  m : Nat
  q : Int
  tightBelow : Bool

def Binary64.ofFloat (x : Float) : Binary64 :=
  let bits : Nat := x.toBits.toNat
  let e : Nat := bits / Nat.pow 2 52 % Nat.pow 2 11
  let f : Nat := bits % Nat.pow 2 52
  let neg : Bool := bits / Nat.pow 2 63 == 1
  if e == 0 then ⟨neg, f, -1074, false⟩
  else ⟨neg, f + Nat.pow 2 52, (e : Int) - 1075, f == 0 && e > 1⟩

def digitCount (n : Nat) : Nat := (Nat.toDigits 10 n).length

/-- The reals `lo/den .. hi/den` that round to the value `val/den`; the ends
belong to them when `closed`. -/
structure Span where
  lo : Nat
  val : Nat
  hi : Nat
  den : Nat
  closed : Bool

/-- The reals that round to a positive value. -/
def Binary64.span (b : Binary64) : Span :=
  let lo := 4 * b.m - (if b.tightBelow then 1 else 2)
  let hi := 4 * b.m + 2
  let closed := b.m % 2 == 0
  if 2 ≤ b.q then
    let s := Nat.pow 2 (b.q - 2).toNat
    ⟨lo * s, 4 * b.m * s, hi * s, 1, closed⟩
  else
    ⟨lo, 4 * b.m, hi, Nat.pow 2 (2 - b.q).toNat, closed⟩

namespace Span

/-- The decimal exponent of the leading digit. -/
def magnitude (s : Span) : Int :=
  if s.den ≤ s.val then (digitCount (s.val / s.den) : Int) - 1
  else -(digitCount (s.den / s.val) : Int)

/-- The span in units of `10^g`. -/
def inUnits (s : Span) (g : Int) : Span :=
  if 0 ≤ g then { s with den := s.den * Nat.pow 10 g.toNat }
  else
    let t := Nat.pow 10 (-g).toNat
    { s with lo := s.lo * t, val := s.val * t, hi := s.hi * t }

def mem (s : Span) (c : Nat) : Bool :=
  if s.closed then s.lo ≤ c * s.den && c * s.den ≤ s.hi
  else s.lo < c * s.den && c * s.den < s.hi

/-- The whole number in the span that is nearest to the value, an even one on a
tie; only the two neighbours of the value are tried. -/
def nearest? (s : Span) : Option Nat :=
  let a := s.val / s.den
  match s.mem a, s.mem (a + 1) with
  | true, true =>
    let below := s.val - a * s.den
    let above := (a + 1) * s.den - s.val
    if below < above || (below == above && a % 2 == 0) then some a else some (a + 1)
  | true, false => some a
  | false, true => some (a + 1)
  | false, false => none

/-- The first grid of `n`, `n + 1`, … digits with a point in the span. -/
def firstGrid (s : Span) (p : Int) : Nat → Nat → Nat × Int
  | 0, n => ((s.inUnits (p - n)).val / (s.inUnits (p - n)).den, p - n)
  | fuel + 1, n =>
    match (s.inUnits (p - n)).nearest? with
    | some c => (c, p - n)
    | none => firstGrid s p fuel (n + 1)

end Span

/-- The decimal with the fewest digits that reads back as a finite double. -/
def shortest (x : Float) : Decimal :=
  let b := Binary64.ofFloat x
  if b.m == 0 then ⟨b.neg, 0, 0⟩
  else
    let s := b.span
    let (c, e) := s.firstGrid s.magnitude 17 0
    -- ten units of the leading place are one unit of the place above it
    if c == 10 then ⟨b.neg, 1, e + 1⟩ else ⟨b.neg, c, e⟩

def digits (d : Decimal) : List Char := Nat.toDigits 10 d.coeff

/-- The digits with the point after `k` of them, zeros filled in on either
side. A fraction of no digits is written as `point`. -/
def positional (ds : List Char) (k : Int) (point : List Char) : List Char :=
  if (ds.length : Int) ≤ k then ds ++ List.replicate (k.toNat - ds.length) '0' ++ point
  else if 0 < k then ds.take k.toNat ++ '.' :: ds.drop k.toNat
  else ['0', '.'] ++ List.replicate (-k).toNat '0' ++ ds

def sign (d : Decimal) : List Char := if d.neg then ['-'] else []

/-- Written out in full, without an exponent and without a fraction of zeros. -/
def plain (d : Decimal) : String :=
  String.ofList (d.sign ++ positional d.digits (d.digits.length + d.exp) [])

/-- Positional when `lo < k ≤ hi` for the place `k` of the point, always with a
fraction; otherwise one digit, the rest as its fraction and a signed exponent. -/
def scaled (lo hi : Int) (d : Decimal) : String :=
  let ds := d.digits
  let k : Int := ds.length + d.exp
  let body :=
    if lo < k && k ≤ hi then positional ds k ['.', '0']
    else
      let e := k - 1
      let mantissa := match ds with
        | [] => []
        | [c] => [c]
        | c :: cs => c :: '.' :: cs
      mantissa ++ 'e' :: (if e < 0 then '-' else '+') :: Nat.toDigits 10 e.natAbs
  String.ofList (d.sign ++ body)

end Decimal

end SheetExport
