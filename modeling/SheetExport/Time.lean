import SheetExport.Text.Bytes
import SheetExport.Text.Character

/-!
# Time

Dates of the Gregorian calendar, instants counted from 1970, and their written form.
-/

/-!
## Calendar dates

The Gregorian calendar in both directions of time. `Date.dayNumber` counts the
days from 1970-01-01, `Date.ofDayNumber` gives the date of a count. Both reckon
in years that begin in March, so that a leap day is the last day of its year,
and in cycles of 400 years.
-/

namespace SheetExport.Time

/-- A day of the calendar. -/
structure Date where
  year : Int
  month : Nat
  day : Nat
  deriving DecidableEq, Repr

def isLeapYear (y : Int) : Bool := y % 4 == 0 && (y % 100 != 0 || y % 400 == 0)

def daysInMonth (y : Int) (m : Nat) : Nat :=
  if m = 2 then (if isLeapYear y then 29 else 28)
  else if m = 4 ∨ m = 6 ∨ m = 9 ∨ m = 11 then 30
  else 31

namespace Date

def cycleDays : Int := 146097

/-- The days from 0000-03-01 to 1970-01-01. -/
def epochOffset : Int := 719468

/-- The days of a March year before its month `mp`, March being month 0. -/
def daysBefore (mp : Int) : Int := (153 * mp + 2) / 5

def valid (d : Date) : Bool :=
  1 ≤ d.month && d.month ≤ 12 && 1 ≤ d.day && d.day ≤ daysInMonth d.year d.month

def dayNumber (d : Date) : Int :=
  let y : Int := if d.month ≤ 2 then d.year - 1 else d.year
  let mp : Int := if d.month ≤ 2 then (d.month : Int) + 9 else (d.month : Int) - 3
  let cycle := y / 400
  let yoc := y % 400
  let doy := daysBefore mp + (d.day : Int) - 1
  cycle * cycleDays + (yoc * 365 + yoc / 4 - yoc / 100 + doy) - epochOffset

def ofDayNumber (n : Int) : Date :=
  let z := n + epochOffset
  let cycle := z / cycleDays
  let doc := z % cycleDays
  let yoc := (doc - doc / 1460 + doc / 36524 - doc / 146096) / 365
  let doy := doc - (365 * yoc + yoc / 4 - yoc / 100)
  let mp := (5 * doy + 2) / 153
  let day := doy - daysBefore mp + 1
  let month := if mp < 10 then mp + 3 else mp - 9
  let year := yoc + cycle * 400 + (if month ≤ 2 then 1 else 0)
  ⟨year, month.toNat, day.toNat⟩

end Date

end SheetExport.Time

/-!
## Instants

An instant is a number of seconds since 1970 and a fraction in nanoseconds. In
a leap second the fraction goes on past one second. Instants have dates in the
years -262143 to 262142; arithmetic that leaves them gives nothing.
-/

namespace SheetExport.Time

/-- A point in time. -/
structure Instant where
  seconds : Int
  nanos : Nat
  deriving DecidableEq, Repr, Inhabited

namespace Instant

def nanosPerSecond : Nat := 1000000000

def secondsPerDay : Int := 86400

def first : Int := -8334601228800

def last : Int := 8210266876799

def inRange (s : Int) : Bool := first ≤ s && s ≤ last

def inLeap (t : Instant) : Bool := nanosPerSecond ≤ t.nanos

def le (a b : Instant) : Bool :=
  a.seconds < b.seconds || (a.seconds == b.seconds && a.nanos ≤ b.nanos)

/-- The instant some whole seconds later, or earlier for a negative number. One
step out of a leap second ends it: forward it counts as the second it prolongs,
backward as the one that follows. -/
def add? (t : Instant) (s : Int) : Option Instant :=
  let t' : Instant :=
    if t.inLeap && s != 0 then
      ⟨t.seconds + s + (if s < 0 then 1 else 0), t.nanos - nanosPerSecond⟩
    else ⟨t.seconds + s, t.nanos⟩
  if inRange t'.seconds then some t' else none

theorem add?_of_not_inLeap {t : Instant} {s : Int} (h : t.inLeap = false) :
    t.add? s = if inRange (t.seconds + s) then some ⟨t.seconds + s, t.nanos⟩ else none := by
  simp [add?, h]

end Instant

end SheetExport.Time

/-!
## Timestamps

The written form of an instant is `2030-01-02T03:04:05Z`, with a fraction of
three, six or nine digits when it is not zero and a signed year when that has
not four digits. Reading is more tolerant: blanks around the parts, single
digits, a space for the `T`, any fraction and any offset from UTC.
-/

namespace SheetExport.Time.Timestamp

/-! ### Writing -/

def padded (width n : Nat) : List Char :=
  let ds := Nat.toDigits 10 n
  List.replicate (width - ds.length) '0' ++ ds

/-- A year: four digits, or a sign and at least four digits. -/
def yearText (y : Int) : List Char :=
  if 0 ≤ y && y ≤ 9999 then padded 4 y.toNat
  else (if y < 0 then '-' else '+') :: padded 4 y.natAbs

/-- The fraction of a second in the fewest groups of three digits. -/
def fractionText (nanos : Nat) : List Char :=
  if nanos = 0 then []
  else if nanos % 1000000 = 0 then '.' :: padded 3 (nanos / 1000000)
  else if nanos % 1000 = 0 then '.' :: padded 6 (nanos / 1000)
  else '.' :: padded 9 nanos

def chars (t : Instant) : List Char :=
  let d := Date.ofDayNumber (t.seconds / Instant.secondsPerDay)
  let s := (t.seconds % Instant.secondsPerDay).toNat
  let (second, nanos) :=
    if t.inLeap then (s % 60 + 1, t.nanos - Instant.nanosPerSecond) else (s % 60, t.nanos)
  yearText d.year ++ '-' :: padded 2 d.month ++ '-' :: padded 2 d.day ++
    'T' :: padded 2 (s / 3600) ++ ':' :: padded 2 (s / 60 % 60) ++ ':' :: padded 2 second ++
    fractionText nanos ++ ['Z']

def text (t : Instant) : String := String.ofList (chars t)

/-! ### Reading -/

/-- Why a text is no timestamp. -/
inductive Fault where
  | outOfRange
  | invalid
  | tooShort
  | tooLong
  | impossible
  deriving DecidableEq, Repr

def Fault.message : Fault → String
  | .outOfRange => "input is out of range"
  | .invalid => "input contains invalid characters"
  | .tooShort => "premature end of input"
  | .tooLong => "trailing input"
  | .impossible => "no possible date and time matching input"

/-- Reads the start of a text and gives what is left. -/
abbrev Reader (α : Type) := List Char → Except Fault (α × List Char)

def digitsValue (ds : List Char) : Nat :=
  ds.foldl (fun n c => n * 10 + (c.toNat - '0'.toNat)) 0

def digits (most : Nat) : Reader (List Char) := fun cs =>
  match (cs.take most).takeWhile Char.isDigit with
  | [] => .error (if cs = [] then .tooShort else .invalid)
  | ds => .ok (ds, cs.drop ds.length)

/-- Reads a number of at most two digits between two bounds, after blanks. -/
def number (lo hi : Nat) : Reader Nat := fun cs => do
  let (ds, rest) ← digits 2 (Text.dropBlanks cs)
  let n := digitsValue ds
  if lo ≤ n ∧ n ≤ hi then return (n, rest) else .error .outOfRange

/-- Reads one character, after blanks. -/
def mark (c : Char) (cs : List Char) : Except Fault (List Char) :=
  match Text.dropBlanks cs with
  | [] => .error .tooShort
  | d :: rest => if d = c then .ok rest else .error .invalid

/-- Reads a year: a sign and any digits, or up to four digits. -/
def year : Reader Int := fun cs => do
  let (negative, ds, rest) ← match Text.dropBlanks cs with
    | '-' :: rest => do
      let (ds, rest) ← digits rest.length rest
      pure (true, ds, rest)
    | '+' :: rest => do
      let (ds, rest) ← digits rest.length rest
      pure (false, ds, rest)
    | cs => do
      let (ds, rest) ← digits 4 cs
      pure (false, ds, rest)
  let n : Int := digitsValue ds
  let y := if negative then -n else n
  if -2147483648 ≤ y ∧ y ≤ 2147483647 then return (y, rest) else .error .outOfRange

/-- Reads a fraction of a second, if there is one, as nanoseconds; digits after
the ninth do not count. -/
def fraction : Reader Nat := fun cs =>
  match cs with
  | '.' :: rest => do
    let (ds, rest) ← digits 9 rest
    return (digitsValue ds * Nat.pow 10 (9 - ds.length), rest.dropWhile Char.isDigit)
  | _ => .ok (0, cs)

/-- The first two characters, if two bytes are left. -/
def pair (cs : List Char) : Except Fault (Char × Char × List Char) :=
  if Text.Utf8.size cs < 2 then .error .tooShort
  else
    match cs with
    | a :: b :: rest => .ok (a, b, rest)
    | _ => .error .invalid

/-- Reads an offset in hours and minutes, in seconds, after its sign. -/
def signedOffset (negative : Bool) : Reader Int := fun cs => do
  let (a, b, rest) ← pair cs
  if a.isDigit && b.isDigit then
    let h := digitsValue [a, b]
    let (a, b, rest) ← pair (rest.dropWhile fun c => c == ':' || Text.isBlank c)
    if a.isDigit && b.isDigit then
      if '6' ≤ a then .error .outOfRange
      else
        let s : Int := h * 3600 + digitsValue [a, b] * 60
        return (if negative then -s else s, rest)
    else .error .invalid
  else .error .invalid

def offset : Reader Int := fun cs =>
  match cs with
  | [] => .error .tooShort
  | c :: rest =>
    if (cs.take 3).map Char.toLower = ['u', 't', 'c'] then .ok (0, cs.drop 3)
    else if c = 'Z' ∨ c = 'z' then .ok (0, rest)
    else if c = '+' then signedOffset false rest
    else if c = '-' ∨ c = '−' then signedOffset true rest
    else .error .invalid

def separator : List Char → Except Fault (List Char)
  | [] => .error .tooShort
  | c :: rest => if c = 't' ∨ c = 'T' ∨ c = ' ' then .ok rest else .error .invalid

/-- The instant of a date, a time of day and an offset. A second 60 is a leap
second. -/
def assemble (d : Date) (hour minute second nanos : Nat) (off : Int) : Except Fault Instant :=
  let day := d.dayNumber
  let leap := second == 60
  let s : Int := hour * 3600 + minute * 60 + (if leap then 59 else second)
  let local' := day * Instant.secondsPerDay + s
  if !d.valid || !Instant.inRange local' || 86400 ≤ off.natAbs then .error .outOfRange
  else if !Instant.inRange (local' - off) then .error .impossible
  else .ok ⟨local' - off, if leap then nanos + Instant.nanosPerSecond else nanos⟩

def parse (cs : List Char) : Except Fault Instant := do
  let (y, cs) ← year cs
  let (m, cs) ← number 1 12 (← mark '-' cs)
  let (d, cs) ← number 1 31 (← mark '-' cs)
  let (hour, cs) ← number 0 23 (← separator cs)
  let (minute, cs) ← number 0 59 (← mark ':' cs)
  let (second, cs) ← number 0 60 (← mark ':' cs)
  let (nanos, cs) ← fraction cs
  let (off, cs) ← offset (Text.dropBlanks cs)
  if Text.dropBlanks cs ≠ [] then .error .tooLong
  else assemble ⟨y, m, d⟩ hour minute second nanos off

end SheetExport.Time.Timestamp
