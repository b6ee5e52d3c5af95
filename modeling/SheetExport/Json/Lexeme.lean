import SheetExport.Json.Value
import SheetExport.Schema
import SheetExport.Text.Bytes

/-!
# Parts of JSON texts

What a reader of JSON reports, and the readers for what has no inner structure.
-/

/-!
## Faults of JSON texts

A reader works on what is left of a text and reports a `Fault`: a cause, what
was left, and how many bytes further on the fault lies. A mismatch found while
a record is being read has no place of its own until the record ends.
`Error` is a fault with its line and column; columns count bytes.
-/

namespace SheetExport.Json

/-- Why a text is no JSON document, or not the expected one. -/
inductive Cause where
  | endInList
  | endInObject
  | endInString
  | endInValue
  | expectedColon
  | expectedListCommaOrEnd
  | expectedObjectCommaOrEnd
  | expectedIdent
  | expectedValue
  | invalidEscape
  | invalidNumber
  | numberOutOfRange
  | controlCharacter
  | keyMustBeString
  | loneSurrogate
  | trailingComma
  | trailingCharacters
  | unfinishedSurrogate
  | tooDeep
  | mismatch (m : Schema.Mismatch)

/-- A cause, what was left of the text, and the bytes from there to the fault. -/
structure Fault where
  cause : Cause
  rest : List Char
  ahead : Nat := 0
  located : Bool := true

/-- A place in a text: the line, and the bytes before it on that line. -/
structure Position where
  line : Nat
  column : Nat
  deriving DecidableEq, Repr

/-- Why and where a text was refused. -/
structure Error where
  cause : Cause
  position : Option Position

def wording : Schema.Wording := ⟨"null", floatText⟩

def Cause.message : Cause → String
  | .endInList => "EOF while parsing a list"
  | .endInObject => "EOF while parsing an object"
  | .endInString => "EOF while parsing a string"
  | .endInValue => "EOF while parsing a value"
  | .expectedColon => "expected `:`"
  | .expectedListCommaOrEnd => "expected `,` or `]`"
  | .expectedObjectCommaOrEnd => "expected `,` or `\x7d`"
  | .expectedIdent => "expected ident"
  | .expectedValue => "expected value"
  | .invalidEscape => "invalid escape"
  | .invalidNumber => "invalid number"
  | .numberOutOfRange => "number out of range"
  | .controlCharacter => "control character (\\u0000-\\u001F) found while parsing a string"
  | .keyMustBeString => "key must be a string"
  | .loneSurrogate => "lone leading surrogate in hex escape"
  | .trailingComma => "trailing comma"
  | .trailingCharacters => "trailing characters"
  | .unfinishedSurrogate => "unexpected end of hex escape"
  | .tooDeep => "recursion limit exceeded"
  | .mismatch m => m.message wording

def Error.message (e : Error) : String :=
  match e.position with
  | none => e.cause.message
  | some p => e.cause.message ++ " at line " ++ toString p.line ++ " column " ++ toString p.column

def Position.after (bs : List UInt8) : Position :=
  ⟨1 + bs.count 10, (bs.reverse.takeWhile (· != 10)).length⟩

def Fault.toError (whole : List Char) (f : Fault) : Error :=
  let bs := Text.Utf8.encode whole
  let index := bs.length - Text.Utf8.size f.rest + f.ahead
  ⟨f.cause, if f.located then some (Position.after (bs.take index)) else none⟩

/-- Reads the start of a text and gives what is left. -/
abbrev Reader (α : Type) := List Char → Except Fault (α × List Char)

def fault {α : Type} (c : Cause) (rest : List Char) : Except Fault α :=
  .error ⟨c, rest, 0, true⟩

/-- A fault that counts some bytes of what is left as read. -/
def faultAfter {α : Type} (ahead : Nat) (c : Cause) (rest : List Char) : Except Fault α :=
  .error ⟨c, rest, ahead, true⟩

/-- A fault of the byte ahead. -/
def faultAt {α : Type} (c : Cause) (rest : List Char) : Except Fault α := faultAfter 1 c rest

/-- A mismatch at a known place. -/
def mismatchAt {α : Type} (m : Schema.Mismatch) (rest : List Char) : Except Fault α :=
  .error ⟨.mismatch m, rest, 0, true⟩

/-- A mismatch of a whole record or list, whose place is where that ends. -/
def mismatchOf {α : Type} (m : Schema.Mismatch) (rest : List Char) : Except Fault α :=
  .error ⟨.mismatch m, rest, 0, false⟩

end SheetExport.Json

/-!
## JSON lexemes

Readers for the parts of a JSON text that have no inner structure: blanks, the
named values, strings and numbers. Strings and numbers have a second reader
each, which passes over them without asking what they stand for.
-/

namespace SheetExport.Json

def isGap (c : Char) : Bool := c == ' ' || c == '\n' || c == '\t' || c == '\r'

def skipGaps (cs : List Char) : List Char := cs.dropWhile isGap

def ident : List Char → List Char → Except Fault (List Char)
  | [], cs => .ok cs
  | _ :: _, [] => fault .endInValue []
  | w :: ws, c :: cs => if c = w then ident ws cs else faultAt .expectedIdent (c :: cs)

/-! ### Strings -/

def hexDigit? (c : Char) : Option Nat :=
  if '0' ≤ c && c ≤ '9' then some (c.toNat - '0'.toNat)
  else if 'a' ≤ c && c ≤ 'f' then some (c.toNat - 'a'.toNat + 10)
  else if 'A' ≤ c && c ≤ 'F' then some (c.toNat - 'A'.toNat + 10)
  else none

def hexUnit? (a b c d : Char) : Option Nat := do
  return (((← hexDigit? a) * 16 + (← hexDigit? b)) * 16 + (← hexDigit? c)) * 16 + (← hexDigit? d)

def shortEscape? (c : Char) : Option Char :=
  match c with
  | '"' => some '"'
  | '\\' => some '\\'
  | '/' => some '/'
  | 'b' => some '\x08'
  | 'f' => some '\x0c'
  | 'n' => some '\n'
  | 'r' => some '\r'
  | 't' => some '\t'
  | _ => none

def isLead (n : Nat) : Bool := 0xD800 ≤ n && n ≤ 0xDBFF

def isTrail (n : Nat) : Bool := 0xDC00 ≤ n && n ≤ 0xDFFF

def ofPair (lead trail : Nat) : Char :=
  Char.ofNat (0x10000 + (lead - 0xD800) * 0x400 + (trail - 0xDC00))

/-- What is wrong with a hexadecimal escape: too few bytes, or not digits. -/
def badHex {α : Type} (rest : List Char) : Except Fault α :=
  if Text.Utf8.size rest < 4 then fault .endInString [] else faultAfter 4 .invalidEscape rest

def consChar (c : Char) :
    Except Fault (List Char × List Char) → Except Fault (List Char × List Char)
  | .ok (s, rest) => .ok (c :: s, rest)
  | .error e => .error e

/-- Reads a string after its opening quote; `lead` is a first half of a
surrogate pair that waits for its second. -/
def stringBody (lead : Option Nat) : Reader (List Char)
  | [] => fault .endInString []
  | c :: cs =>
    if c = '\\' then
      match cs with
      | [] => fault .endInString []
      | e :: cs =>
        if e = 'u' then
          match cs with
          | h1 :: h2 :: h3 :: h4 :: cs =>
            match hexUnit? h1 h2 h3 h4, lead with
            | none, _ => badHex (h1 :: h2 :: h3 :: h4 :: cs)
            | some n, none =>
              if isTrail n then fault .loneSurrogate cs
              else if isLead n then stringBody (some n) cs
              else consChar (Char.ofNat n) (stringBody none cs)
            | some n, some l =>
              if isTrail n then consChar (ofPair l n) (stringBody none cs)
              else fault .loneSurrogate cs
          | _ => badHex cs
        else if lead.isSome then faultAt .unfinishedSurrogate (e :: cs)
        else
          match shortEscape? e with
          | some x => consChar x (stringBody none cs)
          | none => faultAt .invalidEscape (e :: cs)
    else if lead.isSome then faultAt .unfinishedSurrogate (c :: cs)
    else if c = '"' then .ok ([], cs)
    else if c.toNat < 0x20 then faultAt .controlCharacter (c :: cs)
    else consChar c (stringBody none cs)

def skipString : List Char → Except Fault (List Char)
  | [] => fault .endInString []
  | c :: cs =>
    if c = '\\' then
      match cs with
      | [] => fault .endInString []
      | e :: cs =>
        if e = 'u' then
          match cs with
          | h1 :: h2 :: h3 :: h4 :: cs =>
            match hexUnit? h1 h2 h3 h4 with
            | none => badHex (h1 :: h2 :: h3 :: h4 :: cs)
            | some _ => skipString cs
          | _ => badHex cs
        else if (shortEscape? e).isSome then skipString cs
        else faultAt .invalidEscape (e :: cs)
    else if c = '"' then .ok cs
    else if c.toNat < 0x20 then fault .controlCharacter (c :: cs)
    else skipString cs

/-! ### Numbers -/

/-- Adds digits to a number as long as it stays within 64 bits; also the number
of digits that were left. -/
def absorb (n : Nat) : List Char → Nat × Nat
  | [] => (n, 0)
  | c :: cs =>
    let m := n * 10 + (c.toNat - '0'.toNat)
    if m < UInt64.size then absorb m cs else (n, (c :: cs).length)

/-- The double `f * 10^e`, or nothing beyond the greatest double. Powers of ten
up to 10^308 are applied in one step, below that in steps of 10^-308. -/
def scale : Nat → Float → Int → Option Float
  | 0, _, _ => some 0
  | steps + 1, f, e =>
    if e.natAbs ≤ 308 then
      let p := Float.ofScientific 1 false e.natAbs
      if 0 ≤ e then
        let g := f * p
        if g.isInf then none else some g
      else some (f / p)
    else if f == 0 then some f
    else if 0 ≤ e then none
    else scale steps (f / Float.ofScientific 1 false 308) (e + 308)

/-- The double of a significand, an exponent and a sign. Three steps of 10^-308
turn every significand into zero. -/
def realNumber (negative : Bool) (sig : Nat) (e : Int) : Reader Number := fun rest =>
  match scale 4 (Float.ofNat sig) e with
  | some f => .ok (.float (if negative then -f else f), rest)
  | none => fault .numberOutOfRange rest

/-- The integer of a significand and a sign; a double when it has no integer of
64 bits, or is a negative zero. -/
def wholeNumber (negative : Bool) (sig : Nat) : Number :=
  if negative then
    if 0 < sig ∧ sig ≤ Int64.minValue.toInt.natAbs then .int (-(sig : Int))
    else .float (-(Float.ofNat sig))
  else .int sig

def exponentLimit : Nat := 2147483647

/-- Reads the digits of an exponent; `none` beyond the limit, with what is left
after the first digit too many. -/
def exponentDigits (n : Nat) : List Char → Option Nat × List Char
  | [] => (some n, [])
  | c :: cs =>
    if c.isDigit then
      let m := n * 10 + (c.toNat - '0'.toNat)
      if m ≤ exponentLimit then exponentDigits m cs else (none, cs)
    else (some n, c :: cs)

def exponent (negative : Bool) (sig : Nat) (e : Int) : Reader Number := fun cs =>
  let (down, cs) :=
    match cs with
    | '+' :: rest => (false, rest)
    | '-' :: rest => (true, rest)
    | _ => (false, cs)
  match cs with
  | [] => fault .endInValue []
  | c :: rest =>
    if c.isDigit then
      match exponentDigits 0 (c :: rest) with
      | (some n, rest) => realNumber negative sig (if down then e - n else e + n) rest
      | (none, rest) =>
        if sig ≠ 0 ∧ down = false then fault .numberOutOfRange rest
        else .ok (.float (if negative then -0.0 else 0.0), rest.dropWhile Char.isDigit)
    else faultAt .invalidNumber (c :: rest)

def afterFraction (negative : Bool) (sig : Nat) (e : Int) : Reader Number := fun cs =>
  match cs with
  | 'e' :: rest | 'E' :: rest => exponent negative sig e rest
  | _ => realNumber negative sig e cs

def readNumber (negative : Bool) : Reader Number := fun cs =>
  match cs with
  | [] => fault .endInValue []
  | c :: rest =>
    if c.isDigit then
      let ds := cs.takeWhile Char.isDigit
      let after := cs.dropWhile Char.isDigit
      if c = '0' ∧ ds.length ≠ 1 then faultAt .invalidNumber rest
      else
        let (sig, left) := absorb 0 ds
        match after with
        | '.' :: rest =>
          let fs := rest.takeWhile Char.isDigit
          let after := rest.dropWhile Char.isDigit
          if fs = [] then
            if rest = [] then fault .endInValue [] else faultAt .invalidNumber rest
          else
            let (sig', left') := absorb sig fs
            afterFraction negative sig' ((left : Int) - (fs.length - left' : Nat)) after
        | 'e' :: rest | 'E' :: rest => exponent negative sig left rest
        | _ =>
          if left = 0 then .ok (wholeNumber negative sig, after)
          else realNumber negative sig left after
    else faultAt .invalidNumber cs

def skipExponent (cs : List Char) : Except Fault (List Char) :=
  let cs :=
    match cs with
    | '+' :: rest => rest
    | '-' :: rest => rest
    | _ => cs
  match cs with
  | c :: rest =>
    if c.isDigit then .ok (rest.dropWhile Char.isDigit) else faultAt .invalidNumber (c :: rest)
  | [] => fault .invalidNumber []

def skipAfterFraction (cs : List Char) : Except Fault (List Char) :=
  match cs with
  | 'e' :: rest | 'E' :: rest => skipExponent rest
  | _ => .ok cs

def skipNumber (cs : List Char) : Except Fault (List Char) :=
  match cs with
  | [] => fault .invalidNumber []
  | c :: rest =>
    if c.isDigit then
      if c = '0' ∧ (rest.headD ' ').isDigit then faultAt .invalidNumber rest
      else
        match rest.dropWhile Char.isDigit with
        | '.' :: rest =>
          if (rest.headD ' ').isDigit then skipAfterFraction (rest.dropWhile Char.isDigit)
          else faultAt .invalidNumber rest
        | after => skipAfterFraction after
    else faultAt .invalidNumber cs

end SheetExport.Json
