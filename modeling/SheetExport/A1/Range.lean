import SheetExport.Text.Character

/-!
# A1 notation

Columns and rows are counted from zero and written from one. `Column.letters` names
a column by letters, `Range.parse` reads a cell or a range of cells.
-/

/-!
## Column letters

Columns are counted from zero and named by letters: `A` to `Z`, then `AA`,
`AB`, and so on. A name is the column's number plus one in bijective base 26.
`letters` writes the name of a column, `ofLetters?` reads one; names above the
64-bit limit are refused.
-/

namespace SheetExport.A1.Column

/-- One more than the greatest number of 64 bits. -/
def limit : Nat := UInt64.size

def letter (d : Nat) : Char := Char.ofNat ('A'.toNat + d)

def isLetter (c : Char) : Bool := 'A' ≤ c && c ≤ 'Z'

/-- The place of a letter in the alphabet, from one. -/
def place (c : Char) : Nat := c.toNat - 'A'.toNat + 1

def letters (n : Nat) : List Char :=
  if n < 26 then [letter n] else letters (n / 26 - 1) ++ [letter (n % 26)]
termination_by n

/-- The value of letters in bijective base 26, after letters of value `acc`. -/
def value (acc : Nat) (cs : List Char) : Nat := cs.foldl (fun a c => a * 26 + place c) acc

def ofLetters? (cs : List Char) : Option Nat :=
  if cs = [] || !cs.all isLetter then none
  else
    let v := value 0 cs
    if v < limit then some (v - 1) else none

theorem letters_of_lt {n : Nat} (h : n < 26) : letters n = [letter n] := by
  rw [letters, if_pos h]

theorem letters_of_ge {n : Nat} (h : 26 ≤ n) :
    letters n = letters (n / 26 - 1) ++ [letter (n % 26)] := by
  rw [letters, if_neg (by omega)]

theorem exists_letter_of_mem_letters {n : Nat} {c : Char} (h : c ∈ letters n) :
    ∃ d < 26, c = letter d := by
  induction n using Nat.strongRecOn with
  | ind n ih =>
    by_cases hn : n < 26
    · rw [letters_of_lt hn, List.mem_singleton] at h
      exact ⟨n, hn, h⟩
    · rw [letters_of_ge (by omega), List.mem_append, List.mem_singleton] at h
      rcases h with h | h
      · exact ih _ (by omega) h
      · exact ⟨n % 26, Nat.mod_lt _ (by decide), h⟩

theorem value_append (acc : Nat) (xs ys : List Char) :
    value acc (xs ++ ys) = value (value acc xs) ys := by
  simp [value]

end SheetExport.A1.Column

/-!
## A1 ranges

A bound is a column with or without a row, a range one or two bounds: `B7`,
`A1:C20`, `A:C`. Columns and rows are counted from zero and written from one.
`Range.parse` accepts the written form in either case and with surrounding
blanks; a single bound needs a row. `Range.forTab` puts the quoted name of a
tab in front.
-/

namespace SheetExport.A1

/-- A column, or a cell of it. -/
structure Bound where
  col : Nat
  row : Option Nat
  deriving DecidableEq, Repr

/-- One bound, or the cells between two. -/
structure Range where
  start : Bound
  stop : Option Bound
  deriving DecidableEq, Repr

/-- A text, without surrounding blanks, that is no range. -/
structure InvalidRange where
  text : String
  deriving DecidableEq, Repr

namespace Bound

def chars (b : Bound) : List Char :=
  Column.letters b.col ++ (b.row.map fun r => Nat.toDigits 10 (r + 1)).getD []

/-- The row of a text of digits, counted from zero. -/
def row? (ds : List Char) : Option Nat :=
  if ds.all Char.isDigit then
    let n := ds.foldl (fun a c => a * 10 + (c.toNat - '0'.toNat)) 0
    if 0 < n ∧ n < Column.limit then some (n - 1) else none
  else none

def ofChars? (cs : List Char) : Option Bound := do
  let cs := Text.upper cs
  let col ← Column.ofLetters? (cs.takeWhile Column.isLetter)
  match cs.dropWhile Column.isLetter with
  | [] => return ⟨col, none⟩
  | ds => return ⟨col, some (← row? ds)⟩

def text (b : Bound) : String := String.ofList b.chars

theorem mem_chars {b : Bound} {c : Char} (h : c ∈ b.chars) :
    (∃ d < 26, c = Column.letter d) ∨ c.isDigit = true := by
  rcases List.mem_append.1 h with h | h
  · exact .inl (Column.exists_letter_of_mem_letters h)
  · cases hrow : b.row with
    | none => simp [hrow] at h
    | some r =>
      rw [hrow] at h
      exact .inr (Nat.isDigit_of_mem_toDigits (by decide) (by decide) h)

end Bound

namespace Range

def chars (r : Range) : List Char :=
  r.start.chars ++ (r.stop.map fun b => ':' :: b.chars).getD []

def ofChars? (cs : List Char) : Option Range :=
  match Text.pieces (· == ':') cs with
  | [a] => do
    let start ← Bound.ofChars? a
    if start.row.isSome then some ⟨start, none⟩ else none
  | [a, b] => do
    let start ← Bound.ofChars? a
    let stop ← Bound.ofChars? b
    return ⟨start, some stop⟩
  | _ => none

def parse (s : String) : Except InvalidRange Range :=
  let cs := Text.trimChars s.toList
  match ofChars? cs with
  | some r => .ok r
  | none => .error ⟨String.ofList cs⟩

def text (r : Range) : String := String.ofList r.chars

theorem mem_chars {r : Range} {c : Char} (h : c ∈ r.chars) :
    (∃ d < 26, c = Column.letter d) ∨ c.isDigit = true ∨ c = ':' := by
  rcases List.mem_append.1 h with h | h
  · exact (Bound.mem_chars h).imp_right .inl
  · cases hstop : r.stop with
    | none => simp [hstop] at h
    | some b =>
      rw [hstop] at h
      rcases List.mem_cons.1 h with h | h
      · exact .inr (.inr h)
      · exact (Bound.mem_chars h).imp_right .inl

end Range

def quotedName (name : String) : List Char :=
  '\'' :: name.toList.flatMap (fun c => if c = '\'' then ['\'', '\''] else [c]) ++ ['\'']

def Range.forTab (r : Range) (name : String) : String :=
  String.ofList (quotedName name ++ '!' :: r.chars)

end SheetExport.A1
