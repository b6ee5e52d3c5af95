/-!
# Classes of characters

Which characters are blank, how a text is cut at the characters of a class, and which
characters become ASCII letters in upper case.
-/

/-!
## Blank characters

`isBlank` is the Unicode property White_Space. `trim` drops the blank
characters at both ends of a text, `words` cuts a text at its blanks and keeps
the non-empty pieces, and `pieces` cuts at every character of a class and
keeps the empty pieces too.
-/

namespace SheetExport.Text

/-- The Unicode property White_Space. -/
def isBlank (c : Char) : Bool :=
  let n := c.toNat
  (9 ≤ n && n ≤ 13) || n == 0x20 || n == 0x85 || n == 0xA0 || n == 0x1680 ||
    (0x2000 ≤ n && n ≤ 0x200A) || n == 0x2028 || n == 0x2029 || n == 0x202F ||
    n == 0x205F || n == 0x3000

/-- The text without the blanks before its first other character. -/
def dropBlanks (cs : List Char) : List Char := cs.dropWhile isBlank

def dropBlanksEnd (cs : List Char) : List Char := (cs.reverse.dropWhile isBlank).reverse

def trimChars (cs : List Char) : List Char := dropBlanksEnd (dropBlanks cs)

def trim (s : String) : String := String.ofList (trimChars s.toList)

def allBlank (s : String) : Bool := s.toList.all isBlank

/-- The parts between the characters of a class; one more part than there are
such characters. -/
def pieces (sep : Char → Bool) : List Char → List (List Char)
  | [] => [[]]
  | c :: cs =>
    if sep c then [] :: pieces sep cs
    else
      match pieces sep cs with
      | [] => [[c]]
      | w :: ws => (c :: w) :: ws

def words (cs : List Char) : List (List Char) := (pieces isBlank cs).filter (· ≠ [])

theorem isBlank_of_isDigit {c : Char} (h : c.isDigit = true) : isBlank c = false := by
  obtain ⟨hlo, hhi⟩ := Char.isDigit_iff_toNat.1 h
  have hlo : 48 ≤ c.toNat := hlo
  have hhi : c.toNat ≤ 57 := hhi
  simp [isBlank]
  omega

theorem dropBlanks_cons {c : Char} {cs : List Char} (h : isBlank c = false) :
    dropBlanks (c :: cs) = c :: cs := by
  simp [dropBlanks, h]

theorem dropBlanks_of_notMem {cs : List Char} (h : ∀ c ∈ cs, isBlank c = false) :
    dropBlanks cs = cs := by
  cases cs with
  | nil => rfl
  | cons c cs => exact dropBlanks_cons (h c List.mem_cons_self)

theorem trimChars_of_notMem {cs : List Char} (h : ∀ c ∈ cs, isBlank c = false) :
    trimChars cs = cs := by
  have hrev : dropBlanks cs.reverse = cs.reverse :=
    dropBlanks_of_notMem fun c hc => h c (List.mem_reverse.1 hc)
  rw [trimChars, dropBlanks_of_notMem h, dropBlanksEnd]
  exact (congrArg List.reverse hrev).trans (List.reverse_reverse cs)

theorem dropBlanks_of_head? {cs : List Char} (h : ∀ c ∈ cs.head?, isBlank c = false) :
    dropBlanks cs = cs := by
  cases cs with
  | nil => rfl
  | cons c cs => exact dropBlanks_cons (h c rfl)

theorem head?_dropBlanks (cs : List Char) : ∀ c ∈ (dropBlanks cs).head?, isBlank c = false := by
  intro c hc
  have h := List.head?_dropWhile_not isBlank cs
  simp only [dropBlanks] at hc
  rwa [hc] at h

theorem trimChars_prefix (cs : List Char) : trimChars cs <+: dropBlanks cs := by
  rw [← List.reverse_suffix, trimChars, dropBlanksEnd, List.reverse_reverse]
  exact List.dropWhile_suffix _

theorem trimChars_trimChars (cs : List Char) : trimChars (trimChars cs) = trimChars cs := by
  have hfirst : ∀ c ∈ (trimChars cs).head?, isBlank c = false := by
    obtain ⟨rest, hrest⟩ := trimChars_prefix cs
    intro c hc
    refine head?_dropBlanks cs c ?_
    rw [← hrest, List.head?_append, hc]
    rfl
  have hlast : dropBlanks (trimChars cs).reverse = (trimChars cs).reverse := by
    rw [trimChars, dropBlanksEnd, List.reverse_reverse]
    exact dropBlanks_of_head? (head?_dropBlanks _)
  rw [trimChars, dropBlanks_of_head? hfirst, dropBlanksEnd]
  exact (congrArg List.reverse hlast).trans (List.reverse_reverse _)

theorem pieces_ne_nil (sep : Char → Bool) (cs : List Char) : pieces sep cs ≠ [] := by
  cases cs with
  | nil => simp [pieces]
  | cons c cs =>
    simp only [pieces]
    split
    · simp
    · split <;> simp

/-- Cutting at one character and joining with it gives the text back. -/
theorem intercalate_pieces (d : Char) (cs : List Char) :
    [d].intercalate (pieces (· == d) cs) = cs := by
  induction cs with
  | nil => simp [pieces, List.intercalate]
  | cons c cs ih =>
    have hne := pieces_ne_nil (· == d) cs
    cases hp : pieces (· == d) cs with
    | nil => exact absurd hp hne
    | cons w ws =>
      rw [hp] at ih
      by_cases hc : c = d
      · subst hc
        simp only [pieces, beq_self_eq_true, if_true, hp]
        rw [← ih]
        simp [List.intercalate, List.intersperse]
      · have : (c == d) = false := by simp [hc]
        simp only [pieces, this, hp, Bool.false_eq_true, if_false]
        rw [← ih]
        cases ws <;> simp [List.intercalate, List.intersperse]

end SheetExport.Text

/-!
## Upper-case letters

`upper` is full upper-casing as far as ASCII letters go: the characters whose
upper-case form is made of them are replaced by it, all others stay.
-/

namespace SheetExport.Text

/-- The upper-case form of a character if that is made of ASCII letters, and
the character itself otherwise. -/
def upperChar (c : Char) : List Char :=
  if 'a' ≤ c && c ≤ 'z' then [c.toUpper]
  else
    match c with
    | 'ß' => ['S', 'S']
    | 'ı' => ['I']
    | 'ſ' => ['S']
    | 'ﬀ' => ['F', 'F']
    | 'ﬁ' => ['F', 'I']
    | 'ﬂ' => ['F', 'L']
    | 'ﬃ' => ['F', 'F', 'I']
    | 'ﬄ' => ['F', 'F', 'L']
    | 'ﬅ' => ['S', 'T']
    | 'ﬆ' => ['S', 'T']
    | c => [c]

/-- Upper-case form of every character that has one in ASCII letters. -/
def upper (cs : List Char) : List Char := cs.flatMap upperChar

end SheetExport.Text
