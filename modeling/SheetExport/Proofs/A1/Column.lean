import Mathlib.Data.Char
import Mathlib.Data.List.Induction
import Mathlib.Data.List.Shortlex
import Mathlib.Data.Nat.Digits.Defs
import SheetExport.A1.Range

/-!
# Letters of columns

Letters and columns stand for each other one to one, as far as 64 bits go.
-/

/-!
## Names of columns

The letters of a column are upper-case ASCII letters and, as digits of base 26,
have the number of the column plus one as their value: `spell` and `value` are
inverse to each other. `ofLetters?` reads such names and no others, up to the
limit of 64 bits.
-/

namespace SheetExport.A1.Column

/-! ### Letters -/

theorem isLetter_letter : ∀ d < 26, isLetter (letter d) = true := by decide

theorem place_letter : ∀ d < 26, place (letter d) = d + 1 := by decide

theorem place_pos (c : Char) : 0 < place c := Nat.succ_pos _

theorem isLetter_iff {c : Char} :
    isLetter c = true ↔ 'A'.toNat ≤ c.toNat ∧ c.toNat ≤ 'Z'.toNat := by
  unfold isLetter
  rw [Bool.and_eq_true, decide_eq_true_iff, decide_eq_true_iff]
  rfl

theorem exists_letter {c : Char} (h : isLetter c = true) : ∃ d < 26, c = letter d := by
  obtain ⟨hlo, hhi⟩ := isLetter_iff.1 h
  have hend : 'Z'.toNat < 'A'.toNat + 26 := by decide
  refine ⟨c.toNat - 'A'.toNat, by omega, ?_⟩
  rw [letter, Nat.add_sub_cancel' hlo, Char.ofNat_toNat]

theorem isLetter_of_mem_letters {n : Nat} {c : Char} (h : c ∈ letters n) : isLetter c = true := by
  obtain ⟨d, hd, rfl⟩ := exists_letter_of_mem_letters h
  exact isLetter_letter d hd

theorem letters_ne_nil (n : Nat) : letters n ≠ [] := by
  by_cases hn : n < 26
  · simp [letters_of_lt hn]
  · simp [letters_of_ge (Nat.le_of_not_lt hn)]

/-! ### The value of letters -/

theorem value_cons (acc : Nat) (c : Char) (cs : List Char) :
    value acc (c :: cs) = value (acc * 26 + place c) cs := rfl

theorem value_singleton (acc : Nat) (c : Char) : value acc [c] = acc * 26 + place c := rfl

theorem le_value (acc : Nat) (cs : List Char) : acc ≤ value acc cs := by
  induction cs generalizing acc with
  | nil => exact Nat.le_refl acc
  | cons c cs ih =>
    have hrest := ih (acc * 26 + place c)
    rw [value_cons]
    omega

theorem value_pos {cs : List Char} (h : cs ≠ []) : 0 < value 0 cs := by
  obtain ⟨c, cs, rfl⟩ := List.exists_cons_of_ne_nil h
  have hc := place_pos c
  have hrest := le_value (0 * 26 + place c) cs
  rw [value_cons]
  omega

theorem value_zero_eq (cs : List Char) :
    value 0 cs = Nat.ofDigits 26 (cs.reverse.map place) := by
  induction cs using List.reverseRecOn with
  | nil => rfl
  | append_singleton cs c ih =>
    rw [value_append, value_singleton, ih, List.reverse_append, List.reverse_singleton,
      List.singleton_append, List.map_cons, Nat.ofDigits_cons]
    exact (Nat.add_comm _ _).trans (congrArg _ (Nat.mul_comm _ _))

/-- The letters of a number counted from one, digit by digit from the last. -/
def spell : Nat → List Char
  | 0 => []
  | n + 1 => spell (n / 26) ++ [letter (n % 26)]
termination_by n => n

theorem spell_succ (n : Nat) : spell (n + 1) = letters n := by
  induction n using Nat.strongRecOn with
  | ind n ih =>
    rw [spell]
    by_cases hn : n < 26
    · rw [letters_of_lt hn, Nat.div_eq_of_lt hn, Nat.mod_eq_of_lt hn, spell, List.nil_append]
    · have hdiv : n / 26 = n / 26 - 1 + 1 := by omega
      rw [letters_of_ge (by omega), hdiv, ih _ (by omega), Nat.add_sub_cancel]

theorem value_spell (n : Nat) : value 0 (spell n) = n := by
  fun_induction spell n with
  | case1 => rfl
  | case2 n ih =>
    have hmod : n % 26 < 26 := Nat.mod_lt _ (by decide)
    rw [value_append, ih, value_singleton, place_letter _ hmod]
    omega

theorem spell_value {cs : List Char} (h : ∀ c ∈ cs, isLetter c = true) :
    spell (value 0 cs) = cs := by
  induction cs using List.reverseRecOn with
  | nil =>
    show spell 0 = []
    rw [spell]
  | append_singleton cs c ih =>
    obtain ⟨d, hd, rfl⟩ := exists_letter (h c (by simp))
    have hcs := ih fun c hc => h c (List.mem_append_left _ hc)
    -- The place of the last letter is `d + 1`, so less one the remainder is `d` itself.
    have hdiv : (value 0 cs * 26 + d) / 26 = value 0 cs := by omega
    have hmod : (value 0 cs * 26 + d) % 26 = d := by omega
    rw [value_append, value_singleton, place_letter d hd, ← Nat.add_assoc, spell, hdiv, hmod, hcs]

/-- The value of the letters of a column is its number plus one. -/
theorem value_letters (n : Nat) : value 0 (letters n) = n + 1 := by
  rw [← spell_succ, value_spell]

/-- The names that are read: letters whose value 64 bits hold. -/
theorem ofLetters?_eq_some {cs : List Char} {n : Nat} :
    ofLetters? cs = some n ↔
      cs ≠ [] ∧ (∀ c ∈ cs, isLetter c = true) ∧ value 0 cs = n + 1 ∧ n + 1 < limit := by
  unfold ofLetters?
  by_cases hcs : cs = [] ∨ ¬∀ c ∈ cs, isLetter c = true
  · rw [if_pos (by simpa using hcs)]
    constructor
    · intro h
      cases h
    · rintro ⟨hne, hall, -⟩
      exact (hcs.elim hne fun h => h hall).elim
  · simp only [not_or, not_not] at hcs
    have hpos := value_pos hcs.1
    rw [if_neg (by simpa using hcs)]
    simp only [Option.ite_none_right_eq_some, Option.some.injEq]
    constructor
    · rintro ⟨hlt, rfl⟩
      exact ⟨hcs.1, hcs.2, by omega, by omega⟩
    · rintro ⟨-, -, hv, hlt⟩
      exact ⟨by omega, by omega⟩

theorem ofLetters?_letters {n : Nat} (h : n < limit - 1) : ofLetters? (letters n) = some n :=
  ofLetters?_eq_some.2 ⟨letters_ne_nil n, fun _ => isLetter_of_mem_letters, value_letters n,
    Nat.add_lt_of_lt_sub h⟩

theorem exists_letters_eq {cs : List Char} (hcs : cs ≠ []) (hall : ∀ c ∈ cs, isLetter c = true)
    (h : value 0 cs ≤ limit - 1) : ∃ n < limit - 1, ofLetters? cs = some n ∧ letters n = cs := by
  have hpos := value_pos hcs
  have hn : value 0 cs - 1 < limit - 1 := by omega
  have hletters : letters (value 0 cs - 1) = cs := by
    rw [← spell_succ, Nat.sub_add_cancel hpos, spell_value hall]
  have hread := ofLetters?_letters hn
  rw [hletters] at hread
  exact ⟨value 0 cs - 1, hn, hread, hletters⟩

theorem ofLetters?_eq_none {cs : List Char} (h : limit - 1 < value 0 cs) :
    ofLetters? cs = none := by
  refine Option.eq_none_iff_forall_ne_some.2 fun n hn => ?_
  obtain ⟨-, -, hvalue, hbound⟩ := ofLetters?_eq_some.1 hn
  omega

end SheetExport.A1.Column

/-!
## Columns numbered by letters

The names of the columns below the greatest number of 64 bits are the letters
whose value is at most that number, one to one, and columns are in the order of
their names, shorter names first: `letters_numbering`. Words of 64 bits, which
check each product and each sum, name and read the same columns.
-/

namespace SheetExport.A1.Column

/-! ### Names in words -/

/-- The word of a number, if 64 bits hold it. -/
def word? (n : Nat) : Option UInt64 := if n < limit then some (UInt64.ofNat n) else none

/-- The value of letters after one more, if it and the product on the way to it are words. -/
def pushLetter? (w : UInt64) (c : Char) : Option UInt64 :=
  if isLetter c then do word? ((← word? (w.toNat * 26)).toNat + place c) else none

def wordOfLetters? (cs : List Char) : Option UInt64 :=
  if cs = [] then none else (cs.foldlM pushLetter? 0).map (· - 1)

theorem toNat_sub_one {w : UInt64} (h : w ≠ 0) : (w - 1).toNat + 1 = w.toNat := by
  have hpos : w.toNat ≠ 0 := fun h0 => h (UInt64.toNat_inj.1 h0)
  have hle : (1 : UInt64) ≤ w := UInt64.le_iff_toNat_le.2 (Nat.pos_of_ne_zero hpos)
  rw [UInt64.toNat_sub_of_le w 1 hle]
  show w.toNat - 1 + 1 = w.toNat
  omega

/-- The letters of a word counted from one, the last of them first, before other letters. -/
def spellWord (w : UInt64) (cs : List Char) : List Char :=
  if w = 0 then cs else spellWord ((w - 1) / 26) (letter ((w - 1) % 26).toNat :: cs)
termination_by w.toNat
decreasing_by
  rename_i hw
  have hpred := toNat_sub_one hw
  rw [UInt64.toNat_div]
  show (w - 1).toNat / 26 < w.toNat
  omega

def lettersOfWord (w : UInt64) : List Char := spellWord (w + 1) []

theorem toNat_lt_limit (w : UInt64) : w.toNat < limit := w.toNat_lt

theorem word?_eq_some {n : Nat} {w : UInt64} : word? n = some w ↔ w.toNat = n := by
  rw [word?, Option.ite_none_right_eq_some, Option.some.injEq]
  constructor
  · rintro ⟨hn, rfl⟩
    exact UInt64.toNat_ofNat_of_lt hn
  · rintro rfl
    exact ⟨toNat_lt_limit w, UInt64.ofNat_toNat⟩

theorem word?_eq_none {n : Nat} : word? n = none ↔ limit ≤ n := by
  simp [word?]

/-- Where the sum is a word, so is the product. -/
theorem pushLetter?_eq (w : UInt64) (c : Char) :
    pushLetter? w c = if isLetter c then word? (w.toNat * 26 + place c) else none := by
  unfold pushLetter?
  cases hprod : word? (w.toNat * 26) with
  | none =>
    have hsum : word? (w.toNat * 26 + place c) = none := by
      rw [word?_eq_none] at hprod ⊢
      omega
    rw [hsum]
    rfl
  | some v =>
    rw [← word?_eq_some.1 hprod]
    rfl

/-- Values only grow with each letter, so they are words on the way if they are at the end. -/
theorem foldlM_pushLetter? (w : UInt64) (cs : List Char) :
    cs.foldlM pushLetter? w = if cs.all isLetter then word? (value w.toNat cs) else none := by
  induction cs generalizing w with
  | nil => exact (word?_eq_some.2 rfl).symm
  | cons c cs ih =>
    rw [List.foldlM_cons, pushLetter?_eq, List.all_cons, value_cons]
    by_cases hc : isLetter c = true
    · rw [if_pos hc, hc, Bool.true_and]
      cases hword : word? (w.toNat * 26 + place c) with
      | some v =>
        rw [← word?_eq_some.1 hword]
        exact ih v
      | none =>
        have hle := le_value (w.toNat * 26 + place c) cs
        have hrest := word?_eq_none.2 (Nat.le_trans (word?_eq_none.1 hword) hle)
        rw [hrest, ite_self]
        rfl
    · simp [hc]

theorem map_wordOfLetters? (cs : List Char) :
    (wordOfLetters? cs).map UInt64.toNat = ofLetters? cs := by
  unfold wordOfLetters? ofLetters?
  rw [foldlM_pushLetter?]
  by_cases hcs : cs = []
  · simp [hcs]
  by_cases hall : cs.all isLetter = true
  · rw [if_neg hcs, if_pos hall, if_neg (by simp [hcs, hall])]
    show ((word? (value 0 cs)).map (· - 1)).map UInt64.toNat =
      if value 0 cs < limit then some (value 0 cs - 1) else none
    cases hword : word? (value 0 cs) with
    | none =>
      rw [if_neg (Nat.not_lt.2 (word?_eq_none.1 hword))]
      rfl
    | some v =>
      have hvalue := word?_eq_some.1 hword
      have hv : v ≠ 0 := by
        rintro rfl
        exact absurd hvalue (Nat.ne_of_lt (value_pos hcs))
      rw [← hvalue, if_pos (toNat_lt_limit v), ← toNat_sub_one hv]
      rfl
  · simp [hall]

theorem spellWord_eq (w : UInt64) (cs : List Char) : spellWord w cs = spell w.toNat ++ cs := by
  fun_induction spellWord w cs with
  | case1 cs => rw [UInt64.toNat_zero, spell, List.nil_append]
  | case2 w cs hw ih =>
    rw [ih, ← toNat_sub_one hw, spell, UInt64.toNat_div, UInt64.toNat_mod, List.append_assoc]
    rfl

/-- Words name the columns below their greatest number as unbounded numbers do. -/
theorem lettersOfWord_ofNat {n : Nat} (h : n < limit - 1) :
    lettersOfWord (UInt64.ofNat n) = letters n := by
  have hlt : n + 1 < limit := Nat.add_lt_of_lt_sub h
  have hword : (UInt64.ofNat n).toNat = n :=
    UInt64.toNat_ofNat_of_lt (Nat.lt_of_succ_lt hlt)
  have hnext : (UInt64.ofNat n + 1).toNat = n + 1 := by
    rw [UInt64.toNat_add, hword]
    exact Nat.mod_eq_of_lt hlt
  rw [lettersOfWord, spellWord_eq, hnext, spell_succ, List.append_nil]

/-! ### The order of names -/

variable {xs ys : List Char}

theorem value_lt_value {a b : Nat} (hab : a < b)
    (hlen : xs.length = ys.length) (hxs : ∀ c ∈ xs, isLetter c = true) :
    value a xs < value b ys := by
  induction xs generalizing a b ys with
  | nil =>
    obtain rfl := List.length_eq_zero_iff.1 hlen.symm
    exact hab
  | cons x xs ih =>
    obtain ⟨y, ys, rfl⟩ := List.exists_cons_of_length_eq_add_one hlen.symm
    obtain ⟨d, hd, rfl⟩ := exists_letter (hxs x List.mem_cons_self)
    have hy := place_pos y
    have hstep : a * 26 + place (letter d) < b * 26 + place y := by
      rw [place_letter d hd]
      omega
    rw [value_cons, value_cons]
    exact ih hstep (Nat.succ.inj hlen) fun c hc => hxs c (List.mem_cons_of_mem _ hc)

theorem place_lt_place {a b : Char} (ha : isLetter a = true) (h : a < b) : place a < place b := by
  have hlo := (isLetter_iff.1 ha).1
  have hab : a.toNat < b.toNat := h
  unfold place
  omega

theorem value_lt_of_lex (h : List.Lex (· < ·) xs ys) (acc : Nat)
    (hlen : xs.length = ys.length) (hxs : ∀ c ∈ xs, isLetter c = true) :
    value acc xs < value acc ys := by
  induction h generalizing acc with
  | nil => cases hlen
  | @cons x xs ys h ih =>
    rw [value_cons, value_cons]
    exact ih _ (Nat.succ.inj hlen) fun c hc => hxs c (List.mem_cons_of_mem _ hc)
  | @rel x xs y ys hxy =>
    have hplace := place_lt_place (hxs x List.mem_cons_self) hxy
    have hrest : ∀ c ∈ xs, isLetter c = true := fun c hc => hxs c (List.mem_cons_of_mem _ hc)
    rw [value_cons, value_cons]
    exact value_lt_value (Nat.add_lt_add_left hplace _) (Nat.succ.inj hlen) hrest

theorem value_lt_of_shortlex (h : List.Shortlex (· < ·) xs ys)
    (hxs : ∀ c ∈ xs, isLetter c = true) : value 0 xs < value 0 ys := by
  obtain hlen | ⟨hlen, hlex⟩ := List.shortlex_def.1 h
  · -- The longer name has letters in front of as many, which are worth more than nothing.
    have hfront : ys.take (ys.length - xs.length) ≠ [] := by
      rw [ne_eq, ← List.length_eq_zero_iff, List.length_take]
      omega
    have hback : xs.length = (ys.drop (ys.length - xs.length)).length := by
      rw [List.length_drop]
      omega
    rw [← List.take_append_drop (ys.length - xs.length) ys, value_append]
    exact value_lt_value (value_pos hfront) hback hxs
  · exact value_lt_of_lex hlex 0 hlen hxs

/-- Columns are in the order of their names, shorter names first. -/
theorem lt_iff_shortlex {m n : Nat} : m < n ↔ List.Shortlex (· < ·) (letters m) (letters n) := by
  have hlt {m n : Nat} (h : List.Shortlex (· < ·) (letters m) (letters n)) : m < n := by
    have hvalue := value_lt_of_shortlex h fun c => isLetter_of_mem_letters
    rw [value_letters, value_letters] at hvalue
    exact Nat.lt_of_succ_lt_succ hvalue
  refine ⟨fun h => ?_, hlt⟩
  obtain hless | heq | hmore := trichotomous_of (List.Shortlex (· < ·)) (letters m) (letters n)
  · exact hless
  · have hvalue := congrArg (value 0) heq
    rw [value_letters, value_letters] at hvalue
    omega
  · exact absurd (hlt hmore) (Nat.lt_asymm h)

/-- The name of every column below the greatest number of 64 bits is letters that are
read as this column. Letters are read as a column that has them as its name if their
value, as digits of base 26, is at most that number, and refused if it is more. Words
that check each step name and read the same columns. One column is before another
exactly if its name is shorter, or of the same length and alphabetically before. -/
theorem letters_numbering :
    (∀ n < limit - 1, letters n ≠ [] ∧ (∀ c ∈ letters n, isLetter c = true) ∧
      ofLetters? (letters n) = some n ∧ lettersOfWord (UInt64.ofNat n) = letters n) ∧
    (∀ cs, cs ≠ [] → (∀ c ∈ cs, isLetter c = true) →
      (Nat.ofDigits 26 (cs.reverse.map place) ≤ limit - 1 →
        ∃ n < limit - 1, ofLetters? cs = some n ∧ letters n = cs) ∧
      (limit - 1 < Nat.ofDigits 26 (cs.reverse.map place) → ofLetters? cs = none)) ∧
    (∀ cs, (wordOfLetters? cs).map UInt64.toNat = ofLetters? cs) ∧
    ∀ m n, m < n ↔ (letters m).length < (letters n).length ∨
      (letters m).length = (letters n).length ∧ letters m < letters n := by
  refine ⟨fun n hn => ?_, fun cs hcs hall => ?_, map_wordOfLetters?, fun m n => ?_⟩
  · exact ⟨letters_ne_nil n, fun _ => isLetter_of_mem_letters, ofLetters?_letters hn,
      lettersOfWord_ofNat hn⟩
  · rw [← value_zero_eq]
    exact ⟨exists_letters_eq hcs hall, ofLetters?_eq_none⟩
  · exact lt_iff_shortlex.trans List.shortlex_def

theorem letters_numbering_lastColumn :
    limit - 2 < limit - 1 ∧ letters (limit - 2) = "GKGWBYLWRXTLPO".toList ∧
      lettersOfWord (UInt64.ofNat (limit - 2)) = "GKGWBYLWRXTLPO".toList ∧
      ofLetters? "GKGWBYLWRXTLPP".toList = none := by
  have hlast : limit - 2 < limit - 1 := by decide
  have hwithin : Nat.ofDigits 26 ("GKGWBYLWRXTLPO".toList.reverse.map place) ≤ limit - 1 := by
    rw [← value_zero_eq]
    decide
  have hbeyond : limit - 1 < Nat.ofDigits 26 ("GKGWBYLWRXTLPP".toList.reverse.map place) := by
    rw [← value_zero_eq]
    decide
  have hvalue : ofLetters? "GKGWBYLWRXTLPO".toList = some (limit - 2) := by decide
  obtain ⟨hname, hread, -, -⟩ := letters_numbering
  obtain ⟨n, -, hn, hletters⟩ :=
    (hread "GKGWBYLWRXTLPO".toList (by decide) (List.all_eq_true.1 (by decide))).1 hwithin
  obtain rfl : n = limit - 2 := Option.some.inj (hn.symm.trans hvalue)
  have hnone :=
    (hread "GKGWBYLWRXTLPP".toList (by decide) (List.all_eq_true.1 (by decide))).2 hbeyond
  obtain ⟨-, -, -, hword⟩ := hname (limit - 2) hlast
  exact ⟨hlast, hletters, hword.trans hletters, hnone⟩

end SheetExport.A1.Column
