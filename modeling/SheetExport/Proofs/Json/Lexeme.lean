import SheetExport.Json.Reader

/-!
# Lexemes that were written

The text of a string, followed by anything, is read as that string; the text of
an integer is read as that integer when what follows cannot belong to a number.
`Follows` is what may stand after a value.
-/

namespace SheetExport.Json

variable {cs rest g : List Char} {c : Char}

/-! ## Gaps -/

/-- Nothing but characters that may stand between lexemes. -/
def Gaps (g : List Char) : Prop := g.all isGap = true

@[simp] theorem gaps_nil : Gaps [] := rfl

@[simp] theorem gaps_cons : Gaps (c :: g) ↔ isGap c = true ∧ Gaps g := by
  simp [Gaps]

theorem skipGaps_append (h : Gaps g) : skipGaps (g ++ cs) = skipGaps cs := by
  induction g with
  | nil => rfl
  | cons c g ih =>
    obtain ⟨hc, hg⟩ := gaps_cons.1 h
    rw [List.cons_append, skipGaps, List.dropWhile_cons_of_pos hc]
    exact ih hg

theorem skipGaps_cons (h : isGap c = false) : skipGaps (c :: cs) = c :: cs :=
  List.dropWhile_cons_of_neg (by simp [h])

/-- What may stand after a value: a gap, a comma, a closing bracket or nothing. -/
def Follows (rest : List Char) : Prop :=
  ∀ c ∈ rest.head?, isGap c = true ∨ c = ',' ∨ c = ']' ∨ c = '\x7d'

@[simp] theorem follows_nil : Follows [] := by simp [Follows]

@[simp] theorem follows_cons :
    Follows (c :: cs) ↔ isGap c = true ∨ c = ',' ∨ c = ']' ∨ c = '\x7d' := by
  simp [Follows]

theorem Follows.gaps (hg : Gaps g) (h : Follows rest) : Follows (g ++ rest) := by
  cases g with
  | nil => exact h
  | cons c g => exact follows_cons.2 (.inl (gaps_cons.1 hg).1)

/-! ## Strings -/

theorem hexUnit?_controlCode {n : Nat} (h : n < 0x20) :
    hexUnit? '0' '0' (Nat.digitChar (n / 16)) (Nat.digitChar (n % 16)) = some n := by
  have key : ∀ k : Fin 0x20,
      hexUnit? '0' '0' (Nat.digitChar (k / 16)) (Nat.digitChar (k % 16)) = some k.1 := by decide
  exact key ⟨n, h⟩

/-- The characters with an escape of one letter. -/
def shortEscaped : List Char := ['"', '\\', '\n', '\r', '\t', '\x08', '\x0c']

/-- A character is written as an escape of one letter, as its code or as itself. -/
theorem escapedChar_cases (c : Char) :
    (∃ e, escapedChar c = ['\\', e] ∧ e ≠ 'u' ∧ shortEscape? e = some c) ∨
      (escapedChar c = '\\' :: 'u' :: controlCode c ∧ c.toNat < 0x20) ∨
      (escapedChar c = [c] ∧ c ≠ '\\' ∧ c ≠ '"' ∧ ¬c.toNat < 0x20) := by
  by_cases hs : c ∈ shortEscaped
  · left
    simp only [shortEscaped, List.mem_cons, List.not_mem_nil, or_false] at hs
    rcases hs with rfl | rfl | rfl | rfl | rfl | rfl | rfl <;> exact ⟨_, rfl, by decide, rfl⟩
  · right
    simp only [shortEscaped, List.mem_cons, List.not_mem_nil, or_false, not_or] at hs
    obtain ⟨h1, h2, h3, h4, h5, h6, h7⟩ := hs
    simp only [escapedChar, h1, h2, h3, h4, h5, h6, h7, if_false]
    by_cases hc : c.toNat < 0x20
    · exact .inl ⟨if_pos hc, hc⟩
    · exact .inr ⟨if_neg hc, h2, h1, hc⟩

theorem stringBody_escapedChar (c : Char) (rest : List Char) :
    stringBody none (escapedChar c ++ rest) = consChar c (stringBody none rest) := by
  obtain ⟨e, he, hu, hs⟩ | ⟨he, hc⟩ | ⟨he, h1, h2, h3⟩ := escapedChar_cases c
  · rw [he, List.cons_append, List.singleton_append, stringBody.eq_def]
    simp [hu, hs]
  · have hlead : isLead c.toNat = false := by simp [isLead]; omega
    have htrail : isTrail c.toNat = false := by simp [isTrail]; omega
    rw [he, controlCode]
    simp [stringBody, hexUnit?_controlCode hc, hlead, htrail]
  · rw [he, List.singleton_append, stringBody.eq_def]
    simp [h1, h2, h3]

theorem stringBody_flatMap (s rest : List Char) :
    stringBody none (s.flatMap escapedChar ++ '"' :: rest) = .ok (s, rest) := by
  induction s with
  | nil => rw [List.flatMap_nil, List.nil_append, stringBody.eq_def]; simp
  | cons c s ih =>
    rw [List.flatMap_cons, List.append_assoc, stringBody_escapedChar, ih]
    rfl

theorem stringText_append (s : String) (rest : List Char) :
    stringText s ++ rest = '"' :: (s.toList.flatMap escapedChar ++ '"' :: rest) := by
  simp [stringText]

/-- The text of a string is read as the string, from after its opening quote. -/
theorem readKey_flatMap (s : String) (rest : List Char) :
    readKey (s.toList.flatMap escapedChar ++ '"' :: rest) = .ok (s, rest) := by
  simp only [readKey, stringBody_flatMap]
  simp [bind, Except.bind, pure, Except.pure]

/-! ## Numbers -/

theorem isDigit_of_mem_toDigits {n : Nat} (h : c ∈ Nat.toDigits 10 n) : c.isDigit = true :=
  Nat.isDigit_of_mem_toDigits (by decide) (by decide) h

theorem dropWhile_digits {ds : List Char} (hds : ∀ c ∈ ds, c.isDigit = true)
    (hrest : ∀ c ∈ rest.head?, c.isDigit = false) :
    (ds ++ rest).dropWhile Char.isDigit = rest := by
  rw [List.dropWhile_append_of_pos hds]
  cases rest with
  | nil => rfl
  | cons c rest => simp [hrest c rfl]

theorem exists_toDigits (n : Nat) :
    ∃ c cs, Nat.toDigits 10 n = c :: cs ∧ c.isDigit = true := by
  cases h : Nat.toDigits 10 n with
  | nil => exact absurd h Nat.toDigits_ne_nil
  | cons c cs =>
    have hc : c ∈ Nat.toDigits 10 n := by simp [h]
    exact ⟨c, cs, rfl, isDigit_of_mem_toDigits hc⟩

/-- Digits are added up while the number fits into 64 bits. -/
theorem absorb_eq {n : Nat} {ds : List Char} (h : Nat.ofDigitChars 10 ds n < UInt64.size) :
    absorb n ds = (Nat.ofDigitChars 10 ds n, 0) := by
  induction ds generalizing n with
  | nil => rfl
  | cons d ds ih =>
    rw [Nat.ofDigitChars_cons] at h ⊢
    have hle : 10 * n + (d.toNat - '0'.toNat) ≤
        Nat.ofDigitChars 10 ds (10 * n + (d.toNat - '0'.toNat)) := by
      rw [Nat.ofDigitChars_eq_ofDigitChars_zero]
      have hpow : 0 < 10 ^ ds.length := Nat.pow_pos (by decide)
      exact Nat.le_trans (Nat.le_mul_of_pos_left _ hpow) (Nat.le_add_right _ _)
    rw [absorb, Nat.mul_comm n 10]
    simp only [Nat.lt_of_le_of_lt hle h, if_true]
    exact ih h

theorem eq_nil_of_toDigits {n : Nat} {ds : List Char} (h : Nat.toDigits 10 n = '0' :: ds) :
    ds = [] := by
  induction n using Nat.strongRecOn generalizing ds with
  | _ n ih =>
    rcases Nat.lt_or_ge n 10 with hn | hn
    · rw [Nat.toDigits_of_lt_base hn] at h
      exact (List.cons.inj h).2.symm
    · rw [Nat.toDigits_of_base_le (by decide) hn] at h
      cases hd : Nat.toDigits 10 (n / 10) with
      | nil => exact absurd hd Nat.toDigits_ne_nil
      | cons d ds' =>
        rw [hd] at h
        obtain ⟨rfl, -⟩ := List.cons.inj h
        rw [ih (n / 10) (by omega) hd] at hd
        -- the number without its last digit would be zero
        have hzero : n / 10 = 0 := by
          rw [← Nat.ofDigitChars_ten_toDigits (n := n / 10), hd]
          rfl
        omega

/-- A number cannot go on with what may stand after a value. -/
theorem Follows.ends (h : Follows rest) :
    ∀ c ∈ rest.head?, c.isDigit = false ∧ c ≠ '.' ∧ c ≠ 'e' ∧ c ≠ 'E' := by
  intro c hc
  have hcases := h c hc
  simp only [isGap, Bool.or_eq_true, beq_iff_eq] at hcases
  rcases hcases with (((rfl | rfl) | rfl) | rfl) | rfl | rfl | rfl <;> decide

/-- The text of a natural number of 64 bits is read as the number, under the sign
that was before it. -/
theorem readNumber_toDigits {n : Nat} (negative : Bool) (hn : n < UInt64.size)
    (hf : Follows rest) :
    readNumber negative (Nat.toDigits 10 n ++ rest) = .ok (wholeNumber negative n, rest) := by
  have hdigits : ∀ c ∈ Nat.toDigits 10 n, c.isDigit = true := fun _ => isDigit_of_mem_toDigits
  have htake : (Nat.toDigits 10 n ++ rest).takeWhile Char.isDigit = Nat.toDigits 10 n := by
    rw [List.takeWhile_append_of_pos hdigits]
    cases rest with
    | nil => simp
    | cons c rest => simp [(hf.ends c rfl).1]
  have hdrop := dropWhile_digits hdigits fun c hc => (hf.ends c hc).1
  have habsorb : absorb 0 (Nat.toDigits 10 n) = (n, 0) := by
    rw [absorb_eq (by rwa [Nat.ofDigitChars_ten_toDigits]), Nat.ofDigitChars_ten_toDigits]
  cases hd : Nat.toDigits 10 n with
  | nil => exact absurd hd Nat.toDigits_ne_nil
  | cons d ds =>
    rw [hd] at hdigits htake hdrop habsorb
    have hzero : ¬(d = '0' ∧ (d :: ds).length ≠ 1) := by
      rintro ⟨rfl, hl⟩
      exact hl (by simp [eq_nil_of_toDigits hd])
    rw [List.cons_append] at htake hdrop ⊢
    simp only [readNumber, hdigits d List.mem_cons_self, if_true, htake, hdrop, hzero, if_false,
      habsorb]
    split
    · exact absurd rfl (hf.ends _ rfl).2.1
    · exact absurd rfl (hf.ends _ rfl).2.2.1
    · exact absurd rfl (hf.ends _ rfl).2.2.2
    · rfl

/-! ## First characters -/

/-- A character that a value can begin with. -/
def Opens (c : Char) : Prop := isGap c = false ∧ c ≠ ',' ∧ c ≠ ']'

instance : DecidablePred Opens := fun _ => inferInstanceAs (Decidable (_ ∧ _ ∧ _))

theorem opens_of_isDigit (h : c.isDigit = true) : Opens c := by
  refine ⟨?_, ?_, ?_⟩
  · simp only [isGap, Bool.or_eq_false_iff, beq_eq_false_iff_ne, ne_eq]
    refine ⟨⟨⟨?_, ?_⟩, ?_⟩, ?_⟩ <;> rintro rfl <;> cases h
  · rintro rfl; cases h
  · rintro rfl; cases h

/-- The text has a first character, with which a value can begin. -/
def Begins (cs : List Char) : Prop := ∃ c ds, cs = c :: ds ∧ Opens c

theorem Begins.append (h : Begins cs) (rest : List Char) : Begins (cs ++ rest) := by
  obtain ⟨c, ds, rfl, hc⟩ := h
  exact ⟨c, ds ++ rest, rfl, hc⟩

theorem begins_toDigits (n : Nat) : Begins (Nat.toDigits 10 n) := by
  obtain ⟨c, cs, h, hc⟩ := exists_toDigits n
  exact ⟨c, cs, h, opens_of_isDigit hc⟩

theorem begins_positional {ds : List Char} (h : Begins ds) (k : Int) (point : List Char) :
    Begins (Decimal.positional ds k point) := by
  unfold Decimal.positional
  split
  · exact (h.append _).append _
  split
  · next hk =>
    obtain ⟨c, ds, rfl, hc⟩ := h
    obtain ⟨m, hm⟩ : ∃ m, k.toNat = m + 1 := ⟨k.toNat - 1, by omega⟩
    rw [hm]
    exact ⟨c, _, rfl, hc⟩
  · exact ⟨'0', _, rfl, by decide⟩

theorem begins_floatText (x : Float) : Begins (floatText x).toList := by
  have hd := begins_toDigits (Decimal.shortest x).coeff
  simp only [floatText, Decimal.scaled, String.toList_ofList, Decimal.sign]
  split
  · exact ⟨'-', _, rfl, by decide⟩
  · rw [List.nil_append]
    split
    · exact begins_positional hd _ _
    · refine Begins.append ?_ _
      obtain ⟨c, ds, h, hc⟩ := hd
      rw [Decimal.digits, h]
      cases ds <;> exact ⟨c, _, rfl, hc⟩

theorem begins_number (n : Number) : Begins n.text.toList := by
  cases n with
  | int i =>
    simp only [Number.text, intText, Int.toString_eq_repr, Int.repr_eq_if]
    split
    · rw [Nat.toList_repr]
      exact begins_toDigits _
    · exact ⟨'-', _, String.toList_append, by decide⟩
  | float x =>
    simp only [Number.text]
    split
    · exact begins_floatText x
    · exact ⟨'n', _, rfl, by decide⟩

end SheetExport.Json
