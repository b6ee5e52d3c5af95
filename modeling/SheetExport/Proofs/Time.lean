import Mathlib.Algebra.Group.Nat.Defs
import SheetExport.Time

/-!
# Dates, instants and their texts

Day numbers have dates, arithmetic on instants stays among those with a date, and the
text of such an instant is read as that instant.
-/

/-!
## Dates and day numbers

The date of a day number exists and has that number. A day of a cycle of 400
years is found by its century, its four years in the century, its year of the
four and its day of the year.
-/

namespace SheetExport.Time.Date

/-- The place of a day in a cycle: century, four years, year and day, each
counted from nought. Only the last year of four has a day 365, and the last
of a century only in the last century. -/
structure InCycle (doc c q p u : Int) : Prop where
  century : 0 ≤ c ∧ c ≤ 3
  quad : 0 ≤ q ∧ q ≤ 24
  year : 0 ≤ p ∧ p ≤ 3
  day : 0 ≤ u ∧ u ≤ 365
  leap : u = 365 → p = 3 ∧ (q = 24 → c = 3)
  eq : doc = 36524 * c + 1461 * q + 365 * p + u

variable {doc c q p u : Int}

theorem exists_inCycle (h0 : 0 ≤ doc) (h1 : doc < 146097) : ∃ c q p u, InCycle doc c q p u := by
  obtain ⟨c, r, hc, hr, hcr, heq⟩ : ∃ c r : Int, (0 ≤ c ∧ c ≤ 3) ∧ (0 ≤ r ∧ r ≤ 36524) ∧
      (r = 36524 → c = 3) ∧ doc = 36524 * c + r :=
    ⟨min (doc / 36524) 3, doc - 36524 * min (doc / 36524) 3, by omega, by omega, by omega, by omega⟩
  obtain ⟨q, t, hq, ht, hqt, rfl⟩ : ∃ q t : Int, (0 ≤ q ∧ q ≤ 24) ∧ (0 ≤ t ∧ t ≤ 1460) ∧
      (t = 1460 → q = 24 → c = 3) ∧ r = 1461 * q + t :=
    ⟨r / 1461, r % 1461, by omega, by omega, by omega, by omega⟩
  obtain ⟨p, u, hp, hu, hpu, rfl⟩ : ∃ p u : Int, (0 ≤ p ∧ p ≤ 3) ∧ (0 ≤ u ∧ u ≤ 365) ∧
      (u = 365 → p = 3) ∧ t = 365 * p + u :=
    ⟨min (t / 365) 3, t - 365 * min (t / 365) 3, by omega, by omega, by omega, by omega⟩
  exact ⟨c, q, p, u, hc, hq, hp, hu, by omega, by omega⟩

theorem InCycle.year_eq (h : InCycle doc c q p u) :
    (doc - doc / 1460 + doc / 36524 - doc / 146096) / 365 = 100 * c + 4 * q + p := by
  obtain ⟨hc, hq, hp, hu, hl, heq⟩ := h
  have hfour : doc / 1460 = 25 * c + q + (24 * c + q + 365 * p + u) / 1460 := by omega
  have hcentury : doc / 36524 - doc / 146096 = c := by
    rcases (show doc < 36524 * (c + 1) ∨ (c = 3 ∧ doc = 146096) by omega) with h | ⟨rfl, rfl⟩
    · have h1 : doc / 36524 = c := by omega
      have h2 : doc / 146096 = 0 := by omega
      rw [h1, h2, Int.sub_zero]
    · rfl
  -- the quotient by 1460 runs ahead only at the end of four years
  have hahead : (24 * c + q + 365 * p + u) / 1460 = 0 ∨
      (24 * c + q + 365 * p + u) / 1460 = 1 ∧ p = 3 := by omega
  rcases hahead with h | h <;> omega

theorem InCycle.day_eq (h : InCycle doc c q p u) {y : Int} (hy : y = 100 * c + 4 * q + p) :
    doc - (365 * y + y / 4 - y / 100) = u := by
  obtain ⟨hc, hq, hp, -, -, heq⟩ := h
  have hfour : y / 4 = 25 * c + q := by omega
  have hcentury : y / 100 = c := by omega
  rw [hfour, hcentury]
  omega

/-- A day of a year that begins in March falls into one of its months. -/
theorem month_of_day (h0 : 0 ≤ u) (h1 : u ≤ 365) {m : Int} (hm : m = (5 * u + 2) / 153) :
    0 ≤ m ∧ m ≤ 11 ∧ daysBefore m ≤ u ∧ u - daysBefore m ≤ 30 ∧
      (m = 1 ∨ m = 3 ∨ m = 6 ∨ m = 8 → u - daysBefore m ≤ 29) ∧
      (m = 11 → u - daysBefore m ≤ 28 ∧ (u - daysBefore m = 28 → u = 365)) := by
  have hlo : 0 ≤ m := by omega
  have hhi : m ≤ 11 := by omega
  unfold daysBefore
  refine ⟨hlo, hhi, by omega, by omega, ?_, ?_⟩
  · rintro (rfl | rfl | rfl | rfl) <;> omega
  · rintro rfl
    omega

/-- What a day number is a number of: a place in a cycle and a month. -/
theorem ofDayNumber_eq (n : Int) : ∃ k doc c q p u m : Int, InCycle doc c q p u ∧
    n = cycleDays * k + doc - epochOffset ∧ m = (5 * u + 2) / 153 ∧
    ofDayNumber n =
      ⟨100 * c + 4 * q + p + k * 400 + (if m < 10 then 0 else 1),
        (if m < 10 then m + 3 else m - 9).toNat, (u - daysBefore m + 1).toNat⟩ := by
  have h0 : 0 ≤ (n + epochOffset) % cycleDays := Int.emod_nonneg _ (by decide)
  have h1 : (n + epochOffset) % cycleDays < 146097 := Int.emod_lt_of_pos _ (by decide)
  obtain ⟨c, q, p, u, h⟩ := exists_inCycle h0 h1
  have hsplit := Int.mul_ediv_add_emod (n + epochOffset) cycleDays
  refine ⟨(n + epochOffset) / cycleDays, _, c, q, p, u, _, h, by omega, rfl, ?_⟩
  obtain ⟨hlo, hhi, -⟩ := month_of_day h.day.1 h.day.2 rfl
  simp only [ofDayNumber, h.year_eq, h.day_eq rfl]
  congr 2
  split <;> split <;> omega

/-- The year after the last of four is a leap year, after the last of a century
only when that is the last century. -/
theorem InCycle.isLeapYear (h : InCycle doc c q p u) (hu : u = 365) (k : Int) :
    isLeapYear (100 * c + 4 * q + p + k * 400 + 1) = true := by
  obtain ⟨hc, hq, -, -, hl, -⟩ := h
  obtain ⟨rfl, hlast⟩ := hl hu
  simp only [Time.isLeapYear, Bool.and_eq_true, Bool.or_eq_true, beq_iff_eq, bne_iff_ne]
  exact ⟨by omega, by omega⟩

theorem valid_ofDayNumber (n : Int) : (ofDayNumber n).valid = true := by
  obtain ⟨k, doc, c, q, p, u, m, h, -, hm, hdate⟩ := ofDayNumber_eq n
  obtain ⟨hlo, hhi, hday, hlong, hshort, hfeb⟩ := month_of_day h.day.1 h.day.2 hm
  rw [hdate]
  simp only [valid, daysInMonth, Bool.and_eq_true, decide_eq_true_eq]
  refine ⟨⟨⟨by split <;> omega, by split <;> omega⟩, by omega⟩, ?_⟩
  by_cases h11 : m = 11
  · -- the month before March has its leap day in leap years only
    have hnext : ¬m < 10 := by omega
    have hmonth : (m - 9).toNat = 2 := by omega
    simp only [if_neg hnext, hmonth, if_true]
    split
    · omega
    · next hleap =>
      have hne : u ≠ 365 := fun hu => hleap (h.isLeapYear hu k)
      omega
  · have hmonth : (if m < 10 then m + 3 else m - 9).toNat ≠ 2 := by split <;> omega
    have hmonths : ∀ i : Nat, (if m < 10 then m + 3 else m - 9).toNat = i →
        i = 4 ∨ i = 6 ∨ i = 9 ∨ i = 11 → m = 1 ∨ m = 3 ∨ m = 6 ∨ m = 8 := by
      intro i hi
      split at hi <;> omega
    rw [if_neg hmonth]
    generalize (if m < 10 then m + 3 else m - 9).toNat = i at hmonths ⊢
    by_cases hi : i = 4 ∨ i = 6 ∨ i = 9 ∨ i = 11
    · have := hshort (hmonths i rfl hi)
      rw [if_pos hi]
      omega
    · rw [if_neg hi]
      omega

theorem bounds_of_valid {d : Date} (h : d.valid = true) :
    (1 ≤ d.month ∧ d.month ≤ 12) ∧ 1 ≤ d.day ∧ d.day ≤ 31 := by
  simp only [valid, Bool.and_eq_true, decide_eq_true_eq] at h
  obtain ⟨⟨hm, hd⟩, hd'⟩ := h
  have h31 : daysInMonth d.year d.month ≤ 31 := by
    unfold daysInMonth
    split
    · split <;> decide
    · split <;> decide
  exact ⟨hm, hd, Nat.le_trans hd' h31⟩

/-- The date of a day number has that number. -/
theorem dayNumber_ofDayNumber (n : Int) : (ofDayNumber n).dayNumber = n := by
  obtain ⟨k, doc, c, q, p, u, m, h, hn, hm, hdate⟩ := ofDayNumber_eq n
  obtain ⟨hlo, hhi, hday, -⟩ := month_of_day h.day.1 h.day.2 hm
  obtain ⟨hc, hq, hp, -, -, heq⟩ := h
  have hday' : ((u - daysBefore m + 1).toNat : Int) = u - daysBefore m + 1 := by omega
  have hcycle : (100 * c + 4 * q + p + k * 400) / 400 = k := by omega
  have hrest : (100 * c + 4 * q + p + k * 400) % 400 = 100 * c + 4 * q + p := by omega
  have hfour : (100 * c + 4 * q + p) / 4 = 25 * c + q := by omega
  have hcentury : (100 * c + 4 * q + p) / 100 = c := by omega
  rw [hdate]
  by_cases h10 : m < 10
  · have hmonth : ¬(m + 3).toNat ≤ 2 := by omega
    have hm' : ((m + 3).toNat : Int) - 3 = m := by omega
    simp only [dayNumber, h10, if_true, hmonth, if_false, hm', hday', Int.add_zero, hcycle, hrest,
      hfour, hcentury, hn, cycleDays]
    omega
  · -- January and February belong to the March year before
    have hmonth : (m - 9).toNat ≤ 2 := by omega
    have hm' : ((m - 9).toNat : Int) + 9 = m := by omega
    simp only [dayNumber, h10, if_true, hmonth, if_false, hm', hday', Int.add_sub_cancel, hcycle,
      hrest, hfour, hcentury, hn, cycleDays]
    omega

theorem natAbs_year_ofDayNumber {n : Int} (h : n.natAbs ≤ 100000000) :
    (ofDayNumber n).year.natAbs ≤ 1000000 := by
  obtain ⟨k, doc, c, q, p, u, m, ⟨hc, hq, hp, hu, -, heq⟩, hn, -, hdate⟩ := ofDayNumber_eq n
  rw [hdate]
  simp only [cycleDays, epochOffset] at hn
  have hk : -700 ≤ k ∧ k ≤ 700 := by omega
  simp only
  split <;> omega

end SheetExport.Time.Date

/-!
## Instants with a date

An instant is representable if its second has a date and its fraction fits into
that second, or into the leap second after the last of a minute. Clocks show
representable instants, and arithmetic gives nothing else.
-/

namespace SheetExport.Time.Instant

variable {t u : Instant} {s : Int}

/-- An instant that a clock can show and a timestamp can write. -/
structure Representable (t : Instant) : Prop where
  inRange : inRange t.seconds = true
  nanos : t.nanos < nanosPerSecond ∨ t.nanos < 2 * nanosPerSecond ∧ t.seconds % 60 = 59

instance (t : Instant) : Decidable t.Representable :=
  decidable_of_iff (Instant.inRange t.seconds = true ∧ (t.nanos < nanosPerSecond ∨
      t.nanos < 2 * nanosPerSecond ∧ t.seconds % 60 = 59))
    ⟨fun h => ⟨h.1, h.2⟩, fun h => ⟨h.1, h.2⟩⟩

theorem inRange_iff : inRange s = true ↔ first ≤ s ∧ s ≤ last := by
  simp [inRange]

theorem Representable.leap (ht : t.Representable) (h : t.inLeap = true) :
    nanosPerSecond ≤ t.nanos ∧ t.nanos < 2 * nanosPerSecond ∧ t.seconds % 60 = 59 := by
  have hle : nanosPerSecond ≤ t.nanos := by simpa [inLeap] using h
  rcases ht.nanos with hn | hn
  · omega
  · exact ⟨hle, hn⟩

theorem add?_eq_some (h : t.add? s = some u) :
    inRange u.seconds = true ∧
      (t.inLeap = true ∧ s ≠ 0 ∧ u.seconds = t.seconds + s + (if s < 0 then 1 else 0) ∧
          u.nanos = t.nanos - nanosPerSecond ∨
        (t.inLeap = false ∨ s = 0) ∧ u.seconds = t.seconds + s ∧ u.nanos = t.nanos) := by
  simp only [add?, Option.ite_none_right_eq_some, Option.some.injEq] at h
  obtain ⟨hr, rfl⟩ := h
  by_cases hl : t.inLeap = true ∧ s ≠ 0
  · exact ⟨hr, .inl ⟨hl.1, hl.2, by simp [hl.1, hl.2], by simp [hl.1, hl.2]⟩⟩
  · have hl' : t.inLeap = false ∨ s = 0 := by
      simpa only [Decidable.not_and_iff_or_not, Bool.not_eq_true, ne_eq, Decidable.not_not] using hl
    refine ⟨hr, .inr ⟨hl', ?_, ?_⟩⟩ <;> rcases hl' with h | h <;> simp [h]

theorem add?_isSome (ht : inRange t.seconds = true) (hfirst : first ≤ t.seconds + s)
    (hlast : t.seconds + s ≤ last) : (t.add? s).isSome = true := by
  rw [inRange_iff] at ht
  have hin : inRange (if t.inLeap && s != 0 then (⟨t.seconds + s + (if s < 0 then 1 else 0),
      t.nanos - nanosPerSecond⟩ : Instant) else ⟨t.seconds + s, t.nanos⟩).seconds = true := by
    rw [inRange_iff]
    split <;> dsimp only
    · split <;> omega
    · omega
  simp only [add?, hin, if_true, Option.isSome_some]

/-- Arithmetic leads from one representable instant to another. -/
theorem Representable.add? (ht : t.Representable) (h : t.add? s = some u) : u.Representable := by
  obtain ⟨hr, ⟨-, -, -, hn⟩ | ⟨hl, hs, hn⟩⟩ := add?_eq_some h
  · refine ⟨hr, .inl ?_⟩
    have := ht.nanos
    simp only [nanosPerSecond] at this hn ⊢
    omega
  · refine ⟨hr, ?_⟩
    rw [hn, hs]
    rcases hl with hl | rfl
    · simp only [inLeap, decide_eq_false_iff_not] at hl
      exact .inl (by omega)
    · simpa using ht.nanos

theorem le_eq_false : t.le u = false ↔
    u.seconds < t.seconds ∨ u.seconds = t.seconds ∧ u.nanos < t.nanos := by
  simp only [le, Bool.or_eq_false_iff, decide_eq_false_iff_not, Bool.and_eq_false_iff,
    beq_eq_false_iff_ne]
  omega

/-- Some seconds later and a margin earlier is still later than now exactly when
the seconds are more than the margin. -/
theorem add?_margin (ht : t.Representable) {e margin : Nat} (hm : margin ≠ 0)
    (h : t.add? e = some u) :
    (u.add? (-(margin : Int))).map (fun limit => limit.le t) = some false ↔ margin < e := by
  obtain ⟨hr, hu⟩ := add?_eq_some h
  have htr := inRange_iff.1 ht.inRange
  rw [inRange_iff] at hr
  have hseconds : u.seconds = t.seconds + e ∧ u.nanos ≤ t.nanos := by
    rcases hu with ⟨-, -, hs, hn⟩ | ⟨-, hs, hn⟩
    · rw [if_neg (by omega)] at hs
      omega
    · omega
  by_cases hl : u.inLeap = true
  · -- nothing but a step of no seconds stays in a leap second
    have he : e = 0 := by
      have hle : nanosPerSecond ≤ u.nanos := by simpa [inLeap] using hl
      rcases hu with ⟨-, -, -, hn⟩ | ⟨hz | hz, -, hn⟩
      · have := ht.nanos
        omega
      · simp only [inLeap, decide_eq_false_iff_not, ← hn] at hz
        exact absurd hle hz
      · omega
    cases hv : u.add? (-(margin : Int)) with
    | none => simp [he]
    | some v =>
      obtain ⟨-, ⟨-, -, hs, hn⟩ | ⟨hz, -, -⟩⟩ := add?_eq_some hv
      · rw [if_pos (by omega)] at hs
        simp only [Option.map_some, Option.some.injEq, le_eq_false]
        omega
      · rcases hz with hz | hz
        · exact absurd (hl.symm.trans hz) (by decide)
        · omega
  · rw [add?_of_not_inLeap (by simpa using hl)]
    by_cases hin : inRange (u.seconds + -(margin : Int)) = true
    · rw [if_pos hin]
      simp only [Option.map_some, Option.some.injEq, le_eq_false]
      omega
    · rw [if_neg hin]
      rw [inRange_iff] at hin
      simp only [Option.map_none, reduceCtorEq, false_iff]
      omega

/-! ### Instants on a line -/

/-- The nanoseconds since 1970. -/
def sinceEpoch (t : Instant) : Int := t.seconds * nanosPerSecond + t.nanos

/-- Outside leap seconds the order is that of the nanoseconds. -/
theorem le_iff_sinceEpoch (ht : t.inLeap = false) (hu : u.inLeap = false) :
    t.le u = true ↔ t.sinceEpoch ≤ u.sinceEpoch := by
  simp only [inLeap, decide_eq_false_iff_not] at ht hu
  simp only [le, sinceEpoch, Bool.or_eq_true, Bool.and_eq_true, beq_iff_eq, decide_eq_true_eq]
  simp only [nanosPerSecond] at ht hu ⊢
  omega

theorem le_trans {v : Instant} (h : t.le u = true) (h' : u.le v = true) : t.le v = true := by
  simp only [le, Bool.or_eq_true, Bool.and_eq_true, beq_iff_eq, decide_eq_true_eq] at h h' ⊢
  omega

end SheetExport.Time.Instant

/-!
## Timestamps that were written

The text of a representable instant is read as that instant, leap seconds and
years beyond four digits included: `parse_chars`. Each part of the text is read
back and leaves the parts after it.
-/

namespace SheetExport.Time.Timestamp

variable {cs ds rest : List Char} {c : Char} {w n : Nat}

/-! ### Digits -/

theorem isDigit_of_mem_padded (h : c ∈ padded w n) : c.isDigit = true := by
  simp only [padded, List.mem_append, List.mem_replicate] at h
  rcases h with ⟨-, rfl⟩ | h
  · rfl
  · exact Nat.isDigit_of_mem_toDigits (by decide) (by decide) h

theorem padded_ne_nil (w n : Nat) : padded w n ≠ [] := by
  simp [padded]

theorem exists_padded (w n : Nat) : ∃ c ds, padded w n = c :: ds ∧ c.isDigit = true := by
  cases h : padded w n with
  | nil => exact absurd h (padded_ne_nil w n)
  | cons c ds =>
    have hc : c ∈ padded w n := by simp [h]
    exact ⟨c, ds, rfl, isDigit_of_mem_padded hc⟩

theorem length_padded (hw : 0 < w) (h : n < 10 ^ w) : (padded w n).length = w := by
  have := (Nat.length_toDigits_le_iff (b := 10) (by decide) hw).2 h
  simp [padded]
  omega

theorem digitsValue_eq (ds : List Char) : digitsValue ds = Nat.ofDigitChars 10 ds 0 := by
  simp only [digitsValue, Nat.ofDigitChars, Nat.mul_comm]

theorem digitsValue_padded (w n : Nat) : digitsValue (padded w n) = n := by
  rw [digitsValue_eq, padded, Nat.ofDigitChars_append]
  simp

def NoDigit (rest : List Char) : Prop := ∀ c ∈ rest.head?, c.isDigit = false

theorem takeWhile_isDigit (h : ∀ c ∈ ds, c.isDigit = true) (hr : NoDigit rest) :
    (ds ++ rest).takeWhile Char.isDigit = ds := by
  rw [List.takeWhile_append_of_pos h]
  cases rest with
  | nil => simp
  | cons c rest => simp [hr c rfl]

/-- Digits are read up to the most that are wanted or to something else. -/
theorem digits_append {most : Nat} (h : ∀ c ∈ ds, c.isDigit = true) (hne : ds ≠ [])
    (hl : ds.length = most ∨ ds.length ≤ most ∧ NoDigit rest) :
    digits most (ds ++ rest) = .ok (ds, rest) := by
  have htake : ((ds ++ rest).take most).takeWhile Char.isDigit = ds := by
    rcases hl with rfl | ⟨hl, hr⟩
    · have hend : NoDigit [] := by simp [NoDigit]
      simpa using takeWhile_isDigit h hend
    · rw [List.take_append, List.take_of_length_le hl]
      refine takeWhile_isDigit h fun c hc => hr c ?_
      cases rest with
      | nil => simp at hc
      | cons d rest =>
        cases hk : most - ds.length with
        | zero => simp [hk] at hc
        | succ k => simpa [hk] using hc
  rw [digits, htake]
  cases ds with
  | nil => exact absurd rfl hne
  | cons d ds => simp

theorem dropBlanks_padded : Text.dropBlanks (padded w n ++ rest) = padded w n ++ rest := by
  obtain ⟨c, ds, h, hc⟩ := exists_padded w n
  rw [h]
  exact Text.dropBlanks_cons (Text.isBlank_of_isDigit hc)

/-! ### Parts -/

theorem number_padded {lo hi : Nat} (hn : n < 100) (hlo : lo ≤ n) (hhi : n ≤ hi) :
    number lo hi (padded 2 n ++ rest) = .ok (n, rest) := by
  have hds : digits 2 (padded 2 n ++ rest) = .ok (padded 2 n, rest) :=
    digits_append (fun _ => isDigit_of_mem_padded) (padded_ne_nil 2 n)
      (.inl (length_padded (by decide) hn))
  simp [number, dropBlanks_padded, hds, digitsValue_padded, hlo, hhi, bind, Except.bind, pure,
    Except.pure]

theorem mark_cons (h : Text.isBlank c = false) : mark c (c :: rest) = .ok rest := by
  simp [mark, Text.dropBlanks_cons h]

theorem digits_year (n : Nat) (hr : NoDigit rest) :
    digits (padded 4 n ++ rest).length (padded 4 n ++ rest) = .ok (padded 4 n, rest) :=
  digits_append (fun _ => isDigit_of_mem_padded) (padded_ne_nil 4 n) (.inr ⟨by simp, hr⟩)

theorem year_yearText {y : Int} (hy : y.natAbs ≤ 1000000) (hr : NoDigit rest) :
    year (yearText y ++ rest) = .ok (y, rest) := by
  have hlo : -2147483648 ≤ y := by omega
  have hhi : y ≤ 2147483647 := by omega
  unfold yearText
  split
  · next h =>
    simp only [Bool.and_eq_true, decide_eq_true_eq] at h
    have hds : digits 4 (padded 4 y.toNat ++ rest) = .ok (padded 4 y.toNat, rest) :=
      digits_append (fun _ => isDigit_of_mem_padded) (padded_ne_nil 4 y.toNat)
        (.inl (length_padded (by decide) (by omega)))
    have hy' : ((y.toNat : Nat) : Int) = y := by omega
    obtain ⟨c, ds, hcons, hc⟩ := exists_padded 4 y.toNat
    unfold year
    rw [dropBlanks_padded]
    -- a digit is no sign
    split
    · next h =>
      rw [hcons] at h
      cases h
      cases hc
    · next h =>
      rw [hcons] at h
      cases h
      cases hc
    · simp [hds, digitsValue_padded, hy', hlo, hhi, bind, Except.bind, pure, Except.pure]
  split
  · have hm : Text.isBlank '-' = false := by decide
    have hy' : -(y.natAbs : Int) = y := by omega
    simp only [year, List.cons_append, Text.dropBlanks_cons hm, digits_year _ hr,
      digitsValue_padded, bind, Except.bind, pure, Except.pure, if_true, hy', hlo, hhi, and_self]
  · have hp : Text.isBlank '+' = false := by decide
    have hy' : (y.natAbs : Int) = y := by omega
    simp only [year, List.cons_append, Text.dropBlanks_cons hp, digits_year _ hr,
      digitsValue_padded, bind, Except.bind, pure, Except.pure, if_true, hy', hlo, hhi, and_self,
      Bool.false_eq_true, if_false]

theorem dropWhile_isDigit (hr : NoDigit rest) : rest.dropWhile Char.isDigit = rest := by
  cases rest with
  | nil => rfl
  | cons c rest => exact List.dropWhile_cons_of_neg (by simp [hr c rfl])

theorem fraction_padded (hw : 0 < w) (hw' : w ≤ 9) (hn : n < 10 ^ w) (hr : NoDigit rest) :
    fraction ('.' :: (padded w n ++ rest)) = .ok (n * 10 ^ (9 - w), rest) := by
  have hlen := length_padded hw hn
  have hds : digits 9 (padded w n ++ rest) = .ok (padded w n, rest) :=
    digits_append (fun _ => isDigit_of_mem_padded) (padded_ne_nil w n) (.inr ⟨by omega, hr⟩)
  simp [fraction, hds, hlen, digitsValue_padded, dropWhile_isDigit hr, bind, Except.bind, pure,
    Except.pure]

theorem fraction_fractionText (hn : n < 1000000000) (hr : NoDigit rest)
    (hdot : ∀ cs, rest ≠ '.' :: cs) : fraction (fractionText n ++ rest) = .ok (n, rest) := by
  unfold fractionText
  split
  · next h =>
    subst h
    unfold fraction
    split
    · next h => exact absurd h (hdot _)
    · rfl
  split
  · rw [List.cons_append, fraction_padded (by decide) (by decide) (by omega) hr]
    congr 2
    omega
  split
  · rw [List.cons_append, fraction_padded (by decide) (by decide) (by omega) hr]
    congr 2
    omega
  · rw [List.cons_append, fraction_padded (by decide) (by decide) (by omega) hr]
    simp

theorem offset_utc : offset ['Z'] = .ok (0, []) := rfl

/-! ### Whole timestamps -/

theorem parse_parts {y : Int} {m d hour minute second nanos : Nat} (hy : y.natAbs ≤ 1000000)
    (hm : 1 ≤ m ∧ m ≤ 12) (hd : 1 ≤ d ∧ d ≤ 31) (hhour : hour ≤ 23) (hminute : minute ≤ 59)
    (hsecond : second ≤ 60) (hn : nanos < 1000000000) :
    parse (yearText y ++ '-' :: padded 2 m ++ '-' :: padded 2 d ++
        'T' :: padded 2 hour ++ ':' :: padded 2 minute ++ ':' :: padded 2 second ++
        fractionText nanos ++ ['Z']) =
      assemble ⟨y, m, d⟩ hour minute second nanos 0 := by
  have hdash : Text.isBlank '-' = false := by decide
  have hcolon : Text.isBlank ':' = false := by decide
  have hyear : ∀ rest, year (yearText y ++ '-' :: rest) = .ok (y, '-' :: rest) :=
    fun rest => year_yearText hy (by simp [NoDigit])
  have hfraction : fraction (fractionText nanos ++ ['Z']) = .ok (nanos, ['Z']) :=
    fraction_fractionText hn (by simp [NoDigit]) (by simp)
  have hutc : Text.dropBlanks ['Z'] = ['Z'] := by decide
  have hblank : Text.dropBlanks [] = [] := rfl
  simp only [parse, List.append_assoc, List.cons_append, bind, Except.bind, hyear,
    mark_cons hdash, mark_cons hcolon, separator, Char.reduceEq, false_or, true_or, if_true,
    number_padded (by omega : m < 100) hm.1 hm.2, number_padded (by omega : d < 100) hd.1 hd.2,
    number_padded (by omega : hour < 100) (Nat.zero_le _) hhour,
    number_padded (by omega : minute < 100) (Nat.zero_le _) hminute,
    number_padded (by omega : second < 100) (Nat.zero_le _) hsecond, hfraction, hutc, offset_utc,
    hblank, ne_eq, not_true_eq_false, if_false]

/-- The second of an instant as a day and a time of day; a leap second counts as
the one that it prolongs. -/
theorem assemble_utc {t : Instant} (ht : t.Representable) {hour minute second nanos : Nat}
    (hs : (hour * 3600 + minute * 60 + (if second = 60 then 59 else second) : Int) =
      t.seconds % Instant.secondsPerDay)
    (hn : (if second = 60 then nanos + Instant.nanosPerSecond else nanos) = t.nanos) :
    assemble (.ofDayNumber (t.seconds / Instant.secondsPerDay)) hour minute second nanos 0 =
      .ok t := by
  have hday := Int.mul_ediv_add_emod t.seconds Instant.secondsPerDay
  have hsum : t.seconds / Instant.secondsPerDay * Instant.secondsPerDay +
      (hour * 3600 + minute * 60 + (if second = 60 then 59 else second)) = t.seconds := by
    rw [hs, Int.mul_comm]
    exact hday
  simp only [assemble, Date.valid_ofDayNumber, Date.dayNumber_ofDayNumber, beq_iff_eq, hsum,
    Int.sub_zero, ht.inRange, hn]
  rfl

/-- The text of an instant is read as the instant. -/
theorem parse_chars {t : Instant} (ht : t.Representable) : parse (chars t) = .ok t := by
  obtain ⟨hm, hd⟩ := Date.bounds_of_valid (Date.valid_ofDayNumber (t.seconds / 86400))
  have hr := Instant.inRange_iff.1 ht.inRange
  simp only [Instant.first, Instant.last] at hr
  have hyear := Date.natAbs_year_ofDayNumber (n := t.seconds / 86400) (by omega)
  unfold chars
  by_cases hl : t.inLeap = true
  · obtain ⟨hle, hlt, h59⟩ := ht.leap hl
    simp only [Instant.nanosPerSecond] at hle hlt
    simp only [hl, if_true, Instant.secondsPerDay, Instant.nanosPerSecond]
    rw [parse_parts hyear hm hd (by omega) (by omega) (by omega) (by omega)]
    have h60 : (t.seconds % 86400).toNat % 60 + 1 = 60 := by omega
    refine assemble_utc ht ?_ ?_
    · simp only [h60, if_true, Instant.secondsPerDay]
      omega
    · simp only [h60, if_true, Instant.nanosPerSecond]
      omega
  · have hlt : t.nanos < 1000000000 := by
      rw [Instant.inLeap, decide_eq_true_eq] at hl
      exact Nat.lt_of_not_le hl
    have hne : (t.seconds % 86400).toNat % 60 ≠ 60 := by omega
    simp only [hl, Bool.false_eq_true, if_false, Instant.secondsPerDay]
    rw [parse_parts hyear hm hd (by omega) (by omega) (by omega) hlt]
    refine assemble_utc ht ?_ ?_
    · simp only [hne, if_false, Instant.secondsPerDay]
      omega
    · simp only [hne, if_false]

end SheetExport.Time.Timestamp
