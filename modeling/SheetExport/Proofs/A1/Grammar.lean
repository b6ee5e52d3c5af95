import Mathlib
import SheetExport.A1.Range
import SheetExport.Proofs.A1.Column
import SheetExport.Proofs.Text

/-!
# The grammar of ranges

Which texts write a range, and which others are read as one since their upper-case form
does.
-/

/-!
## Upper-casing

Outside `folded`, upper-casing is that of ASCII letters, character by character.
The characters in it are no ASCII letters but become some. Upper case has no
lower-case letter left, and a text may be cut at a sign before it or after it.
-/

namespace SheetExport.Text

/-- The characters that are no ASCII letters but whose upper-case form is made
of them. -/
def folded : List Char := ['ß', 'ı', 'ſ', 'ﬀ', 'ﬁ', 'ﬂ', 'ﬃ', 'ﬄ', 'ﬅ', 'ﬆ']

theorem isUpper_of_folded : ∀ c ∈ folded, ∀ u ∈ upperChar c, u.isUpper = true := by
  simp [folded, upperChar]

theorem not_isAlpha_of_folded : ∀ c ∈ folded, c.isAlpha = false := by
  simp [folded]

theorem not_isDigit_of_folded : ∀ c ∈ folded, c.isDigit = false := by
  simp [folded]

variable {c d u : Char} {cs : List Char}

theorem upperChar_of_notMem (h : c ∉ folded) : upperChar c = [c.toUpper] := by
  by_cases hl : c.isLower = true
  · exact if_pos hl
  · unfold upperChar
    rw [if_neg (by exact hl), Char.toUpper_eq_of_not_isLower hl]
    split <;> first | rfl | exact absurd (by decide) h

theorem upper_eq_map (h : ∀ c ∈ cs, c ∉ folded) : upper cs = cs.map Char.toUpper := by
  induction cs with
  | nil => rfl
  | cons c cs ih =>
    have hc := upperChar_of_notMem (h c List.mem_cons_self)
    have hcs := ih fun d hd => h d (List.mem_cons_of_mem _ hd)
    rw [upper, List.flatMap_cons, hc, ← upper, hcs]
    rfl

theorem upper_of_forall (h : ∀ c ∈ cs, c ∉ folded ∧ c.isLower = false) : upper cs = cs := by
  have hself : ∀ c ∈ cs, c.toUpper = c := fun c hc =>
    Char.toUpper_eq_of_not_isLower (by simp [(h c hc).2])
  rw [upper_eq_map fun c hc => (h c hc).1, List.map_congr_left hself, List.map_id']

theorem not_isLower_of_mem_upper (h : u ∈ upper cs) : u.isLower = false := by
  obtain ⟨c, -, hu⟩ := List.mem_flatMap.1 h
  by_cases hc : c ∈ folded
  · exact Bool.eq_false_iff.2 (Char.not_isLower_of_isUpper (isUpper_of_folded c hc u hu))
  · rw [upperChar_of_notMem hc, List.mem_singleton] at hu
    rw [hu, Char.isLower_toUpper_eq_false]

/-! ### Characters other than letters -/

theorem not_isLower_of_not_isAlpha (h : c.isAlpha = false) : ¬c.isLower = true := by
  rw [Char.isAlpha, Bool.or_eq_false_iff] at h
  simp [h.2]

theorem toUpper_eq_iff (hd : d.isAlpha = false) : c.toUpper = d ↔ c = d := by
  constructor
  · rintro rfl
    rw [Char.isAlpha_toUpper_eq_isAlpha] at hd
    exact (Char.toUpper_eq_of_not_isLower (not_isLower_of_not_isAlpha hd)).symm
  · rintro rfl
    exact Char.toUpper_eq_of_not_isLower (not_isLower_of_not_isAlpha hd)

theorem not_isAlpha_of_isDigit (h : c.isDigit = true) : c.isAlpha = false := by
  simp only [Char.isDigit, Char.isAlpha, Char.isUpper, Char.isLower, UInt32.le_iff_toNat_le,
    Bool.and_eq_true, decide_eq_true_eq, Bool.or_eq_false_iff, decide_eq_false_iff_not,
    Bool.and_eq_false_iff] at h ⊢
  simp only [UInt32.reduceToNat, Char.reduceVal] at h ⊢
  omega

theorem mem_upperChar_iff (ha : d.isAlpha = false) (hf : d ∉ folded) :
    d ∈ upperChar c ↔ c = d := by
  by_cases hc : c ∈ folded
  · constructor
    · intro h
      have hd := isUpper_of_folded c hc d h
      simp [Char.isAlpha, hd] at ha
    · rintro rfl
      exact absurd hc hf
  · rw [upperChar_of_notMem hc, List.mem_singleton, eq_comm, toUpper_eq_iff ha]

/-- A text is cut at a sign before or after upper-casing. -/
theorem pieces_upper (ha : d.isAlpha = false) (hf : d ∉ folded) (cs : List Char) :
    pieces (· == d) (upper cs) = (pieces (· == d) cs).map upper := by
  have hself : upperChar d = [d] := by rw [upperChar_of_notMem hf, (toUpper_eq_iff ha).2 rfl]
  have hnone {ws : List Char} (h : d ∉ ws) : d ∉ upper ws := by
    intro hd
    obtain ⟨c, hc, hd⟩ := List.mem_flatMap.1 hd
    exact h ((mem_upperChar_iff ha hf).1 hd ▸ hc)
  induction hn : cs.length using Nat.strongRecOn generalizing cs with
  | ind n ih =>
    by_cases hd : d ∈ cs
    · obtain ⟨ws, rest, rfl, hws⟩ := List.eq_append_cons_of_mem hd
      have hlen : rest.length < n := by
        rw [List.length_append, List.length_cons] at hn
        omega
      have hrest := ih rest.length hlen rest rfl
      have hupper : upper (ws ++ d :: rest) = upper ws ++ d :: upper rest := by
        simp [upper, hself]
      rw [hupper, pieces_append, pieces_append, hrest, pieces_of_notMem hws,
        pieces_of_notMem (hnone hws), List.map_append, List.map_singleton]
    · rw [pieces_of_notMem hd, pieces_of_notMem (hnone hd), List.map_singleton]

end SheetExport.Text

/-!
## Written ranges

`Range.Written` says which texts write a range and which one: bounds are ASCII
letters of either case, with or without digits after them, and a range is two of
them with a colon between or one with digits. `Range.parse` reads the texts whose
upper-case form the grammar has, and refuses all others. As some characters
become ASCII letters in upper case it reads more than the grammar alone:
`Range.parse_written_iff`.
-/

namespace SheetExport.A1

open Text (folded pieces trimChars upper)

/-! ### The grammar -/

/-- Characters of a class whose worth is a number plus one that 64 bits hold: how
a number counted from zero is written. -/
@[mk_iff]
structure Counts (isDigit : Char → Bool) (worth : List Char → Nat) (cs : List Char) (n : Nat) :
    Prop where
  nonempty : cs ≠ []
  digits : ∀ c ∈ cs, isDigit c = true
  value : worth cs = n + 1
  bounded : n + 1 < Column.limit

/-- The value of letters of either case in bijective base 26. -/
def lettersValue (cs : List Char) : Nat :=
  Nat.ofDigits 26 (cs.reverse.map fun c => Column.place c.toUpper)

def digitsValue (cs : List Char) : Nat := Nat.ofDigitChars 10 cs 0

/-- Letters of either case that name a column. -/
abbrev NamesColumn (cs : List Char) (n : Nat) : Prop := Counts Char.isAlpha lettersValue cs n

/-- Digits that number a row. -/
abbrev NumbersRow (cs : List Char) (n : Nat) : Prop := Counts Char.isDigit digitsValue cs n

/-- The text writes the bound. -/
inductive Bound.Written : List Char → Bound → Prop where
  | column {cs : List Char} {n : Nat} : NamesColumn cs n → Written cs ⟨n, none⟩
  | cell {cs ds : List Char} {n r : Nat} : NamesColumn cs n → NumbersRow ds r →
      Written (cs ++ ds) ⟨n, some r⟩

/-- The text writes the range. -/
inductive Range.Written : List Char → Range → Prop where
  | cell {cs : List Char} {n r : Nat} : Bound.Written cs ⟨n, some r⟩ →
      Written cs ⟨⟨n, some r⟩, none⟩
  | span {cs ds : List Char} {a b : Bound} : Bound.Written cs a → Bound.Written ds b →
      Written (cs ++ ':' :: ds) ⟨a, some b⟩

variable {cs us : List Char} {b : Bound} {r : Range} {n : Nat}

theorem Bound.Written.isAlpha_or_isDigit (h : Bound.Written cs b) {c : Char} (hc : c ∈ cs) :
    c.isAlpha = true ∨ c.isDigit = true := by
  cases h with
  | column hn => exact .inl (hn.digits c hc)
  | cell hn hr => exact (List.mem_append.1 hc).imp (hn.digits c) (hr.digits c)

theorem Bound.Written.colon_notMem (h : Bound.Written cs b) : ':' ∉ cs := fun hc => by
  rcases h.isAlpha_or_isDigit hc with hd | hd <;> exact absurd hd (by decide)

theorem Range.Written.cases_mem (h : Range.Written cs r) {c : Char} (hc : c ∈ cs) :
    c.isAlpha = true ∨ c.isDigit = true ∨ c = ':' := by
  cases h with
  | cell hb => exact (hb.isAlpha_or_isDigit hc).imp_right .inl
  | span ha hb =>
    rcases List.mem_append.1 hc with hc | hc
    · exact (ha.isAlpha_or_isDigit hc).imp_right .inl
    · rcases List.mem_cons.1 hc with hc | hc
      · exact .inr (.inr hc)
      · exact (hb.isAlpha_or_isDigit hc).imp_right .inl

theorem Range.written_iff : Range.Written cs r ↔
    match pieces (· == ':') cs with
    | [ws] => r.stop = none ∧ r.start.row.isSome ∧ Bound.Written ws r.start
    | [ws, vs] => ∃ b, r.stop = some b ∧ Bound.Written ws r.start ∧ Bound.Written vs b
    | _ => False := by
  constructor
  · intro h
    cases h with
    | cell hb =>
      rw [Text.pieces_of_notMem hb.colon_notMem]
      exact ⟨rfl, rfl, hb⟩
    | span ha hb =>
      rw [Text.pieces_append, Text.pieces_of_notMem ha.colon_notMem,
        Text.pieces_of_notMem hb.colon_notMem]
      exact ⟨_, rfl, ha, hb⟩
  · intro h
    have hcs := Text.intercalate_pieces ':' cs
    obtain ⟨⟨n, row⟩, stop⟩ := r
    split at h
    · next ws hp =>
      obtain ⟨rfl, hrow, hb⟩ := h
      obtain ⟨row, rfl⟩ := Option.isSome_iff_exists.1 hrow
      have hws : ws = cs := by simpa [hp] using hcs
      exact .cell (hws ▸ hb)
    · next ws vs hp =>
      obtain ⟨b, rfl, ha, hb⟩ := h
      have hws : ws ++ ':' :: vs = cs := by
        simpa [hp, List.intercalate_cons_cons] using hcs
      exact hws ▸ .span ha hb
    · exact h.elim

/-! ### Reading bounds -/

theorem isLetter_eq_isAlpha {c : Char} (h : c.isLower = false) :
    Column.isLetter c = c.isAlpha := by
  rw [Char.isAlpha, h, Bool.or_false]
  exact (Bool.decide_and ..).symm

/-- Without lower-case letters, columns are read as the grammar names them. -/
theorem ofLetters?_iff (h : ∀ c ∈ cs, c.isLower = false) :
    Column.ofLetters? cs = some n ↔ NamesColumn cs n := by
  have hdigits : (∀ c ∈ cs, Column.isLetter c = true) ↔ ∀ c ∈ cs, c.isAlpha = true :=
    forall₂_congr fun c hc => by rw [isLetter_eq_isAlpha (h c hc)]
  have hvalue : Column.value 0 cs = lettersValue cs := by
    rw [Column.value_zero_eq, lettersValue]
    refine congrArg _ (List.map_congr_left fun c hc => ?_)
    have hc := h c (List.mem_reverse.1 hc)
    rw [Char.toUpper_eq_of_not_isLower (by simp [hc])]
  rw [Column.ofLetters?_eq_some, hdigits, hvalue, NamesColumn, counts_iff]

theorem Bound.row?_iff {ds : List Char} {r : Nat} : Bound.row? ds = some r ↔ NumbersRow ds r := by
  have hvalue : ds.foldl (fun a c => a * 10 + (c.toNat - '0'.toNat)) 0 = digitsValue ds := by
    simp only [digitsValue, Nat.ofDigitChars_eq_foldl, Nat.mul_comm]
  simp only [row?, hvalue, List.all_eq_true, Option.ite_none_right_eq_some, Option.some.injEq]
  constructor
  · rintro ⟨hd, ⟨hpos, hlt⟩, hr⟩
    have hne : ds ≠ [] := by
      rintro rfl
      exact Nat.lt_irrefl 0 hpos
    exact ⟨hne, hd, by omega, by omega⟩
  · rintro ⟨-, hd, hv, hlt⟩
    exact ⟨hd, by omega, by omega⟩

theorem split_letters {ds : List Char} (hcs : ∀ c ∈ cs, Column.isLetter c = true)
    (hds : ∀ d ∈ ds, Column.isLetter d = false) :
    (cs ++ ds).takeWhile Column.isLetter = cs ∧ (cs ++ ds).dropWhile Column.isLetter = ds := by
  rw [List.takeWhile_append_of_pos hcs, List.dropWhile_append_of_pos hcs]
  cases ds with
  | nil => simp
  | cons d ds =>
    have hd := hds d List.mem_cons_self
    simp [hd]

theorem not_isLetter_of_isDigit {c : Char} (h : c.isDigit = true) : Column.isLetter c = false := by
  have ha := Text.not_isAlpha_of_isDigit h
  rw [isLetter_eq_isAlpha (Bool.or_eq_false_iff.1 ha).2, ha]

theorem Bound.ofChars?_iff : Bound.ofChars? cs = some b ↔ Bound.Written (upper cs) b := by
  have hlow {ws : List Char} (hws : ∀ c ∈ ws, c ∈ upper cs) : ∀ c ∈ ws, c.isLower = false :=
    fun c hc => Text.not_isLower_of_mem_upper (hws c hc)
  constructor
  · intro h
    simp only [ofChars?, Option.bind_eq_bind, Option.bind_eq_some_iff] at h
    obtain ⟨n, hcol, h⟩ := h
    have htake := hlow fun c hc => (List.takeWhile_sublist Column.isLetter).mem hc
    have hname := (ofLetters?_iff htake).1 hcol
    rw [← List.takeWhile_append_dropWhile (p := Column.isLetter) (l := upper cs)]
    split at h
    · next hdrop =>
      cases h
      rw [hdrop, List.append_nil]
      exact .column hname
    · next hdrop =>
      simp only [Option.bind_eq_some_iff] at h
      obtain ⟨r, hrow, h⟩ := h
      cases h
      exact .cell hname (row?_iff.1 hrow)
  · generalize hus : upper cs = us at hlow
    intro h
    have hletter {ws : List Char} {n : Nat} (hws : ∀ c ∈ ws, c ∈ us) (h : NamesColumn ws n) :
        ∀ c ∈ ws, Column.isLetter c = true := fun c hc => by
      rw [isLetter_eq_isAlpha (hlow hws c hc), h.digits c hc]
    cases h with
    | column hn =>
      have hnone : ∀ d ∈ ([] : List Char), Column.isLetter d = false := fun _ h => nomatch h
      have hsplit := split_letters (hletter (fun _ => id) hn) hnone
      rw [List.append_nil] at hsplit
      have hcol := (ofLetters?_iff (hlow fun _ => id)).2 hn
      simp [ofChars?, hus, hsplit, hcol]
    | @cell ws ds n r hn hr =>
      have hsub : ∀ c ∈ ws, c ∈ ws ++ ds := fun c => List.mem_append_left _
      have hsplit := split_letters (hletter hsub hn)
        fun d hd => not_isLetter_of_isDigit (hr.digits d hd)
      have hcol := (ofLetters?_iff (hlow hsub)).2 hn
      obtain ⟨d, ds, rfl⟩ := List.exists_cons_of_ne_nil hr.nonempty
      simp [ofChars?, hus, hsplit, hcol, row?_iff.2 hr]

/-! ### Reading ranges -/

namespace Range

/-- Ranges are read as the grammar has them, from the upper-case form. -/
theorem ofChars?_iff : Range.ofChars? cs = some r ↔ Written (upper cs) r := by
  rw [written_iff, Text.pieces_upper (by decide) (by decide), ofChars?]
  obtain ⟨start, stop⟩ := r
  generalize pieces (· == ':') cs = ps
  match ps with
  | [] => simp
  | [ws] =>
    simp only [List.map_cons, List.map_nil, Option.bind_eq_bind, Option.bind_eq_some_iff,
      Bound.ofChars?_iff, Option.ite_none_right_eq_some, Option.some.injEq, mk.injEq]
    constructor
    · rintro ⟨a, ha, hrow, rfl, rfl⟩
      exact ⟨rfl, hrow, ha⟩
    · rintro ⟨rfl, hrow, ha⟩
      exact ⟨start, ha, hrow, rfl, rfl⟩
  | [ws, vs] =>
    simp only [List.map_cons, List.map_nil, Option.bind_eq_bind, Option.bind_eq_some_iff,
      Bound.ofChars?_iff, Option.pure_def, Option.some.injEq, mk.injEq]
    constructor
    · rintro ⟨a, ha, b, hb, rfl, rfl⟩
      exact ⟨b, rfl, ha, hb⟩
    · rintro ⟨b, rfl, ha, hb⟩
      exact ⟨start, ha, b, hb, rfl, rfl⟩
  | _ :: _ :: _ :: _ => simp

/-- A text is read as the range that its upper-case form, less surrounding
blanks, writes. -/
theorem parse_eq_ok_iff {s : String} :
    parse s = .ok r ↔ Written (upper (trimChars s.toList)) r := by
  rw [← ofChars?_iff, parse]
  cases ofChars? (trimChars s.toList) <;> simp

theorem parse_eq_error_iff {s : String} {e : InvalidRange} :
    parse s = .error e ↔
      e = ⟨Text.trim s⟩ ∧ ∀ r, ¬Written (upper (trimChars s.toList)) r := by
  simp only [← ofChars?_iff, parse, Text.trim]
  cases ofChars? (trimChars s.toList) <;> simp [eq_comm]

end Range

/-! ### Texts that are folded into the grammar -/

theorem counts_map_iff {isDigit : Char → Bool} {worth : List Char → Nat} {f : Char → Char}
    (hdigit : ∀ c, isDigit (f c) = isDigit c)
    (hworth : (∀ c ∈ cs, isDigit c = true) → worth (cs.map f) = worth cs) :
    Counts isDigit worth (cs.map f) n ↔ Counts isDigit worth cs n := by
  have hdigits : (∀ c ∈ cs.map f, isDigit c = true) ↔ ∀ c ∈ cs, isDigit c = true := by
    rw [List.forall_mem_map]
    simp only [hdigit]
  rw [counts_iff, counts_iff, hdigits, ne_eq, List.map_eq_nil_iff]
  refine and_congr_right fun _ => and_congr_right fun hd => ?_
  rw [hworth hd]

theorem namesColumn_map_toUpper : NamesColumn (cs.map Char.toUpper) n ↔ NamesColumn cs n := by
  refine counts_map_iff Char.isAlpha_toUpper_eq_isAlpha fun _ => ?_
  rw [lettersValue, lettersValue, ← List.map_reverse, List.map_map]
  simp only [Function.comp_def, Char.toUpper_toUpper_eq_toUpper]

theorem isDigit_toUpper (c : Char) : c.toUpper.isDigit = c.isDigit := by
  by_cases hl : c.isLower = true
  · have hup : c.toUpper.isAlpha = true := by simp [Char.isAlpha, hl]
    have hlow : c.isAlpha = true := by simp [Char.isAlpha, hl]
    rw [Bool.eq_iff_iff]
    constructor
    · intro h
      simp [Text.not_isAlpha_of_isDigit h] at hup
    · intro h
      simp [Text.not_isAlpha_of_isDigit h] at hlow
  · rw [Char.toUpper_eq_of_not_isLower hl]

theorem numbersRow_map_toUpper : NumbersRow (cs.map Char.toUpper) n ↔ NumbersRow cs n := by
  refine counts_map_iff isDigit_toUpper fun hd => ?_
  have hself : ∀ c ∈ cs, c.toUpper = c := fun c hc =>
    (Text.toUpper_eq_iff (Text.not_isAlpha_of_isDigit (hd c hc))).2 rfl
  rw [List.map_congr_left hself, List.map_id']

theorem Bound.written_map_toUpper : Written (cs.map Char.toUpper) b ↔ Written cs b := by
  constructor
  · generalize hus : cs.map Char.toUpper = us
    intro h
    cases h with
    | column hn =>
      subst hus
      exact .column (namesColumn_map_toUpper.1 hn)
    | cell hn hr =>
      obtain ⟨ws, ds, rfl, rfl, rfl⟩ := List.map_eq_append_iff.1 hus
      exact .cell (namesColumn_map_toUpper.1 hn) (numbersRow_map_toUpper.1 hr)
  · intro h
    cases h with
    | column hn => exact .column (namesColumn_map_toUpper.2 hn)
    | cell hn hr =>
      rw [List.map_append]
      exact .cell (namesColumn_map_toUpper.2 hn) (numbersRow_map_toUpper.2 hr)

namespace Range

/-- The grammar does not mind the case of letters. -/
theorem written_map_toUpper : Written (cs.map Char.toUpper) r ↔ Written cs r := by
  have hcolon {c : Char} : c.toUpper = ':' ↔ c = ':' := Text.toUpper_eq_iff (by decide)
  constructor
  · generalize hus : cs.map Char.toUpper = us
    intro h
    cases h with
    | cell hb =>
      subst hus
      exact .cell (Bound.written_map_toUpper.1 hb)
    | span ha hb =>
      obtain ⟨ws, vs, rfl, rfl, hvs⟩ := List.map_eq_append_iff.1 hus
      obtain ⟨c, vs, rfl, hc, rfl⟩ := List.map_eq_cons_iff.1 hvs
      obtain rfl := hcolon.1 hc
      exact .span (Bound.written_map_toUpper.1 ha) (Bound.written_map_toUpper.1 hb)
  · intro h
    cases h with
    | cell hb => exact .cell (Bound.written_map_toUpper.2 hb)
    | span ha hb =>
      rw [List.map_append, List.map_cons, hcolon.2 rfl]
      exact .span (Bound.written_map_toUpper.2 ha) (Bound.written_map_toUpper.2 hb)

/-- What the grammar has is written without characters that are folded. -/
theorem Written.notMem_folded (h : Written cs r) : ∀ c ∈ cs, c ∉ folded := fun c hc hf => by
  have halpha := Text.not_isAlpha_of_folded c hf
  have hdigit := Text.not_isDigit_of_folded c hf
  rcases h.cases_mem hc with ha | hd | rfl
  · simp [ha] at halpha
  · simp [hd] at hdigit
  · simp [folded] at hf

theorem written_upper_iff (h : ∀ c ∈ cs, c ∉ folded) : Written (upper cs) r ↔ Written cs r := by
  rw [Text.upper_eq_map h, written_map_toUpper]

/-- A text is read as the range that its upper-case form writes, and refused, with
its own text as the reason, if that writes none. The grammar says the same of the
text as it stands exactly if the text is refused or holds no character that is
folded into letters. -/
theorem parse_written_iff (s : String) :
    (∀ r, parse s = .ok r ↔ Written (upper (trimChars s.toList)) r) ∧
    (∀ e, parse s = .error e ↔
      e = ⟨Text.trim s⟩ ∧ ∀ r, ¬Written (upper (trimChars s.toList)) r) ∧
    ((∀ r, parse s = .ok r ↔ Written (trimChars s.toList) r) ↔
      (∃ e, parse s = .error e) ∨ ∀ c ∈ trimChars s.toList, c ∉ folded) := by
  refine ⟨fun r => parse_eq_ok_iff, fun e => parse_eq_error_iff, fun h => ?_, ?_⟩
  · cases hp : parse s with
    | error e => exact .inl ⟨e, rfl⟩
    | ok r => exact .inr ((h r).1 hp).notMem_folded
  · rintro (⟨e, he⟩ | hfolded) r
    · constructor
      · intro h
        cases he.symm.trans h
      · intro h
        have hok := parse_eq_ok_iff.2 ((written_upper_iff h.notMem_folded).2 h)
        cases he.symm.trans hok
    · rw [parse_eq_ok_iff, written_upper_iff hfolded]

/-- A long s is read as the letter S, which the grammar does not have it as. -/
theorem parse_longS :
    parse "ſ1" = .ok ⟨⟨18, some 0⟩, none⟩ ∧ ¬∃ r, Written (trimChars "ſ1".toList) r := by
  refine ⟨by rfl, fun ⟨r, h⟩ => ?_⟩
  have hmem : 'ſ' ∈ trimChars "ſ1".toList := by decide
  exact h.notMem_folded 'ſ' hmem (by decide)

end Range

end SheetExport.A1
