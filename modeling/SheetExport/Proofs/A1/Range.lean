import SheetExport.Proofs.A1.Grammar
import SheetExport.Proofs.Effect

/-!
# Ranges that are read back

What is written for a range, by itself or within a tab, is read as that range.
-/

/-!
## Ranges written and read back

A range whose numbers are below the greatest of 64 bits is read back from its
text, if it has two bounds or is a single cell, and all that is read is such a
range: `Range.parse_text_iff`. `Range.text?` is the text as 64 bits compute it:
its sums overflow for no range that is read.
-/

namespace SheetExport.A1

open Text (folded isBlank trimChars upper)

/-! ### Texts within 64 bits -/

/-- The columns and rows of the bound are below the greatest number of 64 bits. -/
def Bound.Fits (b : Bound) : Prop :=
  b.col < Column.limit - 1 ∧ ∀ r ∈ b.row, r < Column.limit - 1

/-- The columns and rows of the range are below the greatest number of 64 bits. -/
def Range.Fits (r : Range) : Prop := r.start.Fits ∧ ∀ b ∈ r.stop, b.Fits

/-- The range has two bounds or is a single cell. -/
def Range.Closed (r : Range) : Prop := r.stop.isSome ∨ r.start.row.isSome

def next? (n : Nat) : Option Nat := if n + 1 < Column.limit then some (n + 1) else none

/-- The text of a bound, if 64 bits hold the numbers it is made of. -/
def Bound.chars? (b : Bound) : Option (List Char) := do
  let col ← next? b.col
  match b.row with
  | none => return Column.spell col
  | some r => return Column.spell col ++ Nat.toDigits 10 (← next? r)

/-- The text of a range, if 64 bits hold the numbers it is made of. -/
def Range.text? (r : Range) : Option String := do
  let start ← r.start.chars?
  match r.stop with
  | none => return String.ofList start
  | some b => return String.ofList (start ++ ':' :: (← b.chars?))

theorem next?_eq_some {n m : Nat} : next? n = some m ↔ n < Column.limit - 1 ∧ m = n + 1 := by
  rw [next?, Option.ite_none_right_eq_some, Option.some.injEq, Nat.lt_sub_iff_add_lt]
  exact and_congr_right fun _ => eq_comm

variable {b : Bound} {r : Range} {cs : List Char}

theorem Bound.chars?_eq_some : b.chars? = some cs ↔ b.Fits ∧ cs = b.chars := by
  obtain ⟨n, row⟩ := b
  cases row with
  | none =>
    simp only [chars?, Option.bind_eq_bind, Option.bind_eq_some_iff, next?_eq_some, Option.pure_def,
      Option.some.injEq, Fits, chars, Option.map_none, Option.getD_none, List.append_nil]
    constructor
    · rintro ⟨_, ⟨hn, rfl⟩, rfl⟩
      exact ⟨⟨hn, fun _ h => nomatch h⟩, Column.spell_succ n⟩
    · rintro ⟨⟨hn, -⟩, rfl⟩
      exact ⟨_, ⟨hn, rfl⟩, Column.spell_succ n⟩
  | some r =>
    simp only [chars?, Option.bind_eq_bind, Option.bind_eq_some_iff, next?_eq_some, Option.pure_def,
      Option.some.injEq, Fits, chars, Option.map_some, Option.getD_some, Option.mem_def]
    constructor
    · rintro ⟨_, ⟨hn, rfl⟩, _, ⟨hr, rfl⟩, rfl⟩
      exact ⟨⟨hn, fun _ h => h ▸ hr⟩, by rw [Column.spell_succ]⟩
    · rintro ⟨⟨hn, hr⟩, rfl⟩
      exact ⟨_, ⟨hn, rfl⟩, _, ⟨hr r rfl, rfl⟩, by rw [Column.spell_succ]⟩

/-- No sum overflows exactly if the range fits, and then its text is the usual one. -/
theorem Range.text?_eq_some {s : String} : r.text? = some s ↔ r.Fits ∧ s = r.text := by
  obtain ⟨start, stop⟩ := r
  cases stop with
  | none =>
    simp only [text?, Option.bind_eq_bind, Option.bind_eq_some_iff, Bound.chars?_eq_some,
      Option.pure_def, Option.some.injEq, Fits, text, chars, Option.map_none, Option.getD_none,
      List.append_nil]
    constructor
    · rintro ⟨_, ⟨ha, rfl⟩, rfl⟩
      exact ⟨⟨ha, fun _ h => nomatch h⟩, rfl⟩
    · rintro ⟨⟨ha, -⟩, rfl⟩
      exact ⟨_, ⟨ha, rfl⟩, rfl⟩
  | some b =>
    simp only [text?, Option.bind_eq_bind, Option.bind_eq_some_iff, Bound.chars?_eq_some,
      Option.pure_def, Option.some.injEq, Fits, text, chars, Option.map_some, Option.getD_some,
      Option.mem_def]
    constructor
    · rintro ⟨_, ⟨ha, rfl⟩, _, ⟨hb, rfl⟩, rfl⟩
      exact ⟨⟨ha, fun _ h => h ▸ hb⟩, rfl⟩
    · rintro ⟨⟨ha, hb⟩, rfl⟩
      exact ⟨_, ⟨ha, rfl⟩, _, ⟨hb b rfl, rfl⟩, rfl⟩

/-! ### Texts of ranges are in the grammar -/

theorem not_isLower_letter : ∀ d < 26, (Column.letter d).isLower = false := by decide

theorem isAlpha_letter : ∀ d < 26, (Column.letter d).isAlpha = true := by decide

theorem namesColumn_letters {n : Nat} (h : n < Column.limit - 1) :
    NamesColumn (Column.letters n) n := by
  have hlow : ∀ c ∈ Column.letters n, c.isLower = false := fun c hc => by
    obtain ⟨d, hd, rfl⟩ := Column.exists_letter_of_mem_letters hc
    exact not_isLower_letter d hd
  exact (ofLetters?_iff hlow).1 (Column.ofLetters?_letters h)

theorem numbersRow_toDigits {n : Nat} (h : n < Column.limit - 1) :
    NumbersRow (Nat.toDigits 10 (n + 1)) n where
  nonempty := Nat.toDigits_ne_nil
  digits _ hc := Nat.isDigit_of_mem_toDigits (by decide) (by decide) hc
  value := Nat.ofDigitChars_toDigits (by decide) (by decide)
  bounded := Nat.add_lt_of_lt_sub h

theorem Bound.written_chars (h : b.Fits) : Written b.chars b := by
  obtain ⟨n, row⟩ := b
  have hn := namesColumn_letters h.1
  cases row with
  | none =>
    rw [chars, Option.map_none, Option.getD_none, List.append_nil]
    exact .column hn
  | some r => exact .cell hn (numbersRow_toDigits (h.2 r rfl))

theorem Range.written_chars (h : r.Fits) (hc : r.Closed) : Written r.chars r := by
  obtain ⟨⟨n, row⟩, stop⟩ := r
  have ha := Bound.written_chars h.1
  cases stop with
  | some b => exact .span ha (Bound.written_chars (h.2 b rfl))
  | none =>
    obtain ⟨row, rfl⟩ := Option.isSome_iff_exists.1 (hc.resolve_left Bool.false_ne_true)
    rw [chars, Option.map_none, Option.getD_none, List.append_nil]
    exact .cell ha

theorem Bound.Written.fits (h : Bound.Written cs b) : b.Fits := by
  cases h with
  | column hn => exact ⟨Nat.lt_sub_of_add_lt hn.bounded, fun _ h => nomatch h⟩
  | cell hn hr =>
    refine ⟨Nat.lt_sub_of_add_lt hn.bounded, fun _ h => ?_⟩
    cases h
    exact Nat.lt_sub_of_add_lt hr.bounded

theorem Range.Written.fits (h : Range.Written cs r) : r.Fits := by
  cases h with
  | cell hb => exact ⟨hb.fits, fun _ h => nomatch h⟩
  | span ha hb =>
    refine ⟨ha.fits, fun _ h => ?_⟩
    cases h
    exact hb.fits

theorem Range.Written.closed (h : Range.Written cs r) : r.Closed := by
  cases h with
  | cell _ => exact .inr rfl
  | span _ _ => exact .inl rfl

/-! ### Reading texts of ranges -/
namespace Range

theorem isBlank_letter : ∀ d < 26, isBlank (Column.letter d) = false := by decide

theorem letter_notMem_folded : ∀ d < 26, Column.letter d ∉ folded := by decide

theorem trimChars_chars (r : Range) : trimChars r.chars = r.chars := by
  refine Text.trimChars_of_notMem fun c hc => ?_
  obtain ⟨d, hd, rfl⟩ | hd | rfl := mem_chars hc
  · exact isBlank_letter d hd
  · exact Text.isBlank_of_isDigit hd
  · rfl

theorem upper_chars (r : Range) : upper r.chars = r.chars := by
  refine Text.upper_of_forall fun c hc => ?_
  obtain ⟨d, hd, rfl⟩ | hd | rfl := mem_chars hc
  · exact ⟨letter_notMem_folded d hd, not_isLower_letter d hd⟩
  · have ha := Text.not_isAlpha_of_isDigit hd
    refine ⟨fun hf => ?_, (Bool.or_eq_false_iff.1 ha).2⟩
    simp [Text.not_isDigit_of_folded c hf] at hd
  · exact ⟨by decide, by decide⟩

theorem parse_text_eq_ok {r' : Range} : parse r.text = .ok r' ↔ Written r.chars r' := by
  rw [parse_eq_ok_iff, text, String.toList_ofList, trimChars_chars, upper_chars]

theorem trim_text (r : Range) : Text.trim r.text = r.text := by
  rw [Text.trim, text, String.toList_ofList, trimChars_chars]

theorem Written.exists_not_isAlpha (h : Written cs r) : ∃ c ∈ cs, c.isAlpha = false := by
  cases h with
  | cell hb =>
    cases hb with
    | cell hn hr =>
      obtain ⟨d, ds, rfl⟩ := List.exists_cons_of_ne_nil hr.nonempty
      have hd := hr.digits d List.mem_cons_self
      exact ⟨d, List.mem_append_right _ List.mem_cons_self, Text.not_isAlpha_of_isDigit hd⟩
  | span _ _ => exact ⟨':', List.mem_append_right _ List.mem_cons_self, by decide⟩

theorem closed_of_written {r' : Range} (h : Written r.chars r') : r.Closed := by
  obtain ⟨⟨n, row⟩, stop⟩ := r
  cases stop with
  | some b => exact .inl rfl
  | none =>
    cases row with
    | some r => exact .inr rfl
    | none =>
      obtain ⟨c, hc, ha⟩ := h.exists_not_isAlpha
      simp only [chars, Bound.chars, Option.map_none, Option.getD_none, List.append_nil] at hc
      obtain ⟨d, hd, rfl⟩ := Column.exists_letter_of_mem_letters hc
      cases (isAlpha_letter d hd).symm.trans ha

/-- Where no number is the greatest of 64 bits, a range is read back from its text
exactly if it has two bounds or is a single cell, and a column alone is refused.
All that is read from any text is such a range, so no sum overflows in its text,
and that is read back as the same range. -/
theorem parse_text_iff :
    (∀ r : Range, r.Fits →
      (parse r.text = .ok r ↔ r.Closed) ∧ (¬r.Closed → parse r.text = .error ⟨r.text⟩)) ∧
    ∀ s r, parse s = .ok r → r.Fits ∧ r.Closed ∧ r.text? = some r.text ∧ parse r.text = .ok r := by
  have hback {r : Range} (hf : r.Fits) (hc : r.Closed) : parse r.text = .ok r :=
    parse_text_eq_ok.2 (written_chars hf hc)
  refine ⟨fun r hf => ⟨⟨fun h => ?_, hback hf⟩, fun hc => ?_⟩, fun s r h => ?_⟩
  · exact closed_of_written (parse_text_eq_ok.1 h)
  · refine parse_eq_error_iff.2 ⟨by rw [trim_text], fun r' h => hc ?_⟩
    exact closed_of_written (parse_text_eq_ok.1 (parse_eq_ok_iff.2 h))
  · have hw := parse_eq_ok_iff.1 h
    exact ⟨hw.fits, hw.closed, text?_eq_some.2 ⟨hw.fits, rfl⟩, hback hw.fits hw.closed⟩

def lastCell : Range := ⟨⟨Column.limit - 2, some (Column.limit - 2)⟩, none⟩

theorem parse_text_iff_lastCell :
    lastCell.Fits ∧ parse lastCell.text = .ok lastCell ∧
      ∃ r, parse "\taa:zz007\n" = .ok r ∧ r.text? = some r.text ∧ parse r.text = .ok r := by
  have hlast : Column.limit - 2 < Column.limit - 1 := by decide
  have hrow : ∀ r ∈ lastCell.start.row, r < Column.limit - 1 := fun _ h => Option.some.inj h ▸ hlast
  have hfits : lastCell.Fits := ⟨⟨hlast, hrow⟩, fun _ h => nomatch h⟩
  have hparse : parse "\taa:zz007\n" = .ok ⟨⟨26, none⟩, some ⟨701, some 6⟩⟩ := by rfl
  obtain ⟨-, -, htext, hback⟩ := parse_text_iff.2 _ _ hparse
  exact ⟨hfits, (parse_text_iff.1 lastCell hfits).1.2 (.inr rfl), _, hparse, htext, hback⟩

end Range

end SheetExport.A1

/-!
## Ranges within a tab

`Range.ofTab?` reads the range within a tab as the service does: a name in single
quotes, in which a doubled quote stands for one, an exclamation mark and a range.
Main statement: what `Range.forTab` writes is read as the name and the range it
was written for, whatever the name.
-/

namespace SheetExport.A1

def doubledQuotes (cs : List Char) : List Char :=
  cs.flatMap fun c => if c = '\'' then ['\'', '\''] else [c]

/-- Reads a name from after its opening quote on, and gives what follows the
closing one, the first that is not doubled. -/
def unquote : List Char → Option (List Char × List Char)
  | [] => none
  | '\'' :: '\'' :: cs => (unquote cs).map (Prod.map ('\'' :: ·) id)
  | '\'' :: cs => some ([], cs)
  | c :: cs => (unquote cs).map (Prod.map (c :: ·) id)

/-- The name and the range of a text `'name'!range`. -/
def Range.ofTab? (s : String) : Option (String × Range) :=
  match s.toList with
  | '\'' :: cs =>
    match unquote cs with
    | some (name, '!' :: rest) =>
      (parse (String.ofList rest)).toOption.map (String.ofList name, ·)
    | _ => none
  | _ => none

theorem unquote_of_ne {c : Char} (h : c ≠ '\'') (cs : List Char) :
    unquote (c :: cs) = (unquote cs).map (Prod.map (c :: ·) id) := by
  rw [unquote]
  · exact fun _ hc _ => h hc
  · exact h

theorem unquote_closing {rest : List Char} (h : rest.head? ≠ some '\'') :
    unquote ('\'' :: rest) = some ([], rest) := by
  rw [unquote]
  rintro cs rfl
  exact h rfl

/-- A name is read to the first quote that is not doubled, however many quotes it
holds and wherever it holds them. -/
theorem unquote_doubled {rest : List Char} (h : rest.head? ≠ some '\'') (name : List Char) :
    unquote (doubledQuotes name ++ '\'' :: rest) = some (name, rest) := by
  induction name with
  | nil => exact unquote_closing h
  | cons c name ih =>
    rw [doubledQuotes, List.flatMap_cons, List.append_assoc, ← doubledQuotes]
    by_cases hc : c = '\''
    · rw [if_pos hc, List.cons_append, List.singleton_append, unquote, ih, hc]
      rfl
    · rw [if_neg hc, List.singleton_append, unquote_of_ne hc, ih]
      rfl

namespace Range

variable {r : Range} {name : String}

theorem ofTab?_forTab_eq (r : Range) (name : String) :
    ofTab? (r.forTab name) = (parse r.text).toOption.map (name, ·) := by
  have hmark : ('!' :: r.chars).head? ≠ some '\'' := by simp
  have hname := unquote_doubled hmark name.toList
  have hquoted : (r.forTab name).toList =
      '\'' :: (doubledQuotes name.toList ++ '\'' :: '!' :: r.chars) := by
    rw [forTab, String.toList_ofList, quotedName, ← doubledQuotes, List.cons_append,
      List.cons_append, List.append_assoc, List.singleton_append]
  simp only [ofTab?, hquoted, hname, String.ofList_toList]
  rfl

/-- The range within a tab is read as exactly the name and the range, if the range
is one that is read from some text. So it is that of no other name or range. -/
theorem ofTab?_forTab (name : String) {s : String} (h : parse s = .ok r) :
    ofTab? (r.forTab name) = some (name, r) ∧
      ∀ name' s' r', parse s' = .ok r' → r'.forTab name' = r.forTab name →
        name' = name ∧ r' = r := by
  have hread {name s r} (h : parse s = .ok r) : ofTab? (r.forTab name) = some (name, r) := by
    have hw := parse_eq_ok_iff.1 h
    have hback := parse_text_eq_ok.2 (written_chars hw.fits hw.closed)
    rw [ofTab?_forTab_eq, hback]
    rfl
  refine ⟨hread h, fun name' s' r' h' hsame => ?_⟩
  have hboth : some (name', r') = some (name, r) := by rw [← hread h', hsame, hread h]
  exact Prod.mk.inj (Option.some.inj hboth)

theorem ofTab?_forTab_quotes :
    parse "b2:c" = .ok ⟨⟨1, some 1⟩, some ⟨2, none⟩⟩ ∧
      forTab ⟨⟨1, some 1⟩, some ⟨2, none⟩⟩ "''!A:Z'" = "'''''!A:Z'''!B2:C" ∧
      ofTab? "'''''!A:Z'''!B2:C" = some ("''!A:Z'", ⟨⟨1, some 1⟩, some ⟨2, none⟩⟩) := by
  have hparse : parse "b2:c" = .ok ⟨⟨1, some 1⟩, some ⟨2, none⟩⟩ := by rfl
  have htext : forTab ⟨⟨1, some 1⟩, some ⟨2, none⟩⟩ "''!A:Z'" = "'''''!A:Z'''!B2:C" := by
    have hb : Column.letters 1 = ['B'] := Column.letters_of_lt (by decide)
    have hc : Column.letters 2 = ['C'] := Column.letters_of_lt (by decide)
    simp only [forTab, chars, Bound.chars, Option.map_some, Option.getD_some, hb, hc]
    rfl
  have hread := (ofTab?_forTab "''!A:Z'" hparse).1
  exact ⟨hparse, htext, htext ▸ hread⟩

end Range

end SheetExport.A1
