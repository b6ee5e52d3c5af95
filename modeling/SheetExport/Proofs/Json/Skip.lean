import SheetExport.Proofs.Decimal.Shortest
import SheetExport.Proofs.Json.Decode

/-!
# Values that are passed over

A reader that has no use for a value passes over exactly its text, whatever the
value is: numbers of any size, fractions and any number of open brackets
included. `reads_skip` says so for every layout.
-/

namespace SheetExport.Json

variable {cs ds rest : List Char} {c : Char} {v : Json} {d : Nat}

/-! ## Strings -/

theorem skipString_escapedChar (c : Char) (rest : List Char) :
    skipString (escapedChar c ++ rest) = skipString rest := by
  obtain ⟨e, he, hu, hs⟩ | ⟨he, hc⟩ | ⟨he, h1, h2, h3⟩ := escapedChar_cases c
  · rw [he, List.cons_append, List.singleton_append, skipString.eq_def]
    simp [hu, hs]
  · rw [he, controlCode]
    simp [skipString, hexUnit?_controlCode hc]
  · rw [he, List.singleton_append, skipString.eq_def]
    simp [h1, h2, h3]

theorem skipString_flatMap (s rest : List Char) :
    skipString (s.flatMap escapedChar ++ '"' :: rest) = .ok rest := by
  induction s with
  | nil => rw [List.flatMap_nil, List.nil_append, skipString.eq_def]; simp
  | cons c s ih => rw [List.flatMap_cons, List.append_assoc, skipString_escapedChar, ih]

def skipKey : Reader Unit := fun cs => do return ((), ← skipString cs)

theorem readsKey_skipKey : ReadsKey skipKey fun _ => () := by
  intro s rest
  simp only [skipKey, skipString_flatMap]
  rfl

/-! ## Numbers -/

/-- A text that is passed over as a number without a sign. -/
structure IsNumeral (cs : List Char) : Prop where
  opens : ∃ c ds, cs = c :: ds ∧ c.isDigit = true
  skipped : ∀ rest, Follows rest → skipNumber (cs ++ rest) = .ok rest

/-- Digits that begin a number: there are some, and none after a zero. -/
structure IsWhole (ds : List Char) : Prop where
  nonempty : ds ≠ []
  digits : ∀ c ∈ ds, c.isDigit = true
  leading : ds.head? = some '0' → ds = ['0']

theorem isWhole_toDigits (n : Nat) : IsWhole (Nat.toDigits 10 n) where
  nonempty := Nat.toDigits_ne_nil
  digits _ := isDigit_of_mem_toDigits
  leading h := by
    obtain ⟨ds, hds⟩ := List.head?_eq_some_iff.1 h
    rw [hds, eq_nil_of_toDigits hds]

/-- Passes over what follows the digits that begin a number. -/
def skipAfterWhole (cs : List Char) : Except Fault (List Char) :=
  match cs with
  | '.' :: rest =>
    if (rest.headD ' ').isDigit then skipAfterFraction (rest.dropWhile Char.isDigit)
    else faultAt .invalidNumber rest
  | after => skipAfterFraction after

theorem skipNumber_whole (h : IsWhole ds) (hrest : ∀ c ∈ rest.head?, c.isDigit = false) :
    skipNumber (ds ++ rest) = skipAfterWhole rest := by
  obtain ⟨c, ds, rfl⟩ := List.exists_cons_of_ne_nil h.nonempty
  have hc := h.digits c List.mem_cons_self
  have hdrop := dropWhile_digits (fun c hc => h.digits c (List.mem_cons_of_mem _ hc)) hrest
  have hzero : ¬(c = '0' ∧ ((ds ++ rest).headD ' ').isDigit = true) := by
    rintro ⟨rfl, hnext⟩
    obtain rfl : ds = [] := (List.cons.inj (h.leading rfl)).2
    cases rest with
    | nil => cases hnext
    | cons c rest => cases (hrest c rfl).symm.trans hnext
  rw [List.cons_append, skipNumber]
  simp only [hc, if_true, hzero, if_false, hdrop]
  rfl

theorem skipAfterFraction_end (h : Follows rest) : skipAfterFraction rest = .ok rest := by
  unfold skipAfterFraction
  split
  · exact absurd rfl (h.ends _ rfl).2.2.1
  · exact absurd rfl (h.ends _ rfl).2.2.2
  · rfl

def exponentText (e : Int) : List Char :=
  'e' :: (if e < 0 then '-' else '+') :: Nat.toDigits 10 e.natAbs

theorem skipAfterFraction_exponent (e : Int) (h : Follows rest) :
    skipAfterFraction (exponentText e ++ rest) = .ok rest := by
  obtain ⟨c, ds, hd, hc⟩ := exists_toDigits e.natAbs
  have hds : ∀ x ∈ ds, x.isDigit = true :=
    fun x hx => isDigit_of_mem_toDigits (hd ▸ List.mem_cons_of_mem c hx)
  have hdrop := dropWhile_digits hds fun x hx => (h.ends x hx).1
  rw [exponentText, hd]
  split <;> simp [skipAfterFraction, skipExponent, hc, hdrop]

theorem IsWhole.isNumeral (h : IsWhole ds) : IsNumeral ds where
  opens := by
    obtain ⟨c, ds, rfl⟩ := List.exists_cons_of_ne_nil h.nonempty
    exact ⟨c, ds, rfl, h.digits c List.mem_cons_self⟩
  skipped rest hf := by
    rw [skipNumber_whole h fun c hc => (hf.ends c hc).1]
    unfold skipAfterWhole
    split
    · exact absurd rfl (hf.ends _ rfl).2.1
    · exact skipAfterFraction_end hf

theorem IsWhole.isNumeral_exponent (h : IsWhole ds) (e : Int) :
    IsNumeral (ds ++ exponentText e) where
  opens := by
    obtain ⟨c, ds, rfl⟩ := List.exists_cons_of_ne_nil h.nonempty
    exact ⟨c, _, rfl, h.digits c List.mem_cons_self⟩
  skipped rest hf := by
    rw [List.append_assoc, skipNumber_whole h (by simp [exponentText])]
    exact skipAfterFraction_exponent e hf

theorem IsWhole.isNumeral_fraction (h : IsWhole ds) {fs after : List Char} (hne : fs ≠ [])
    (hfs : ∀ c ∈ fs, c.isDigit = true)
    (hafter : ∀ rest, Follows rest → (∀ c ∈ (after ++ rest).head?, c.isDigit = false) ∧
      skipAfterFraction (after ++ rest) = .ok rest) :
    IsNumeral (ds ++ '.' :: (fs ++ after)) where
  opens := by
    obtain ⟨c, ds, rfl⟩ := List.exists_cons_of_ne_nil h.nonempty
    exact ⟨c, _, rfl, h.digits c List.mem_cons_self⟩
  skipped rest hf := by
    obtain ⟨hstop, hskip⟩ := hafter rest hf
    have hhead : ((fs ++ (after ++ rest)).headD ' ').isDigit = true := by
      obtain ⟨c, fs, rfl⟩ := List.exists_cons_of_ne_nil hne
      exact hfs c List.mem_cons_self
    rw [List.append_assoc, skipNumber_whole h (by simp)]
    simp only [skipAfterWhole, List.cons_append, List.append_assoc, hhead, if_true,
      dropWhile_digits hfs hstop]
    exact hskip

theorem IsWhole.isNumeral_point (h : IsWhole ds) {fs : List Char} (hne : fs ≠ [])
    (hfs : ∀ c ∈ fs, c.isDigit = true) : IsNumeral (ds ++ '.' :: fs) := by
  rw [← List.append_nil fs]
  exact h.isNumeral_fraction hne hfs fun rest hf =>
    ⟨fun c hc => (hf.ends c hc).1, skipAfterFraction_end hf⟩

theorem IsWhole.isNumeral_scientific {c' : Char} (h : IsWhole (c :: c' :: ds)) (e : Int) :
    IsNumeral (c :: '.' :: c' :: ds ++ exponentText e) := by
  -- the first digit is not a zero, as others follow
  have hlead : IsWhole [c] := by
    refine ⟨List.cons_ne_nil c [], fun x hx => h.digits x ?_, fun hhead => ?_⟩
    · exact List.mem_cons.2 (.inl (List.mem_singleton.1 hx))
    · cases h.leading hhead
  refine hlead.isNumeral_fraction (List.cons_ne_nil c' ds) ?_ fun rest hf => ?_
  · exact fun x hx => h.digits x (List.mem_cons_of_mem c hx)
  · exact ⟨by simp [exponentText], skipAfterFraction_exponent e hf⟩

theorem IsWhole.append_zeros (h : IsWhole ds) {k : Nat} (hk : ds = ['0'] → k = 0) :
    IsWhole (ds ++ List.replicate k '0') where
  nonempty := List.append_ne_nil_of_left_ne_nil h.nonempty _
  digits c hc := by
    rcases List.mem_append.1 hc with hc | hc
    · exact h.digits c hc
    · rw [(List.mem_replicate.1 hc).2]
      rfl
  leading hhead := by
    obtain ⟨c, ds, rfl⟩ := List.exists_cons_of_ne_nil h.nonempty
    have hzero := h.leading hhead
    rw [hk hzero, List.replicate_zero, List.append_nil, hzero]

/-- Digits with a point after some of them, zeros filled in, are a number. -/
theorem isNumeral_positional {k : Int} (h : IsWhole ds) (hk : ds = ['0'] → k ≤ 1) :
    IsNumeral (Decimal.positional ds k ['.', '0']) := by
  have hlength := List.length_pos_iff.2 h.nonempty
  unfold Decimal.positional
  split
  · refine (h.append_zeros fun hds => ?_).isNumeral_point (by simp) (by simp)
    have hle := hk hds
    simp only [hds, List.length_singleton]
    omega
  · next hlt =>
    split
    · next hpos =>
      -- the point stands inside, so the digits are not a lone zero
      have hwhole : IsWhole (ds.take k.toNat) := by
        refine ⟨?_, fun c hc => h.digits c (List.mem_of_mem_take hc), fun hhead => ?_⟩
        · rw [← List.length_pos_iff, List.length_take]
          omega
        · rw [List.head?_take, if_neg (by omega)] at hhead
          rw [h.leading hhead] at hlt
          simp only [List.length_singleton] at hlt
          omega
      refine hwhole.isNumeral_point ?_ fun c hc => h.digits c (List.mem_of_mem_drop hc)
      rw [← List.length_pos_iff, List.length_drop]
      omega
    · have hzero : IsWhole ['0'] := isWhole_toDigits 0
      show IsNumeral (['0'] ++ '.' :: (List.replicate (-k).toNat '0' ++ ds))
      refine hzero.isNumeral_point (List.append_ne_nil_of_right_ne_nil _ h.nonempty) fun c hc => ?_
      rcases List.mem_append.1 hc with hc | hc
      · rw [(List.mem_replicate.1 hc).2]
        rfl
      · exact h.digits c hc

theorem exists_scaled {x : Decimal} (h : x.coeff = 0 → x.exp = 0) (lo hi : Int) :
    ∃ body, (x.scaled lo hi).toList = x.sign ++ body ∧ IsNumeral body := by
  have hwhole : IsWhole x.digits := isWhole_toDigits x.coeff
  have hzero : x.digits = ['0'] → x.exp = 0 := by
    intro hds
    refine h ?_
    rw [← Nat.ofDigitChars_ten_toDigits (n := x.coeff), ← Decimal.digits, hds]
    rfl
  simp only [Decimal.scaled, String.toList_ofList]
  refine ⟨_, rfl, ?_⟩
  generalize x.digits = ds at hwhole hzero ⊢
  split
  · refine isNumeral_positional hwhole fun hds => ?_
    simp [hds, hzero hds]
  · rcases ds with _ | ⟨c, _ | ⟨c', ds⟩⟩
    · exact absurd rfl hwhole.nonempty
    · exact hwhole.isNumeral_exponent _
    · exact hwhole.isNumeral_scientific _

/-! ## Values -/

open Schema (closing_list closing_object skipGaps_text text_natural)

section

variable {g : List Char}

theorem skipWithin_numeral (h : IsNumeral cs) (hg : Gaps g) (hf : Follows rest) :
    skipWithin (d + 1) (g ++ (cs ++ rest)) = .ok ((), rest) := by
  obtain ⟨c, ds, rfl, hc⟩ := h.opens
  have hskip := h.skipped rest hf
  rw [List.cons_append] at hskip ⊢
  rw [skipWithin, skipGaps_text hg (opens_of_isDigit hc).1]
  split
  case h_9 heq =>
    obtain ⟨rfl, rfl⟩ := List.cons.inj heq
    simp only [hc, if_true, hskip]
    rfl
  case h_1 heq => cases heq
  all_goals
    next heq =>
      obtain ⟨rfl, -⟩ := List.cons.inj heq
      cases hc

theorem skipWithin_minus (h : IsNumeral cs) (hg : Gaps g) (hf : Follows rest) :
    skipWithin (d + 1) (g ++ ('-' :: cs ++ rest)) = .ok ((), rest) := by
  rw [List.cons_append, skipWithin, skipGaps_text hg rfl]
  simp only [h.skipped rest hf]
  rfl

/-- A number is written as a null, or after a sign if it has one. -/
theorem number_cases (n : Number) : n.text = "null" ∨
    ∃ body, IsNumeral body ∧ (n.text.toList = body ∨ n.text.toList = '-' :: body) := by
  cases n with
  | int i =>
    right
    cases i with
    | ofNat k =>
      refine ⟨_, (isWhole_toDigits k).isNumeral, .inl ?_⟩
      simp [Number.text, intText, Int.toString_eq_repr, Int.repr_eq_if, Nat.toList_repr]
    | negSucc k =>
      refine ⟨_, (isWhole_toDigits (k + 1)).isNumeral, .inr ?_⟩
      simp [Number.text, intText, Int.toString_eq_repr, Int.repr_eq_if]
  | float x =>
    rw [Number.text]
    split
    · obtain ⟨body, htext, hbody⟩ := exists_scaled (Decimal.exp_of_coeff_eq_zero (x := x)) (-5) 16
      refine .inr ⟨body, hbody, ?_⟩
      rw [floatText, htext, Decimal.sign]
      split
      · exact .inr rfl
      · exact .inl rfl
    · exact .inl rfl

theorem reads_skip_null : Reads (skipWithin (d + 1)) .null () := by
  intro l n g rest hg _
  show skipWithin (d + 1) (g ++ 'n' :: ('u' :: 'l' :: 'l' :: rest)) = _
  rw [skipWithin, skipGaps_text hg rfl]
  rfl

theorem reads_skip_number (n : Number) : Reads (skipWithin (d + 1)) (.number n) () := by
  intro l i g rest hg hf
  obtain hnull | ⟨body, hbody, htext | htext⟩ := number_cases n
  · rw [Layout.text, hnull]
    exact reads_skip_null l i g rest hg hf
  · rw [Layout.text, htext]
    exact skipWithin_numeral hbody hg hf
  · rw [Layout.text, htext]
    exact skipWithin_minus hbody hg hf

theorem reads_skip_string (s : String) : Reads (skipWithin (d + 1)) (.string s) () := by
  intro l n g rest hg _
  rw [Layout.text, stringText_append, skipWithin, skipGaps_text hg rfl]
  simp only [skipString_flatMap]
  rfl

theorem reads_skip_bool (b : Bool) : Reads (skipWithin (d + 1)) (.bool b) () := by
  intro l n g rest hg _
  cases b with
  | true =>
    show skipWithin (d + 1) (g ++ 't' :: ('r' :: 'u' :: 'e' :: rest)) = _
    rw [skipWithin, skipGaps_text hg rfl]
    rfl
  | false =>
    show skipWithin (d + 1) (g ++ 'f' :: ('a' :: 'l' :: 's' :: 'e' :: rest)) = _
    rw [skipWithin, skipGaps_text hg rfl]
    rfl

theorem reads_skip_array {vs : List Json} (h : ∀ v ∈ vs, Reads (skipWithin d) v ()) :
    Reads (skipWithin (d + 1)) (.array vs) () := by
  intro l n g rest hg _
  have hitems : List.Forall₂ (Reads (skipWithin d)) vs (vs.map fun _ => ()) :=
    List.forall₂_map_right_iff.2 (List.forall₂_same.2 h)
  obtain ⟨inside, htext, hread⟩ := exists_elements hitems false l n rest
  have hend : skipGaps (']' :: rest) = ']' :: rest := skipGaps_cons rfl
  rw [htext, List.cons_append, skipWithin, skipGaps_text hg rfl]
  simp only [hread, bind, Except.bind, endList, hend]
  rfl

theorem readsMembers_skip {ms : List (String × Json)}
    (h : ∀ m ∈ ms, Reads (skipWithin d) m.2 ()) :
    ReadsMembers (fun _ => skipMember (skipWithin d) ()) ms () () := by
  induction ms with
  | nil => exact .nil ()
  | cons m ms ih =>
    obtain ⟨hm, hms⟩ := List.forall_mem_cons.1 h
    refine .cons (fun l n rest hf => ?_) (ih hms)
    simp only [skipMember, colon_cons, bind, Except.bind]
    exact hm l n l.space rest l.gaps_space hf

theorem reads_skip_object {ms : List (String × Json)}
    (h : ∀ m ∈ ms, Reads (skipWithin d) m.2 ()) :
    Reads (skipWithin (d + 1)) (.object ms) () := by
  intro l n g rest hg _
  obtain ⟨inside, htext, hread⟩ :=
    exists_members readsKey_skipKey (readsMembers_skip h) false l n rest
  have hend : skipGaps ('\x7d' :: rest) = '\x7d' :: rest := skipGaps_cons rfl
  unfold skipKey at hread
  rw [htext, List.cons_append, skipWithin, skipGaps_text hg rfl]
  simp only [hread]
  simp only [bind, Except.bind, endObject, hend]
  rfl

end

/-! ## Depth -/

/-- A value with no more brackets open at a time than a number. -/
inductive Nested : Nat → Json → Prop where
  | null (d : Nat) : Nested d .null
  | bool (d : Nat) (b : Bool) : Nested d (.bool b)
  | number (d : Nat) (n : Number) : Nested d (.number n)
  | string (d : Nat) (s : String) : Nested d (.string s)
  | array {d : Nat} {vs : List Json} : (∀ v ∈ vs, Nested d v) → Nested (d + 1) (.array vs)
  | object {d : Nat} {ms : List (String × Json)} :
      (∀ m ∈ ms, Nested d m.2) → Nested (d + 1) (.object ms)

theorem Nested.mono {d' : Nat} (h : Nested d v) (hd : d ≤ d') : Nested d' v := by
  induction h generalizing d' with
  | null => exact .null d'
  | bool _ b => exact .bool d' b
  | number _ n => exact .number d' n
  | string _ s => exact .string d' s
  | array _ ih =>
    obtain ⟨d', rfl⟩ := Nat.exists_eq_add_of_lt hd
    exact .array fun v hv => ih v hv (by omega)
  | object _ ih =>
    obtain ⟨d', rfl⟩ := Nat.exists_eq_add_of_lt hd
    exact .object fun m hm => ih m hm (by omega)

mutual

/-- Every open bracket has a place in the text of a value. -/
theorem nested_text (l : Layout) (n : Nat) : (v : Json) → Nested (l.text n v).length v
  | .null => .null _
  | .bool b => .bool _ b
  | .number x => .number _ x
  | .string s => .string _ s
  | .array [] => .array (by simp)
  | .object [] => .object (by simp)
  | .array (v :: vs) => by
    refine .array (List.forall_mem_cons.2 ⟨?_, fun u hu => ?_⟩)
    · exact (nested_text l (n + 1) v).mono (by simp; omega)
    · exact (nested_afterItem l (n + 1) vs u hu).mono (by simp; omega)
  | .object ((k, v) :: ms) => by
    refine .object (List.forall_mem_cons.2 ⟨?_, fun m hm => ?_⟩)
    · exact (nested_text l (n + 1) v).mono (by simp; omega)
    · exact (nested_afterMember l (n + 1) ms m hm).mono (by simp; omega)

theorem nested_afterItem (l : Layout) (n : Nat) : (vs : List Json) → ∀ v ∈ vs,
    Nested (l.afterItem n vs).length v
  | [] => by simp
  | v :: vs => by
    refine List.forall_mem_cons.2 ⟨?_, fun u hu => ?_⟩
    · exact (nested_text l n v).mono (by simp [Layout.afterItem]; omega)
    · exact (nested_afterItem l n vs u hu).mono (by simp [Layout.afterItem]; omega)

theorem nested_afterMember (l : Layout) (n : Nat) : (ms : List (String × Json)) → ∀ m ∈ ms,
    Nested (l.afterMember n ms).length m.2
  | [] => by simp
  | (k, v) :: ms => by
    refine List.forall_mem_cons.2 ⟨?_, fun m hm => ?_⟩
    · exact (nested_text l n v).mono (by simp [Layout.afterMember]; omega)
    · exact (nested_afterMember l n ms m hm).mono (by simp [Layout.afterMember]; omega)

end

theorem Nested.reads_skip (h : Nested d v) : Reads (skipWithin (d + 1)) v () := by
  induction h with
  | null => exact reads_skip_null
  | bool _ b => exact reads_skip_bool b
  | number _ n => exact reads_skip_number n
  | string _ s => exact reads_skip_string s
  | array _ ih => exact reads_skip_array ih
  | object _ ih => exact reads_skip_object ih

/-- However a value is laid out, it is passed over. -/
theorem reads_skip (v : Json) : Reads skip v () := by
  intro l n g rest hg hf
  have hlength : (l.text n v).length ≤ (g ++ (l.text n v ++ rest)).length := by simp; omega
  exact ((nested_text l n v).mono hlength).reads_skip l n g rest hg hf

end SheetExport.Json
