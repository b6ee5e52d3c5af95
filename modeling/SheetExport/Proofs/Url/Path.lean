import Mathlib.Data.List.Sections
import SheetExport.Proofs.Text
import SheetExport.Proofs.Url.Form
import SheetExport.Url

/-!
# Paths that texts are added to

`Path.parts` reads a path as it is written: what stands between its slashes,
decoded. A text that is added to a path is one more part exactly if it is
`Kept`; others are dropped, shortened or resolved. Main statement:
`parts_pushSegments?_iff`.
-/

namespace SheetExport.Url

/-! ## Parts -/

/-- What stands between the slashes of a path, after the first one, decoded. -/
def Path.parts (p : Path) : List (List UInt8) :=
  (Text.pieces (· == '/') p.chars).tail.map percentDecode

/-- The parts of a path that others are added after: an empty last one does not
count. -/
def Path.below (p : Path) : List (List UInt8) :=
  if p.parts.getLast? = some [] then p.parts.dropLast else p.parts

namespace Segments

variable {ss done : Segments} {s t : List Char} {special : Bool}

/-- No segment holds a slash. -/
def Parted (ss : Segments) : Prop := ∀ s ∈ ss, '/' ∉ s

theorem Parted.append (h : Parted ss) (hd : Parted done) : Parted (ss ++ done) :=
  List.forall_mem_append.2 ⟨h, hd⟩

theorem parted_nil : Parted [] := fun _ h => nomatch h

theorem parted_singleton (h : '/' ∉ s) : Parted [s] := by simpa [Parted] using h

theorem Parted.reverse (h : Parted ss) : Parted ss.reverse := fun s hs =>
  h s (List.mem_reverse.1 hs)

theorem Parted.of_subset (h : Parted ss) (hd : done ⊆ ss) : Parted done := fun s hs => h s (hd hs)

theorem pieces_chars (hs : '/' ∉ s) (h : Parted ss) :
    Text.pieces (· == '/') (s ++ chars ss) = s :: ss := by
  induction ss generalizing s with
  | nil => rw [chars, List.flatMap_nil, List.append_nil, Text.pieces_of_notMem hs]
  | cons r ss ih =>
    have hr : '/' ∉ r := h r List.mem_cons_self
    have hss : Parted ss := fun x hx => h x (List.mem_cons_of_mem _ hx)
    have hchars : chars (r :: ss) = '/' :: (r ++ chars ss) := rfl
    rw [hchars, Text.pieces_append, Text.pieces_of_notMem hs, ih hr hss]
    rfl

theorem parts_segments (h : Parted ss) : (Path.segments ss).parts = ss.map percentDecode := by
  have hpieces := pieces_chars (s := []) (by simp) h
  rw [List.nil_append] at hpieces
  rw [Path.parts, Path.chars, hpieces]
  rfl

theorem below_segments (h : Parted ss) :
    (Path.segments ss).below = (dropEmptyEnd ss).map percentDecode := by
  have hlast : (ss.map percentDecode).getLast? = some [] ↔ ss.getLast? = some [] := by
    rw [List.getLast?_map, Option.map_eq_some_iff]
    constructor
    · rintro ⟨s, hs, hnil⟩
      rw [hs, eq_nil_of_percentDecode hnil]
    · intro hs
      exact ⟨[], hs, rfl⟩
  rw [Path.below, parts_segments h, dropEmptyEnd]
  by_cases hs : ss.getLast? = some []
  · rw [if_pos (hlast.2 hs), if_pos hs, List.map_dropLast]
  · rw [if_neg fun hm => hs (hlast.1 hm), if_neg hs]

/-! ## Dots -/

theorem toLower_cases (c : Char) :
    c.toLower = c ∨ 65 ≤ c.toNat ∧ c.toNat ≤ 90 ∧ c.toLower.toNat = c.toNat + 32 := by
  unfold Char.toLower
  split
  · next hc =>
    have hhigh : c.toNat ≤ 90 := hc.2
    have hsum : (c.val + 32).toNat = c.toNat + 32 := by
      rw [UInt32.toNat_add]
      exact Nat.mod_eq_of_lt (show c.toNat + 32 < 4294967296 by omega)
    exact .inr ⟨hc.1, hhigh, hsum⟩
  · exact .inl rfl

/-- The characters of coded and plain dots. -/
def dotChars : List Char := ['.', '%', '2', 'e']

/-- The characters that have one in lower case. -/
def cased (c : Char) : List Char := if c = 'e' then ['e', 'E'] else [c]

theorem mem_cased {c : Char} (h : c.toLower ∈ dotChars) : c ∈ cased c.toLower := by
  obtain hc | ⟨hlow, hhigh, hsum⟩ := toLower_cases c
  · rw [hc] at h ⊢
    unfold cased
    split
    · next he => simp [he]
    · exact List.mem_singleton_self c
  · simp only [dotChars, List.mem_cons, List.not_mem_nil, or_false] at h
    rcases h with h | h | h | h <;> rw [h] at hsum ⊢
    · change 46 = c.toNat + 32 at hsum
      omega
    · change 37 = c.toNat + 32 at hsum
      omega
    · change 50 = c.toNat + 32 at hsum
      omega
    · change 101 = c.toNat + 32 at hsum
      have hletter : c = 'E' := by
        rw [← Char.ofNat_toNat c, show c.toNat = 69 by omega]
      simp [cased, hletter]

theorem mem_sections_cased {s : List Char} (h : ∀ c ∈ s, c.toLower ∈ dotChars) :
    s ∈ ((s.map Char.toLower).map cased).sections := by
  rw [List.mem_sections, List.forall₂_map_right_iff, List.forall₂_map_right_iff, List.forall₂_same]
  exact fun c hc => mem_cased (h c hc)

/-- The texts in lower case that stand for the place above. -/
def parentDots : List (List Char) :=
  [['.', '.'], ['.', '%', '2', 'e'], ['%', '2', 'e', '.'], ['%', '2', 'e', '%', '2', 'e']]

theorem percentDecode_of_isCurrent (h : isCurrent s = true) :
    percentDecode s = Text.Utf8.encode ['.'] := by
  simp only [isCurrent, Bool.or_eq_true, beq_iff_eq] at h
  rcases h with rfl | h
  · decide
  · have hchars : ∀ c ∈ s, c.toLower ∈ dotChars := by
      have hall : ∀ c ∈ s.map Char.toLower, c ∈ dotChars := by simp [h, dotChars]
      exact List.forall_mem_map.1 hall
    have hcoded : ∀ r ∈ ((['%', '2', 'e'] : List Char).map cased).sections,
        percentDecode r = Text.Utf8.encode ['.'] := by decide
    refine hcoded s ?_
    rw [← h]
    exact mem_sections_cased hchars

theorem percentDecode_of_isParent (h : isParent s = true) :
    percentDecode s = Text.Utf8.encode ['.', '.'] := by
  have hmem : s.map Char.toLower ∈ parentDots := List.contains_iff_mem.1 h
  have hchars : ∀ c ∈ s, c.toLower ∈ dotChars := by
    have hall : ∀ dots ∈ parentDots, dots ⊆ dotChars := by simp [parentDots, dotChars]
    exact fun c hc => hall _ hmem (List.mem_map_of_mem hc)
  have hcoded : ∀ dots ∈ parentDots, ∀ r ∈ (dots.map cased).sections,
      percentDecode r = Text.Utf8.encode ['.', '.'] := by decide
  exact hcoded _ hmem s (mem_sections_cased hchars)

/-! ## Empty segments -/

theorem dropEmptyEnd_subset (ss : Segments) : dropEmptyEnd ss ⊆ ss := by
  unfold dropEmptyEnd
  split
  · exact List.dropLast_subset ss
  · exact List.Subset.refl ss

theorem dropEmptyEnd_eq_iff : dropEmptyEnd ss = [[]] ↔ ss = [[], []] := by
  constructor
  · intro h
    unfold dropEmptyEnd at h
    split at h
    · next hlast =>
      obtain ⟨init, hinit⟩ := List.getLast?_eq_some_iff.1 hlast
      rw [hinit, List.dropLast_concat] at h
      rw [hinit, h]
      rfl
    · next hlast => exact absurd (by rw [h]; rfl) hlast
  · rintro rfl
    rfl

/-- Only a path that is a slash alone loses an empty segment in front with the
one at its end. -/
theorem head?_dropEmptyEnd (h : ss.head? = some [] → ss = [[]]) :
    (dropEmptyEnd ss).head? ≠ some [] := by
  intro hd
  have hhead : ss.head? = some [] := by
    unfold dropEmptyEnd at hd
    split at hd
    · cases ss with
      | nil => cases hd
      | cons s ss => cases ss with
        | nil => cases hd
        | cons r ss => exact hd
    · exact hd
  rw [h hhead] at hd
  cases hd

theorem dropEmpty_of_head? (h : ss.head? ≠ some []) : dropEmpty ss = ss := by
  cases ss with
  | nil => rfl
  | cons s ss => cases s with
    | nil => exact absurd rfl h
    | cons c s => rfl

theorem dropEmpty_suffix (ss : Segments) : dropEmpty ss <:+ ss := by
  induction ss with
  | nil => exact List.suffix_refl []
  | cons s ss ih =>
    unfold dropEmpty
    split
    · next hss =>
      obtain ⟨rfl, rfl⟩ := List.cons.inj hss
      exact ih.trans (List.suffix_cons [] _)
    · exact List.suffix_refl _

theorem head?_dropEmpty (ss : Segments) :
    (dropEmpty ss).head? = some [] → dropEmpty ss = [[]] := by
  induction ss with
  | nil => intro h; cases h
  | cons s ss ih => cases s with
    | cons c s => intro h; cases h
    | nil => cases ss with
      | nil => intro _; rfl
      | cons r ss => exact ih

/-! ## One text more -/

/-- A text that is added to a path as it is: neither dots nor with line ends or
tabs. -/
def Kept (t : List Char) : Prop :=
  t ≠ ['.'] ∧ t ≠ ['.', '.'] ∧ ∀ c ∈ t, isIgnored c = false

instance (t : List Char) : Decidable (Kept t) :=
  decidable_of_iff (t ≠ ['.'] ∧ t ≠ ['.', '.'] ∧ t.all (fun c => !isIgnored c) = true) <| by
    simp [Kept]

theorem percentDecode_segment (special : Bool) (t : List Char) :
    percentDecode (segment special t) = Text.Utf8.encode (t.filter fun c => !isIgnored c) :=
  percentDecode_percentEncode (by simp [EncodeSet.segment]) _

theorem percentDecode_segment_of_kept (special : Bool) (h : Kept t) :
    percentDecode (segment special t) = Text.Utf8.encode t := by
  have hall : ∀ c ∈ t, (!isIgnored c) = true := fun c hc => by rw [h.2.2 c hc]; rfl
  rw [percentDecode_segment, List.filter_eq_self.2 hall]

theorem segment_ne_nil (h : Kept t) (ht : t ≠ []) : segment special t ≠ [] := by
  intro hs
  have hdecode := percentDecode_segment_of_kept special h
  rw [hs] at hdecode
  exact ht (Text.Utf8.encode_inj hdecode.symm)

theorem slash_notMem_segment (special : Bool) (t : List Char) : '/' ∉ segment special t :=
  slash_notMem_percentEncode (.inl (by simp [EncodeSet.segment]))

/-- Where one segment leads: it is resolved as the place above or the place
itself, or stands there as it is. -/
theorem follow_singleton (done : Segments) (s : List Char) :
    (isParent s = true ∧ follow done [s] = (up done).reverse ++ [[]]) ∨
    (isCurrent s = true ∧ follow done [s] = done.reverse ++ [[]]) ∨
    (isParent s = false ∧ isCurrent s = false ∧ follow done [s] = done.reverse ++ [s]) := by
  unfold follow
  split
  · next h => exact .inl ⟨h, rfl⟩
  · next h =>
    split
    · next h' => exact .inr (.inl ⟨h', rfl⟩)
    · next h' => exact .inr (.inr ⟨by simpa using h, by simpa using h', rfl⟩)

theorem push_of_kept (h : Kept t) : push special ss t = core ss ++ [segment special t] := by
  have hdecode := percentDecode_segment_of_kept special h
  have hdots : (t = ['.'] || t = ['.', '.']) = false := by simp [h.1, h.2.1]
  rw [push, hdots, if_neg Bool.false_ne_true]
  rcases follow_singleton (core ss).reverse (segment special t) with ⟨hs, -⟩ | ⟨hs, -⟩ | ⟨-, -, hs⟩
  · rw [percentDecode_of_isParent hs] at hdecode
    exact absurd (Text.Utf8.encode_inj hdecode).symm h.2.1
  · rw [percentDecode_of_isCurrent hs] at hdecode
    exact absurd (Text.Utf8.encode_inj hdecode).symm h.1
  · rw [hs, List.reverse_reverse]

theorem length_up_le (done : Segments) : (up done).length ≤ done.length := by
  unfold up
  split
  · exact Nat.le_refl _
  · split
    · exact Nat.le_refl _
    · exact Nat.le_succ _

theorem up_of_length (h : (up done).length = done.length) : up done = done := by
  unfold up at h ⊢
  split at h
  · rfl
  · split at h
    · next hs => rw [if_pos hs]
    · next s ss _ => exact absurd h (Nat.ne_of_lt (Nat.lt_succ_self ss.length))

/-- A text adds one segment at most. If it adds one, it is no dots, the path is no
slash alone, and the segment is empty or the text's own. -/
theorem push_cases (special : Bool) (ss : Segments) (t : List Char) :
    (push special ss t).length ≤ ss.length ∨
    (ss ≠ [[]] ∧ t ≠ ['.'] ∧ t ≠ ['.', '.'] ∧
      ∃ s, (s = [] ∨ s = segment special t) ∧ push special ss t = ss ++ [s]) := by
  unfold push
  split
  · exact .inl (Nat.le_refl _)
  · next hdots =>
    simp only [Bool.or_eq_true, decide_eq_true_eq, not_or] at hdots
    by_cases hss : ss = [[]]
    · subst hss
      left
      rcases follow_singleton (core [[]]).reverse (segment special t) with
        ⟨-, h⟩ | ⟨-, h⟩ | ⟨-, -, h⟩ <;> rw [h] <;> exact Nat.le_refl 1
    · have hcore : core ss = ss := if_neg hss
      rw [hcore]
      rcases follow_singleton ss.reverse (segment special t) with ⟨-, h⟩ | ⟨-, h⟩ | ⟨-, -, h⟩
      · have hup := length_up_le ss.reverse
        rcases Nat.lt_or_eq_of_le hup with hlt | heq
        · left
          rw [h, List.length_append, List.length_reverse, List.length_singleton]
          rw [List.length_reverse] at hlt
          exact hlt
        · right
          rw [up_of_length heq, List.reverse_reverse] at h
          exact ⟨hss, hdots.1, hdots.2, [], .inl rfl, h⟩
      · rw [List.reverse_reverse] at h
        exact .inr ⟨hss, hdots.1, hdots.2, [], .inl rfl, h⟩
      · rw [List.reverse_reverse] at h
        exact .inr ⟨hss, hdots.1, hdots.2, _, .inr rfl, h⟩

theorem parted_up (h : Parted done) : Parted (up done) := by
  unfold up
  split
  · exact parted_nil
  · split
    · exact h
    · exact h.of_subset (List.subset_cons_self _ _)

theorem parted_follow (hd : Parted done) (h : Parted ss) : Parted (follow done ss) := by
  induction done, ss using follow.induct with
  | case1 done => simpa [follow] using hd.reverse
  | case2 done s hs =>
    rw [follow, if_pos hs]
    exact (parted_up hd).reverse.append (parted_singleton List.not_mem_nil)
  | case3 done s hs hc =>
    rw [follow, if_neg hs, if_pos hc]
    exact hd.reverse.append (parted_singleton List.not_mem_nil)
  | case4 done s hs hc =>
    rw [follow, if_neg hs, if_neg hc]
    exact hd.reverse.append h
  | case5 done s ss hss hs ih =>
    rw [follow, if_pos hs]
    · exact ih (parted_up hd) (h.of_subset (List.subset_cons_self _ _))
    · exact hss
  | case6 done s ss hss hs hc ih =>
    rw [follow, if_neg hs, if_pos hc]
    · exact ih hd (h.of_subset (List.subset_cons_self _ _))
    · exact hss
  | case7 done s ss hss hs hc ih =>
    rw [follow, if_neg hs, if_neg hc]
    · have hs : Parted [s] := parted_singleton (h s List.mem_cons_self)
      exact ih (hs.append hd) (h.of_subset (List.subset_cons_self _ _))
    · exact hss

theorem parted_push (h : Parted ss) : Parted (push special ss t) := by
  unfold push
  split
  · exact h
  · have hcore : Parted (core ss) := by
      unfold core
      split
      · exact parted_nil
      · exact h
    exact parted_follow hcore.reverse (parted_singleton (slash_notMem_segment special t))

/-! ## Several texts more -/

variable {texts : List (List Char)}

theorem parted_foldl_push (h : Parted ss) : Parted (texts.foldl (push special) ss) := by
  induction texts generalizing ss with
  | nil => exact h
  | cons t texts ih => exact ih (parted_push h)

theorem length_foldl_push_le (special : Bool) (texts : List (List Char)) (ss : Segments) :
    (texts.foldl (push special) ss).length ≤ ss.length + texts.length := by
  induction texts generalizing ss with
  | nil => exact Nat.le_refl _
  | cons t texts ih =>
    have hrest := ih (push special ss t)
    have hone : (push special ss t).length ≤ ss.length + 1 := by
      rcases push_cases special ss t with h | ⟨-, -, -, s, -, h⟩
      · exact Nat.le_succ_of_le h
      · exact Nat.le_of_eq (by rw [h, List.length_append, List.length_singleton])
    rw [List.foldl_cons, List.length_cons]
    omega

/-- A segment that may come of a text that is no dots. -/
def Fits (special : Bool) (s t : List Char) : Prop :=
  t ≠ ['.'] ∧ t ≠ ['.', '.'] ∧ (s = [] ∨ s = segment special t)

theorem kept_of_fits {s : List Char} (h : Fits special s t)
    (hs : percentDecode s = Text.Utf8.encode t) : Kept t := by
  obtain ⟨hdot, hdots, rfl | rfl⟩ := h
  · have hnil : Text.Utf8.encode [] = Text.Utf8.encode t := hs
    obtain rfl := Text.Utf8.encode_inj hnil
    exact ⟨hdot, hdots, fun _ hc => nomatch hc⟩
  · rw [percentDecode_segment] at hs
    have hall := List.filter_eq_self.1 (Text.Utf8.encode_inj hs)
    exact ⟨hdot, hdots, fun c hc => Bool.not_eq_true' _ ▸ hall c hc⟩

theorem foldl_push_of_length (hne : texts ≠ [])
    (h : (texts.foldl (push special) ss).length = ss.length + texts.length) :
    ss ≠ [[]] ∧ ∃ added, texts.foldl (push special) ss = ss ++ added ∧
      List.Forall₂ (Fits special) added texts := by
  induction texts generalizing ss with
  | nil => exact absurd rfl hne
  | cons t texts ih =>
    rw [List.foldl_cons, List.length_cons] at h
    have hrest := length_foldl_push_le special texts (push special ss t)
    rcases push_cases special ss t with hle | ⟨hss, hdot, hdots, s, hs, hpush⟩
    · omega
    · refine ⟨hss, ?_⟩
      have hfit : Fits special s t := ⟨hdot, hdots, hs⟩
      have hlength : (ss ++ [s]).length = ss.length + 1 := List.length_append
      rw [hpush] at h
      rw [List.foldl_cons, hpush]
      cases texts with
      | nil => exact ⟨[s], rfl, .cons hfit .nil⟩
      | cons r texts =>
        obtain ⟨-, added, hadded, hfits⟩ :=
          ih (List.cons_ne_nil r texts) (by rw [h, hlength]; omega)
        exact ⟨s :: added, by rw [hadded, List.append_assoc, List.singleton_append],
          .cons hfit hfits⟩

theorem foldl_push_of_kept (hss : ss ≠ [[]]) (hhead : ss = [] → texts.head? ≠ some [])
    (h : ∀ t ∈ texts, Kept t) :
    texts.foldl (push special) ss = ss ++ texts.map (segment special) := by
  induction texts generalizing ss with
  | nil => exact (List.append_nil ss).symm
  | cons t texts ih =>
    have ht : Kept t := h t List.mem_cons_self
    have hpush : push special ss t = ss ++ [segment special t] := by
      rw [push_of_kept ht, core, if_neg hss]
    have hmore : ss ++ [segment special t] ≠ [[]] := by
      intro hm
      cases ss with
      | nil =>
        have ht' : t ≠ [] := fun hnil => hhead rfl (by rw [hnil]; rfl)
        exact segment_ne_nil ht ht' (List.cons.inj hm).1
      | cons s ss => simp at hm
    have hrest := ih hmore (fun hnil => by simp at hnil) fun r hr => h r (List.mem_cons_of_mem _ hr)
    rw [List.foldl_cons, hpush, hrest, List.append_assoc]
    rfl

/-- Texts that are added are read back after what was there exactly if all are
kept and the path was no slash alone. -/
theorem map_foldl_push_iff (special : Bool) (hne : texts ≠ []) (hhead : texts.head? ≠ some []) :
    (texts.foldl (push special) ss).map percentDecode =
        ss.map percentDecode ++ texts.map Text.Utf8.encode ↔
      ss ≠ [[]] ∧ ∀ t ∈ texts, Kept t := by
  constructor
  · intro h
    have hlength := congrArg List.length h
    simp only [List.length_map, List.length_append] at hlength
    obtain ⟨hss, added, hadded, hfits⟩ := foldl_push_of_length hne hlength
    rw [hadded, List.map_append, List.append_cancel_left_eq] at h
    refine ⟨hss, ?_⟩
    clear hne hhead hlength hadded
    induction hfits with
    | nil => intro t ht; cases ht
    | cons hfit _ ih =>
      rw [List.map_cons, List.map_cons, List.cons.injEq] at h
      exact List.forall_mem_cons.2 ⟨kept_of_fits hfit h.1, ih h.2⟩
  · rintro ⟨hss, hkept⟩
    rw [foldl_push_of_kept hss (fun _ => hhead) hkept, List.map_append, List.map_map]
    exact congrArg _
      (List.map_congr_left fun t ht => percentDecode_segment_of_kept special (hkept t ht))

/-- Dropping empty segments in front does not help to read what begins otherwise
and is as long. -/
theorem map_dropEmpty_iff {parts : List (List UInt8)} (hhead : parts.head? ≠ some [])
    (hlength : ss.length ≤ parts.length) :
    (dropEmpty ss).map percentDecode = parts ↔ ss.map percentDecode = parts := by
  constructor
  · intro h
    have hsuffix := dropEmpty_suffix ss
    have hshort := congrArg List.length h
    rw [List.length_map] at hshort
    rwa [hsuffix.eq_of_length (by have := hsuffix.length_le; omega)] at h
  · intro h
    have hss : ss.head? ≠ some [] := by
      intro hnil
      refine hhead ?_
      rw [← h, List.head?_map, hnil]
      rfl
    rwa [dropEmpty_of_head? hss]

end Segments

/-! ## Addresses with more in their paths -/

open Segments in
/-- Texts added to a path are its last parts, after those it had, exactly if all
are kept and the path is not two slashes. -/
theorem parts_pushSegments?_iff {u v : Url} {ss : Segments} {texts : List (List Char)}
    (hpath : u.path = .segments ss) (hparted : Parted ss)
    (hfile : u.scheme = fileScheme → ss.head? = some [] → ss = [[]])
    (hne : texts ≠ []) (hhead : texts.head? ≠ some []) (h : u.pushSegments? texts = some v) :
    v.path.parts = u.path.below ++ texts.map Text.Utf8.encode ↔
      u.path ≠ .segments [[], []] ∧ ∀ t ∈ texts, Kept t := by
  have hbelow : u.path.below = (dropEmptyEnd ss).map percentDecode := by
    rw [hpath, below_segments hparted]
  have hpushed : Parted (texts.foldl (push (isSpecial u.scheme)) (dropEmptyEnd ss)) :=
    parted_foldl_push (hparted.of_subset (dropEmptyEnd_subset ss))
  have hslashes : u.path ≠ .segments [[], []] ↔ dropEmptyEnd ss ≠ [[]] := by
    rw [hpath, Ne, Path.segments.injEq, ← dropEmptyEnd_eq_iff]
  rw [hslashes, hbelow, ← map_foldl_push_iff (isSpecial u.scheme) hne hhead]
  simp only [pushSegments?, hpath, Option.some.injEq] at h
  subst h
  split
  · next hscheme =>
    rw [parts_segments (hpushed.of_subset (dropEmpty_suffix _).subset)]
    refine map_dropEmpty_iff ?_ ?_
    · have hold := head?_dropEmptyEnd (hfile hscheme)
      intro hnil
      rw [List.head?_append, Option.or_eq_some_iff, List.head?_map, List.head?_map] at hnil
      rcases hnil with hnil | ⟨-, hnil⟩
      · obtain ⟨s, hs, hdecode⟩ := Option.map_eq_some_iff.1 hnil
        rw [eq_nil_of_percentDecode hdecode] at hs
        exact hold hs
      · obtain ⟨t, ht, hencode⟩ := Option.map_eq_some_iff.1 hnil
        have hnil : Text.Utf8.encode t = Text.Utf8.encode [] := hencode
        rw [Text.Utf8.encode_inj hnil] at ht
        exact hhead ht
    · have hmost := length_foldl_push_le (isSpecial u.scheme) texts (dropEmptyEnd ss)
      simpa using hmost
  · rw [parts_segments hpushed]

open Segments in
theorem pushSegments?_slashes {u : Url} {t : List Char} (texts : List (List Char))
    (hpath : u.path = .segments [[], []]) (ht : Kept t) :
    u.pushSegments? (t :: texts) =
      { u with path := .segments [] : Url }.pushSegments? (t :: texts) := by
  have hold : dropEmptyEnd [[], []] = [[]] := dropEmptyEnd_eq_iff.2 rfl
  have hnone : dropEmptyEnd [] = [] := rfl
  simp only [pushSegments?, hpath, hold, hnone, List.foldl_cons, push_of_kept ht]
  rfl

end SheetExport.Url
