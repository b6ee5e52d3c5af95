import SheetExport.Text.Bytes
import SheetExport.Text.Character

/-!
# Texts that are read back

How a text is cut at its separators, the text that its bytes give, and the bytes that
its digits give.
-/

/-!
## The pieces of a text

No piece holds a character at which the text is cut, and a text without one is a
single piece. Words are the pieces between blanks: the first word ends at the
first blank.
-/

namespace SheetExport.Text

variable {sep : Char → Bool} {b d : Char} {cs w : List Char}

theorem sep_of_mem_pieces (h : w ∈ pieces sep cs) {c : Char} (hc : c ∈ w) : sep c = false := by
  induction cs generalizing w with
  | nil =>
    obtain rfl : w = [] := by simpa [pieces] using h
    cases hc
  | cons d cs ih =>
    obtain ⟨v, vs, hv⟩ := List.exists_cons_of_ne_nil (pieces_ne_nil sep cs)
    rw [hv] at ih
    by_cases hd : sep d = true
    · simp only [pieces, hd, if_true, hv, List.mem_cons] at h
      rcases h with rfl | h
      · cases hc
      · exact ih (by simpa using h) hc
    · simp only [pieces, hd, Bool.false_eq_true, if_false, hv, List.mem_cons] at h
      rcases h with rfl | h
      · rcases List.mem_cons.1 hc with rfl | hc
        · simpa using hd
        · exact ih List.mem_cons_self hc
      · exact ih (List.mem_cons_of_mem _ h) hc

theorem pieces_of_forall (h : ∀ c ∈ cs, sep c = false) : pieces sep cs = [cs] := by
  induction cs with
  | nil => rfl
  | cons c cs ih =>
    obtain ⟨hc, hcs⟩ := List.forall_mem_cons.1 h
    simp only [pieces, hc, Bool.false_eq_true, if_false, ih hcs]

theorem pieces_append_of_sep (h : sep b = true) (cs ds : List Char) :
    pieces sep (cs ++ b :: ds) = pieces sep cs ++ pieces sep ds := by
  induction cs with
  | nil => simp [pieces, h]
  | cons c cs ih =>
    rw [List.cons_append]
    simp only [pieces, ih]
    split
    · rfl
    · obtain ⟨w, ws, hw⟩ := List.exists_cons_of_ne_nil (pieces_ne_nil sep cs)
      simp only [hw, List.cons_append]

theorem pieces_of_notMem (h : d ∉ cs) : pieces (· == d) cs = [cs] :=
  pieces_of_forall fun c hc => by simpa using fun e : c = d => h (e ▸ hc)

theorem pieces_append (d : Char) (cs ds : List Char) :
    pieces (· == d) (cs ++ d :: ds) = pieces (· == d) cs ++ pieces (· == d) ds :=
  pieces_append_of_sep (by simp) cs ds

/-! ### Words -/

theorem words_append (h : ∀ c ∈ w, isBlank c = false) (hne : w ≠ []) (hb : isBlank b = true)
    (cs : List Char) : words (w ++ b :: cs) = w :: words cs := by
  rw [words, pieces_append_of_sep hb, pieces_of_forall h]
  simp [hne, words]

end SheetExport.Text

/-!
## Text through UTF-8

The bytes of a text are read back as that text: `decodeLossy_encode`. The bytes
of one character are read by the shape of their first one, whose payload bits
and those of the others make up the number of the character.
-/

namespace SheetExport.Text.Utf8

/-! ### First bytes -/

theorem shape_two : ∀ a < 32, 2 ≤ a → shape (UInt8.ofNat (a + 192)) = some (1, 0x80, 0xBF) := by
  decide

theorem shape_three : ∀ a < 16, shape (UInt8.ofNat (a + 224)) =
    some (2, if a = 0 then 0xA0 else 0x80, if a = 13 then 0x9F else 0xBF) := by decide

theorem shape_four : ∀ a < 5, shape (UInt8.ofNat (a + 240)) =
    some (3, if a = 0 then 0x90 else 0x80, if a = 4 then 0x8F else 0xBF) := by decide

theorem leadBits_two : ∀ a < 32, leadBits 1 (UInt8.ofNat (a + 192)) = a := by decide

theorem leadBits_three : ∀ a < 16, leadBits 2 (UInt8.ofNat (a + 224)) = a := by decide

theorem leadBits_four : ∀ a < 5, leadBits 3 (UInt8.ofNat (a + 240)) = a := by decide

variable {n k : Nat} {lo hi : UInt8} {bs : List UInt8}

theorem decodeLossy_ascii (h : n < 128) :
    decodeLossy (UInt8.ofNat n :: bs) = Char.ofNat n :: decodeLossy bs := by
  have hn : (UInt8.ofNat n).toNat = n := by
    rw [UInt8.toNat_ofNat']
    omega
  have hlt : UInt8.ofNat n < 0x80 := by
    rw [UInt8.lt_iff_toNat_lt, hn]
    exact h
  rw [decodeLossy, if_pos hlt, hn]

theorem decodeLossy_lead {b : UInt8} (hb : 0x80 ≤ b.toNat) (h : shape b = some (k, lo, hi)) :
    decodeLossy (b :: bs) = (continuation k lo hi (leadBits k b) bs).1 ::
      decodeLossy (continuation k lo hi (leadBits k b) bs).2 := by
  have hge : ¬b < 0x80 := by
    rw [UInt8.lt_iff_toNat_lt]
    exact Nat.not_lt.2 hb
  rw [decodeLossy, if_neg hge, h]

/-! ### Further bytes -/

theorem continuation_cons {acc : Nat} (hn : n < 64) (hlo : lo.toNat ≤ n + 128)
    (hhi : n + 128 ≤ hi.toNat) :
    continuation (k + 1) lo hi acc (UInt8.ofNat (n + 128) :: bs) =
      continuation k 0x80 0xBF (acc * 64 + n) bs := by
  have hb : (UInt8.ofNat (n + 128)).toNat = n + 128 := by
    rw [UInt8.toNat_ofNat']
    omega
  have hbits : (n + 128) % 64 = n := by omega
  have hin : (decide (lo ≤ UInt8.ofNat (n + 128)) &&
      decide (UInt8.ofNat (n + 128) ≤ hi)) = true := by
    simp only [UInt8.le_iff_toNat_le, hb, Bool.and_eq_true, decide_eq_true_eq]
    exact ⟨hlo, hhi⟩
  rw [continuation, if_pos hin, hb, hbits]

theorem continuation_tail {acc : Nat} (hn : n < 64) :
    continuation (k + 1) 0x80 0xBF acc (UInt8.ofNat (n + 128) :: bs) =
      continuation k 0x80 0xBF (acc * 64 + n) bs :=
  continuation_cons hn (Nat.le_add_left 128 n) (show n + 128 ≤ 191 by omega)

/-! ### Characters -/

section

variable {v : Nat}

theorem decodeLossy_two (h1 : 127 < v) (h2 : v ≤ 2047) (bs : List UInt8) :
    decodeLossy (UInt8.ofNat (v / 64 % 32 + 192) :: UInt8.ofNat (v % 64 + 128) :: bs) =
      Char.ofNat v :: decodeLossy bs := by
  have ha : v / 64 % 32 < 32 := Nat.mod_lt _ (by decide)
  have hlead : 0x80 ≤ (UInt8.ofNat (v / 64 % 32 + 192)).toNat := by
    rw [UInt8.toNat_ofNat']
    omega
  have hsum : v / 64 % 32 * 64 + v % 64 = v := by omega
  rw [decodeLossy_lead hlead (shape_two _ ha (by omega)), leadBits_two _ ha,
    continuation_tail (Nat.mod_lt _ (by decide)), hsum, continuation]

theorem decodeLossy_three (h1 : 2047 < v) (h2 : v ≤ 65535) (hvalid : v < 0xD800 ∨ 0xDFFF < v)
    (bs : List UInt8) :
    decodeLossy (UInt8.ofNat (v / 4096 % 16 + 224) :: UInt8.ofNat (v / 64 % 64 + 128) ::
      UInt8.ofNat (v % 64 + 128) :: bs) = Char.ofNat v :: decodeLossy bs := by
  have ha : v / 4096 % 16 < 16 := Nat.mod_lt _ (by decide)
  have hlead : 0x80 ≤ (UInt8.ofNat (v / 4096 % 16 + 224)).toNat := by
    rw [UInt8.toNat_ofNat']
    omega
  have hlo : (if v / 4096 % 16 = 0 then (0xA0 : UInt8) else 0x80).toNat ≤ v / 64 % 64 + 128 := by
    split
    · show 160 ≤ v / 64 % 64 + 128
      omega
    · exact Nat.le_add_left 128 _
  have hhi : v / 64 % 64 + 128 ≤ (if v / 4096 % 16 = 13 then (0x9F : UInt8) else 0xBF).toNat := by
    split
    · show v / 64 % 64 + 128 ≤ 159
      omega
    · show v / 64 % 64 + 128 ≤ 191
      omega
  have hsum : (v / 4096 % 16 * 64 + v / 64 % 64) * 64 + v % 64 = v := by omega
  rw [decodeLossy_lead hlead (shape_three _ ha), leadBits_three _ ha,
    continuation_cons (Nat.mod_lt _ (by decide)) hlo hhi,
    continuation_tail (Nat.mod_lt _ (by decide)), hsum, continuation]

theorem decodeLossy_four (h1 : 65535 < v) (h2 : v < 0x110000) (bs : List UInt8) :
    decodeLossy (UInt8.ofNat (v / 262144 % 8 + 240) :: UInt8.ofNat (v / 4096 % 64 + 128) ::
      UInt8.ofNat (v / 64 % 64 + 128) :: UInt8.ofNat (v % 64 + 128) :: bs) =
        Char.ofNat v :: decodeLossy bs := by
  have ha : v / 262144 % 8 < 5 := by omega
  have hlead : 0x80 ≤ (UInt8.ofNat (v / 262144 % 8 + 240)).toNat := by
    rw [UInt8.toNat_ofNat']
    omega
  have hlo : (if v / 262144 % 8 = 0 then (0x90 : UInt8) else 0x80).toNat ≤
      v / 4096 % 64 + 128 := by
    split
    · show 144 ≤ v / 4096 % 64 + 128
      omega
    · exact Nat.le_add_left 128 _
  have hhi : v / 4096 % 64 + 128 ≤ (if v / 262144 % 8 = 4 then (0x8F : UInt8) else 0xBF).toNat := by
    split
    · show v / 4096 % 64 + 128 ≤ 143
      omega
    · show v / 4096 % 64 + 128 ≤ 191
      omega
  have hsum : ((v / 262144 % 8 * 64 + v / 4096 % 64) * 64 + v / 64 % 64) * 64 + v % 64 = v := by
    omega
  rw [decodeLossy_lead hlead (shape_four _ ha), leadBits_four _ ha,
    continuation_cons (Nat.mod_lt _ (by decide)) hlo hhi,
    continuation_tail (Nat.mod_lt _ (by decide)),
    continuation_tail (Nat.mod_lt _ (by decide)), hsum, continuation]

end

theorem decodeLossy_encodeChar (c : Char) (bs : List UInt8) :
    decodeLossy (String.utf8EncodeChar c ++ bs) = c :: decodeLossy bs := by
  have hvalid : c.val.toNat < 0xD800 ∨ 0xDFFF < c.val.toNat ∧ c.val.toNat < 0x110000 := c.valid
  have hc : Char.ofNat c.val.toNat = c := Char.ofNat_toNat c
  generalize hv : c.val.toNat = v at hvalid hc
  simp only [String.utf8EncodeChar, hv]
  split
  · rw [List.singleton_append, decodeLossy_ascii (by omega), hc]
  split
  · exact hc ▸ decodeLossy_two (by omega) (by omega) bs
  split
  · exact hc ▸ decodeLossy_three (by omega) (by omega) (by omega) bs
  · exact hc ▸ decodeLossy_four (by omega) (by omega) bs

/-- The bytes of a text are read as that text, whatever follows them. -/
theorem decodeLossy_encode_append (cs : List Char) (bs : List UInt8) :
    decodeLossy (encode cs ++ bs) = cs ++ decodeLossy bs := by
  induction cs with
  | nil => rfl
  | cons c cs ih =>
    rw [encode, List.flatMap_cons, List.append_assoc, decodeLossy_encodeChar]
    exact congrArg (c :: ·) ih

theorem decodeLossy_encode (cs : List Char) : decodeLossy (encode cs) = cs := by
  have h := decodeLossy_encode_append cs []
  rwa [List.append_nil, decodeLossy, List.append_nil] at h

theorem encode_inj {cs ds : List Char} (h : encode cs = encode ds) : cs = ds := by
  rw [← decodeLossy_encode cs, h, decodeLossy_encode]

/-! ### Bytes of one character -/

/-- What the shape of a longer character says: the further bytes are none of
ASCII, and the character is beyond ASCII by its first byte or by the second. -/
theorem le_of_shape {b : UInt8} (h : shape b = some (k, lo, hi)) :
    0x80 ≤ lo ∧ (0x80 ≤ leadBits k b * Nat.pow 64 k ∨ 2 ≤ k ∧ 0x90 ≤ lo ∧ hi ≤ 0xBF) := by
  have hall : ∀ n < 256, ∀ s ∈ shape (UInt8.ofNat n), 0x80 ≤ s.2.1 ∧
      (0x80 ≤ leadBits s.1 (UInt8.ofNat n) * Nat.pow 64 s.1 ∨
        2 ≤ s.1 ∧ 0x90 ≤ s.2.1 ∧ s.2.2 ≤ 0xBF) := by
    decide +kernel
  have hb := hall b.toNat b.toNat_lt
  rw [UInt8.ofNat_toNat] at hb
  exact hb (k, lo, hi) h

theorem continuation_append (hlo : 0x80 ≤ lo) {b : UInt8} (hb : b < 0x80) (acc : Nat)
    (bs rest : List UInt8) :
    continuation k lo hi acc (bs ++ b :: rest) =
      ((continuation k lo hi acc bs).1, (continuation k lo hi acc bs).2 ++ b :: rest) := by
  induction k generalizing lo hi acc bs with
  | zero => rfl
  | succ k ih =>
    cases bs with
    | nil =>
      have hnot : ¬lo ≤ b := by
        rw [UInt8.le_iff_toNat_le]
        rw [UInt8.le_iff_toNat_le] at hlo
        rw [UInt8.lt_iff_toNat_lt] at hb
        omega
      simp [continuation, hnot]
    | cons c bs =>
      simp only [List.cons_append, continuation]
      split
      · exact ih (by decide) _ bs
      · rfl

/-- What comes before a byte of ASCII is read by itself. -/
theorem decodeLossy_append {b : UInt8} (hb : b < 0x80) (bs rest : List UInt8) :
    decodeLossy (bs ++ b :: rest) = decodeLossy bs ++ Char.ofNat b.toNat :: decodeLossy rest := by
  induction bs using decodeLossy.induct with
  | case1 => simp only [List.nil_append, decodeLossy, hb, if_true]
  | case2 c bs hc ih =>
    rw [List.cons_append, decodeLossy, if_pos hc, decodeLossy, if_pos hc, ih, List.cons_append]
  | case3 c bs hc hshape ih =>
    simp only [List.cons_append, decodeLossy, hc, hshape, if_false, ih]
  | case4 c bs hc k lo hi hshape step ih =>
    simp only [List.cons_append, decodeLossy, hc, hshape, if_false,
      continuation_append (le_of_shape hshape).1 hb, ih, step]

theorem decodeLossy_ne_nil (h : bs ≠ []) : decodeLossy bs ≠ [] := by
  cases bs with
  | nil => exact absurd rfl h
  | cons b bs =>
    rw [decodeLossy]
    split
    · exact List.cons_ne_nil _ _
    · split <;> exact List.cons_ne_nil _ _

theorem continuation_fst {acc : Nat} (h : 0x80 ≤ acc * Nat.pow 64 k) (bs : List UInt8) :
    (continuation k lo hi acc bs).1 = replacement ∨
      ∃ m, 0x80 ≤ m ∧ (continuation k lo hi acc bs).1 = Char.ofNat m := by
  induction k generalizing lo hi acc bs with
  | zero => exact .inr ⟨acc, Nat.mul_one acc ▸ h, rfl⟩
  | succ k ih =>
    cases bs with
    | nil => exact .inl rfl
    | cons b bs =>
      simp only [continuation]
      split
      · refine ih (Nat.le_trans h ?_) bs
        rw [Nat.pow_eq, Nat.pow_eq, Nat.pow_succ', ← Nat.mul_assoc]
        exact Nat.mul_le_mul_right _ (Nat.le_add_right _ _)
      · exact .inl rfl

/-- What begins with a byte beyond ASCII is read as a character beyond ASCII. -/
theorem continuation_fst_of_shape {b : UInt8} (h : shape b = some (k, lo, hi))
    (bs : List UInt8) :
    (continuation k lo hi (leadBits k b) bs).1 = replacement ∨
      ∃ m, 0x80 ≤ m ∧ (continuation k lo hi (leadBits k b) bs).1 = Char.ofNat m := by
  obtain ⟨-, hlead | ⟨hk, hlo, hhi⟩⟩ := le_of_shape h
  · exact continuation_fst hlead bs
  · obtain ⟨k, rfl⟩ := Nat.exists_eq_add_of_le' hk
    cases bs with
    | nil => exact .inl rfl
    | cons c bs =>
      simp only [continuation]
      split
      · next hin =>
        simp only [UInt8.le_iff_toNat_le, Bool.and_eq_true, decide_eq_true_eq] at hin hlo hhi
        have hbits : 16 ≤ leadBits (k + 1 + 1) b * 64 + c.toNat % 64 := by
          have h1 : 144 ≤ c.toNat := Nat.le_trans hlo hin.1
          have h2 : c.toNat ≤ 191 := Nat.le_trans hin.2 hhi
          omega
        refine continuation_fst ?_ bs
        calc 0x80 ≤ 16 * 64 := by decide
          _ ≤ 16 * Nat.pow 64 (k + 1) := Nat.mul_le_mul_left _ (Nat.le_self_pow (by omega) _)
          _ ≤ _ := Nat.mul_le_mul_right _ hbits
      · exact .inl rfl

theorem continuation_suffix (k : Nat) (lo hi : UInt8) (acc : Nat) (bs : List UInt8) :
    (continuation k lo hi acc bs).2 <:+ bs := by
  induction k generalizing lo hi acc bs with
  | zero => exact List.suffix_refl bs
  | succ k ih =>
    cases bs with
    | nil => exact List.suffix_refl []
    | cons b bs =>
      simp only [continuation]
      split
      · exact (ih ..).trans (List.suffix_cons b bs)
      · exact List.suffix_refl _

theorem toNat_ofNat_cases (m : Nat) :
    (Char.ofNat m).toNat = m ∨ (Char.ofNat m).toNat = 0 := by
  by_cases h : m.isValidChar
  · exact .inl (by rw [Char.ofNat, dif_pos h]; rfl)
  · exact .inr (by rw [Char.ofNat, dif_neg h]; rfl)

theorem toNat_ofNat_ascii : ∀ n < 0x80, (Char.ofNat n).toNat = n := by decide

theorem ofNat_ne_ofNat {m : Nat} (hpos : 0 < n) (hn : n < 0x80) (hm : 0x80 ≤ m) :
    Char.ofNat n ≠ Char.ofNat m := by
  intro heq
  have hval := congrArg Char.toNat heq
  rw [toNat_ofNat_ascii n hn] at hval
  rcases toNat_ofNat_cases m with hm' | hm' <;> omega

/-- A character of ASCII is read from its own byte only. -/
theorem notMem_decodeLossy {b : UInt8} (hpos : 0 < b) (hb : b < 0x80) (h : b ∉ bs) :
    Char.ofNat b.toNat ∉ decodeLossy bs := by
  have hne : ∀ m, 0x80 ≤ m → Char.ofNat b.toNat ≠ Char.ofNat m := fun m hm =>
    ofNat_ne_ofNat (UInt8.lt_iff_toNat_lt.1 hpos) (UInt8.lt_iff_toNat_lt.1 hb) hm
  have hreplacement : Char.ofNat b.toNat ≠ replacement := hne _ (by decide)
  induction bs using decodeLossy.induct with
  | case1 => simp [decodeLossy]
  | case2 c bs hc ih =>
    rw [decodeLossy, if_pos hc]
    refine List.not_mem_cons_of_ne_of_not_mem (fun heq => h ?_)
      (ih fun hmem => h (List.mem_cons_of_mem c hmem))
    have hval := congrArg Char.toNat heq
    rw [toNat_ofNat_ascii _ (UInt8.lt_iff_toNat_lt.1 hb),
      toNat_ofNat_ascii _ (UInt8.lt_iff_toNat_lt.1 hc)] at hval
    exact UInt8.toNat_inj.1 hval ▸ List.mem_cons_self
  | case3 c bs hc hshape ih =>
    simp only [decodeLossy, hc, hshape, if_false]
    exact List.not_mem_cons_of_ne_of_not_mem hreplacement
      (ih fun hmem => h (List.mem_cons_of_mem c hmem))
  | case4 c bs hc k lo hi hshape step ih =>
    simp only [decodeLossy, hc, hshape, if_false]
    refine List.not_mem_cons_of_ne_of_not_mem ?_ (ih fun hmem =>
      h (List.mem_cons_of_mem c ((continuation_suffix ..).subset hmem)))
    obtain hfst | ⟨m, hm, hfst⟩ := continuation_fst_of_shape hshape bs
    · exact hfst ▸ hreplacement
    · exact hfst ▸ hne m hm

end SheetExport.Text.Utf8

/-!
## Base 64 and back

Bytes are cut into values of six bits, `sextets`, and put together from them;
each value has one digit of the alphabet that is safe in an address. What was
written is read back, and every character of it is one of the digits.
-/

namespace SheetExport.Text.Base64

variable {n : Nat} {bs : List UInt8}

/-- The digit values of bytes. -/
def sextets : List UInt8 → List Nat
  | [] => []
  | [a] => [a.toNat / 4, a.toNat % 4 * 16]
  | [a, b] => [a.toNat / 4, a.toNat % 4 * 16 + b.toNat / 16, b.toNat % 16 * 4]
  | a :: b :: c :: bs =>
    a.toNat / 4 :: (a.toNat % 4 * 16 + b.toNat / 16) :: (b.toNat % 16 * 4 + c.toNat / 64) ::
      c.toNat % 64 :: sextets bs

theorem Alphabet.encode_eq_map (t : Alphabet) (bs : List UInt8) :
    t.encode bs = (sextets bs).map t.digit := by
  induction bs using sextets.induct with
  | case1 => rfl
  | case2 => rfl
  | case3 => rfl
  | case4 a b c bs ih => simp only [encode, sextets, ih, List.map_cons]

theorem sextets_lt : ∀ n ∈ sextets bs, n < 64 := by
  induction bs using sextets.induct with
  | case1 => simp [sextets]
  | case2 a =>
    have ha := a.toNat_lt
    simp only [sextets, List.forall_mem_cons, List.not_mem_nil, false_implies, implies_true,
      and_true]
    omega
  | case3 a b =>
    have ha := a.toNat_lt
    have hb := b.toNat_lt
    simp only [sextets, List.forall_mem_cons, List.not_mem_nil, false_implies, implies_true,
      and_true]
    omega
  | case4 a b c bs ih =>
    have ha := a.toNat_lt
    have hb := b.toNat_lt
    have hc := c.toNat_lt
    simp only [sextets, List.forall_mem_cons]
    exact ⟨by omega, by omega, by omega, by omega, ih⟩

theorem toUInt8_eq {a : UInt8} (h : n = a.toNat) : n.toUInt8 = a := by
  rw [h]
  exact UInt8.ofNat_toNat

theorem bytes?_sextets (bs : List UInt8) : bytes? (sextets bs) = some bs := by
  induction bs using sextets.induct with
  | case1 => rfl
  | case2 a =>
    have hlast : a.toNat % 4 * 16 % 16 = 0 := by omega
    rw [sextets, bytes?, if_pos hlast, toUInt8_eq (a := a) (by omega)]
  | case3 a b =>
    have hb := b.toNat_lt
    have hlast : b.toNat % 16 * 4 % 4 = 0 := by omega
    rw [sextets, bytes?, if_pos hlast, toUInt8_eq (a := a) (by omega),
      toUInt8_eq (a := b) (by omega)]
  | case4 a b c bs ih =>
    have hb := b.toNat_lt
    have hc := c.toNat_lt
    rw [sextets, bytes?, ih, toUInt8_eq (a := a) (by omega), toUInt8_eq (a := b) (by omega),
      toUInt8_eq (a := c) (by omega)]
    rfl

/-! ### Digits -/

theorem value?_digit : ∀ n < 64, urlSafe.value? (urlSafe.digit n) = some n := by decide

theorem digit_ne_dot : ∀ n < 64, urlSafe.digit n ≠ '.' := by decide

theorem mapM_value?_digit {ns : List Nat} (h : ∀ n ∈ ns, n < 64) :
    (ns.map urlSafe.digit).mapM urlSafe.value? = some ns := by
  induction ns with
  | nil => rfl
  | cons n ns ih =>
    obtain ⟨hn, hns⟩ := List.forall_mem_cons.1 h
    rw [List.map_cons, List.mapM_cons, value?_digit n hn, ih hns]
    rfl

theorem decode?_encode (bs : List UInt8) : decode? (encode bs) = some bs := by
  rw [decode?, encode, String.toList_ofList, Alphabet.decode?, Alphabet.encode_eq_map,
    mapM_value?_digit sextets_lt]
  exact bytes?_sextets bs

theorem dot_notMem_encode (bs : List UInt8) : '.' ∉ (encode bs).toList := by
  rw [encode, String.toList_ofList, Alphabet.encode_eq_map]
  intro h
  obtain ⟨n, hn, hdot⟩ := List.mem_map.1 h
  exact digit_ne_dot n (sextets_lt n hn) hdot

end SheetExport.Text.Base64
