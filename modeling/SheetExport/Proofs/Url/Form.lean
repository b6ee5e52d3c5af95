import SheetExport.Proofs.Text
import SheetExport.Url.Form

/-!
# Codes and forms that are read back

What is coded is decoded to the same text, and the pairs of a form to the same pairs.
-/

/-!
## Percent codes that are read back

A byte is read back from its code, and a text from its encoding under any set
that has the percent sign: `percentDecode_percentEncode`.
-/

namespace SheetExport.Url

/-! ### Codes -/

theorem hexValue?_hexDigit : ∀ n < 16, hexValue? (hexDigit n) = some n := by decide

theorem percentDecode_coded (b : UInt8) (cs : List Char) :
    percentDecode (coded b ++ cs) = b :: percentDecode cs := by
  have hb : b.toNat < 256 := b.toNat_lt
  have hbyte : (b.toNat / 16 * 16 + b.toNat % 16).toUInt8 = b := by
    rw [Nat.div_add_mod']
    exact UInt8.ofNat_toNat
  simp only [coded, List.cons_append, List.nil_append, percentDecode,
    hexValue?_hexDigit _ (show b.toNat / 16 < 16 by omega),
    hexValue?_hexDigit _ (Nat.mod_lt b.toNat (by decide : 0 < 16)), hbyte]

theorem percentDecode_flatMap_coded (bs : List UInt8) (cs : List Char) :
    percentDecode (bs.flatMap coded ++ cs) = bs ++ percentDecode cs := by
  induction bs with
  | nil => rfl
  | cons b bs ih =>
    rw [List.flatMap_cons, List.append_assoc, percentDecode_coded, ih, List.cons_append]

theorem percentDecode_cons {c : Char} (h : c ≠ '%') (cs : List Char) :
    percentDecode (c :: cs) = String.utf8EncodeChar c ++ percentDecode cs := by
  rw [percentDecode]
  exact fun _ _ _ h' => absurd h' h

theorem eq_nil_of_percentDecode {cs : List Char} (h : percentDecode cs = []) : cs = [] := by
  unfold percentDecode at h
  split at h
  · rfl
  · split at h <;> cases h
  · next c cs _ =>
    have hpos := c.utf8Size_pos
    have hlength := congrArg List.length (List.append_eq_nil_iff.1 h).1
    rw [String.length_utf8EncodeChar, List.length_nil] at hlength
    omega

/-! ### Encodings -/

theorem percentDecode_encodeChar {set : EncodeSet} (h : set '%' = true) (c : Char)
    (cs : List Char) :
    percentDecode (encodeChar set c ++ cs) = String.utf8EncodeChar c ++ percentDecode cs := by
  unfold encodeChar
  split
  · exact percentDecode_flatMap_coded _ cs
  · next hc =>
    have hne : c ≠ '%' := by
      rintro rfl
      simp [h] at hc
    exact percentDecode_cons hne cs

/-- A text is read back from its encoding. -/
theorem percentDecode_percentEncode {set : EncodeSet} (h : set '%' = true) (cs : List Char) :
    percentDecode (percentEncode set cs) = Text.Utf8.encode cs := by
  induction cs with
  | nil => rfl
  | cons c cs ih =>
    rw [percentEncode, List.flatMap_cons, percentDecode_encodeChar h]
    exact congrArg (String.utf8EncodeChar c ++ ·) ih

theorem percentEncode_of_forall {set : EncodeSet} {cs : List Char}
    (h : ∀ c ∈ cs, set c = false ∧ c.toNat < 0x80) : percentEncode set cs = cs := by
  induction cs with
  | nil => rfl
  | cons c cs ih =>
    obtain ⟨⟨hset, hlt⟩, hcs⟩ := List.forall_mem_cons.1 h
    have hc : encodeChar set c = [c] := if_neg (by simp [hset]; omega)
    rw [percentEncode, List.flatMap_cons, hc]
    exact congrArg (c :: ·) (ih hcs)

theorem slash_ne_hexDigit : ∀ n < 16, '/' ≠ hexDigit n := by decide

theorem slash_notMem_coded (b : UInt8) : '/' ∉ coded b := by
  have hb : b.toNat < 256 := b.toNat_lt
  have hhigh := slash_ne_hexDigit (b.toNat / 16) (by omega)
  have hlow := slash_ne_hexDigit (b.toNat % 16) (Nat.mod_lt _ (by decide))
  simp [coded, hhigh, hlow]

theorem slash_notMem_percentEncode {set : EncodeSet} {cs : List Char}
    (h : set '/' = true ∨ '/' ∉ cs) : '/' ∉ percentEncode set cs := by
  intro hm
  obtain ⟨c, hc, hm⟩ := List.mem_flatMap.1 hm
  unfold encodeChar at hm
  split at hm
  · obtain ⟨b, -, hb⟩ := List.mem_flatMap.1 hm
    exact slash_notMem_coded b hb
  · next hset =>
    obtain rfl := List.mem_singleton.1 hm
    rcases h with h | h
    · simp [h] at hset
    · exact h hc

end SheetExport.Url

/-!
## Form pairs that are read back

A name or value is read back from its written form, and pairs from theirs:
`decode_encode`. Pairs that are added to others are read after these:
`decode_append`. Written pairs hold only characters that stay as they are in a
query: `kept_of_isWritten`.
-/

namespace SheetExport

namespace Url

theorem hexDigit_isPlain : ∀ n < 16, Form.isPlain (hexDigit n) = true := by decide

namespace Form

/-! ### Names and values -/

/-- A sign that has a meaning between names and values. -/
def isSign (c : Char) : Bool := c == '&' || c == '=' || c == '+'

theorem ne_of_isPlain {c : Char} (h : isPlain c = true) : c ≠ '%' ∧ isSign c = false := by
  refine ⟨?_, ?_⟩
  · rintro rfl
    exact absurd h (by decide)
  · cases hs : isSign c with
    | false => rfl
    | true =>
      simp only [isSign, Bool.or_eq_true, beq_iff_eq] at hs
      rcases hs with (rfl | rfl) | rfl <;> exact absurd h (by decide)

theorem of_mem_coded {c : Char} {b : UInt8} (h : c ∈ coded b) : c = '%' ∨ isPlain c = true := by
  have hb : b.toNat < 256 := b.toNat_lt
  simp only [coded, List.mem_cons, List.not_mem_nil, or_false] at h
  rcases h with rfl | rfl | rfl
  · exact .inl rfl
  · exact .inr (hexDigit_isPlain _ (by omega))
  · exact .inr (hexDigit_isPlain _ (Nat.mod_lt _ (by decide)))

theorem isSign_of_mem_coded {c : Char} {b : UInt8} (h : c ∈ coded b) : isSign c = false := by
  obtain rfl | hp := of_mem_coded h
  · decide
  · exact (ne_of_isPlain hp).2

/-- A space for a plus sign. -/
def spaced (cs : List Char) : List Char := cs.map fun c => if c = '+' then ' ' else c

theorem spaced_append (cs ds : List Char) : spaced (cs ++ ds) = spaced cs ++ spaced ds :=
  List.map_append

theorem spaced_of_isSign {cs : List Char} (h : ∀ c ∈ cs, isSign c = false) : spaced cs = cs := by
  refine (List.map_congr_left fun c hc => ?_).trans (List.map_id cs)
  have hne : c ≠ '+' := by
    rintro rfl
    exact absurd (h _ hc) (by decide)
  simp [hne]

theorem percentDecode_encodeChar (c : Char) (cs : List Char) :
    percentDecode (spaced (encodeChar c) ++ cs) = String.utf8EncodeChar c ++ percentDecode cs := by
  unfold encodeChar
  split
  · next hc =>
    subst hc
    exact percentDecode_cons (by decide) cs
  split
  · next hp =>
    obtain ⟨hne, hs⟩ := ne_of_isPlain hp
    rw [spaced_of_isSign (by simpa using hs)]
    exact percentDecode_cons hne cs
  · have hs : ∀ d ∈ (String.utf8EncodeChar c).flatMap coded, isSign d = false := by
      intro d hd
      obtain ⟨b, -, hb⟩ := List.mem_flatMap.1 hd
      exact isSign_of_mem_coded hb
    rw [spaced_of_isSign hs, percentDecode_flatMap_coded]

theorem percentDecode_encodeText (cs ds : List Char) :
    percentDecode (spaced (cs.flatMap encodeChar) ++ ds) =
      Text.Utf8.encode cs ++ percentDecode ds := by
  induction cs with
  | nil => rfl
  | cons c cs ih =>
    rw [List.flatMap_cons, spaced_append, List.append_assoc, percentDecode_encodeChar, ih,
      Text.Utf8.encode, Text.Utf8.encode, List.flatMap_cons, List.append_assoc]

theorem decodeText_encodeText (s : String) : decodeText (encodeText s) = s := by
  have h := percentDecode_encodeText s.toList []
  rw [List.append_nil, percentDecode, List.append_nil] at h
  rw [decodeText, percentDecodeText, encodeText]
  exact (congrArg (fun bs => String.ofList (Text.Utf8.decodeLossy bs)) h).trans
    (by rw [Text.Utf8.decodeLossy_encode, String.ofList_toList])

/-- No sign but the one for a space is in a written name or value. -/
theorem notMem_encodeText {d : Char} (hd : d = '&' ∨ d = '=') (s : String) :
    d ∉ encodeText s := by
  have hsign : isSign d = true := by rcases hd with rfl | rfl <;> decide
  intro h
  obtain ⟨c, -, hc⟩ := List.mem_flatMap.1 h
  unfold encodeChar at hc
  split at hc
  · obtain rfl := List.mem_singleton.1 hc
    rcases hd with hd | hd <;> exact absurd hd (by decide)
  split at hc
  · next hp =>
    obtain rfl := List.mem_singleton.1 hc
    rw [(ne_of_isPlain hp).2] at hsign
    cases hsign
  · obtain ⟨b, -, hb⟩ := List.mem_flatMap.1 hc
    rw [isSign_of_mem_coded hb] at hsign
    cases hsign

/-! ### Pairs -/

theorem decodePair_encodePair (p : String × String) : decodePair (encodePair p) = p := by
  have hname : ∀ c ∈ encodeText p.1, decide (c ≠ '=') = true := by
    intro c hc
    have hne : c ≠ '=' := by
      rintro rfl
      exact notMem_encodeText (.inr rfl) _ hc
    simpa using hne
  have htake : (encodePair p).takeWhile (· ≠ '=') = encodeText p.1 := by
    rw [encodePair, List.takeWhile_append_of_pos hname]
    simp
  have hdrop : (encodePair p).dropWhile (· ≠ '=') = '=' :: encodeText p.2 := by
    rw [encodePair, List.dropWhile_append_of_pos hname]
    simp
  rw [decodePair, htake, hdrop, List.tail_cons, decodeText_encodeText, decodeText_encodeText]

theorem encodePair_ne_nil (p : String × String) : encodePair p ≠ [] := by simp [encodePair]

theorem notMem_encodePair (p : String × String) : '&' ∉ encodePair p := by
  have hne : '&' ≠ '=' := by decide
  simp only [encodePair, List.mem_append, List.mem_cons, hne, false_or, not_or]
  exact ⟨notMem_encodeText (.inl rfl) _, notMem_encodeText (.inl rfl) _⟩

theorem decode_join (cs ds : List Char) : decode (cs ++ '&' :: ds) = decode cs ++ decode ds := by
  rw [decode, Text.pieces_append, List.filter_append, List.map_append]
  rfl

theorem decode_of_pair (p : String × String) : decode (encodePair p) = [p] := by
  rw [decode, Text.pieces_of_notMem (notMem_encodePair p)]
  simp [encodePair_ne_nil, decodePair_encodePair]

/-- Pairs are read back. -/
theorem decode_encode (ps : List (String × String)) : decode (encode ps) = ps := by
  induction ps with
  | nil => rfl
  | cons p ps ih =>
    cases ps with
    | nil => exact (congrArg decode (List.append_nil _)).trans (decode_of_pair p)
    | cons q ps =>
      rw [encode, List.map_cons, List.map_cons, List.intercalate_cons_cons, List.append_assoc,
        List.singleton_append, decode_join, decode_of_pair]
      exact congrArg (p :: ·) ih

/-- Pairs that are added are read after those that were there. -/
theorem decode_append (cs : List Char) (ps : List (String × String)) :
    decode (append cs ps) = decode cs ++ ps := by
  unfold append
  split
  · next h => rw [h, List.append_nil]
  split
  · next h =>
    subst h
    rw [decode_encode]
    rfl
  · rw [decode_join, decode_encode]

/-! ### Characters -/

variable {c : Char} {ps : List (String × String)}

def isWritten (c : Char) : Bool := isPlain c || c == '%' || isSign c

theorem isWritten_of_mem_encodeText {s : String} (h : c ∈ encodeText s) : isWritten c = true := by
  obtain ⟨d, -, hd⟩ := List.mem_flatMap.1 h
  unfold encodeChar at hd
  split at hd
  · obtain rfl := List.mem_singleton.1 hd
    rfl
  split at hd
  · next hp =>
    obtain rfl := List.mem_singleton.1 hd
    simp [isWritten, hp]
  · obtain ⟨b, -, hb⟩ := List.mem_flatMap.1 hd
    rcases of_mem_coded hb with rfl | hp
    · rfl
    · simp [isWritten, hp]

theorem isWritten_of_mem_encodePair {p : String × String} (h : c ∈ encodePair p) :
    isWritten c = true := by
  rcases List.mem_append.1 h with h | h
  · exact isWritten_of_mem_encodeText h
  · rcases List.mem_cons.1 h with rfl | h
    · rfl
    · exact isWritten_of_mem_encodeText h

theorem isWritten_of_mem_encode (h : c ∈ encode ps) : isWritten c = true := by
  induction ps with
  | nil => cases h
  | cons p ps ih =>
    cases ps with
    | nil =>
      exact isWritten_of_mem_encodePair (p := p) (by simpa [encode, List.intercalate] using h)
    | cons q ps =>
      rw [encode, List.map_cons, List.map_cons, List.intercalate_cons_cons] at h
      rcases List.mem_append.1 h with h | h
      · rcases List.mem_append.1 h with h | h
        · exact isWritten_of_mem_encodePair h
        · obtain rfl := List.mem_singleton.1 h
          rfl
      · exact ih h

theorem toNat_of_isAlphanum (h : c.isAlphanum = true) : 48 ≤ c.toNat ∧ c.toNat ≤ 122 := by
  have hbounds : ∀ {a b : UInt32}, a ≤ c.val ∧ c.val ≤ b → a.toNat ≤ c.toNat ∧ c.toNat ≤ b.toNat :=
    fun hab => ⟨UInt32.le_iff_toNat_le.1 hab.1, UInt32.le_iff_toNat_le.1 hab.2⟩
  obtain h | h : c.isAlpha = true ∨ c.isDigit = true := Bool.or_eq_true_iff.1 h
  · obtain h | h : c.isUpper = true ∨ c.isLower = true := Bool.or_eq_true_iff.1 h
    · obtain ⟨hlo, hhi⟩ := hbounds (of_decide_eq_true h)
      exact ⟨Nat.le_trans (by decide) hlo, Nat.le_trans hhi (by decide)⟩
    · obtain ⟨hlo, hhi⟩ := Bool.and_eq_true_iff.1 h
      obtain ⟨hlo, hhi⟩ := hbounds ⟨of_decide_eq_true hlo, of_decide_eq_true hhi⟩
      exact ⟨Nat.le_trans (by decide) hlo, Nat.le_trans hhi (by decide)⟩
  · obtain ⟨hlo, hhi⟩ := Char.isDigit_iff_toNat.1 h
    exact ⟨hlo, Nat.le_trans hhi (by decide)⟩

theorem kept_of_isWritten (h : isWritten c = true) : 0x20 < c.toNat ∧ c.toNat < 0x7F ∧
    c ∉ ['"', '#', '<', '>', '\''] := by
  have hcodes : ∀ n < 0x7F, isWritten (Char.ofNat n) = true → 0x20 < n ∧
      Char.ofNat n ∉ ['"', '#', '<', '>', '\''] := by decide
  have hlt : c.toNat < 0x7F := by
    simp only [isWritten, isPlain, isSign, Bool.or_eq_true, beq_iff_eq] at h
    rcases h with (((((h | rfl) | rfl) | rfl) | rfl) | rfl) | (rfl | rfl) | rfl
    · have := toNat_of_isAlphanum h
      omega
    all_goals decide
  have hc := hcodes c.toNat hlt
  rw [Char.ofNat_toNat] at hc
  obtain ⟨hlo, hset⟩ := hc h
  exact ⟨hlo, hlt, hset⟩

end Form

end Url

end SheetExport
