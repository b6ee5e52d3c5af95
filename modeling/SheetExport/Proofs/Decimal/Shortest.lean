import SheetExport.Decimal.Shortest

/-!
# The digits of a double

The reals that round to a positive value are positive, and so is the whole number
that stands for them in the units of any grid: only a zero has no digit but zero.
`exp_of_coeff_eq_zero` says this of the shortest decimal.
-/

namespace SheetExport.Decimal

variable {s : Span} {c n p : Nat}

theorem digitCount_le_iff {k : Nat} (hk : 0 < k) : digitCount n ≤ k ↔ n < Nat.pow 10 k :=
  Nat.length_toDigits_le_iff (by decide) hk

theorem digitCount_pos (n : Nat) : 0 < digitCount n :=
  List.length_pos_iff.2 Nat.toDigits_ne_nil

theorem lt_pow_digitCount (n : Nat) : n < Nat.pow 10 (digitCount n) :=
  (digitCount_le_iff (digitCount_pos n)).1 (Nat.le_refl _)

theorem pow_digitCount_le (hn : 0 < n) : Nat.pow 10 (digitCount n - 1) ≤ n := by
  rcases Nat.eq_zero_or_pos (digitCount n - 1) with h | h
  · rw [h]
    exact hn
  · refine Nat.not_lt.1 fun hlt => ?_
    have hle := (digitCount_le_iff h).2 hlt
    omega

namespace Span

/-- The span is of positive reals, with the value among them. -/
structure Positive (s : Span) : Prop where
  lo : 0 < s.lo
  val : 0 < s.val
  den : 0 < s.den

theorem Positive.inUnits (h : s.Positive) (g : Int) : (s.inUnits g).Positive := by
  have hpow : ∀ k, 0 < Nat.pow 10 k := fun k => Nat.pow_pos (by decide)
  unfold Span.inUnits
  split
  · exact ⟨h.lo, h.val, Nat.mul_pos h.den (hpow _)⟩
  · exact ⟨Nat.mul_pos h.lo (hpow _), Nat.mul_pos h.val (hpow _), h.den⟩

theorem Positive.ne_zero_of_mem (h : s.Positive) (hc : s.mem c = true) : c ≠ 0 := by
  rintro rfl
  have hlo := h.lo
  unfold mem at hc
  split at hc
  · simp only [Nat.zero_mul, Bool.and_eq_true, decide_eq_true_eq] at hc
    omega
  · simp only [Nat.zero_mul, Bool.and_eq_true, decide_eq_true_eq] at hc
    omega

theorem mem_of_nearest? (h : s.nearest? = some c) : s.mem c = true := by
  unfold nearest? at h
  simp only at h
  split at h
  · next hbelow habove =>
    split at h
    · cases h
      exact hbelow
    · cases h
      exact habove
  · next hbelow _ =>
    cases h
    exact hbelow
  · next _ habove =>
    cases h
    exact habove
  · cases h

/-- In units that are not above its leading place the value is one at least. -/
theorem den_le_val (h : s.Positive) (n : Nat) :
    (s.inUnits (s.magnitude - n)).den ≤ (s.inUnits (s.magnitude - n)).val := by
  unfold magnitude
  split
  · next hle =>
    have hdigits := pow_digitCount_le (Nat.div_pos hle h.den)
    unfold inUnits
    split
    · next hg =>
      have hexp : ((digitCount (s.val / s.den) : Int) - 1 - n).toNat ≤
          digitCount (s.val / s.den) - 1 := by omega
      have hpow := Nat.le_trans (Nat.pow_le_pow_right (by decide : 0 < 10) hexp) hdigits
      rw [Nat.mul_comm]
      exact (Nat.le_div_iff_mul_le h.den).1 hpow
    · exact Nat.le_trans hle (Nat.le_mul_of_pos_right _ (Nat.pow_pos (by decide)))
  · next hlt =>
    have hcount := digitCount_pos (s.den / s.val)
    unfold inUnits
    rw [if_neg (by omega)]
    have hexp : digitCount (s.den / s.val) ≤
        (-(-(digitCount (s.den / s.val) : Int) - n)).toNat := by omega
    have hpow := Nat.lt_of_lt_of_le (lt_pow_digitCount (s.den / s.val))
      (Nat.pow_le_pow_right (by decide : 0 < 10) hexp)
    rw [Nat.div_lt_iff_lt_mul h.val, Nat.mul_comm] at hpow
    exact Nat.le_of_lt hpow

theorem firstGrid_ne_zero (h : s.Positive) (fuel n : Nat) :
    (s.firstGrid s.magnitude fuel n).1 ≠ 0 := by
  induction fuel generalizing n with
  | zero =>
    have hden := (h.inUnits (s.magnitude - n)).den
    exact Nat.pos_iff_ne_zero.1 (Nat.div_pos (den_le_val h n) hden)
  | succ fuel ih =>
    unfold firstGrid
    cases hnearest : (s.inUnits (s.magnitude - n)).nearest? with
    | none => exact ih (n + 1)
    | some c => exact (h.inUnits _).ne_zero_of_mem (mem_of_nearest? hnearest)

end Span

theorem Binary64.positive_span {b : Binary64} (h : b.m ≠ 0) : b.span.Positive := by
  have hpow : ∀ k, 0 < Nat.pow 2 k := fun k => Nat.pow_pos (by decide)
  have hlo : 0 < 4 * b.m - (if b.tightBelow then 1 else 2) := by split <;> omega
  have hval : 0 < 4 * b.m := by omega
  unfold Binary64.span
  by_cases hq : 2 ≤ b.q
  · simp only [hq, if_true]
    exact ⟨Nat.mul_pos hlo (hpow _), Nat.mul_pos hval (hpow _), Nat.one_pos⟩
  · simp only [hq, if_false]
    exact ⟨hlo, hval, hpow _⟩

/-- The only decimal without a digit but zero is written without an exponent. -/
theorem exp_of_coeff_eq_zero {x : Float} (h : (shortest x).coeff = 0) : (shortest x).exp = 0 := by
  unfold shortest at h ⊢
  by_cases hm : (Binary64.ofFloat x).m = 0
  · simp only [hm, beq_self_eq_true, if_true]
  · have hne := Span.firstGrid_ne_zero (Binary64.positive_span hm) 17 0
    simp only [beq_eq_false_iff_ne.2 hm, Bool.false_eq_true, if_false] at h ⊢
    split at h
    · cases h
    · exact absurd h hne

end SheetExport.Decimal
