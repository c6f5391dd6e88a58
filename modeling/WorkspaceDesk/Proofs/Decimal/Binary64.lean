import Mathlib.Algebra.Ring.Nat
import WorkspaceDesk.Decimal.Binary64

/-!
# The size of binary numbers

What a decimal number is rounded to is not much greater than the number itself: its whole part exceeds
that of the number by no more than one unit of the greatest exponent, so that it is always a number of
few digits (`wholePart_ofDecimal_le`).
-/

namespace WorkspaceDesk.Decimal.Binary64

variable {negative s : Bool} {num den digits m : Nat} {e power : Int}

theorem roundQuotient_le (num den : Nat) : roundQuotient num den ≤ num / den + 1 := by
  rw [roundQuotient]
  repeat' split
  all_goals omega

theorem wholePart_eq_mul {e : Int} (h : 0 ≤ e) : wholePart m e = m * 2 ^ e.toNat :=
  if_pos h

theorem wholePart_eq_div {e : Int} (h : ¬ 0 ≤ e) : wholePart m e = m / 2 ^ (-e).toNat :=
  if_neg h

theorem scaleByTwo_of_nonneg (h : 0 ≤ power) :
    scaleByTwo num den power = (num * 2 ^ power.toNat, den) :=
  if_pos h

theorem scaleByTwo_of_neg (h : ¬ 0 ≤ power) :
    scaleByTwo num den power = (num, den * 2 ^ (-power).toNat) :=
  if_neg h

/-- A rounded quotient exceeds the fraction by one unit of its exponent at most. -/
theorem wholePart_roundQuotient_le (num den : Nat) (e : Int) :
    wholePart (roundQuotient (scaleByTwo num den (-e)).1 (scaleByTwo num den (-e)).2) e ≤
      num / den + 2 ^ e.toNat := by
  have hround := roundQuotient_le (scaleByTwo num den (-e)).1 (scaleByTwo num den (-e)).2
  generalize roundQuotient (scaleByTwo num den (-e)).1 (scaleByTwo num den (-e)).2 = m at *
  have hunit : 0 < 2 ^ e.toNat := Nat.two_pow_pos _
  -- a quotient of more digits than the whole part has, then one of fewer
  by_cases he : 0 ≤ -e
  · rw [scaleByTwo_of_nonneg he] at hround
    dsimp only at hround
    have hscale : 0 < 2 ^ (-e).toNat := Nat.two_pow_pos _
    by_cases hzero : 0 ≤ e
    · obtain rfl : e = 0 := by omega
      rw [wholePart_eq_mul hzero]
      simpa using hround
    · have hm : m ≤ num * 2 ^ (-e).toNat / den + 2 ^ (-e).toNat := by omega
      have hdiv := Nat.div_le_div_right (c := 2 ^ (-e).toNat) hm
      rw [Nat.add_div_right _ hscale, Nat.div_div_eq_div_mul,
        Nat.mul_div_mul_right _ _ hscale] at hdiv
      rw [wholePart_eq_div hzero]
      omega
  · rw [scaleByTwo_of_neg he, Int.neg_neg] at hround
    dsimp only at hround
    rw [← Nat.div_div_eq_div_mul] at hround
    have hmul := Nat.mul_le_mul_right (2 ^ e.toNat) hround
    have hfloor := Nat.div_mul_le_self (num / den) (2 ^ e.toNat)
    rw [Nat.add_mul, Nat.one_mul] at hmul
    rw [wholePart_eq_mul (by omega)]
    omega

/-- The greatest significand with a digit less than all, at the greatest exponent. -/
def greatestStep : Nat := 2 ^ 52 * 2 ^ maxExponent.toNat

theorem wholePart_le_greatestStep (h : e ≤ maxExponent) : wholePart (2 ^ 52) e ≤ greatestStep := by
  unfold greatestStep
  by_cases hnonneg : 0 ≤ e
  · have hpow : 2 ^ e.toNat ≤ 2 ^ maxExponent.toNat :=
      Nat.pow_le_pow_right (by decide) (Int.toNat_le_toNat h)
    rw [wholePart_eq_mul hnonneg]
    exact Nat.mul_le_mul_left _ hpow
  · rw [wholePart_eq_div hnonneg]
    exact Nat.le_trans (Nat.div_le_self _ _) (Nat.le_mul_of_pos_right _ (Nat.two_pow_pos _))

theorem unit_le_greatestStep (h : e ≤ maxExponent) : 2 ^ e.toNat ≤ greatestStep := by
  have hpow : 2 ^ e.toNat ≤ 2 ^ maxExponent.toNat :=
    Nat.pow_le_pow_right (by decide) (Int.toNat_le_toNat h)
  exact Nat.le_trans hpow (Nat.le_mul_of_pos_left _ (Nat.two_pow_pos _))

/-- Halving a significand that is too long keeps the number below the greatest step. -/
theorem wholePart_ofRounded_le {n : Nat} {f : Int} (h : ofRounded negative n f = .finite s m e) :
    wholePart m e ≤ greatestStep ∨ m = n ∧ e = f ∧ f ≤ maxExponent := by
  unfold ofRounded at h
  split at h
  · split at h
    · cases h
    · rename_i hmax
      obtain ⟨-, rfl, rfl⟩ := Binary64.finite.inj h
      exact .inl (wholePart_le_greatestStep (Int.not_lt.mp hmax))
  · split at h
    · cases h
    · rename_i hmax
      obtain ⟨-, rfl, rfl⟩ := Binary64.finite.inj h
      exact .inr ⟨rfl, rfl, Int.not_lt.mp hmax⟩

/-- The whole part of a rounded fraction is little more than that of the fraction. -/
theorem wholePart_ofFraction_le (h : ofFraction negative num den = .finite s m e) :
    wholePart m e ≤ num / den + greatestStep := by
  unfold ofFraction at h
  split at h
  · obtain ⟨-, rfl, rfl⟩ := Binary64.finite.inj h
    rw [wholePart_eq_div (by decide), Nat.zero_div]
    exact Nat.zero_le _
  · have hround := wholePart_roundQuotient_le num den (exponentFor num den)
    rcases wholePart_ofRounded_le h with hstep | ⟨rfl, rfl, hmax⟩
    · exact Nat.le_add_left_of_le hstep
    · exact Nat.le_trans hround (Nat.add_le_add_left (unit_le_greatestStep hmax) _)

/-- The number of digits before the point beyond which decimal numbers are infinite. -/
def greatestSize : Nat := 400

/-- A bound of the whole parts of all finite numbers that decimal numbers are rounded to. -/
def wholeBound : Nat := 10 ^ greatestSize + greatestStep

theorem lt_pow_size (digits : Nat) : digits < 10 ^ (Nat.toDigits 10 digits).length :=
  (Nat.length_toDigits_le_iff (by decide) Nat.length_toDigits_pos).mp (Nat.le_refl _)

/-- No decimal number is rounded to one beyond the bound. -/
theorem wholePart_ofDecimal_le (h : ofDecimal negative digits power = .finite s m e) :
    wholePart m e ≤ wholeBound := by
  have hsize := lt_pow_size digits
  have hzero : wholePart 0 minExponent = 0 := by
    rw [wholePart_eq_div (by decide), Nat.zero_div]
  unfold ofDecimal at h
  dsimp only at h
  split at h
  · obtain ⟨-, rfl, rfl⟩ := Binary64.finite.inj h
    rw [hzero]
    exact Nat.zero_le _
  split at h
  · cases h
  split at h
  · obtain ⟨-, rfl, rfl⟩ := Binary64.finite.inj h
    rw [hzero]
    exact Nat.zero_le _
  -- beyond `greatestSize` digits before the point the number would be infinite
  rename_i hlarge _
  generalize (Nat.toDigits 10 digits).length = size at hsize hlarge
  split at h
  · have hexp : size + power.toNat ≤ greatestSize := by
      unfold greatestSize
      omega
    have hpow : digits * 10 ^ power.toNat ≤ 10 ^ greatestSize := by
      calc digits * 10 ^ power.toNat ≤ 10 ^ size * 10 ^ power.toNat :=
            Nat.mul_le_mul_right _ (Nat.le_of_lt hsize)
        _ = 10 ^ (size + power.toNat) := (Nat.pow_add _ _ _).symm
        _ ≤ 10 ^ greatestSize := Nat.pow_le_pow_right (by decide) hexp
    have hle := wholePart_ofFraction_le h
    rw [Nat.div_one] at hle
    exact Nat.le_trans hle (Nat.add_le_add_right hpow _)
  · have hexp : size ≤ (-power).toNat + greatestSize := by
      unfold greatestSize
      omega
    have hpow : digits / 10 ^ (-power).toNat ≤ 10 ^ greatestSize := by
      apply Nat.div_le_of_le_mul
      calc digits ≤ 10 ^ size := Nat.le_of_lt hsize
        _ ≤ 10 ^ ((-power).toNat + greatestSize) := Nat.pow_le_pow_right (by decide) hexp
        _ = 10 ^ (-power).toNat * 10 ^ greatestSize := Nat.pow_add _ _ _
    exact Nat.le_trans (wholePart_ofFraction_le h) (Nat.add_le_add_right hpow _)

end WorkspaceDesk.Decimal.Binary64
