import Chargeback.Proofs.Number.Packing

/-!
# Quotients that can be divided by

The quotient of two positive finite numbers is positive and finite exactly if the exact quotient is
in a range of its own (`isUsable_div_iff`): more than half of the least positive number, which a tie
to the even significand takes down to zero, and less than what is rounded beyond the greatest one
(`InRange`).
-/

namespace Chargeback.Binary64

open Float.Model Float.Model.UnpackedFloat

/-- The positive numbers that are rounded to positive finite ones. -/
def InRange (v : ℚ) : Prop := 2 ^ (-1075 : ℤ) < v ∧ v < (2 ^ 54 - 1) * 2 ^ (970 : ℤ)

/-! ## What rounding gives -/

section Rounding

variable {v : ℚ} {r : ℤ} {n : ℕ}

/-- What is rounded to zero is out of the range. -/
theorem lower_iff (hexponent : IsExponent v r) (h : IsNearestEven (v / 2 ^ r) n) :
    2 ^ (-1075 : ℤ) < v ↔ 0 < n := by
  have hhalf : (2 : ℚ) ^ (-1074 : ℤ) = 2 * 2 ^ (-1075 : ℤ) := by
    rw [← two_zpow_add_one]
    rfl
  have hsmall : (0 : ℚ) < 2 ^ (-1075 : ℤ) := zpow_pos two_pos _
  have hleast : (2 : ℚ) ^ (-1074 : ℤ) ≤ 2 ^ r := two_zpow_le hexponent.least
  rw [h.pos_iff, lt_div_iff₀ (zpow_pos two_pos r)]
  generalize (2 : ℚ) ^ (-1075 : ℤ) = half at *
  rcases hexponent.above with hr | habove
  · rw [hr, hhalf]
    constructor <;> intro hv <;> linarith
  · -- a normal number is far from zero
    constructor <;> intro _ <;> linarith

/-- What is rounded to an exponent of the format is below the end of the range. -/
theorem upper_iff (hexponent : IsExponent v r) (h : IsNearestEven (v / 2 ^ r) n) :
    v < (2 ^ 54 - 1) * 2 ^ (970 : ℤ) ↔ r ≤ 970 ∨ r = 971 ∧ n < 2 ^ 53 := by
  have heven : n < 2 ^ 53 ↔ v / 2 ^ r < ((2 ^ 53 : ℕ) : ℚ) - 1 / 2 := h.lt_iff_of_even rfl
  rw [div_lt_iff₀ (zpow_pos two_pos r), Nat.cast_pow, Nat.cast_ofNat] at heven
  have hpos : (0 : ℚ) < 2 ^ (970 : ℤ) := zpow_pos two_pos _
  have hbelow := hexponent.below
  rcases lt_trichotomy r 971 with hr | hr | hr
  · have hle : (2 : ℚ) ^ r ≤ 2 ^ (970 : ℤ) := two_zpow_le (by omega)
    generalize (2 : ℚ) ^ (970 : ℤ) = p at *
    have hv : v < (2 ^ 54 - 1) * p := by linarith
    exact iff_of_true hv (.inl (by omega))
  · have htwice : (2 : ℚ) ^ r = 2 * 2 ^ (970 : ℤ) := by
      rw [hr, ← two_zpow_add_one]
      rfl
    rw [htwice] at heven
    generalize (2 : ℚ) ^ (970 : ℤ) = p at *
    have hright : (r ≤ 970 ∨ r = 971 ∧ n < 2 ^ 53) ↔ n < 2 ^ 53 := by omega
    rw [hright, heven]
    constructor <;> intro hv <;> linarith
  · have hge : 2 * (2 * (2 : ℚ) ^ (970 : ℤ)) ≤ 2 ^ r := by
      rw [← two_zpow_add_one, ← two_zpow_add_one]
      exact two_zpow_le hr
    have habove : 2 ^ 52 * 2 ^ r ≤ v := hexponent.above.resolve_left (by omega)
    generalize (2 : ℚ) ^ (970 : ℤ) = p at *
    have hv : ¬ v < (2 ^ 54 - 1) * p := by
      rw [not_lt]
      linarith
    exact iff_of_false hv (by omega)

/-- **What is rounded to a positive finite number** are the numbers in the range. -/
theorem isUsable_pack_iff {u : UnpackedFloat} (hexponent : IsExponent v r)
    (h : Rounded .positive (v / 2 ^ r) r u) :
    Number.isUsable (Float.ofModel (.pack u)) = true ↔ InRange v := by
  rw [isUsable_iff, parts_ofModel_pack, InRange]
  cases h with
  | zero h =>
    rw [unpack_pack_zero, lower_iff hexponent h]
    simp
  | @finite n hpos hlt h =>
    rw [lower_iff hexponent h, upper_iff hexponent h]
    by_cases hr : r ≤ 971
    · rw [unpack_pack_finite .positive (isCanonical_of_nearest hexponent hpos hlt h hr)]
      refine iff_of_true ⟨n, r, hpos, rfl⟩ ⟨hpos, ?_⟩
      omega
    · rw [unpack_pack_of_overflow .positive hpos (by omega)]
      exact iff_of_false (by simp) (by omega)
  | carried hpos h =>
    rw [lower_iff hexponent h, upper_iff hexponent h]
    by_cases hr : r ≤ 970
    · rw [unpack_pack_finite .positive (isCanonical_of_carried hexponent (by omega))]
      exact iff_of_true ⟨2 ^ 52, r + 1, hpos, rfl⟩ ⟨Nat.two_pow_pos 53, .inl hr⟩
    · rw [unpack_pack_of_overflow .positive hpos (by omega)]
      exact iff_of_false (by simp) (by omega)

end Rounding

/-! ## The quotient -/

section Quotient

variable {m₁ m₂ : ℕ} {e₁ e₂ : ℤ}

/-- A division computes enough bits of the quotient. -/
theorem log2_quotient_le {k : ℤ} (h₁ : 0 < m₁) (h₂ : 0 < m₂)
    (hk : k = min (e₁ - e₂) (max ((m₁.log2 : ℤ) + 1 + e₁ - (m₂.log2 + 1 + e₂) - 53) (-1074))) :
    k ≤ max (((m₁ <<< (e₁ - e₂ - k).toNat / m₂).log2 : ℤ) + 1 + k - 53) (-1074) := by
  by_cases hleast : k ≤ -1074
  · omega
  · generalize hd : (e₁ - e₂ - k).toNat = d
    have hbits : m₂.log2 + 53 ≤ m₁.log2 + d := by omega
    have hquotient : 2 ^ 52 ≤ m₁ <<< d / m₂ := by
      rw [Nat.le_div_iff_mul_le h₂, Nat.shiftLeft_eq]
      calc 2 ^ 52 * m₂ ≤ 2 ^ 52 * 2 ^ (m₂.log2 + 1) :=
            Nat.mul_le_mul_left _ Nat.lt_log2_self.le
        _ = 2 ^ (m₂.log2 + 53) := by rw [← Nat.pow_add]; congr 1; omega
        _ ≤ 2 ^ (m₁.log2 + d) := Nat.pow_le_pow_right two_pos hbits
        _ = 2 ^ m₁.log2 * 2 ^ d := Nat.pow_add 2 _ _
        _ ≤ m₁ * 2 ^ d := Nat.mul_le_mul_right _ (Nat.log2_self_le h₁.ne')
    have hlog : 52 ≤ (m₁ <<< d / m₂).log2 := by
      rw [Nat.le_log2 (by omega)]
      exact hquotient
    omega

/-- **A division** rounds the exact quotient. -/
theorem rounded_div (e₁ e₂ : ℤ) (h₁ : 0 < m₁) (h₂ : 0 < m₂) :
    ∃ r, IsExponent ((m₁ * 2 ^ e₁ : ℚ) / (m₂ * 2 ^ e₂)) r ∧
      Rounded .positive ((m₁ * 2 ^ e₁ : ℚ) / (m₂ * 2 ^ e₂) / 2 ^ r) r
        (UnpackedFloat.div .binary64 (.finite .positive m₁ e₁ h₁) (.finite .positive m₂ e₂ h₂)) := by
  let k := min (e₁ - e₂) (max ((m₁.log2 : ℤ) + 1 + e₁ - (m₂.log2 + 1 + e₂) - 53) (-1074))
  have hk : k ≤ e₁ - e₂ := min_le_left _ _
  have hlies := lies_div (a := m₁ <<< (e₁ - e₂ - k).toNat) h₂
  have hvalue : (m₁ * 2 ^ e₁ : ℚ) / (m₂ * 2 ^ e₂) =
      ((m₁ <<< (e₁ - e₂ - k).toNat : ℕ) : ℚ) / m₂ * 2 ^ k := by
    rw [div_mul_eq_mul_div, ← mul_two_zpow_eq m₁ hk, zpow_sub₀ two_ne_zero]
    field_simp
  exact rounded_roundWithAccuracy .positive hlies hvalue (log2_quotient_le h₁ h₂ rfl)

/-- A quotient of positive finite numbers is the exact quotient of their values, rounded. -/
theorem exists_rounded_div {x y : Float} (hx : Number.isUsable x = true)
    (hy : Number.isUsable y = true) :
    ∃ u r, x / y = .ofModel (.pack u) ∧ IsExponent (value x / value y) r ∧
      Rounded .positive (value x / value y / 2 ^ r) r u := by
  obtain ⟨m₁, e₁, h₁, hx⟩ := isUsable_iff.mp hx
  obtain ⟨m₂, e₂, h₂, hy⟩ := isUsable_iff.mp hy
  have hdiv : x / y = .ofModel (.pack (UnpackedFloat.div .binary64 (parts x) (parts y))) := rfl
  rw [value_of_finite hx, value_of_finite hy, hdiv, hx, hy]
  exact ⟨_, (rounded_div e₁ e₂ h₁ h₂).choose, rfl, (rounded_div e₁ e₂ h₁ h₂).choose_spec⟩

/-- **A quotient can be divided by** exactly if it is in the range. -/
theorem isUsable_div_iff {x y : Float} (hx : Number.isUsable x = true)
    (hy : Number.isUsable y = true) :
    Number.isUsable (x / y) = true ↔ InRange (value x / value y) := by
  obtain ⟨u, r, hdiv, hexponent, hrounded⟩ := exists_rounded_div hx hy
  rw [hdiv]
  exact isUsable_pack_iff hexponent hrounded

end Quotient

end Chargeback.Binary64
