import Chargeback.Proofs.Number.Counts

/-!
# Magnitudes in binary64

Rounding keeps what a power of two bounds, as long as the format has that power
(`isWithin_of_rounded`). So the magnitude of a quotient and of a product of positive numbers is known
from those of the numbers (`IsWithin.div`, `IsWithin.mul`), and neither is rounded to zero nor to
infinity while the bounds stay in the format. In general a product can be divided by exactly if it is
in the range of the format (`isUsable_mul_iff`), and a product with zero never
(`isUsable_mul_zero`).
-/

namespace Chargeback.Binary64

open Float.Model Float.Model.UnpackedFloat

/-- A positive finite number from `2 ^ a` to `2 ^ b`. -/
structure IsWithin (a b : ℤ) (x : Float) : Prop where
  usable : Number.isUsable x = true
  lower : 2 ^ a ≤ value x
  upper : value x ≤ 2 ^ b

/-! ## What rounding keeps -/

section Rounding

variable {v : ℚ} {r a b : ℤ} {u : UnpackedFloat}

/-- What is rounded to a positive finite number gets the value of the significand nearest to it. -/
theorem exists_value_pack (hexponent : IsExponent v r) (h : Rounded .positive (v / 2 ^ r) r u)
    (hrange : InRange v) :
    ∃ n, 0 < n ∧ IsNearestEven (v / 2 ^ r) n ∧ value (.ofModel (.pack u)) = n * 2 ^ r := by
  cases h with
  | zero h => exact absurd ((lower_iff hexponent h).mp hrange.1) (lt_irrefl 0)
  | @finite n hpos hlt h =>
    have hr : r ≤ 971 := by
      have := (upper_iff hexponent h).mp hrange.2
      omega
    refine ⟨n, hpos, h, ?_⟩
    exact value_of_finite (unpack_pack_finite _ (isCanonical_of_nearest hexponent hpos hlt h hr))
  | carried hpos h =>
    have hr : r + 1 ≤ 971 := by
      have := (upper_iff hexponent h).mp hrange.2
      omega
    refine ⟨_, by norm_num, h, ?_⟩
    have hvalue : value (.ofModel (.pack (.finite .positive (2 ^ 52) (r + 1) hpos))) =
        (2 ^ 52 : ℕ) * 2 ^ (r + 1) :=
      value_of_finite (unpack_pack_finite .positive (isCanonical_of_carried hexponent hr))
    rw [hvalue, two_zpow_add_one]
    push_cast
    ring

theorem inRange_of_le (ha : -1074 ≤ a) (hb : b ≤ 1023) (hlower : 2 ^ a ≤ v) (hupper : v ≤ 2 ^ b) :
    InRange v := by
  constructor
  · calc (2 : ℚ) ^ (-1075 : ℤ) < 2 ^ (-1074 : ℤ) := zpow_lt_zpow_right₀ one_lt_two (by norm_num)
      _ ≤ 2 ^ a := two_zpow_le ha
      _ ≤ v := hlower
  · calc v ≤ 2 ^ b := hupper
      _ ≤ 2 ^ (1023 : ℤ) := two_zpow_le hb
      _ = 2 ^ 53 * 2 ^ (970 : ℤ) := two_zpow_eq (show (970 : ℤ) ≤ 1023 by norm_num)
      _ < (2 ^ 54 - 1) * 2 ^ (970 : ℤ) :=
        mul_lt_mul_of_pos_right (by norm_num) (zpow_pos two_pos _)

/-- **Rounding keeps what a power of two bounds.** -/
theorem isWithin_of_rounded (hexponent : IsExponent v r) (h : Rounded .positive (v / 2 ^ r) r u)
    (ha : -1074 ≤ a) (hb : b ≤ 1023) (hlower : 2 ^ a ≤ v) (hupper : v ≤ 2 ^ b) :
    IsWithin a b (.ofModel (.pack u)) := by
  have hrange := inRange_of_le ha hb hlower hupper
  obtain ⟨n, hn, hnearest, hvalue⟩ := exists_value_pack hexponent h hrange
  have hpos : (0 : ℚ) < 2 ^ r := zpow_pos two_pos r
  have hone : (1 : ℚ) ≤ n := by exact_mod_cast hn
  refine ⟨(isUsable_pack_iff hexponent h).mpr hrange, ?_, ?_⟩ <;> rw [hvalue]
  · rcases le_total r a with hr | hr
    · rw [two_zpow_eq hr] at hlower ⊢
      have hle : (2 ^ (a - r).toNat : ℕ) ≤ n := hnearest.le_of_le <| by
        rw [le_div_iff₀ hpos]
        exact_mod_cast hlower
      gcongr
      exact_mod_cast hle
    · calc (2 : ℚ) ^ a ≤ 2 ^ r := two_zpow_le hr
        _ ≤ n * 2 ^ r := le_mul_of_one_le_left hpos.le hone
  · have hr : r ≤ b := by
      by_contra hlt
      have hstep : (2 : ℚ) ^ b < 2 ^ r := zpow_lt_zpow_right₀ one_lt_two (not_le.mp hlt)
      rcases hexponent.above with hleast | habove
      · have hab : (2 : ℚ) ^ r ≤ 2 ^ a := two_zpow_le (hleast ▸ ha)
        linarith
      · linarith
    rw [two_zpow_eq hr] at hupper ⊢
    have hle : n ≤ (2 ^ (b - r).toNat : ℕ) := hnearest.ge_of_ge <| by
      rw [div_le_iff₀ hpos]
      exact_mod_cast hupper
    gcongr
    exact_mod_cast hle

end Rounding

/-! ## Counts, quotients and products -/

theorem isWithin_ofNat {n : ℕ} {a b : ℕ} (ha : 2 ^ a ≤ n) (hb : n ≤ 2 ^ b) (hle : b ≤ 1023) :
    IsWithin a b (Float.ofNat n) := by
  obtain ⟨u, r, hu, hexponent, hrounded⟩ := rounded_ofNat ((Nat.two_pow_pos a).trans_le ha)
  rw [hu]
  refine isWithin_of_rounded hexponent hrounded (by omega) (by omega) ?_ ?_ <;> rw [zpow_natCast]
  · exact_mod_cast ha
  · exact_mod_cast hb

/-- A positive finite number whose significand has its leading bit. -/
structure IsNormal (x : Float) : Prop where
  usable : Number.isUsable x = true
  lower : 2 ^ (-1022 : ℤ) ≤ value x

/-- The significand of a number that is not too small has its leading bit. -/
theorem IsNormal.two_pow_le {x : Float} {m : ℕ} {e : ℤ} {hpos : 0 < m} (h : IsNormal x)
    (hparts : parts x = .finite .positive m e hpos) : 2 ^ 52 ≤ m := by
  by_contra hlt
  have he : e = -1074 := (isCanonical_of_parts hparts).normal.resolve_right hlt
  have hm : (m : ℚ) < 2 ^ 52 := by exact_mod_cast not_le.mp hlt
  have hsmall : value x < 2 ^ (-1022 : ℤ) := by
    rw [value_of_finite hparts, he, two_zpow_eq (show (-1074 : ℤ) ≤ -1022 by norm_num)]
    exact mul_lt_mul_of_pos_right hm (zpow_pos two_pos _)
  exact absurd hsmall (not_lt.mpr h.lower)

section

variable {a b c d : ℤ} {x y : Float}

/-- A product of positive finite numbers is the exact product of their values, rounded, if one of
them is normal. -/
theorem exists_rounded_mul (hx : Number.isUsable x = true) (hy : IsNormal y) :
    ∃ u r, x * y = .ofModel (.pack u) ∧ IsExponent (value x * value y) r ∧
      Rounded .positive (value x * value y / 2 ^ r) r u := by
  obtain ⟨m₁, e₁, h₁, hpartsx⟩ := isUsable_iff.mp hx
  obtain ⟨m₂, e₂, h₂, hpartsy⟩ := isUsable_iff.mp hy.usable
  have hbits : 52 ≤ (m₁ * m₂).log2 := by
    rw [Nat.le_log2 (Nat.mul_pos h₁ h₂).ne']
    exact (hy.two_pow_le hpartsy).trans (Nat.le_mul_of_pos_left _ h₁)
  have hmul : x * y = .ofModel (.pack (UnpackedFloat.mul .binary64 (parts x) (parts y))) := rfl
  have hrounded := rounded_mul e₁ e₂ h₁ h₂ hbits
  rw [value_of_finite hpartsx, value_of_finite hpartsy, hmul, hpartsx, hpartsy]
  exact ⟨_, hrounded.choose, rfl, hrounded.choose_spec⟩

/-- **A product can be divided by** exactly if it is in the range. -/
theorem isUsable_mul_iff (hx : Number.isUsable x = true) (hy : IsNormal y) :
    Number.isUsable (x * y) = true ↔ InRange (value x * value y) := by
  obtain ⟨u, r, hmul, hexponent, hrounded⟩ := exists_rounded_mul hx hy
  rw [hmul]
  exact isUsable_pack_iff hexponent hrounded

namespace IsWithin

theorem isNormal (hx : IsWithin a b x) (ha : -1022 ≤ a) : IsNormal x :=
  ⟨hx.usable, (two_zpow_le ha).trans hx.lower⟩

/-- **A quotient.** -/
theorem div (hx : IsWithin a b x) (hy : IsWithin c d y) (hlower : -1074 ≤ a - d)
    (hupper : b - c ≤ 1023) : IsWithin (a - d) (b - c) (x / y) := by
  obtain ⟨u, r, hdiv, hexponent, hrounded⟩ := exists_rounded_div hx.usable hy.usable
  have hc : (0 : ℚ) < 2 ^ c := zpow_pos two_pos c
  rw [hdiv]
  refine isWithin_of_rounded hexponent hrounded hlower hupper ?_ ?_ <;> rw [zpow_sub₀ two_ne_zero]
  · exact div_le_div₀ ((zpow_pos two_pos a).le.trans hx.lower) hx.lower (hc.trans_le hy.lower)
      hy.upper
  · exact div_le_div₀ (zpow_pos two_pos b).le hx.upper hc hy.lower

/-- **A product.** -/
theorem mul (hx : IsWithin a b x) (hy : IsWithin c d y) (hc : -1022 ≤ c) (hlower : -1074 ≤ a + c)
    (hupper : b + d ≤ 1023) : IsWithin (a + c) (b + d) (x * y) := by
  obtain ⟨u, r, hmul, hexponent, hrounded⟩ := exists_rounded_mul hx.usable (hy.isNormal hc)
  have hpos : (0 : ℚ) < 2 ^ c := zpow_pos two_pos c
  rw [hmul]
  refine isWithin_of_rounded hexponent hrounded hlower hupper ?_ ?_ <;> rw [zpow_add₀ two_ne_zero]
  · exact mul_le_mul hx.lower hy.lower hpos.le ((zpow_pos two_pos a).le.trans hx.lower)
  · exact mul_le_mul hx.upper hy.upper (hpos.le.trans hy.lower) (zpow_pos two_pos b).le

end IsWithin

end

/-- A product with zero cannot be divided by. -/
theorem isUsable_mul_zero (x : Float) : Number.isUsable (x * 0) = false := by
  have hmul : parts (x * 0) = UnpackedFloat.unpack .binary64
    (UnpackedFloat.pack .binary64 (UnpackedFloat.mul .binary64 (parts x) (.zero .positive))) := rfl
  rw [Bool.eq_false_iff, Ne, isUsable_iff, hmul]
  rintro ⟨m, e, hpos, h⟩
  have hproduct : UnpackedFloat.mul .binary64 (parts x) (.zero .positive) = .notANumber ∨
      ∃ s, UnpackedFloat.mul .binary64 (parts x) (.zero .positive) = .zero s := by
    cases parts x with
    | infinity | notANumber => exact .inl rfl
    | zero | finite => exact .inr ⟨_, rfl⟩
  rcases hproduct with hproduct | ⟨s, hproduct⟩ <;> rw [hproduct] at h
  · cases h
  · rw [unpack_pack_zero] at h
    cases h

end Chargeback.Binary64
