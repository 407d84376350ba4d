import Chargeback.Proofs.Number.Division
import Chargeback.Proofs.Number.Order
import Chargeback.Series.Basic

/-!
# Counts and grid times in binary64

A number is not-a-number after it has been packed only if it was before (`isNaN_pack`). So a
quotient or a product with a positive finite number is a number, and the grid time of a number is
one (`isNaN_quantize`). A count is rounded when it becomes a number (`rounded_ofNat`), but a count of
at least one becomes a positive number (`ofNat_pos`), as it is far from what is rounded to zero.
-/

namespace Chargeback.Binary64

open Float.Model Float.Model.UnpackedFloat

/-! ## Not-a-number -/

theorem isNaN_ofFields {s : Sign} {biased : ℕ} (h : biased < 2047) (fraction : ℕ) :
    (ofFields s biased fraction).isNaN = false := by
  unfold ofFields
  rw [if_neg h.ne]
  split
  · split <;> rfl
  · rfl

theorem unpack_packedInfinity (s : Sign) :
    UnpackedFloat.unpack .binary64 (packedInfinity .binary64 s) = .infinity s :=
  unpack_packComponents s (-1#11) 0#52

/-- **Packing** makes not-a-number of nothing else. -/
theorem isNaN_pack (u : UnpackedFloat) : (Float.ofModel (.pack u)).isNaN = u.isNaN := by
  change (parts (.ofModel (.pack u))).isNaN = u.isNaN
  rw [parts_ofModel_pack]
  cases u with
  | infinity s => exact congrArg UnpackedFloat.isNaN (unpack_packedInfinity s)
  | notANumber => rfl
  | zero s => rw [unpack_pack_zero]
  | finite s m e hpos =>
    unfold UnpackedFloat.pack
    dsimp only
    generalize (e + (Format.binary64.exponentBias : ℤ) + (52 : ℕ)).toNat = k
    split
    · rw [unpack_packedInfinity]
      rfl
    · split
      · rw [unpack_packComponents]
        refine isNaN_ofFields ?_ _
        rw [BitVec.toNat_ofNat]
        omega
      · rw [unpack_packComponents]
        exact isNaN_ofFields (by decide) _

theorem isNaN_roundWithAccuracy (s : Sign) (m : ℕ) (e : ℤ) (acc : Accuracy) :
    (roundWithAccuracy .binary64 s m e acc).isNaN = false := by
  unfold roundWithAccuracy
  dsimp only
  split <;> rfl

section

variable {x y : Float} {s : Sign} {m : ℕ} {e : ℤ} {hpos : 0 < m}

theorem isNaN_div (hx : x.isNaN = false) (hy : parts y = .finite s m e hpos) :
    (x / y).isNaN = false := by
  have hdiv : x / y = .ofModel (.pack (UnpackedFloat.div .binary64 (parts x) (parts y))) := rfl
  have hparts : (parts x).isNaN = false := hx
  rw [hdiv, isNaN_pack, hy]
  cases h : parts x with
  | notANumber => rw [h] at hparts; cases hparts
  | infinity | zero => rfl
  | finite => exact isNaN_roundWithAccuracy _ _ _ _

theorem isNaN_mul (hx : x.isNaN = false) (hy : parts y = .finite s m e hpos) :
    (x * y).isNaN = false := by
  have hmul : x * y = .ofModel (.pack (UnpackedFloat.mul .binary64 (parts x) (parts y))) := rfl
  have hparts : (parts x).isNaN = false := hx
  rw [hmul, isNaN_pack, hy]
  cases h : parts x with
  | notANumber => rw [h] at hparts; cases hparts
  | infinity | zero => rfl
  | finite => exact isNaN_roundWithAccuracy _ _ _ _

theorem isNaN_neg (x : Float) : (-x).isNaN = x.isNaN := by
  have hneg : -x = .ofModel (.pack (parts x).neg) := rfl
  change _ = (parts x).isNaN
  rw [hneg, isNaN_pack]
  cases parts x <;> rfl

end

/-! ## Counts -/

/-- A positive number that is not rounded to zero is positive after packing, if not finite. -/
theorem pos_pack_finite {m : ℕ} {e : ℤ} (hpos : 0 < m) (h : e ≤ 971 → IsCanonical m e) :
    (0 : Float) < .ofModel (.pack (.finite .positive m e hpos)) := by
  have hzero : parts 0 = .zero .positive := rfl
  rw [lt_iff_compare, hzero, parts_ofModel_pack, beq_iff_eq, compare_zero_eq_lt_iff]
  by_cases he : e ≤ 971
  · exact .inr ⟨m, e, hpos, unpack_pack_finite .positive (h he)⟩
  · exact .inl (unpack_pack_of_overflow .positive hpos (by omega))

theorem pos_pack_of_rounded {v : ℚ} {r : ℤ} {u : UnpackedFloat} (hv : 2 ^ (-1075 : ℤ) < v)
    (hexponent : IsExponent v r) (h : Rounded .positive (v / 2 ^ r) r u) :
    (0 : Float) < .ofModel (.pack u) := by
  cases h with
  | zero h => exact absurd ((lower_iff hexponent h).mp hv) (lt_irrefl 0)
  | finite hpos hlt h => exact pos_pack_finite hpos (isCanonical_of_nearest hexponent hpos hlt h)
  | carried hpos h => exact pos_pack_finite hpos (isCanonical_of_carried hexponent)

/-- **A multiplication** rounds the exact product, if its significand has enough bits. -/
theorem rounded_mul {m₁ m₂ : ℕ} (e₁ e₂ : ℤ) (h₁ : 0 < m₁) (h₂ : 0 < m₂)
    (hbits : 52 ≤ (m₁ * m₂).log2) :
    ∃ r, IsExponent ((m₁ * 2 ^ e₁ : ℚ) * (m₂ * 2 ^ e₂)) r ∧
      Rounded .positive ((m₁ * 2 ^ e₁ : ℚ) * (m₂ * 2 ^ e₂) / 2 ^ r) r
        (UnpackedFloat.mul .binary64 (.finite .positive m₁ e₁ h₁) (.finite .positive m₂ e₂ h₂)) := by
  have hvalue : (m₁ * 2 ^ e₁ : ℚ) * (m₂ * 2 ^ e₂) = (m₁ * m₂ : ℕ) * 2 ^ (e₁ + e₂) := by
    rw [zpow_add₀ two_ne_zero]
    push_cast
    ring
  exact rounded_roundWithAccuracy .positive (lies_exact (m₁ * m₂)) hvalue (by omega)

/-- A count that a significand holds is exact. -/
theorem exactly_toFloat {n : ℕ} (hpos : 0 < n) (hlt : n < 2 ^ 53) :
    Exactly (n * 2 ^ (0 : ℤ)) (parts n.toUInt64.toFloat) := by
  have hnat : n.toUInt64.toNat = n := Nat.mod_eq_of_lt (by omega)
  have hcompare : compare (n : ℤ) 0 = .gt := by
    rw [compare_gt_iff_gt]
    exact_mod_cast hpos
  have hfloat : n.toUInt64.toFloat =
      .ofModel (.pack (UnpackedFloat.round .binary64 .positive n 0)) := by
    change Float.ofModel
      (.pack (UnpackedFloat.normalize .binary64 n.toUInt64.toNat 0 .positive)) = _
    rw [hnat, UnpackedFloat.normalize, hcompare]
    rfl
  obtain ⟨r, hexponent, hrounded⟩ := rounded_round hpos 0
  have hexactly := exactly_of_rounded rfl hpos hlt (by decide) (by decide) hexponent hrounded
  rw [hfloat, parts_ofModel_pack, hexactly.unpack_pack]
  exact hexactly

/-- **A count** is rounded when it becomes a number. -/
theorem rounded_ofNat {n : ℕ} (hn : 0 < n) :
    ∃ u r, Float.ofNat n = .ofModel (.pack u) ∧ IsExponent n r ∧
      Rounded .positive (n / 2 ^ r) r u := by
  have hbits {k : ℕ} (hk : 0 < k) (b : ℕ) : b ≤ (k * 2 ^ b).log2 := by
    rw [Nat.le_log2 (Nat.mul_pos hk (Nat.two_pow_pos b)).ne']
    exact Nat.le_mul_of_pos_left _ hk
  change ∃ u r, Float.ofScientific n false 0 = _ ∧ _
  unfold Float.ofScientific
  split
  · next h =>
    -- the count itself is exact, and its product with one is rounded again
    have hone : parts 1 = .finite .positive (2 ^ 52) (-52) (Nat.two_pow_pos 52) := rfl
    have hunit : ((2 ^ 52 : ℕ) * 2 ^ (-52 : ℤ) : ℚ) = 1 := by norm_num
    have hmul : n.toUInt64.toFloat * 1 = .ofModel (.pack (UnpackedFloat.mul .binary64
      (parts n.toUInt64.toFloat) (parts 1))) := rfl
    have hexactly := exactly_toFloat hn h.1
    rw [zpow_zero, mul_one] at hexactly
    change ∃ u r, n.toUInt64.toFloat * 1 = _ ∧ _
    rw [hmul, hone]
    generalize parts n.toUInt64.toFloat = u at hexactly
    have hcount : (n : ℚ) ≠ 0 := by exact_mod_cast hn.ne'
    generalize (n : ℚ) = v at hexactly hcount
    cases hexactly with
    | zero => exact absurd rfl hcount
    | @finite m e hm =>
      have hrounded := rounded_mul e (-52) hm.pos (Nat.two_pow_pos 52) (hbits hm.pos 52)
      rw [hunit, mul_one] at hrounded
      exact ⟨_, hrounded.choose, rfl, hrounded.choose_spec⟩
  · next h =>
    have hexponent : (2 : ℤ) ^ Format.binary64.exponentBits = 2048 := rfl
    have hmantissa : Format.binary64.mantissaBits = 53 := rfl
    change ∃ u r, Float.ofModel (.pack (UnpackedFloat.ofScientific .binary64 n 0)) = _ ∧ _
    unfold UnpackedFloat.ofScientific
    rw [dif_neg hn.ne', if_neg (by decide), if_neg (by omega), if_pos (le_refl _)]
    have hshift : n <<< 53 = n * 2 ^ 53 := Nat.shiftLeft_eq n 53
    have hpos : 0 < n <<< 53 := hshift ▸ Nat.mul_pos hn (Nat.two_pow_pos 53)
    have hvalue : ((n <<< 53 : ℕ) * 2 ^ (-(53 : ℕ) : ℤ) : ℚ) * ((1 : ℕ) * 2 ^ (0 : ℤ)) = n := by
      rw [hshift, Nat.cast_mul, Nat.cast_pow, Nat.cast_ofNat, zpow_neg, zpow_natCast,
        mul_inv_cancel_right₀ (pow_ne_zero 53 two_ne_zero), zpow_zero, Nat.cast_one, mul_one,
        mul_one]
    have hlog : 52 ≤ (n <<< 53 * 1).log2 := by
      rw [mul_one, hshift]
      exact (Nat.le_succ 52).trans (hbits hn 53)
    have hrounded := rounded_mul (-(53 : ℕ)) 0 hpos Nat.one_pos hlog
    rw [hvalue] at hrounded
    exact ⟨_, hrounded.choose, rfl, hrounded.choose_spec⟩

/-- **A count of at least one** is a positive number. -/
theorem ofNat_pos {n : ℕ} (hn : 0 < n) : (0 : Float) < Float.ofNat n := by
  obtain ⟨u, r, hu, hexponent, hrounded⟩ := rounded_ofNat hn
  have hsmall : (2 : ℚ) ^ (-1075 : ℤ) < 1 := zpow_lt_one_of_neg₀ one_lt_two (by norm_num)
  have hcount : (1 : ℚ) ≤ n := by exact_mod_cast hn
  rw [hu]
  exact pos_pack_of_rounded (hsmall.trans_le hcount) hexponent hrounded

theorem isNaN_ofNat (n : ℕ) : (Float.ofNat n).isNaN = false := by
  rcases Nat.eq_zero_or_pos n with rfl | hn
  · decide +kernel
  · exact (isNaN_of_lt (ofNat_pos hn)).2

/-! ## Grid times -/

theorem isNaN_nearest {x : Float} (h : x.isNaN = false) : (nearest x).isNaN = false := by
  unfold nearest
  split
  · split
    · exact h
    · dsimp only
      split
      · rw [isNaN_neg, isNaN_ofNat]
      · exact isNaN_ofNat _
  · exact h

/-- **The grid time of a number** is a number. -/
theorem isNaN_quantize {t : Float} (h : t.isNaN = false) :
    (quantize t gridWidth).isNaN = false := by
  have hwidth : parts (gridWidth : Float) = .finite .positive (5 * 2 ^ 50) (-49) (by decide) := rfl
  exact isNaN_mul (isNaN_nearest (isNaN_div h hwidth)) hwidth

end Chargeback.Binary64
