import Mathlib

/-!
# Rounding to the format

Binary64 arithmetic computes an exact result as a significand with two further bits, which tell
where the result lies between two halves (`Lies`). They survive the loss of digits
(`Lies.shiftRight`) and decide the nearest whole number, a tie going to the even one
(`Lies.isNearestEven`). So a number `v` is rounded at the exponent that the format has for
it (`IsExponent`), to the significand nearest to it (`rounded_roundWithAccuracy`).
-/

namespace Chargeback.Binary64

open Float.Model Float.Model.UnpackedFloat

theorem two_zpow_le {a b : ℤ} (h : a ≤ b) : (2 : ℚ) ^ a ≤ 2 ^ b :=
  zpow_le_zpow_right₀ one_le_two h

theorem two_zpow_add_one (a : ℤ) : (2 : ℚ) ^ (a + 1) = 2 * 2 ^ a := by
  rw [zpow_add₀ two_ne_zero, zpow_one, mul_comm]

/-- The steps from an exponent to a greater one. -/
theorem two_zpow_eq {e f : ℤ} (h : e ≤ f) : (2 : ℚ) ^ f = 2 ^ (f - e).toNat * 2 ^ e := by
  rw [← zpow_natCast, ← zpow_add₀ two_ne_zero, Int.toNat_of_nonneg (sub_nonneg.mpr h),
    sub_add_cancel]

/-- A significand is brought to a lesser exponent without loss. -/
theorem mul_two_zpow_eq (m : ℕ) {e f : ℤ} (h : e ≤ f) :
    (m * 2 ^ f : ℚ) = (m <<< (f - e).toNat : ℕ) * 2 ^ e := by
  rw [Nat.shiftLeft_eq, Nat.cast_mul, Nat.cast_pow, Nat.cast_ofNat, mul_assoc, two_zpow_eq h]

/-! ## The nearest whole number -/

/-- `n` is the whole number nearest to `t`, a tie going to the even one. -/
structure IsNearestEven (t : ℚ) (n : ℕ) : Prop where
  lower : (n : ℚ) - 1 / 2 ≤ t
  upper : t ≤ n + 1 / 2
  tie : t = n - 1 / 2 ∨ t = n + 1 / 2 → n % 2 = 0

namespace IsNearestEven

variable {t : ℚ} {n k : ℕ}

theorem pos_iff (h : IsNearestEven t n) : 0 < n ↔ 1 / 2 < t := by
  constructor
  · intro hn
    have hone : (1 : ℚ) ≤ n := by exact_mod_cast hn
    have hle : 1 / 2 ≤ t := by linarith [h.lower]
    refine lt_of_le_of_ne hle fun heq => ?_
    -- a half goes down to zero, which is even
    have hn1 : (n : ℚ) = 1 := by linarith [h.lower]
    have hodd : n = 1 := by exact_mod_cast hn1
    have heven : n % 2 = 0 := h.tie (.inl (by linarith))
    omega
  · intro ht
    by_contra hn
    have hzero : n = 0 := by omega
    have hupper := h.upper
    rw [hzero, Nat.cast_zero] at hupper
    linarith

theorem lt_of_lt (h : IsNearestEven t n) (ht : t < (k : ℚ) - 1 / 2) : n < k := by
  have hlt : (n : ℚ) < k := by linarith [h.lower]
  exact_mod_cast hlt

/-- Rounding does not leave what a whole number bounds. -/
theorem le_of_le (h : IsNearestEven t n) (ht : (k : ℚ) ≤ t) : k ≤ n := by
  have hlt : (k : ℚ) < n + 1 := by linarith [h.upper]
  exact Nat.le_of_lt_succ (by exact_mod_cast hlt)

theorem ge_of_ge (h : IsNearestEven t n) (ht : t ≤ (k : ℚ)) : n ≤ k := by
  have hlt : (n : ℚ) < k + 1 := by linarith [h.lower]
  exact Nat.le_of_lt_succ (by exact_mod_cast hlt)

/-- At an even number, also the half below goes up. -/
theorem lt_iff_of_even (h : IsNearestEven t n) (hk : k % 2 = 0) :
    n < k ↔ t < (k : ℚ) - 1 / 2 := by
  refine ⟨fun hn => ?_, h.lt_of_lt⟩
  have hle : (n : ℚ) + 1 ≤ k := by exact_mod_cast hn
  have hupper : t ≤ k - 1 / 2 := by linarith [h.upper]
  refine lt_of_le_of_ne hupper fun heq => ?_
  have hn1 : (n : ℚ) + 1 = k := by linarith [h.upper]
  have hodd : n + 1 = k := by exact_mod_cast hn1
  have heven : n % 2 = 0 := h.tie (.inr (by linarith))
  omega

/-- A whole number is nearest to itself. -/
theorem eq_of_nat (h : IsNearestEven (k : ℚ) n) : n = k :=
  (h.ge_of_ge le_rfl).antisymm (h.le_of_le le_rfl)

end IsNearestEven

/-! ## Significands with two further bits -/

/-- A significand with its first further bit, in halves. -/
def halves (em : ExtendedMantissa) : ℕ := 2 * em.mantissa + em.roundBit.toNat

/-- Where `t` lies: at the half that a significand and its first further bit name, or strictly
between it and the next, as the second bit tells. -/
def Lies (em : ExtendedMantissa) (t : ℚ) : Prop :=
  if em.stickyBit then (halves em : ℚ) < 2 * t ∧ 2 * t < halves em + 1 else 2 * t = halves em

theorem halves_shiftRightOne (em : ExtendedMantissa) : halves em.shiftRightOne = em.mantissa := by
  have hsplit := Nat.div_add_mod em.mantissa 2
  rcases Nat.mod_two_eq_zero_or_one em.mantissa with h | h <;>
    simp [halves, ExtendedMantissa.shiftRightOne, h] <;> omega

/-- The loss of a digit leaves the place. -/
theorem Lies.shiftRightOne {em : ExtendedMantissa} {t : ℚ} (h : Lies em t) :
    Lies em.shiftRightOne (t / 2) := by
  obtain ⟨m, first, second⟩ := em
  unfold Lies at h ⊢
  rw [halves_shiftRightOne]
  simp only [halves, Nat.cast_add, Nat.cast_mul, Nat.cast_ofNat] at h
  cases first <;> cases second <;>
    simp [ExtendedMantissa.shiftRightOne] at h ⊢
  · linarith
  · constructor <;> linarith
  · constructor <;> linarith
  · constructor <;> linarith

theorem Lies.shiftRight {em : ExtendedMantissa} {t : ℚ} (h : Lies em t) (n : ℕ) :
    Lies (em >>> n) (t / 2 ^ n) := by
  change Lies (n.repeat ExtendedMantissa.shiftRightOne em) _
  induction n with
  | zero => simpa [Nat.repeat] using h
  | succ n ih =>
    have hstep := ih.shiftRightOne
    rwa [div_div, ← pow_succ] at hstep

/-- **The rounded significand** is the nearest one. -/
theorem Lies.isNearestEven {em : ExtendedMantissa} {t : ℚ} (h : Lies em t) :
    IsNearestEven t em.roundedMantissa := by
  obtain ⟨m, first, second⟩ := em
  simp only [Lies, halves, Nat.cast_add, Nat.cast_mul, Nat.cast_ofNat] at h
  cases first <;> cases second <;>
    simp [ExtendedMantissa.roundedMantissa, ExtendedMantissa.accuracy,
      Accuracy.roundToNearestEven] at h ⊢
  · refine ⟨by linarith, by linarith, ?_⟩
    rintro (ht | ht) <;> linarith
  · refine ⟨by linarith, by linarith, ?_⟩
    rintro (ht | ht) <;> linarith
  · -- a tie: the significand is kept if it is even
    rcases Nat.mod_two_eq_zero_or_one m with hm | hm
    · rw [hm, Nat.add_zero]
      exact ⟨by linarith, by linarith, fun _ => hm⟩
    · rw [hm]
      refine ⟨by push_cast; linarith, by push_cast; linarith, fun _ => by omega⟩
  · refine ⟨by push_cast; linarith, by push_cast; linarith, ?_⟩
    push_cast
    rintro (ht | ht) <;> linarith

/-- The accuracy that a fraction is given tells where it lies. -/
theorem lies_fraction (q : ℕ) {r b : ℕ} (hr : r < b) :
    Lies (.ofMantissaAndAccuracy q (accuracyOfFraction r b)) (q + r / b : ℚ) := by
  have hb : (0 : ℚ) < b := by exact_mod_cast Nat.zero_lt_of_lt hr
  have hlt : (r : ℚ) / b < 1 := by
    rw [div_lt_one₀ hb]
    exact_mod_cast hr
  unfold accuracyOfFraction
  split
  · next hzero => simp [Lies, halves, ExtendedMantissa.ofMantissaAndAccuracy, hzero]
  · next hzero =>
    have hpos : 0 < (r : ℚ) / b := div_pos (by exact_mod_cast Nat.pos_of_ne_zero hzero) hb
    have htwice : 2 * ((r : ℚ) / b) = (2 * r : ℕ) / b := by
      push_cast
      ring
    rcases hcompare : compare (2 * r) b with _ | _ | _
    · have hhalf : 2 * ((r : ℚ) / b) < 1 := by
        rw [htwice, div_lt_one₀ hb]
        exact_mod_cast Nat.compare_eq_lt.mp hcompare
      simp only [Lies, halves, ExtendedMantissa.ofMantissaAndAccuracy, if_true, Bool.toNat_false]
      push_cast
      constructor <;> linarith
    · have hhalf : 2 * ((r : ℚ) / b) = 1 := by
        rw [htwice, div_eq_one_iff_eq hb.ne']
        exact_mod_cast Nat.compare_eq_eq.mp hcompare
      simp only [Lies, halves, ExtendedMantissa.ofMantissaAndAccuracy, Bool.toNat_true]
      push_cast
      linarith
    · have hhalf : 1 < 2 * ((r : ℚ) / b) := by
        rw [htwice, one_lt_div₀ hb]
        exact_mod_cast Nat.compare_eq_gt.mp hcompare
      simp only [Lies, halves, ExtendedMantissa.ofMantissaAndAccuracy, if_true, Bool.toNat_true]
      push_cast
      constructor <;> linarith

/-- The fraction that a division leaves tells where the quotient lies. -/
theorem lies_div {a b : ℕ} (hb : 0 < b) :
    Lies (.ofMantissaAndAccuracy (a / b) (accuracyOfFraction (a % b) b)) (a / b : ℚ) := by
  have hb' : (0 : ℚ) < b := by exact_mod_cast hb
  have hsplit : (a : ℚ) / b = (a / b : ℕ) + (a % b : ℕ) / b := by
    have hnat : (b : ℚ) * (a / b : ℕ) + (a % b : ℕ) = a := by exact_mod_cast Nat.div_add_mod a b
    field_simp
    linarith
  rw [hsplit]
  exact lies_fraction (a / b) (Nat.mod_lt a hb)

theorem lies_exact (m : ℕ) : Lies (.ofMantissaAndAccuracy m .exact) m := by
  simp [Lies, halves, ExtendedMantissa.ofMantissaAndAccuracy]

/-! ## The exponent of a number -/

/-- The format has the exponent `e` for the number `v`: the significand has fewer than 54 bits, and
no fewer than 53 except at the least exponent. -/
structure IsExponent (v : ℚ) (e : ℤ) : Prop where
  least : -1074 ≤ e
  below : v < 2 ^ 53 * 2 ^ e
  above : e = -1074 ∨ 2 ^ 52 * 2 ^ e ≤ v

theorem targetExponent_eq (k : ℤ) : Format.binary64.targetExponent k = max (k - 53) (-1074) := rfl

/-- The number whose significand starts with the bits of `m` has the exponent that the format has
for `m`, if `m` has enough bits. -/
theorem isExponent_of_lies {m : ℕ} {t v : ℚ} {e : ℤ} (hlower : (m : ℚ) ≤ t) (hupper : t < m + 1)
    (hv : v = t * 2 ^ e) (he : e ≤ max ((m.log2 : ℤ) + 1 + e - 53) (-1074)) :
    IsExponent v (max ((m.log2 : ℤ) + 1 + e - 53) (-1074)) := by
  have hbits : t < 2 ^ (m.log2 + 1) := by
    have hnat : ((m + 1 : ℕ) : ℚ) ≤ (2 ^ (m.log2 + 1) : ℕ) := by
      exact_mod_cast Nat.succ_le_of_lt Nat.lt_log2_self
    push_cast at hnat
    linarith
  have htwo : (1 : ℚ) < 2 := one_lt_two
  generalize hr : max ((m.log2 : ℤ) + 1 + e - 53) (-1074) = r at he
  refine ⟨by omega, ?_, ?_⟩
  · have hpow : (2 : ℚ) ^ (m.log2 + 1) * 2 ^ e ≤ 2 ^ 53 * 2 ^ r := by
      rw [← zpow_natCast, ← zpow_add₀ two_ne_zero, ← zpow_natCast, ← zpow_add₀ two_ne_zero]
      exact zpow_le_zpow_right₀ htwo.le (by push_cast; omega)
    have hpos : (0 : ℚ) < 2 ^ e := zpow_pos two_pos e
    calc v = t * 2 ^ e := hv
      _ < 2 ^ (m.log2 + 1) * 2 ^ e := mul_lt_mul_of_pos_right hbits hpos
      _ ≤ 2 ^ 53 * 2 ^ r := hpow
  · by_cases hleast : r = -1074
    · exact .inl hleast
    · right
      have hr' : r = (m.log2 : ℤ) + 1 + e - 53 := by omega
      have hm : m ≠ 0 := by
        rintro rfl
        rw [Nat.log2_zero] at hr'
        omega
      have hleading : (2 : ℚ) ^ m.log2 ≤ t := by
        have hnat : ((2 ^ m.log2 : ℕ) : ℚ) ≤ m := by exact_mod_cast Nat.log2_self_le hm
        push_cast at hnat
        linarith
      have hpow : (2 : ℚ) ^ 52 * 2 ^ r = 2 ^ m.log2 * 2 ^ e := by
        rw [← zpow_natCast, ← zpow_add₀ two_ne_zero, ← zpow_natCast, ← zpow_add₀ two_ne_zero]
        congr 1
        push_cast
        omega
      rw [hpow, hv]
      exact mul_le_mul_of_nonneg_right hleading (zpow_pos two_pos e).le

theorem Lies.bounds {em : ExtendedMantissa} {t : ℚ} (h : Lies em t) :
    (em.mantissa : ℚ) ≤ t ∧ t < em.mantissa + 1 := by
  obtain ⟨m, first, second⟩ := em
  simp only [Lies, halves, Nat.cast_add, Nat.cast_mul, Nat.cast_ofNat] at h
  cases first <;> cases second <;> simp at h <;> constructor <;> simp <;> linarith

/-! ## The rounded number -/

/-- `u` is `t · 2 ^ e`, rounded to a whole number of `2 ^ e`. A significand that has got one bit too
many is halved. -/
inductive Rounded (s : Sign) (t : ℚ) (e : ℤ) : UnpackedFloat → Prop
  | zero (h : IsNearestEven t 0) : Rounded s t e (.zero s)
  | finite {n : ℕ} (hpos : 0 < n) (hlt : n < 2 ^ 53) (h : IsNearestEven t n) :
      Rounded s t e (.finite s n e hpos)
  | carried (hpos : 0 < 2 ^ 52) (h : IsNearestEven t (2 ^ 53)) :
      Rounded s t e (.finite s (2 ^ 52) (e + 1) hpos)

/-- A rounded significand is brought to its exponent without loss. -/
theorem shiftToTargetExponent_rounded {n : ℕ} {e : ℤ} (hn : n ≤ 2 ^ 53) (he : -1074 ≤ e) :
    ((shiftToTargetExponent .binary64 n e .exact).1.mantissa,
      (shiftToTargetExponent .binary64 n e .exact).2) =
      if n = 2 ^ 53 then (2 ^ 52, e + 1) else (n, e) := by
  unfold shiftToTargetExponent shiftToExponent totalExponent
  rw [targetExponent_eq]
  dsimp only
  split
  · next heq =>
    have hlog : n.log2 = 53 := by rw [heq]; exact Nat.log2_two_pow
    have hshift : (max ((n.log2 : ℤ) + 1 + e - 53) (-1074) - e).toNat = 1 := by omega
    rw [hshift, heq]
    rfl
  · next hne =>
    have hlog : n.log2 < 53 := by
      by_cases hzero : n = 0
      · rw [hzero, Nat.log2_zero]
        omega
      · exact (Nat.log2_lt hzero).mpr (by omega)
    have hshift : (max ((n.log2 : ℤ) + 1 + e - 53) (-1074) - e).toNat = 0 := by omega
    rw [hshift, Nat.cast_zero, add_zero]
    rfl

/-- A significand is shifted to the exponent that the format has for it. -/
theorem shiftToTargetExponent_eq {m : ℕ} {e r : ℤ} (acc : Accuracy)
    (hr : max ((m.log2 : ℤ) + 1 + e - 53) (-1074) = r) (he : e ≤ r) :
    shiftToTargetExponent .binary64 m e acc =
      (ExtendedMantissa.ofMantissaAndAccuracy m acc >>> (r - e).toNat, r) := by
  unfold shiftToTargetExponent shiftToExponent totalExponent
  rw [targetExponent_eq, hr]
  dsimp only
  congr 1
  omega

/-- A significand that is nearest to a number, brought to the exponent of the number, is rounded. -/
theorem rounded_of_isNearestEven (s : Sign) {v : ℚ} {r : ℤ} {n : ℕ} (hexponent : IsExponent v r)
    (h : IsNearestEven (v / 2 ^ r) n) :
    Rounded s (v / 2 ^ r) r
      (let (em, e) := shiftToTargetExponent .binary64 n r .exact
       if hzero : em.mantissa = 0 then .zero s
       else .finite s em.mantissa e (Nat.pos_of_ne_zero hzero)) := by
  have hbelow : v / 2 ^ r < 2 ^ 53 := (div_lt_iff₀ (zpow_pos two_pos r)).mpr hexponent.below
  have hlt : n < 2 ^ 53 + 1 := h.lt_of_lt (by push_cast; linarith)
  have hshift := shiftToTargetExponent_rounded (Nat.le_of_lt_succ hlt) hexponent.least
  split at hshift
  · next heq =>
    obtain ⟨hmantissa, hexp⟩ := Prod.mk.inj hshift
    simp only [hmantissa, hexp]
    exact .carried _ (heq ▸ h)
  · next hne =>
    obtain ⟨hmantissa, hexp⟩ := Prod.mk.inj hshift
    simp only [hmantissa, hexp]
    split
    · next hzero => exact .zero (hzero ▸ h)
    · next hzero => exact .finite (Nat.pos_of_ne_zero hzero) (by omega) h

/-- **Rounding.** A number of which enough bits are known is rounded to a whole number of the power
of two that the format has for it. -/
theorem rounded_roundWithAccuracy (s : Sign) {m : ℕ} {e : ℤ} {acc : Accuracy} {t v : ℚ}
    (hlies : Lies (.ofMantissaAndAccuracy m acc) t) (hv : v = t * 2 ^ e)
    (he : e ≤ max ((m.log2 : ℤ) + 1 + e - 53) (-1074)) :
    ∃ r, IsExponent v r ∧ Rounded s (v / 2 ^ r) r (roundWithAccuracy .binary64 s m e acc) := by
  have hm : (ExtendedMantissa.ofMantissaAndAccuracy m acc).mantissa = m := by
    cases acc with
    | exact => rfl
    | inexact order => cases order <;> rfl
  obtain ⟨hlower, hupper⟩ := hlies.bounds
  rw [hm] at hlower hupper
  have hexponent := isExponent_of_lies hlower hupper hv he
  generalize hr : max ((m.log2 : ℤ) + 1 + e - 53) (-1074) = r at he hexponent
  refine ⟨r, hexponent, ?_⟩
  have hscaled : v / 2 ^ r = t / 2 ^ (r - e).toNat := by
    rw [hv, two_zpow_eq he, mul_div_mul_right _ _ (zpow_pos two_pos e).ne']
  have hnearest : IsNearestEven (v / 2 ^ r)
      (ExtendedMantissa.ofMantissaAndAccuracy m acc >>> (r - e).toNat).roundedMantissa := by
    rw [hscaled]
    exact (hlies.shiftRight _).isNearestEven
  -- the first shift brings the significand to the exponent, the second takes back a carry
  unfold roundWithAccuracy
  rw [shiftToTargetExponent_eq acc hr he]
  exact rounded_of_isNearestEven s hexponent hnearest

end Chargeback.Binary64
