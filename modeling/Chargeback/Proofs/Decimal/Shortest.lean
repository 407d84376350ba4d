import Mathlib.Tactic.Positivity
import Chargeback.Decimal.Shortest

/-!
# The digits of a shortest decimal

A decimal that is written in full and ends in zeros must not be made of zeros only, or the text
would start with several of them. Zero is never near enough to a positive number to be taken for it
(`Interval.neighbour?_ne_zero`). It could only be what is left when the search for a near decimal
gives up; for numbers of the size that is written in full, there are other digits in that case too
(`digits_shortest_ne_zero`).
-/

namespace Chargeback.Decimal

theorem trim_digits_ne_zero {fuel : Nat} {d : Decimal} (h : d.digits ≠ 0) :
    (trim fuel d).digits ≠ 0 := by
  induction fuel generalizing d with
  | zero => exact h
  | succ fuel ih =>
    unfold trim
    split
    · next hzero =>
      refine ih ?_
      change d.digits / 10 ≠ 0
      omega
    · exact h

theorem leBinary_iff {a b : Nat} {t q : Int} :
    leBinary a t b q = true ↔
      a * 10 ^ t.toNat * 2 ^ (-q).toNat ≤ b * 2 ^ q.toNat * 10 ^ (-t).toNat :=
  decide_eq_true_iff

theorem geBinary_iff {a b : Nat} {t q : Int} :
    geBinary a t b q = true ↔
      b * 2 ^ q.toNat * 10 ^ (-t).toNat ≤ a * 10 ^ t.toNat * 2 ^ (-q).toNat :=
  decide_eq_true_iff

namespace Interval

variable {i : Interval} {tie : Tie} {t : Int}

/-- An interval of positive numbers does not hold zero. -/
theorem holds_zero (h : 0 < i.lower) : i.holds 0 t = false := by
  have hge : geBinary 0 t i.lower i.exponent = false := by
    have hpos : 0 < i.lower * 2 ^ i.exponent.toNat * 10 ^ (-t).toNat := by positivity
    rw [← Bool.not_eq_true, geBinary_iff, Nat.zero_mul, Nat.zero_mul, Nat.le_zero]
    exact hpos.ne'
  have hle : leBinary 0 t i.lower i.exponent = true := by
    rw [leBinary_iff, Nat.zero_mul, Nat.zero_mul]
    exact Nat.zero_le _
  simp [holds, hge, hle]

theorem neighbour?_ne_zero (h : 0 < i.lower) {n : Nat} (hn : i.neighbour? tie t = some n) :
    n ≠ 0 := by
  have hbelow (hholds : i.holds (i.below t) t = true) : i.below t ≠ 0 := by
    intro hzero
    rw [hzero, holds_zero h] at hholds
    cases hholds
  unfold neighbour? at hn
  dsimp only at hn
  split at hn
  · cases hn
  · next hholds _ =>
    cases hn
    exact hbelow hholds
  · cases hn
    exact Nat.succ_ne_zero _
  · next hholds _ =>
    have hne := hbelow hholds
    split at hn
    · cases hn
      exact hne
    · split at hn
      · cases hn
        exact Nat.succ_ne_zero _
      · split at hn <;> cases hn <;> omega

/-- **What a search ends with**: digits that are not all zero, or the greatest decimal that is at
most the number, on the last grid. -/
theorem digits_search (h : 0 < i.lower) (top : Int) (count fuel : Nat) :
    (i.search tie top count fuel).digits ≠ 0 ∨
      i.search tie top count fuel =
        ⟨i.below (top - (count + fuel : Nat) + 1), top - (count + fuel : Nat) + 1⟩ := by
  induction fuel generalizing count with
  | zero => exact .inr rfl
  | succ fuel ih =>
    unfold search
    split
    · next n hn => exact .inl (trim_digits_ne_zero (neighbour?_ne_zero h hn))
    · have hcount : count + 1 + fuel = count + (fuel + 1) := by omega
      rw [← hcount]
      exact ih (count + 1)

/-! ## When the search gives up -/

theorem leBinary_mono {a b : Nat} {s t q : Int} (hs : 0 ≤ s) (hst : s ≤ t)
    (h : leBinary a t b q = true) : leBinary a s b q = true := by
  rw [leBinary_iff] at h ⊢
  have hneg : (-s).toNat = (-t).toNat := by omega
  have hpow : 10 ^ s.toNat ≤ 10 ^ t.toNat := Nat.pow_le_pow_right (by decide) (by omega)
  rw [hneg]
  exact (Nat.mul_le_mul_right _ (Nat.mul_le_mul_left a hpow)).trans h

theorem below_ne_zero (h : leBinary 1 t i.centre i.exponent = true) : i.below t ≠ 0 := by
  rw [leBinary_iff, Nat.one_mul] at h
  have hpos : 0 < 2 ^ (-i.exponent).toNat * 10 ^ t.toNat := by positivity
  refine (Nat.div_pos ?_ hpos).ne'
  rw [Nat.mul_comm (2 ^ _)]
  exact h

/-- A power of ten is compared with the number as a power of sixteen with a power of two. -/
theorem leBinary_one {power : Nat} (hcentre : 0 < i.centre)
    (hsize : 4 * (power : Int) ≤ i.centre.log2 + i.exponent) :
    leBinary 1 power i.centre i.exponent = true := by
  obtain ⟨bits, hbits⟩ := Int.eq_ofNat_of_zero_le (by omega : 0 ≤ i.centre.log2 + i.exponent)
  have hsixteen : 10 ^ power ≤ 2 ^ bits :=
    calc 10 ^ power ≤ 16 ^ power := Nat.pow_le_pow_left (by decide) power
      _ = 2 ^ (4 * power) := (Nat.pow_mul 2 4 power).symm
      _ ≤ 2 ^ bits := Nat.pow_le_pow_right (by decide) (by omega)
  have hlog : 2 ^ i.centre.log2 ≤ i.centre := Nat.log2_self_le hcentre.ne'
  have hexponents : bits + (-i.exponent).toNat = i.centre.log2 + i.exponent.toNat := by omega
  have hneg : (-(power : Int)).toNat = 0 := by omega
  rw [leBinary_iff, Nat.one_mul]
  calc 10 ^ (power : Int).toNat * 2 ^ (-i.exponent).toNat
      ≤ 2 ^ bits * 2 ^ (-i.exponent).toNat := Nat.mul_le_mul_right _ hsixteen
    _ = 2 ^ i.centre.log2 * 2 ^ i.exponent.toNat := by
      rw [← Nat.pow_add, ← Nat.pow_add, hexponents]
    _ ≤ i.centre * 2 ^ i.exponent.toNat := Nat.mul_le_mul_right _ hlog
    _ = i.centre * 2 ^ i.exponent.toNat * 10 ^ (-(power : Int)).toNat := by
      rw [hneg, Nat.pow_zero, Nat.mul_one]

/-- The power of ten of the leading digit is no more than seventeen too great for numbers of the
size that is written in full. -/
theorem leBinary_magnitude (hcentre : 0 < i.centre) (hlow : 17 < i.magnitude)
    (hhigh : i.magnitude < 33) :
    leBinary 1 (i.magnitude - 17) i.centre i.exponent = true := by
  unfold magnitude at hlow hhigh ⊢
  dsimp only at hlow hhigh ⊢
  set guess : Int := ((i.centre.log2 + i.exponent) * 30103) / 100000 with hguess
  split at hlow
  · next h =>
    rw [if_pos h]
    exact leBinary_mono (by omega) (by omega) h
  · next hnot =>
    rw [if_neg hnot] at hhigh ⊢
    split at hlow
    · next h =>
      rw [if_pos h]
      exact leBinary_mono (by omega) (by omega) h
    · next hnot' =>
      -- the estimate was too great, so all there is to go by are the bits it was made from
      rw [if_neg hnot'] at hhigh ⊢
      obtain ⟨power, hpower⟩ := Int.eq_ofNat_of_zero_le (by omega : 0 ≤ guess - 1 - 17)
      rw [hpower]
      exact leBinary_one hcentre (by omega)

end Interval

theorem lower_around_pos {m : Nat} (hm : 0 < m) (q : Int) : 0 < (Interval.around m q).lower := by
  unfold Interval.around
  dsimp only
  split <;> omega

theorem magnitude_of_digits_eq_zero {d : Decimal} (h : d.digits = 0) :
    d.magnitude = d.exponent := by
  rw [magnitude, h, Nat.toDigits_zero]
  simp

/-- **A shortest decimal that ends in zeros and is written in full has other digits too.** -/
theorem digits_shortest_ne_zero {tie : Tie} {m : Nat} (hm : 0 < m) {q : Int}
    (hexponent : 0 < (shortest tie m q).exponent) (hmagnitude : (shortest tie m q).magnitude < 16) :
    (shortest tie m q).digits ≠ 0 := by
  set i := Interval.around m q
  have hcentre : 0 < i.centre := Nat.mul_pos (by decide) hm
  rcases Interval.digits_search (lower_around_pos hm q) i.magnitude 1 17 with h | h
  · exact h
  · -- the search has given up on the last grid, where the exponent says how large the number is
    have hlast : shortest tie m q = ⟨i.below (i.magnitude - 17), i.magnitude - 17⟩ := by
      have hgrid : i.magnitude - ((1 + 17 : Nat) : Int) + 1 = i.magnitude - 17 := by omega
      rw [hgrid] at h
      exact h
    intro hzero
    rw [magnitude_of_digits_eq_zero hzero] at hmagnitude
    rw [hlast] at hexponent hmagnitude hzero
    dsimp only at hexponent hmagnitude hzero
    exact Interval.below_ne_zero
      (Interval.leBinary_magnitude hcentre (by omega) (by omega)) hzero

end Chargeback.Decimal
