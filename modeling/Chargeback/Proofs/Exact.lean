import Mathlib.Algebra.BigOperators.Group.List.Basic
import Mathlib.Data.Rat.Floor
import Mathlib.Tactic.Linarith
import Mathlib.Tactic.Ring
import Chargeback.Number.Instances
import Chargeback.Series.Basic

/-!
# Exact arithmetic

What the operations of `Number` come to over the rational numbers. Sums are the sums of lists, every
number is finite, and the nearest multiple of a width is the width times an integer. Since integers
are their own nearest integers, a multiple stays where it is (`quantize_intCast_mul`). So moving a
time to the grid twice is moving it once (`gridTime_gridTime`), and time zero is on the grid.
-/

namespace Chargeback

namespace Exact

theorem sum_eq (xs : List ℚ) : Number.sum xs = xs.sum := by
  change xs.foldl (· + ·) 0 = xs.sum
  rw [List.sum_eq_foldl]

theorem isUsable_iff (x : ℚ) : Number.isUsable x = true ↔ 0 < x := by
  change (decide (0 < x) && true) = true ↔ 0 < x
  simp

/-! ## The nearest integer -/

theorem exists_nearest_eq (x : ℚ) : ∃ n : ℤ, nearest x = n := by
  unfold nearest
  split
  · exact ⟨_, rfl⟩
  · exact ⟨-_, by push_cast; rfl⟩

theorem floor_intCast_add_half (n : ℤ) : ((n : ℚ) + 1 / 2).floor = n := by
  change ⌊(n : ℚ) + 1 / 2⌋ = n
  rw [Int.floor_intCast_add, Int.floor_eq_zero_iff.mpr (by norm_num), add_zero]

theorem nearest_intCast (n : ℤ) : nearest (n : ℚ) = n := by
  unfold nearest
  split
  · rw [floor_intCast_add_half]
  · rw [show -(n : ℚ) = ((-n : ℤ) : ℚ) by push_cast; rfl, floor_intCast_add_half]
    push_cast
    ring

end Exact

/-! ## The nearest multiple of a width -/

theorem quantize_eq (t width : ℚ) : quantize t width = Exact.nearest (t / width) * width := rfl

theorem exists_quantize_eq (t width : ℚ) : ∃ n : ℤ, quantize t width = n * width := by
  obtain ⟨n, hn⟩ := Exact.exists_nearest_eq (t / width)
  exact ⟨n, by rw [quantize_eq, hn]⟩

/-- A multiple of the width stays where it is. -/
theorem quantize_intCast_mul {width : ℚ} (h : width ≠ 0) (n : ℤ) :
    quantize (n * width) width = n * width := by
  rw [quantize_eq, mul_div_assoc, div_self h, mul_one, Exact.nearest_intCast]

theorem quantize_quantize {width : ℚ} (h : width ≠ 0) (t : ℚ) :
    quantize (quantize t width) width = quantize t width := by
  obtain ⟨n, hn⟩ := exists_quantize_eq t width
  rw [hn, quantize_intCast_mul h]

/-! ## Times on the grid -/

/-- The grid time nearest to a time. -/
def gridTime (t : ℚ) : ℚ := quantize t gridWidth

theorem gridWidth_pos : (0 : ℚ) < gridWidth := by decide

@[simp] theorem gridTime_zero : gridTime 0 = 0 := by
  have h := quantize_intCast_mul gridWidth_pos.ne' 0
  rwa [Int.cast_zero, zero_mul] at h

/-- **A time on the grid stays where it is.** -/
@[simp] theorem gridTime_gridTime (t : ℚ) : gridTime (gridTime t) = gridTime t :=
  quantize_quantize gridWidth_pos.ne' t

theorem ne_zero_of_gridTime_ne_zero {t : ℚ} (h : gridTime t ≠ 0) : t ≠ 0 := by
  rintro rfl
  exact h gridTime_zero

namespace Sample

theorem isDated_iff (s : Sample ℚ) : s.isDated = true ↔ s.time ≠ 0 := by
  simp [isDated, Number.isNaN]

@[simp] theorem time_onGrid (s : Sample ℚ) : s.onGrid.time = gridTime s.time := rfl

@[simp] theorem value_onGrid (s : Sample ℚ) : s.onGrid.value = s.value := rfl

end Sample

end Chargeback
