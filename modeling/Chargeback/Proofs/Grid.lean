import Mathlib.Algebra.Order.Round
import Mathlib.Order.Monotone.Odd
import Chargeback.Proofs.Pricing.Scaling

/-!
# Moving times to the grid

In exact arithmetic the nearest integer is rounding to the nearest one from zero on, where a tie
goes up, and its mirror image below (`Exact.nearest_of_nonneg`, `Exact.nearest_neg`). So times are
moved to the multiples of a width in their order, by half a width at most, and a tie goes away from
zero (`retractsTo_quantize`).

Series are moved to the grid over and over: when they are priced, and by every merge. As multiples
stay where they are, this is no more than moving them once. A priced series and a merged one are on
the grid (`onGrid_of_mem_price`, `onGrid_merge`), and merging series that are on the grid leaves
every sample at its time (`OnGrid.mem_times_merge`, `OnGrid.weighted_merge`), up to the samples at
time zero, which a merge of two series with samples drops.
-/

namespace Chargeback

/-! ## The nearest integer -/

namespace Exact

theorem nearest_of_nonneg {x : ℚ} (h : 0 ≤ x) : nearest x = round x := by
  rw [nearest, if_pos h, round_eq]
  rfl

theorem nearest_neg (x : ℚ) : nearest (-x) = -nearest x := by
  rcases lt_trichotomy x 0 with h | rfl | h
  · have hx : ¬ 0 ≤ x := not_le.mpr h
    have hnx : 0 ≤ -x := neg_nonneg.mpr h.le
    rw [nearest, nearest, if_pos hnx, if_neg hx, neg_neg]
  · rw [neg_zero, show (0 : ℚ) = ((0 : ℤ) : ℚ) from rfl, nearest_intCast, Int.cast_zero, neg_zero]
  · have hnx : ¬ 0 ≤ -x := not_le.mpr (neg_neg_of_pos h)
    rw [nearest, nearest, if_neg hnx, if_pos h.le, neg_neg]

theorem monotone_nearest : Monotone nearest := by
  refine monotone_of_odd_of_monotoneOn_nonneg nearest_neg fun x hx y hy hxy => ?_
  rw [nearest_of_nonneg hx, nearest_of_nonneg hy, round_eq, round_eq]
  exact_mod_cast Int.floor_mono (add_le_add_left hxy _)

theorem abs_nearest_neg_sub (x : ℚ) : |nearest (-x) - -x| = |nearest x - x| := by
  rw [nearest_neg, neg_sub_neg, abs_sub_comm]

theorem abs_nearest_sub_le (x : ℚ) : |nearest x - x| ≤ 1 / 2 := by
  wlog h : 0 ≤ x generalizing x
  · rw [← abs_nearest_neg_sub]
    exact this (-x) (by linarith)
  rw [nearest_of_nonneg h, abs_sub_comm]
  exact abs_sub_round x

/-- A tie goes away from zero. -/
theorem abs_nearest_of_tie {x : ℚ} (htie : |nearest x - x| = 1 / 2) :
    |nearest x| = |x| + 1 / 2 := by
  wlog h : 0 ≤ x generalizing x
  · rw [← abs_neg, ← abs_neg x, ← nearest_neg]
    exact this (abs_nearest_neg_sub x ▸ htie) (by linarith)
  -- from zero on, the nearest integer is above what is half a unit below
  have hlt : x - 1 / 2 < nearest x := by
    rw [nearest_of_nonneg h, round_eq]
    linarith [Int.sub_one_lt_floor (x + 1 / 2)]
  have heq : nearest x = x + 1 / 2 := by
    rcases eq_or_eq_neg_of_abs_eq htie with h' | h' <;> linarith
  rw [heq, abs_of_nonneg h, abs_of_nonneg (by linarith)]

end Exact

/-! ## The nearest multiple of a width -/

/-- The function takes times to the multiples of a width as rounding to the nearest does. -/
structure RetractsTo (width : ℚ) (f : ℚ → ℚ) : Prop where
  multiple : ∀ t, ∃ n : ℤ, f t = n * width
  fixed : ∀ n : ℤ, f (n * width) = n * width
  near : ∀ t, |f t - t| ≤ width / 2
  /-- A tie goes away from zero. -/
  tie : ∀ t, |f t - t| = width / 2 → |f t| = |t| + width / 2
  monotone : Monotone f
  odd : ∀ t, f (-t) = -f t
  idempotent : ∀ t, f (f t) = f t

section Quantize

variable {width : ℚ}

theorem quantize_neg (t : ℚ) : quantize (-t) width = -quantize t width := by
  rw [quantize_eq, neg_div, Exact.nearest_neg, neg_mul, quantize_eq]

theorem monotone_quantize (h : 0 < width) : Monotone fun t => quantize t width := by
  intro s t hst
  have hdiv : s / width ≤ t / width := div_le_div_of_nonneg_right hst h.le
  exact mul_le_mul_of_nonneg_right (Exact.monotone_nearest hdiv) h.le

/-- A time is moved as far as its quotient, times the width. -/
theorem abs_quantize_sub (h : 0 < width) (t : ℚ) :
    |quantize t width - t| = |Exact.nearest (t / width) - t / width| * width := by
  have ht : quantize t width - t = (Exact.nearest (t / width) - t / width) * width := by
    rw [quantize_eq, sub_mul, div_mul_cancel₀ t h.ne']
  rw [ht, abs_mul, abs_of_pos h]

theorem abs_quantize_sub_le (h : 0 < width) (t : ℚ) : |quantize t width - t| ≤ width / 2 := by
  rw [abs_quantize_sub h]
  linarith [mul_le_mul_of_nonneg_right (Exact.abs_nearest_sub_le (t / width)) h.le]

theorem abs_quantize_of_tie (h : 0 < width) {t : ℚ} (htie : |quantize t width - t| = width / 2) :
    |quantize t width| = |t| + width / 2 := by
  have hquotient : |Exact.nearest (t / width) - t / width| = 1 / 2 := by
    rw [abs_quantize_sub h] at htie
    exact mul_right_cancel₀ h.ne' (htie.trans (by ring))
  rw [quantize_eq, abs_mul, Exact.abs_nearest_of_tie hquotient, abs_div, abs_of_pos h, add_mul,
    div_mul_cancel₀ _ h.ne']
  ring

/-- **Times are moved to the nearest multiple of a width.** -/
theorem retractsTo_quantize (h : 0 < width) : RetractsTo width fun t => quantize t width where
  multiple t := exists_quantize_eq t width
  fixed := quantize_intCast_mul h.ne'
  near := abs_quantize_sub_le h
  tie _ := abs_quantize_of_tie h
  monotone := monotone_quantize h
  odd := quantize_neg
  idempotent := quantize_quantize h.ne'

end Quantize

/-! ## Series on the grid -/

namespace Series

variable {xs ys : Series ℚ} {t : ℚ}

/-- On the grid, collapsing a series drops what is at time zero and moves nothing. -/
theorem OnGrid.mem_times_collapse {s : Series ℚ} (h : s.OnGrid) :
    t ∈ s.collapse.times ↔ t ≠ 0 ∧ t ∈ s.times := by
  rw [Series.mem_times_collapse, mem_times]
  constructor
  · rintro ⟨x, hx, hdated, rfl⟩
    rw [h x hx]
    exact ⟨hdated, x, hx, rfl⟩
  · rintro ⟨hne, x, hx, rfl⟩
    exact ⟨x, hx, hne, h x hx⟩

theorem OnGrid.of_mem_times_merge (hx : xs.OnGrid) (hy : ys.OnGrid)
    (ht : t ∈ (xs.merge ys).times) : t ∈ xs.times ∨ t ∈ ys.times := by
  obtain ⟨z, hz, rfl⟩ := mem_times.mp ht
  obtain ⟨y, hmem, hzy⟩ := exists_time_eq_of_mem_merge hz
  rw [hzy]
  rcases List.mem_append.mp hmem with hmem | hmem
  · exact .inl (mem_times.mpr ⟨y, hmem, (hx y hmem).symm⟩)
  · exact .inr (mem_times.mpr ⟨y, hmem, (hy y hmem).symm⟩)

/-- **The times of a merge** of series on the grid are the times of the two. -/
theorem OnGrid.mem_times_merge (hx : xs.OnGrid) (hy : ys.OnGrid) (ht : t ≠ 0) :
    t ∈ (xs.merge ys).times ↔ t ∈ xs.times ∨ t ∈ ys.times := by
  refine ⟨hx.of_mem_times_merge hy, fun hmem => ?_⟩
  rcases eq_or_ne xs [] with rfl | hx0
  · rw [merge_nil_left, hy.regrid_eq]
    simpa using hmem
  rcases eq_or_ne ys [] with rfl | hy0
  · rw [merge_nil_right, hx.regrid_eq]
    simpa using hmem
  rw [merge_of_ne_nil hx0 hy0, mem_times_join, hx.mem_times_collapse, hy.mem_times_collapse]
  exact hmem.imp (And.intro ht) (And.intro ht)

/-- **The amounts of a merge** of series on the grid are the amounts of the two, taken together, as
far as time zero has no weight. -/
theorem OnGrid.weighted_merge (hx : xs.OnGrid) (hy : ys.OnGrid) {f : ℚ → ℚ} (hf : f 0 = 0) :
    (xs.merge ys).weighted f = xs.weighted f + ys.weighted f := by
  rcases eq_or_ne xs [] with rfl | hx0
  · rw [merge_nil_left, hy.regrid_eq, weighted_nil, zero_add]
  rcases eq_or_ne ys [] with rfl | hy0
  · rw [merge_nil_right, hx.regrid_eq, weighted_nil, add_zero]
  have hzero : (f ∘ gridTime) 0 = 0 := by rw [Function.comp_apply, gridTime_zero, hf]
  rw [weighted_merge_of_ne_nil f hx0 hy0, weighted_filter_isDated, weighted_filter_isDated, hzero,
    hx.weighted_comp, hy.weighted_comp, zero_mul, sub_zero, zero_mul, sub_zero]

end Series

/-! ## Priced series -/

theorem Tariff.onGrid_price (tariff : Tariff ℚ) (s : Series ℚ) : (tariff.price s).OnGrid := by
  intro x hx
  obtain ⟨y, -, rfl⟩ := List.mem_map.mp hx
  exact gridTime_gridTime y.time

/-- The costs that are computed from amounts: all but the network cost, which is passed through. -/
def Priced.fromAmounts {α : Type} (p : Priced α) : List (Series α) :=
  p.cpu :: p.ram :: p.gpu :: p.volumes

theorem onGrid_of_mem_price {w : Workload ℚ} {terms : Terms ℚ} {idleCoefficient : ℚ} {s : Series ℚ}
    (hs : s ∈ (w.price terms idleCoefficient).value.fromAmounts) : s.OnGrid := by
  rw [Workload.value_price, Priced.fromAmounts] at hs
  simp only [List.mem_cons] at hs
  rcases hs with rfl | rfl | rfl | hs
  · exact Tariff.onGrid_price _ _
  · exact Tariff.onGrid_price _ _
  · exact Tariff.onGrid_price _ _
  · obtain ⟨c, -, hcv⟩ := List.mem_filterMap.mp hs
    obtain ⟨_, -, rfl⟩ := Option.map_eq_some_iff.mp hcv
    exact Tariff.onGrid_price _ _

/-- **Times are moved to the grid once.** Times are moved to the nearest multiple of a width, and
moving them again changes nothing. So a merged series stays as it is when it is moved to the grid
again, and so does every sample of a cost that is computed from amounts. When such a cost is merged
into a merged series, no sample comes to another time: there are samples at the times of the two
only, and at every time but zero the amounts of the two are added up. -/
theorem quantize_retraction {width : ℚ} (hwidth : 0 < width) :
    RetractsTo width (fun t => quantize t width) ∧
      (∀ xs ys : Series ℚ, (xs.merge ys).regrid = xs.merge ys) ∧
      ∀ (w : Workload ℚ) (terms : Terms ℚ) (idleCoefficient : ℚ),
        ∀ s ∈ (w.price terms idleCoefficient).value.fromAmounts,
          (∀ x ∈ s, x.onGrid = x) ∧
            ∀ xs ys : Series ℚ, let acc := xs.merge ys
              (∀ t ∈ (s.merge acc).times, t ∈ s.times ∨ t ∈ acc.times) ∧
                ∀ t, t ≠ 0 → (t ∈ s.times ∨ t ∈ acc.times → t ∈ (s.merge acc).times) ∧
                  (s.merge acc).weighted (Series.indicator t) =
                    s.weighted (Series.indicator t) + acc.weighted (Series.indicator t) := by
  refine ⟨retractsTo_quantize hwidth, fun xs ys => (Series.onGrid_merge xs ys).regrid_eq, ?_⟩
  intro w terms idleCoefficient s hs
  have hgrid : s.OnGrid := onGrid_of_mem_price hs
  refine ⟨fun x hx => hgrid.onGrid_eq hx, fun xs ys => ?_⟩
  intro acc
  have hacc : acc.OnGrid := Series.onGrid_merge xs ys
  refine ⟨fun t ht => hgrid.of_mem_times_merge hacc ht, fun t ht => ⟨?_, ?_⟩⟩
  · exact (hgrid.mem_times_merge hacc ht).mpr
  · have horigin : Series.indicator t 0 = 0 := if_neg (Ne.symm ht)
    exact hgrid.weighted_merge hacc horigin

/-- A workload with two ties, one on each side of time zero. -/
def tiedWorkload : Workload ℚ where
  node := { vcpuCost := "2" }
  usage := { cpu := { allocation := [⟨25, 1⟩, ⟨-25, 3⟩, ⟨34, 5⟩] } }

theorem quantize_retraction_ties :
    let cost := (tiedWorkload.price { discount := 0 } 1).value.cpu
    let acc : Series ℚ := Series.merge [⟨28, 7⟩] [⟨41, 1⟩]
    (0 : ℚ) < 10 ∧ cost ∈ (tiedWorkload.price { discount := 0 } 1).value.fromAmounts ∧
      cost = [⟨30, 2⟩, ⟨-30, 6⟩, ⟨30, 10⟩] ∧ |quantize (-25) 10| = |(-25 : ℚ)| + 10 / 2 ∧
      (30 : ℚ) ≠ 0 ∧ (30 : ℚ) ∈ (cost.merge acc).times ∧
      (cost.merge acc).weighted (Series.indicator 30) = 19 := by
  intro cost acc
  have hpos : (0 : ℚ) < 10 := by norm_num
  obtain ⟨hretracts, -, hpriced⟩ := quantize_retraction hpos
  have hmem : cost ∈ (tiedWorkload.price { discount := 0 } 1).value.fromAmounts :=
    List.mem_cons_self ..
  have hcost : cost = [⟨30, 2⟩, ⟨-30, 6⟩, ⟨30, 10⟩] := by decide +kernel
  have htie : |quantize (-25) 10 - (-25 : ℚ)| = 10 / 2 := by decide +kernel
  have hne : (30 : ℚ) ≠ 0 := by norm_num
  obtain ⟨htimes, hamount⟩ := ((hpriced tiedWorkload _ _ cost hmem).2 [⟨28, 7⟩] [⟨41, 1⟩]).2 30 hne
  have hown : cost.weighted (Series.indicator 30) = 12 := by decide +kernel
  have hacc : acc.weighted (Series.indicator 30) = 7 := by decide +kernel
  refine ⟨hpos, hmem, hcost, hretracts.tie (-25) htie, hne, ?_, ?_⟩
  · exact htimes (.inl (by rw [hcost]; simp))
  · rw [hamount, hown, hacc]
    norm_num

end Chargeback
