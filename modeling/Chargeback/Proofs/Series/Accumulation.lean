import Mathlib.Data.List.Induction
import Chargeback.Proofs.Series.Weighted

/-!
# Merging one series after another

A record takes in series one at a time, each merged into what has accumulated. Every merge reads the
accumulated series again as if its samples had just been made, and there the two meanings of a zero
stamp meet: a sample near time zero is moved to zero, and a sample stamped zero counts as undated
and is dropped by the next merge with samples on both sides.

The invariant is `Accumulated`: for series without undated samples, what is missing from the total
of the accumulated series is what lies near time zero in every series with samples but the last one.
So the total is that of all samples exactly if these values add up to zero, and two series are
enough to lose a sample.
-/

namespace Chargeback.Series

variable {α : Type} [Number α]

/-- The series merged, from left to right, into an accumulated one that starts empty. -/
def accumulate (ss : List (Series α)) : Series α := ss.foldl (fun acc s => s.merge acc) []

@[simp] theorem accumulate_nil : accumulate ([] : List (Series α)) = [] := rfl

@[simp] theorem accumulate_append_singleton (ss : List (Series α)) (s : Series α) :
    accumulate (ss ++ [s]) = s.merge (accumulate ss) := by
  simp [accumulate]

/-! ## Values at time zero -/

/-- The weight of the time zero. -/
def origin (t : ℚ) : ℚ := if t = 0 then 1 else 0

/-- The sum of the values whose times are moved to zero. -/
def nearOrigin (s : Series ℚ) : ℚ :=
  ((s.filter fun x => gridTime x.time = 0).map Sample.value).sum

theorem nearOrigin_eq_weighted (s : Series ℚ) : s.nearOrigin = s.weighted (origin ∘ gridTime) := by
  induction s with
  | nil => rfl
  | cons x s ih =>
    rw [weighted_cons, ← ih]
    by_cases h : gridTime x.time = 0
    · simp [nearOrigin, origin, h]
    · simp [nearOrigin, origin, h]

/-- Dropping undated samples drops the values stamped zero. -/
theorem weighted_filter_isDated (f : ℚ → ℚ) (s : Series ℚ) :
    weighted f (s.filter Sample.isDated) = s.weighted f - f 0 * s.weighted origin := by
  induction s with
  | nil => simp
  | cons x s ih =>
    rw [weighted_cons, weighted_cons]
    by_cases h : x.time = 0
    · rw [List.filter_cons_of_neg (by simp [Sample.isDated_iff, h]), ih, origin, if_pos h, h]
      ring
    · rw [List.filter_cons_of_pos ((Sample.isDated_iff x).mpr h), weighted_cons, ih, origin,
        if_neg h]
      ring

/-! ## One merge -/

/-- Every time is a grid time, as after a merge. -/
def OnGrid (s : Series ℚ) : Prop := ∀ x ∈ s, gridTime x.time = x.time

theorem onGrid_merge (xs ys : Series ℚ) : (xs.merge ys).OnGrid :=
  fun _ hz => gridTime_of_mem_merge hz

theorem OnGrid.weighted_comp {s : Series ℚ} (h : s.OnGrid) (f : ℚ → ℚ) :
    s.weighted (f ∘ gridTime) = s.weighted f :=
  weighted_congr fun x hx => congrArg f (h x hx)

/-- **One merge.** The accumulated series loses what it holds at time zero. -/
theorem weighted_merge_of_onGrid (f : ℚ → ℚ) {s acc : Series ℚ} (hs : s.AllDated) (hne : s ≠ [])
    (hacc : acc.OnGrid) :
    (s.merge acc).weighted f =
      s.weighted (f ∘ gridTime) + (acc.weighted f - f 0 * acc.weighted origin) := by
  rcases eq_or_ne acc [] with rfl | h
  · rw [merge_nil_right, weighted_regrid]
    simp
  rw [weighted_merge_of_ne_nil f hne h, hs.filter_isDated, weighted_filter_isDated,
    hacc.weighted_comp, Function.comp_apply, gridTime_zero]

/-! ## All merges -/

/-- What is lost when series are merged one after another: what lies near time zero in every series
with samples but the last one. -/
def lost (ss : List (Series ℚ)) : ℚ :=
  ((ss.filter fun s => !s.isEmpty).dropLast.map nearOrigin).sum

/-- What lies near time zero in all of the series. -/
def allNearOrigin (ss : List (Series ℚ)) : ℚ := ((ss.filter fun s => !s.isEmpty).map nearOrigin).sum

theorem lost_append_singleton {ss : List (Series ℚ)} {s : Series ℚ} (h : s ≠ []) :
    lost (ss ++ [s]) = allNearOrigin ss := by
  simp [lost, allNearOrigin, h]

theorem allNearOrigin_append_singleton {ss : List (Series ℚ)} {s : Series ℚ} (h : s ≠ []) :
    allNearOrigin (ss ++ [s]) = allNearOrigin ss + s.nearOrigin := by
  simp [allNearOrigin, h]

/-- What holds of the accumulated series after every merge. -/
structure Accumulated (ss : List (Series ℚ)) (acc : Series ℚ) : Prop where
  onGrid : acc.OnGrid
  total_eq : acc.total = (ss.map total).sum - lost ss
  /-- At time zero there is only what the last series with samples brought. -/
  origin_eq : acc.weighted origin = allNearOrigin ss - lost ss

theorem accumulated_nil : Accumulated [] [] where
  onGrid := by simp [OnGrid]
  total_eq := by simp [lost, Number.neutral]
  origin_eq := by simp [lost, allNearOrigin]

theorem Accumulated.merge {ss : List (Series ℚ)} {s acc : Series ℚ} (h : Accumulated ss acc)
    (hs : s.AllDated) : Accumulated (ss ++ [s]) (s.merge acc) := by
  rcases eq_or_ne s [] with rfl | hne
  · refine ⟨onGrid_merge _ _, ?_, ?_⟩
    · have hregrid : acc.regrid.total = acc.total := by
        rw [total_eq_weighted, total_eq_weighted, weighted_regrid]
        rfl
      rw [merge_nil_left, hregrid, h.total_eq]
      simp [lost, Number.neutral]
    · rw [merge_nil_left, weighted_regrid, h.onGrid.weighted_comp, h.origin_eq]
      simp [lost, allNearOrigin]
  · refine ⟨onGrid_merge _ _, ?_, ?_⟩
    · rw [total_eq_weighted, weighted_merge_of_onGrid _ hs hne h.onGrid, h.origin_eq,
        ← total_eq_weighted acc, h.total_eq, lost_append_singleton hne, List.map_append,
        List.sum_append, List.map_singleton, List.sum_singleton, total_eq_weighted s]
      simp only [Function.comp_def]
      ring
    · rw [weighted_merge_of_onGrid _ hs hne h.onGrid, ← nearOrigin_eq_weighted,
        lost_append_singleton hne, allNearOrigin_append_singleton hne, origin, if_pos rfl]
      ring

theorem accumulated_accumulate {ss : List (Series ℚ)} (h : ∀ s ∈ ss, s.AllDated) :
    Accumulated ss (accumulate ss) := by
  induction ss using List.reverseRecOn with
  | nil => exact accumulated_nil
  | append_singleton ss s ih =>
    rw [accumulate_append_singleton]
    exact (ih fun t ht => h t (by simp [ht])).merge (h s (by simp))

/-- **The total of series merged one after another.** Of series without undated samples, it falls
short of the sum of all values by what lies near time zero in every series with samples but the
last one, and reaches it exactly if that is nothing. -/
theorem total_accumulate_of_dated (ss : List (Series ℚ)) (h : ∀ s ∈ ss, ∀ x ∈ s, x.time ≠ 0) :
    (accumulate ss).total = (ss.map total).sum - lost ss ∧
      ((accumulate ss).total = (ss.map total).sum ↔ lost ss = 0) := by
  have htotal := (accumulated_accumulate h).total_eq
  refine ⟨htotal, ?_⟩
  rw [htotal, sub_eq_self]

theorem total_accumulate_of_three :
    let ss : List (Series ℚ) := [[⟨3, 1⟩, ⟨20, 2⟩], [], [⟨-4, 5⟩, ⟨12, 3⟩], [⟨2, 7⟩]]
    (∀ s ∈ ss, ∀ x ∈ s, x.time ≠ 0) ∧ lost ss = 6 ∧ (ss.map total).sum = 18 ∧
      (accumulate ss).total = 12 := by
  intro ss
  have hdated : ∀ s ∈ ss, ∀ x ∈ s, x.time ≠ 0 := by decide
  have hlost : lost ss = 6 := by decide +kernel
  have hsum : (ss.map total).sum = 18 := by decide +kernel
  refine ⟨hdated, hlost, hsum, ?_⟩
  rw [(total_accumulate_of_dated ss hdated).1, hlost, hsum]
  norm_num

/-- **A dated sample is lost.** The sample at time 3 is moved to zero by the first merge and dropped
by the second. -/
theorem total_accumulate_near_zero :
    let ss : List (Series ℚ) := [[⟨3, 1⟩], [⟨20, 1⟩]]
    (∀ s ∈ ss, ∀ x ∈ s, x.time ≠ 0) ∧ (ss.map total).sum = 2 ∧ (accumulate ss).total = 1 :=
  ⟨by decide, by decide +kernel, by decide +kernel⟩

end Chargeback.Series
