import Chargeback.Proofs.Series.Canonical
import Chargeback.Proofs.Series.Related

/-!
# Multiplying and moving series

Addition keeps multiples (`keptByAdd_multiple`), so a merge commutes with multiplying all values by
one factor (`merge_scale`), and so does accumulation (`accumulate_scale`). The times of a merge
depend on the times of its arguments and on nothing else (`times_merge_congr`).

Moving a series to the grid before it is merged changes nothing either, as long as no sample with a
time is moved to zero, where it would lose it (`merge_regrid_left`). Undated samples may occur.
-/

namespace Chargeback

namespace Sample

/-- The sample with its value multiplied by a factor. -/
def scale (k : ℚ) (x : Sample ℚ) : Sample ℚ := ⟨x.time, k * x.value⟩

@[simp] theorem time_scale (k : ℚ) (x : Sample ℚ) : (x.scale k).time = x.time := rfl

end Sample

namespace Series

/-! ## Multiplying by a factor -/

/-- The series with every value multiplied by a factor. -/
def scale (k : ℚ) (s : Series ℚ) : Series ℚ := s.map (Sample.scale k)

@[simp] theorem scale_nil (k : ℚ) : scale k [] = [] := rfl

@[simp] theorem scale_cons (k : ℚ) (x : Sample ℚ) (s : Series ℚ) :
    scale k (x :: s) = x.scale k :: s.scale k := rfl

@[simp] theorem length_scale (k : ℚ) (s : Series ℚ) : (s.scale k).length = s.length :=
  List.length_map _

@[simp] theorem times_scale (k : ℚ) (s : Series ℚ) : (s.scale k).times = s.times := by
  simp [times, scale, Function.comp_def, Sample.scale]

@[simp] theorem scale_one (s : Series ℚ) : s.scale 1 = s := by
  have hone : Sample.scale 1 = id := by
    funext x
    simp [Sample.scale]
  rw [scale, hone, List.map_id]

theorem scale_scale (k l : ℚ) (s : Series ℚ) : (s.scale l).scale k = s.scale (k * l) := by
  simp only [scale, List.map_map]
  refine List.map_congr_left fun x _ => ?_
  simp only [Function.comp_apply, Sample.scale, mul_assoc]

theorem total_scale (k : ℚ) (s : Series ℚ) : (s.scale k).total = k * s.total := by
  simp only [total, Exact.sum_eq]
  induction s with
  | nil => simp
  | cons x s ih =>
    rw [scale_cons, List.map_cons, List.sum_cons, ih, List.map_cons, List.sum_cons, mul_add]
    rfl

/-- The values of one series are multiples of those of the other. -/
theorem related_scale_iff {k : ℚ} {s t : Series ℚ} :
    s.Related (fun a b => b = k * a) t ↔ t = s.scale k := by
  have hsample : Sample.Related (fun a b => b = k * a) = fun x y => x.scale k = y := by
    funext x ⟨time, value⟩
    refine propext ⟨?_, ?_⟩
    · rintro ⟨rfl, rfl⟩
      rfl
    · rintro ⟨⟩
      exact ⟨rfl, rfl⟩
  rw [Related, hsample, ← List.forall₂_map_left_iff (f := Sample.scale k) (R := Eq),
    List.forall₂_eq_eq_eq, eq_comm]
  rfl

theorem keptByAdd_multiple (k : ℚ) : KeptByAdd fun a b => b = k * a := by
  rintro a _ c _ rfl rfl
  exact (mul_add k a c).symm

/-- **Merging commutes with multiplying** all values by one factor. -/
theorem merge_scale (k : ℚ) (xs ys : Series ℚ) :
    (xs.scale k).merge (ys.scale k) = scale k (xs.merge ys) :=
  related_scale_iff.mp
    ((related_scale_iff.mpr rfl).merge (keptByAdd_multiple k) (related_scale_iff.mpr rfl))

theorem accumulate_scale (k : ℚ) (ss : List (Series ℚ)) :
    accumulate (ss.map (scale k)) = (accumulate ss).scale k := by
  refine related_scale_iff.mp (Related.accumulate (keptByAdd_multiple k) ?_)
  rw [List.forall₂_map_right_iff]
  exact List.forall₂_same.mpr fun s _ => related_scale_iff.mpr rfl

/-! ## The times of a merge -/

/-- The times are the same if they are the same sample by sample. -/
theorem related_true_iff {s t : Series ℚ} : s.Related (fun _ _ => True) t ↔ s.times = t.times := by
  have hsample : Sample.Related (fun _ _ : ℚ => True) = fun x y => x.time = y.time := by
    funext x y
    exact propext ⟨fun h => h.time, fun h => ⟨h, trivial⟩⟩
  rw [Related, hsample, ← List.forall₂_eq_eq_eq, times, times, List.forall₂_map_left_iff,
    List.forall₂_map_right_iff]

/-- **The times of a merge** depend on the times of its arguments only. -/
theorem times_merge_congr {xs ys us vs : Series ℚ} (hx : xs.times = us.times)
    (hy : ys.times = vs.times) : (xs.merge ys).times = (us.merge vs).times :=
  related_true_iff.mp
    ((related_true_iff.mpr hx).merge (fun _ _ => trivial) (related_true_iff.mpr hy))

/-! ## Moving to the grid beforehand -/

/-- Only undated samples are at time zero on the grid. -/
def UndatedAtOrigin (s : Series ℚ) : Prop := ∀ x ∈ s, gridTime x.time = 0 → x.time = 0

instance (s : Series ℚ) : Decidable s.UndatedAtOrigin :=
  inferInstanceAs (Decidable (∀ x ∈ s, gridTime x.time = 0 → x.time = 0))

theorem regrid_regrid (s : Series ℚ) : s.regrid.regrid = s.regrid := (onGrid_regrid s).regrid_eq

/-- The dated samples on the grid are the same before and after the series has been moved there. -/
theorem map_onGrid_filter_regrid {s : Series ℚ} (h : s.UndatedAtOrigin) :
    (s.regrid.filter Sample.isDated).map Sample.onGrid =
      (s.filter Sample.isDated).map Sample.onGrid := by
  induction s with
  | nil => rfl
  | cons x s ih =>
    obtain ⟨hx, hs⟩ := List.forall_mem_cons.mp h
    have htail := ih hs
    change List.map Sample.onGrid
      (List.filter Sample.isDated ((if x.time == 0 then x else x.onGrid) :: regrid s)) = _
    by_cases hzero : x.time = 0
    · have hundated : ¬ x.isDated = true := by rw [Sample.isDated_iff, not_not, hzero]
      rw [if_pos (beq_iff_eq.mpr hzero), List.filter_cons_of_neg hundated,
        List.filter_cons_of_neg hundated, htail]
    · have hdated : x.isDated = true := (Sample.isDated_iff x).mpr hzero
      have hdated' : x.onGrid.isDated = true := (Sample.isDated_iff _).mpr (mt hx hzero)
      have htwice : x.onGrid.onGrid = x.onGrid :=
        congrArg (Sample.mk · x.value) (gridTime_gridTime x.time)
      rw [if_neg (mt beq_iff_eq.mp hzero), List.filter_cons_of_pos hdated',
        List.filter_cons_of_pos hdated, List.map_cons, List.map_cons, htail, htwice]

/-- **A series may be moved to the grid before it is merged.** -/
theorem merge_regrid_left {s : Series ℚ} (h : s.UndatedAtOrigin) (acc : Series ℚ) :
    s.regrid.merge acc = s.merge acc := by
  rcases eq_or_ne s [] with rfl | hs
  · rfl
  rcases eq_or_ne acc [] with rfl | hacc
  · rw [merge_nil_right, merge_nil_right, regrid_regrid]
  have hs' : s.regrid ≠ [] := mt List.map_eq_nil_iff.mp hs
  have hcollapse : s.regrid.collapse = s.collapse := by
    rw [collapse, map_onGrid_filter_regrid h, collapse]
  rw [merge_of_ne_nil hs' hacc, merge_of_ne_nil hs hacc, hcollapse]

end Series

end Chargeback
