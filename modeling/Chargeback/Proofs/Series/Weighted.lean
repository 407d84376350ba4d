import Chargeback.Proofs.Exact
import Chargeback.Series.Merge

/-!
# Weighted sums of series

In exact arithmetic a series is known by its weighted sums `weighted f`: every value times the
weight of its time, added up. The total is the sum with weight one, and the amount at one time is
the sum with that time's indicator. Sorting, fusing and joining keep every weighted sum, and moving
times to the grid composes the weight with `gridTime`; so the sums of a merge follow from those of
its two sides, up to the samples stamped zero, which a merge of two series with samples drops.

No sample is dropped where none is near time zero (`OffOrigin`): such series stay so under merging
(`OffOrigin.merge`), and their sums add up (`weighted_merge`, `total_merge`).
-/

namespace Chargeback.Series

/-- The sum of the values, each times the weight of its time. -/
def weighted (f : ℚ → ℚ) (s : Series ℚ) : ℚ := (s.map fun x => f x.time * x.value).sum

@[simp] theorem weighted_nil (f : ℚ → ℚ) : weighted f [] = 0 := rfl

@[simp] theorem weighted_cons (f : ℚ → ℚ) (x : Sample ℚ) (s : Series ℚ) :
    weighted f (x :: s) = f x.time * x.value + weighted f s := by
  simp [weighted]

theorem total_eq_weighted (s : Series ℚ) : s.total = s.weighted fun _ => 1 := by
  simp [total, weighted, Exact.sum_eq]

theorem weighted_perm {s t : Series ℚ} (h : s.Perm t) (f : ℚ → ℚ) :
    s.weighted f = t.weighted f :=
  (h.map _).sum_eq

theorem weighted_congr {f g : ℚ → ℚ} {s : Series ℚ} (h : ∀ x ∈ s, f x.time = g x.time) :
    s.weighted f = s.weighted g := by
  unfold weighted
  rw [List.map_congr_left fun x hx => by rw [h x hx]]

/-! ## The parts of a merge -/

theorem weighted_fuse_go (f : ℚ → ℚ) (x : Sample ℚ) (s : Series ℚ) :
    (fuse.go x s).weighted f = f x.time * x.value + s.weighted f := by
  induction s generalizing x with
  | nil => simp [fuse.go]
  | cons y s ih =>
    unfold fuse.go
    split
    · next h =>
      have hxy : x.time = y.time := by simpa using h
      rw [ih, weighted_cons, ← hxy]
      ring
    · rw [weighted_cons, ih, weighted_cons]

theorem weighted_fuse (f : ℚ → ℚ) (s : Series ℚ) : s.fuse.weighted f = s.weighted f := by
  cases s with
  | nil => rfl
  | cons x s => rw [fuse, weighted_fuse_go, weighted_cons]

theorem weighted_map_onGrid (f : ℚ → ℚ) (s : Series ℚ) :
    weighted f (s.map Sample.onGrid) = s.weighted (f ∘ gridTime) := by
  simp [weighted, Function.comp_def]

theorem weighted_regrid (f : ℚ → ℚ) (s : Series ℚ) :
    s.regrid.weighted f = s.weighted (f ∘ gridTime) := by
  induction s with
  | nil => rfl
  | cons x s ih =>
    change weighted f ((if x.time == 0 then x else x.onGrid) :: regrid s) = _
    rw [weighted_cons, weighted_cons, ih]
    split
    · next h =>
      have hx : x.time = 0 := by simpa using h
      simp [hx]
    · rfl

theorem weighted_collapse (f : ℚ → ℚ) (s : Series ℚ) :
    s.collapse.weighted f = weighted (f ∘ gridTime) (s.filter Sample.isDated) := by
  rw [collapse, weighted_fuse, weighted_perm (sortBy_perm _ _), weighted_map_onGrid]

theorem weighted_join (f : ℚ → ℚ) (xs ys : Series ℚ) :
    (join xs ys).weighted f = xs.weighted f + ys.weighted f := by
  induction xs, ys using join.induct with
  | case1 ys => simp
  | case2 x xs => simp
  | case3 x xs y ys hlt ih =>
    rw [join, if_pos hlt, weighted_cons, ih, weighted_cons f x]
    ring
  | case4 x xs y ys hlt hgt ih =>
    rw [join, if_neg hlt, if_pos hgt, weighted_cons, ih, weighted_cons f y]
    ring
  | case5 x xs y ys hlt hgt ih =>
    have hxy : x.time = y.time := le_antisymm (not_lt.mp hgt) (not_lt.mp hlt)
    rw [join, if_neg hlt, if_neg hgt, weighted_cons, ih, weighted_cons f x, weighted_cons f y,
      ← hxy]
    ring

/-- **The sums of a merge of two series with samples.** The samples stamped zero are gone. -/
theorem weighted_merge_of_ne_nil (f : ℚ → ℚ) {xs ys : Series ℚ} (hx : xs ≠ []) (hy : ys ≠ []) :
    (xs.merge ys).weighted f =
      weighted (f ∘ gridTime) (xs.filter Sample.isDated) +
        weighted (f ∘ gridTime) (ys.filter Sample.isDated) := by
  rw [merge_of_ne_nil hx hy, weighted_join, weighted_collapse, weighted_collapse]

/-! ## The times of a merge -/

section Times

variable {α : Type} [Number α]

theorem exists_time_eq_of_mem_fuse_go {x z : Sample α} {s : Series α} (h : z ∈ fuse.go x s) :
    ∃ y ∈ x :: s, y.time = z.time := by
  induction s generalizing x with
  | nil =>
    rw [fuse.go, List.mem_singleton] at h
    exact ⟨x, by simp, by rw [h]⟩
  | cons y s ih =>
    unfold fuse.go at h
    split at h
    · obtain ⟨w, hw, hwz⟩ := ih h
      rcases List.mem_cons.mp hw with rfl | hw
      · exact ⟨x, by simp, hwz⟩
      · exact ⟨w, by simp [hw], hwz⟩
    · rcases List.mem_cons.mp h with rfl | h
      · exact ⟨z, by simp, rfl⟩
      · obtain ⟨w, hw, hwz⟩ := ih h
        exact ⟨w, List.mem_cons_of_mem _ hw, hwz⟩

theorem exists_time_eq_of_mem_fuse {z : Sample α} {s : Series α} (h : z ∈ s.fuse) :
    ∃ y ∈ s, y.time = z.time := by
  cases s with
  | nil => simp at h
  | cons x s => exact exists_time_eq_of_mem_fuse_go h

theorem exists_time_eq_of_mem_join {z : Sample α} {xs ys : Series α} (h : z ∈ join xs ys) :
    ∃ y ∈ xs ++ ys, y.time = z.time := by
  induction xs, ys using join.induct with
  | case1 ys => exact ⟨z, by simpa using h, rfl⟩
  | case2 x xs => exact ⟨z, by simpa using h, rfl⟩
  | case3 x xs y ys hlt ih =>
    rw [join, if_pos hlt] at h
    rcases List.mem_cons.mp h with rfl | h
    · exact ⟨z, by simp, rfl⟩
    · obtain ⟨w, hw, hwz⟩ := ih h
      exact ⟨w, List.mem_cons_of_mem _ hw, hwz⟩
  | case4 x xs y ys hlt hgt ih =>
    rw [join, if_neg hlt, if_pos hgt] at h
    rcases List.mem_cons.mp h with rfl | h
    · exact ⟨z, by simp, rfl⟩
    · obtain ⟨w, hw, hwz⟩ := ih h
      exact ⟨w, by simp only [List.mem_append, List.mem_cons] at hw ⊢; tauto, hwz⟩
  | case5 x xs y ys hlt hgt ih =>
    rw [join, if_neg hlt, if_neg hgt] at h
    rcases List.mem_cons.mp h with rfl | h
    · exact ⟨x, by simp, rfl⟩
    · obtain ⟨w, hw, hwz⟩ := ih h
      exact ⟨w, by simp only [List.mem_append, List.mem_cons] at hw ⊢; tauto, hwz⟩

end Times

theorem exists_time_eq_of_mem_collapse {z : Sample ℚ} {s : Series ℚ} (h : z ∈ s.collapse) :
    ∃ y ∈ s, z.time = gridTime y.time := by
  obtain ⟨w, hw, hwz⟩ := exists_time_eq_of_mem_fuse h
  rw [mem_sortBy] at hw
  obtain ⟨y, hy, rfl⟩ := List.mem_map.mp hw
  exact ⟨y, List.mem_of_mem_filter hy, hwz.symm⟩

theorem exists_time_eq_of_mem_regrid {z : Sample ℚ} {s : Series ℚ} (h : z ∈ s.regrid) :
    ∃ y ∈ s, z.time = gridTime y.time := by
  obtain ⟨y, hy, rfl⟩ := List.mem_map.mp h
  refine ⟨y, hy, ?_⟩
  split
  · next h0 =>
    have hy0 : y.time = 0 := by simpa using h0
    rw [hy0, gridTime_zero]
  · rfl

/-- Every time of a merge is the grid time of a sample of one side. -/
theorem exists_time_eq_of_mem_merge {z : Sample ℚ} {xs ys : Series ℚ} (h : z ∈ xs.merge ys) :
    ∃ y ∈ xs ++ ys, z.time = gridTime y.time := by
  rcases eq_or_ne xs [] with rfl | hx
  · exact exists_time_eq_of_mem_regrid (by simpa using h)
  rcases eq_or_ne ys [] with rfl | hy
  · rw [List.append_nil]
    exact exists_time_eq_of_mem_regrid (by simpa using h)
  rw [merge_of_ne_nil hx hy] at h
  obtain ⟨w, hw, hwz⟩ := exists_time_eq_of_mem_join h
  rcases List.mem_append.mp hw with hw | hw
  · obtain ⟨y, hy, hyw⟩ := exists_time_eq_of_mem_collapse hw
    exact ⟨y, List.mem_append_left _ hy, hwz.symm.trans hyw⟩
  · obtain ⟨y, hy, hyw⟩ := exists_time_eq_of_mem_collapse hw
    exact ⟨y, List.mem_append_right _ hy, hwz.symm.trans hyw⟩

theorem gridTime_of_mem_merge {z : Sample ℚ} {xs ys : Series ℚ} (h : z ∈ xs.merge ys) :
    gridTime z.time = z.time := by
  obtain ⟨y, -, hy⟩ := exists_time_eq_of_mem_merge h
  rw [hy, gridTime_gridTime]

/-! ## Series away from time zero -/

/-- No sample is stamped exactly zero. -/
def AllDated (s : Series ℚ) : Prop := ∀ x ∈ s, x.time ≠ 0

theorem AllDated.filter_isDated {s : Series ℚ} (h : s.AllDated) :
    s.filter Sample.isDated = s :=
  List.filter_eq_self.mpr fun x hx => (Sample.isDated_iff x).mpr (h x hx)

/-- No sample has a time that is moved to zero. -/
def OffOrigin (s : Series ℚ) : Prop := ∀ x ∈ s, gridTime x.time ≠ 0

@[simp] theorem offOrigin_nil : OffOrigin [] := by simp [OffOrigin]

theorem OffOrigin.allDated {s : Series ℚ} (h : s.OffOrigin) : s.AllDated :=
  fun x hx => ne_zero_of_gridTime_ne_zero (h x hx)

theorem OffOrigin.merge {xs ys : Series ℚ} (hx : xs.OffOrigin) (hy : ys.OffOrigin) :
    (xs.merge ys).OffOrigin := by
  intro z hz
  obtain ⟨w, hw, hwz⟩ := exists_time_eq_of_mem_merge hz
  rw [hwz, gridTime_gridTime]
  rcases List.mem_append.mp hw with hw | hw
  · exact hx w hw
  · exact hy w hw

/-- **Away from time zero the sums of two series add up.** -/
theorem weighted_merge (f : ℚ → ℚ) {xs ys : Series ℚ} (hx : xs.OffOrigin) (hy : ys.OffOrigin) :
    (xs.merge ys).weighted f = xs.weighted (f ∘ gridTime) + ys.weighted (f ∘ gridTime) := by
  rcases eq_or_ne xs [] with rfl | hx0
  · rw [merge_nil_left, weighted_regrid, weighted_nil, zero_add]
  rcases eq_or_ne ys [] with rfl | hy0
  · rw [merge_nil_right, weighted_regrid, weighted_nil, add_zero]
  rw [weighted_merge_of_ne_nil f hx0 hy0, hx.allDated.filter_isDated,
    hy.allDated.filter_isDated]

theorem total_merge {xs ys : Series ℚ} (hx : xs.OffOrigin) (hy : ys.OffOrigin) :
    (xs.merge ys).total = xs.total + ys.total := by
  simp only [total_eq_weighted, weighted_merge _ hx hy, Function.comp_def]

end Chargeback.Series
