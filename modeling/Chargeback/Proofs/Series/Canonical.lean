import Mathlib.Data.List.Sort
import Chargeback.Proofs.Series.Accumulation

/-!
# The canonical form of a series

In exact arithmetic a strictly ascending series is known by its times and its weighted sums
(`Ascending.ext`). `collapse` gives strictly ascending series, so it forgets the order of the
samples (`collapse_perm`), and joining two collapsed series is collapsing both at once
(`join_collapse`). Away from time zero it also forgets whether the samples have been moved to the
grid or collapsed before: series that are the same on the grid collapse to the same
(`SameOnGrid.collapse_eq`).
-/

namespace Chargeback.Series

/-! ## Strictly ascending series -/

/-- The times of the samples, in their order. -/
def times (s : Series ℚ) : List ℚ := s.map Sample.time

/-- No two samples at one time, and the earlier before the later. -/
def Ascending (s : Series ℚ) : Prop := s.times.Pairwise (· < ·)

/-- The weight of one time. -/
def indicator (t u : ℚ) : ℚ := if u = t then 1 else 0

@[simp] theorem times_nil : times [] = [] := rfl

@[simp] theorem times_cons (x : Sample ℚ) (s : Series ℚ) : times (x :: s) = x.time :: s.times := rfl

@[simp] theorem mem_times {s : Series ℚ} {t : ℚ} : t ∈ s.times ↔ ∃ x ∈ s, x.time = t := List.mem_map

theorem weighted_indicator_of_not_mem {s : Series ℚ} {t : ℚ} (h : t ∉ s.times) :
    s.weighted (indicator t) = 0 := by
  induction s with
  | nil => rfl
  | cons x s ih =>
    obtain ⟨hx, hs⟩ := not_or.mp (mt List.mem_cons.mpr h)
    rw [weighted_cons, ih hs, indicator, if_neg (Ne.symm hx)]
    ring

/-- At the time of a sample, an ascending series has the value of that sample. -/
theorem Ascending.weighted_indicator {s : Series ℚ} (h : s.Ascending) {x : Sample ℚ} (hx : x ∈ s) :
    s.weighted (indicator x.time) = x.value := by
  induction s with
  | nil => simp at hx
  | cons y s ih =>
    obtain ⟨hy, hs⟩ := List.pairwise_cons.mp h
    rw [weighted_cons, indicator]
    rcases List.mem_cons.mp hx with rfl | hx
    · have hnot : x.time ∉ times s := fun hmem => lt_irrefl _ (hy _ hmem)
      rw [if_pos rfl, weighted_indicator_of_not_mem hnot]
      ring
    · have hlt : y.time < x.time := hy _ (List.mem_map_of_mem hx)
      rw [if_neg hlt.ne, ih hs hx]
      ring

/-- An ascending series, made of its times and the amounts at them. -/
theorem Ascending.eq_map_times {s : Series ℚ} (h : s.Ascending) :
    s = s.times.map fun t => ⟨t, s.weighted (indicator t)⟩ := by
  have hid : s.map id = s.map fun x => ⟨x.time, s.weighted (indicator x.time)⟩ :=
    List.map_congr_left fun x hx => by rw [h.weighted_indicator hx, id]
  rw [times, List.map_map]
  exact (List.map_id s).symm.trans hid

/-- **An ascending series is known by its times and the amounts at them.** -/
theorem Ascending.ext {s u : Series ℚ} (hs : s.Ascending) (hu : u.Ascending)
    (htimes : ∀ t, t ∈ s.times ↔ t ∈ u.times) (hweighted : ∀ f, s.weighted f = u.weighted f) :
    s = u := by
  have heq : s.times = u.times := List.Pairwise.eq_of_mem_iff hs hu htimes
  rw [hs.eq_map_times, hu.eq_map_times, heq]
  simp only [hweighted]

/-! ## Fusing -/

theorem mem_times_fuse_go {x : Sample ℚ} {s : Series ℚ} {t : ℚ} :
    t ∈ (fuse.go x s).times ↔ t = x.time ∨ t ∈ s.times := by
  induction s generalizing x with
  | nil => simp [fuse.go]
  | cons y s ih =>
    unfold fuse.go
    split
    · next h =>
      have hxy : x.time = y.time := by simpa using h
      rw [ih, times_cons, List.mem_cons, ← hxy, or_self_left]
    · rw [times_cons, List.mem_cons, ih, times_cons, List.mem_cons]

theorem mem_times_fuse {s : Series ℚ} {t : ℚ} : t ∈ s.fuse.times ↔ t ∈ s.times := by
  cases s with
  | nil => rfl
  | cons x s => rw [fuse, mem_times_fuse_go, times_cons, List.mem_cons]

theorem ascending_fuse_go {x : Sample ℚ} {s : Series ℚ}
    (h : (times (x :: s)).Pairwise (· ≤ ·)) : (fuse.go x s).Ascending := by
  induction s generalizing x with
  | nil => simp [fuse.go, Ascending]
  | cons y s ih =>
    obtain ⟨hx, hys⟩ := List.pairwise_cons.mp h
    obtain ⟨hy, hs⟩ := List.pairwise_cons.mp hys
    have hxy : x.time ≤ y.time := hx _ (List.mem_cons_self ..)
    unfold fuse.go
    split
    · exact ih (List.pairwise_cons.mpr ⟨fun t ht => hx t (List.mem_cons_of_mem _ ht), hs⟩)
    · next hne =>
      have hlt : x.time < y.time := lt_of_le_of_ne hxy (by simpa using hne)
      refine List.pairwise_cons.mpr ⟨fun t ht => ?_, ih hys⟩
      rcases mem_times_fuse_go.mp ht with rfl | ht
      · exact hlt
      · exact hlt.trans_le (hy t ht)

/-- Fusing a sorted series leaves one sample for each time. -/
theorem ascending_fuse {s : Series ℚ} (h : s.times.Pairwise (· ≤ ·)) : s.fuse.Ascending := by
  cases s with
  | nil => exact List.Pairwise.nil
  | cons x s => exact ascending_fuse_go h

/-! ## Collapsing -/

theorem ascending_collapse (s : Series ℚ) : s.collapse.Ascending := by
  apply ascending_fuse
  have h : (sortBy (fun a b : Sample ℚ => decide (a.time < b.time))
      ((s.filter Sample.isDated).map Sample.onGrid)).Pairwise
        fun a b => decide (b.time < a.time) = false :=
    pairwise_sortBy
      (fun {a b c} hab hbc => by
        simp only [decide_eq_false_iff_not, not_lt] at hab hbc ⊢
        exact hab.trans hbc)
      (fun {a b} hab => by
        simp only [decide_eq_true_eq, decide_eq_false_iff_not, not_lt] at hab ⊢
        exact hab.le) _
  exact List.pairwise_map.mpr (h.imp fun hab => not_lt.mp (of_decide_eq_false hab))

/-- The times of a collapsed series are the grid times of its dated samples. -/
theorem mem_times_collapse {s : Series ℚ} {t : ℚ} :
    t ∈ s.collapse.times ↔ ∃ x ∈ s, x.time ≠ 0 ∧ gridTime x.time = t := by
  rw [collapse, mem_times_fuse, mem_times]
  simp only [mem_sortBy, List.mem_map, List.mem_filter, Sample.isDated_iff]
  constructor
  · rintro ⟨_, ⟨x, ⟨hx, hdated⟩, rfl⟩, rfl⟩
    exact ⟨x, hx, hdated, rfl⟩
  · rintro ⟨x, hx, hdated, rfl⟩
    exact ⟨x.onGrid, ⟨x, ⟨hx, hdated⟩, rfl⟩, rfl⟩

/-- **Collapsing forgets the order of the samples.** -/
theorem collapse_perm {s u : Series ℚ} (h : s.Perm u) : s.collapse = u.collapse := by
  refine (ascending_collapse s).ext (ascending_collapse u) (fun t => ?_) fun f => ?_
  · simp only [mem_times_collapse, h.mem_iff]
  · rw [weighted_collapse, weighted_collapse, weighted_perm (h.filter _)]

theorem mem_times_join {xs ys : Series ℚ} {t : ℚ} :
    t ∈ (join xs ys).times ↔ t ∈ xs.times ∨ t ∈ ys.times := by
  induction xs, ys using join.induct with
  | case1 ys => simp
  | case2 x xs => simp
  | case3 x xs y ys hlt ih =>
    rw [join, if_pos hlt, times_cons, List.mem_cons, ih, times_cons x, List.mem_cons, or_assoc]
  | case4 x xs y ys hlt hgt ih =>
    rw [join, if_neg hlt, if_pos hgt, times_cons, List.mem_cons, ih, times_cons y, List.mem_cons]
    exact or_left_comm
  | case5 x xs y ys hlt hgt ih =>
    have hxy : x.time = y.time := le_antisymm (not_lt.mp hgt) (not_lt.mp hlt)
    rw [join, if_neg hlt, if_neg hgt, times_cons, List.mem_cons, ih, times_cons x, times_cons y,
      List.mem_cons, List.mem_cons, ← hxy]
    tauto

theorem ascending_join {xs ys : Series ℚ} (hx : xs.Ascending) (hy : ys.Ascending) :
    (join xs ys).Ascending := by
  induction xs, ys using join.induct with
  | case1 ys => simpa using hy
  | case2 x xs => simpa using hx
  | case3 x xs y ys hlt ih =>
    obtain ⟨hxs, htail⟩ := List.pairwise_cons.mp hx
    obtain ⟨hys, -⟩ := List.pairwise_cons.mp hy
    rw [join, if_pos hlt]
    refine List.pairwise_cons.mpr ⟨fun t ht => ?_, ih htail hy⟩
    rcases mem_times_join.mp ht with ht | ht
    · exact hxs t ht
    · rcases List.mem_cons.mp ht with rfl | ht
      · exact hlt
      · exact hlt.trans (hys t ht)
  | case4 x xs y ys hlt hgt ih =>
    obtain ⟨hxs, -⟩ := List.pairwise_cons.mp hx
    obtain ⟨hys, htail⟩ := List.pairwise_cons.mp hy
    rw [join, if_neg hlt, if_pos hgt]
    refine List.pairwise_cons.mpr ⟨fun t ht => ?_, ih hx htail⟩
    rcases mem_times_join.mp ht with ht | ht
    · rcases List.mem_cons.mp ht with rfl | ht
      · exact hgt
      · exact hgt.trans (hxs t ht)
    · exact hys t ht
  | case5 x xs y ys hlt hgt ih =>
    have hxy : x.time = y.time := le_antisymm (not_lt.mp hgt) (not_lt.mp hlt)
    obtain ⟨hxs, hxtail⟩ := List.pairwise_cons.mp hx
    obtain ⟨hys, hytail⟩ := List.pairwise_cons.mp hy
    rw [join, if_neg hlt, if_neg hgt]
    refine List.pairwise_cons.mpr ⟨fun t ht => ?_, ih hxtail hytail⟩
    rcases mem_times_join.mp ht with ht | ht
    · exact hxs t ht
    · exact hxy.trans_lt (hys t ht)

/-- **Joining two collapsed series collapses both at once.** -/
theorem join_collapse (xs ys : Series ℚ) :
    join xs.collapse ys.collapse = collapse (xs ++ ys) := by
  refine (ascending_join (ascending_collapse xs) (ascending_collapse ys)).ext
    (ascending_collapse _) (fun t => ?_) fun f => ?_
  · rw [mem_times_join]
    simp only [mem_times_collapse, List.mem_append, or_and_right, exists_or]
  · rw [weighted_join]
    simp only [weighted_collapse, List.filter_append]
    simp [weighted]

/-! ## Series that are the same on the grid -/

/-- On the grid, two series have samples at the same times and the same weighted sums. -/
structure SameOnGrid (s u : Series ℚ) : Prop where
  times : ∀ t, (∃ x ∈ s, gridTime x.time = t) ↔ ∃ x ∈ u, gridTime x.time = t
  weighted : ∀ f : ℚ → ℚ, s.weighted (f ∘ gridTime) = u.weighted (f ∘ gridTime)

theorem OffOrigin.mem_times_collapse {s : Series ℚ} (h : s.OffOrigin) {t : ℚ} :
    t ∈ s.collapse.times ↔ ∃ x ∈ s, gridTime x.time = t := by
  rw [Series.mem_times_collapse]
  exact exists_congr fun x => and_congr_right fun hx => and_iff_right (h.allDated x hx)

theorem OffOrigin.weighted_collapse {s : Series ℚ} (h : s.OffOrigin) (f : ℚ → ℚ) :
    s.collapse.weighted f = s.weighted (f ∘ gridTime) := by
  rw [Series.weighted_collapse, h.allDated.filter_isDated]

theorem OffOrigin.append {s u : Series ℚ} (hs : s.OffOrigin) (hu : u.OffOrigin) :
    OffOrigin (s ++ u) :=
  fun x hx => (List.mem_append.mp hx).elim (hs x) (hu x)

namespace SameOnGrid

variable {s u : Series ℚ}

theorem offOrigin (h : SameOnGrid s u) (hu : u.OffOrigin) : s.OffOrigin := by
  intro x hx
  obtain ⟨y, hy, hyx⟩ := (h.times (gridTime x.time)).mp ⟨x, hx, rfl⟩
  rw [← hyx]
  exact hu y hy

theorem ne_nil_iff (h : SameOnGrid s u) : s ≠ [] ↔ u ≠ [] := by
  constructor
  · intro hs
    obtain ⟨x, hx⟩ := List.exists_mem_of_ne_nil s hs
    obtain ⟨y, hy, -⟩ := (h.times _).mp ⟨x, hx, rfl⟩
    exact List.ne_nil_of_mem hy
  · intro hu
    obtain ⟨y, hy⟩ := List.exists_mem_of_ne_nil u hu
    obtain ⟨x, hx, -⟩ := (h.times _).mpr ⟨y, hy, rfl⟩
    exact List.ne_nil_of_mem hx

theorem append (h : SameOnGrid s u) (v : Series ℚ) : SameOnGrid (s ++ v) (u ++ v) where
  times t := by simp only [List.mem_append, or_and_right, exists_or, h.times]
  weighted f := by
    have hf := h.weighted f
    simp only [Series.weighted, List.map_append, List.sum_append] at hf ⊢
    rw [hf]

/-- Away from time zero, series that are the same on the grid collapse to the same. -/
theorem collapse_eq (h : SameOnGrid s u) (hu : u.OffOrigin) : s.collapse = u.collapse := by
  have hs : s.OffOrigin := h.offOrigin hu
  refine (ascending_collapse s).ext (ascending_collapse u) (fun t => ?_) fun f => ?_
  · rw [hs.mem_times_collapse, hu.mem_times_collapse, h.times]
  · rw [hs.weighted_collapse, hu.weighted_collapse, h.weighted]

end SameOnGrid

theorem onGrid_regrid (s : Series ℚ) : s.regrid.OnGrid := by
  rw [← merge_nil_left]
  exact onGrid_merge [] s

theorem onGrid_collapse (s : Series ℚ) : s.collapse.OnGrid := by
  intro x hx
  obtain ⟨y, -, hy⟩ := exists_time_eq_of_mem_collapse hx
  rw [hy, gridTime_gridTime]

/-- A sample of a series on the grid stays where it is. -/
theorem OnGrid.onGrid_eq {s : Series ℚ} (h : s.OnGrid) {x : Sample ℚ} (hx : x ∈ s) :
    x.onGrid = x :=
  congrArg (Sample.mk · x.value) (h x hx)

/-- A series on the grid is left as it is when it is moved to the grid again. -/
theorem OnGrid.regrid_eq {s : Series ℚ} (h : s.OnGrid) : s.regrid = s := by
  refine (List.map_congr_left fun x hx => ?_).trans (List.map_id s)
  split
  · rfl
  · exact h.onGrid_eq hx

theorem OnGrid.mem_times_iff {s : Series ℚ} (h : s.OnGrid) {t : ℚ} :
    (∃ x ∈ s, gridTime x.time = t) ↔ t ∈ s.times := by
  rw [mem_times]
  exact exists_congr fun x => and_congr_right fun hx => by rw [h x hx]

theorem time_regrid_sample (x : Sample ℚ) :
    (if x.time == 0 then x else x.onGrid).time = gridTime x.time := by
  split
  · next h =>
    have hx : x.time = 0 := by simpa using h
    rw [hx, gridTime_zero]
  · rfl

theorem times_regrid (s : Series ℚ) : s.regrid.times = s.times.map gridTime := by
  unfold times regrid
  rw [List.map_map, List.map_map]
  exact List.map_congr_left fun x _ => time_regrid_sample x

theorem sameOnGrid_regrid (s : Series ℚ) : SameOnGrid s.regrid s where
  times t := by
    rw [(onGrid_regrid s).mem_times_iff, times_regrid]
    simp [times]
  weighted f := by rw [(onGrid_regrid s).weighted_comp, weighted_regrid]

theorem OffOrigin.sameOnGrid_collapse {s : Series ℚ} (h : s.OffOrigin) :
    SameOnGrid s.collapse s where
  times t := by rw [(onGrid_collapse s).mem_times_iff, h.mem_times_collapse]
  weighted f := by rw [(onGrid_collapse s).weighted_comp, h.weighted_collapse]

end Chargeback.Series
