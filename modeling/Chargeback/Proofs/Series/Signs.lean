import Mathlib.Algebra.Order.BigOperators.Group.List
import Chargeback.Proofs.Series.Accumulation

/-!
# Series without negative values

A merge moves samples, drops some and adds up others. In exact arithmetic none of this makes a value
negative (`NonNeg.merge`), so what accumulates from series without negative values has none either
(`NonNeg.accumulate`), and its total is not negative (`NonNeg.total`).
-/

namespace Chargeback.Series

/-- No value is negative. -/
def NonNeg (s : Series ℚ) : Prop := ∀ x ∈ s, 0 ≤ x.value

instance (s : Series ℚ) : Decidable s.NonNeg :=
  inferInstanceAs (Decidable (∀ x ∈ s, 0 ≤ x.value))

@[simp] theorem nonNeg_nil : NonNeg [] := by simp [NonNeg]

@[simp] theorem nonNeg_cons {x : Sample ℚ} {s : Series ℚ} :
    NonNeg (x :: s) ↔ 0 ≤ x.value ∧ s.NonNeg := List.forall_mem_cons

namespace NonNeg

variable {s xs ys : Series ℚ}

theorem flatten {ss : List (Series ℚ)} (h : ∀ s ∈ ss, s.NonNeg) : NonNeg ss.flatten := by
  intro x hx
  obtain ⟨s, hs, hxs⟩ := List.mem_flatten.mp hx
  exact h s hs x hxs

theorem total (h : s.NonNeg) : 0 ≤ s.total := by
  rw [Series.total, Exact.sum_eq]
  exact List.sum_nonneg (List.forall_mem_map.mpr h)

theorem regrid (h : s.NonNeg) : s.regrid.NonNeg := by
  intro z hz
  obtain ⟨x, hx, rfl⟩ := List.mem_map.mp hz
  split <;> exact h x hx

theorem fuse_go {x : Sample ℚ} (hx : 0 ≤ x.value) (hs : s.NonNeg) : NonNeg (fuse.go x s) := by
  induction s generalizing x with
  | nil => exact nonNeg_cons.mpr ⟨hx, nonNeg_nil⟩
  | cons y s ih =>
    obtain ⟨hy, hs⟩ := nonNeg_cons.mp hs
    unfold fuse.go
    split
    · exact ih (add_nonneg hx hy) hs
    · exact nonNeg_cons.mpr ⟨hx, ih hy hs⟩

theorem fuse (h : s.NonNeg) : s.fuse.NonNeg := by
  cases s with
  | nil => exact nonNeg_nil
  | cons x s =>
    obtain ⟨hx, hs⟩ := nonNeg_cons.mp h
    exact fuse_go hx hs

theorem collapse (h : s.NonNeg) : s.collapse.NonNeg := by
  apply fuse
  intro z hz
  obtain ⟨x, hx, rfl⟩ := List.mem_map.mp (mem_sortBy.mp hz)
  exact h x (List.mem_of_mem_filter hx)

theorem join (hx : xs.NonNeg) (hy : ys.NonNeg) : NonNeg (join xs ys) := by
  induction xs, ys using join.induct with
  | case1 ys => rwa [join_nil_left]
  | case2 x xs => rwa [join_nil_right]
  | case3 x xs y ys hlt ih =>
    obtain ⟨hxv, hxs⟩ := nonNeg_cons.mp hx
    rw [Series.join, if_pos hlt]
    exact nonNeg_cons.mpr ⟨hxv, ih hxs hy⟩
  | case4 x xs y ys hlt hgt ih =>
    obtain ⟨hyv, hys⟩ := nonNeg_cons.mp hy
    rw [Series.join, if_neg hlt, if_pos hgt]
    exact nonNeg_cons.mpr ⟨hyv, ih hx hys⟩
  | case5 x xs y ys hlt hgt ih =>
    obtain ⟨hxv, hxs⟩ := nonNeg_cons.mp hx
    obtain ⟨hyv, hys⟩ := nonNeg_cons.mp hy
    rw [Series.join, if_neg hlt, if_neg hgt]
    exact nonNeg_cons.mpr ⟨add_nonneg hxv hyv, ih hxs hys⟩

/-- **One merge** makes no value negative. -/
theorem merge (hx : xs.NonNeg) (hy : ys.NonNeg) : (xs.merge ys).NonNeg := by
  unfold Series.merge
  split
  · exact hy.regrid
  · split
    · exact hx.regrid
    · exact hx.collapse.join hy.collapse

/-- **What accumulates** has no negative value if no series has one. -/
theorem accumulate {ss : List (Series ℚ)} (h : ∀ s ∈ ss, s.NonNeg) : (accumulate ss).NonNeg := by
  induction ss using List.reverseRecOn with
  | nil => exact nonNeg_nil
  | append_singleton ss s ih =>
    rw [accumulate_append_singleton]
    exact (h s (by simp)).merge (ih fun t ht => h t (by simp [ht]))

end NonNeg

end Chargeback.Series
