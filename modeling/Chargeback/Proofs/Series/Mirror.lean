import Chargeback.Proofs.Series.OuterJoin

/-!
# Merging from the other side

In binary64 a sum depends on the order of its addends, but two addends can be exchanged
(`Binary64.add_swap`). A merge adds up each side on its own before values of the two sides meet, so
exchanging the sides only exchanges the two addends of a sum. Where both sides have a sample at one
time, the merge keeps the time of its first side, and equal times are the same but for the sign of a
zero (`Binary64.eq_or_zero_of_beq`). So the two merges of a pair of series agree sample by sample
(`agree_join`, `merge_comm_binary64`).
-/

namespace Chargeback

open Binary64

/-- The samples have equal times and the same value. -/
structure Sample.Agree (a b : Sample Float) : Prop where
  time : (a.time == b.time) = true
  value : a.value = b.value

theorem Sample.Agree.refl {a : Sample Float} (h : a.time.isNaN = false) : a.Agree a :=
  ⟨(beq_iff_rank h h).mpr rfl, rfl⟩

namespace Series

variable {xs ys : Series Float}

/-- The two joins of a pair of series take the same branch at each step, the sides exchanged. -/
theorem agree_join (hx : ∀ x ∈ xs, x.time.isNaN = false) (hy : ∀ y ∈ ys, y.time.isNaN = false) :
    List.Forall₂ Sample.Agree (join xs ys) (join ys xs) := by
  induction xs, ys using join.induct with
  | case1 ys =>
    rw [join_nil_left, join_nil_right]
    exact List.forall₂_same.mpr fun y hmem => .refl (hy y hmem)
  | case2 x xs =>
    rw [join_nil_left, join_nil_right]
    exact List.forall₂_same.mpr fun y hmem => .refl (hx y hmem)
  | case3 x xs y ys hlt ih =>
    have hgt : ¬ y.time < x.time := fun hgt => lt_asymm (rank_lt_of_lt hlt) (rank_lt_of_lt hgt)
    obtain ⟨hx, hxs⟩ := List.forall_mem_cons.mp hx
    rw [join, if_pos hlt, join, if_neg hgt, if_pos hlt]
    exact .cons (.refl hx) (ih hxs hy)
  | case4 x xs y ys hlt hgt ih =>
    obtain ⟨hy, hys⟩ := List.forall_mem_cons.mp hy
    rw [join, if_neg hlt, if_pos hgt, join, if_pos hgt]
    exact .cons (.refl hy) (ih hx hys)
  | case5 x xs y ys hlt hgt ih =>
    obtain ⟨hx, hxs⟩ := List.forall_mem_cons.mp hx
    obtain ⟨hy, hys⟩ := List.forall_mem_cons.mp hy
    rw [join, if_neg hlt, if_neg hgt, join, if_neg hgt, if_neg hlt]
    exact .cons ⟨beq_of_not_lt hx hy hlt hgt, add_swap x.value y.value⟩ (ih hxs hys)

/-- With an empty side, both merges are the other side on the grid. -/
theorem merge_comm_of_nil (h : xs = [] ∨ ys = []) : xs.merge ys = ys.merge xs := by
  rcases h with rfl | rfl <;> rw [merge_nil_left, merge_nil_right]

/-- **A merge is commutative in binary64.** The two merges of a pair of series have the same length
and, sample by sample, the same value. Their times are equal, and then the same but for the sign of
a zero; with an empty side they are the same throughout, also where they are not numbers. -/
theorem merge_comm_binary64 (xs ys : Series Float) :
    (xs.merge ys).length = (ys.merge xs).length ∧
      List.Forall₂ (fun a b => a.value = b.value ∧
        ((a.time == b.time) = true ∨
          (xs = [] ∨ ys = []) ∧ a.time.isNaN = true ∧ b.time.isNaN = true) ∧
        (a.time = b.time ∨ (a.time == 0) = true ∧ (b.time == 0) = true))
        (xs.merge ys) (ys.merge xs) ∧
      (xs = [] ∨ ys = [] → xs.merge ys = ys.merge xs) := by
  by_cases hnil : xs = [] ∨ ys = []
  · rw [merge_comm_of_nil hnil]
    refine ⟨rfl, List.forall₂_same.mpr fun a _ => ⟨rfl, ?_, .inl rfl⟩, fun _ => rfl⟩
    cases ha : a.time.isNaN with
    | true => exact .inr ⟨hnil, rfl, rfl⟩
    | false => exact .inl ((beq_iff_rank ha ha).mpr rfl)
  · obtain ⟨hx, hy⟩ := not_or.mp hnil
    rw [merge_of_ne_nil hx hy, merge_of_ne_nil hy hx]
    have hagree := agree_join (ordered_collapse xs).numbers (ordered_collapse ys).numbers
    refine ⟨hagree.length_eq, hagree.imp fun a b h => ?_, fun h => absurd h hnil⟩
    exact ⟨h.value, .inl h.time, eq_or_zero_of_beq h.time⟩

/-- Two zeros of different sign at one grid time: the merge keeps that of its first side. -/
example : merge [⟨-3, 1⟩] [⟨3, 2⟩] = [⟨(-0.0 : Float), 3⟩] ∧ merge [⟨3, 2⟩] [⟨-3, 1⟩] = [⟨0.0, 3⟩] := by
  decide +kernel

end Series

end Chargeback
