import Mathlib.Data.List.Induction
import Chargeback.Proofs.Series.Canonical

/-!
# Accumulation does not depend on order

A merge collapses its arguments if both have samples, and only moves to the grid what there is if
one has none. So the first series with samples is accumulated as it is, and from the second on there
is one sample for each time. `settled` tells both cases, without an order: the samples of all the
series, on the grid as long as one series has brought them all, and collapsed together otherwise.

Away from time zero every merge, on either side, takes what is settled to what is settled with one
more series (`merge_settled`). So series merged one after another come to the same in every order
(`accumulateOn_canonical`).
-/

namespace Chargeback.Series

/-! ## What has accumulated -/

/-- How many of the series have samples. -/
def filled (ss : List (Series ℚ)) : ℕ := ss.countP fun s => !s.isEmpty

/-- What series come to when they are merged one after another, in any order: the only one with
samples is moved to the grid, and two or more are collapsed together. -/
def settled (ss : List (Series ℚ)) : Series ℚ :=
  if filled ss ≤ 1 then regrid ss.flatten else collapse ss.flatten

theorem filled_append_singleton (ss : List (Series ℚ)) {s : Series ℚ} (h : s ≠ []) :
    filled (ss ++ [s]) = filled ss + 1 := by
  simp [filled, h]

theorem filled_append_nil (ss : List (Series ℚ)) : filled (ss ++ [[]]) = filled ss := by
  simp [filled]

theorem filled_eq_zero_iff {ss : List (Series ℚ)} : filled ss = 0 ↔ ss.flatten = [] := by
  simp [filled, List.flatten_eq_nil_iff]

theorem offOrigin_flatten {ss : List (Series ℚ)} (h : ∀ s ∈ ss, s.OffOrigin) :
    OffOrigin ss.flatten := by
  intro x hx
  obtain ⟨s, hs, hxs⟩ := List.mem_flatten.mp hx
  exact h s hs x hxs

theorem onGrid_settled (ss : List (Series ℚ)) : (settled ss).OnGrid := by
  unfold settled
  split
  · exact onGrid_regrid _
  · exact onGrid_collapse _

theorem sameOnGrid_settled {ss : List (Series ℚ)} (h : ∀ s ∈ ss, s.OffOrigin) :
    SameOnGrid (settled ss) ss.flatten := by
  unfold settled
  split
  · exact sameOnGrid_regrid _
  · exact (offOrigin_flatten h).sameOnGrid_collapse

/-- As long as there is only one series with samples, there is nothing to put in order. -/
theorem flatten_eq_of_perm {ss ts : List (Series ℚ)} (h : ss.Perm ts) (hone : filled ss ≤ 1) :
    ss.flatten = ts.flatten := by
  have hperm := h.filter fun s => !s.isEmpty
  have hlength : (ss.filter fun s => !s.isEmpty).length ≤ 1 := by
    rwa [filled, List.countP_eq_length_filter] at hone
  have hfilter : (ss.filter fun s => !s.isEmpty) = ts.filter fun s => !s.isEmpty := by
    generalize (ss.filter fun s => !s.isEmpty) = us at hperm hlength ⊢
    match us, hlength with
    | [], _ => exact hperm.nil_eq
    | [s], _ => exact List.singleton_perm.mp hperm
  rw [← List.flatten_filter_not_isEmpty (L := ss), hfilter, List.flatten_filter_not_isEmpty]

/-- **Order does not matter.** -/
theorem settled_perm {ss ts : List (Series ℚ)} (h : ss.Perm ts) : settled ss = settled ts := by
  have hfilled : filled ss = filled ts := h.countP_eq _
  unfold settled
  by_cases hone : filled ss ≤ 1
  · rw [if_pos hone, if_pos (hfilled ▸ hone), flatten_eq_of_perm h hone]
  · rw [if_neg hone, if_neg (hfilled ▸ hone), collapse_perm h.flatten]

/-- Series without samples do not matter. -/
theorem settled_filter (ss : List (Series ℚ)) :
    settled (ss.filter fun s => !s.isEmpty) = settled ss := by
  have hfilled : filled (ss.filter fun s => !s.isEmpty) = filled ss := by
    simp [filled, List.countP_filter]
  rw [settled, settled, hfilled, List.flatten_filter_not_isEmpty]

/-- Which argument of a merge is the new series. -/
inductive Side where
  | first
  | second
  deriving DecidableEq, Repr

/-- Merges a series into what has accumulated. -/
def Side.merge {α : Type} [Number α] (side : Side) (s acc : Series α) : Series α :=
  match side with
  | .first => Series.merge s acc
  | .second => Series.merge acc s

/-- **One more series.** On either side of the merge it is settled with those before. -/
theorem merge_settled {ss : List (Series ℚ)} (hss : ∀ s ∈ ss, s.OffOrigin) {s : Series ℚ}
    (hs : s.OffOrigin) (side : Side) : side.merge s (settled ss) = settled (ss ++ [s]) := by
  have hsame := sameOnGrid_settled hss
  rcases eq_or_ne s [] with rfl | hne
  · -- an empty series only moves to the grid what is there already
    have hregrid : side.merge [] (settled ss) = settled ss := by
      cases side with
      | first => exact (merge_nil_left _).trans (onGrid_settled ss).regrid_eq
      | second => exact (merge_nil_right _).trans (onGrid_settled ss).regrid_eq
    rw [hregrid, settled, settled, filled_append_nil, List.flatten_append]
    simp
  have hfilled := filled_append_singleton ss hne
  have hflatten : (ss ++ [s]).flatten = ss.flatten ++ s := by simp
  rcases eq_or_ne ss.flatten [] with hnil | hacc
  · have hempty : settled ss = [] := not_not.mp (mt hsame.ne_nil_iff.mp (not_not.mpr hnil))
    have hzero : filled ss = 0 := filled_eq_zero_iff.mpr hnil
    have hone : settled (ss ++ [s]) = s.regrid := by
      rw [settled, if_pos (by omega), hflatten, hnil, List.nil_append]
    rw [hempty, hone]
    cases side with
    | first => exact merge_nil_right s
    | second => exact merge_nil_left s
  · have hsettled : settled ss ≠ [] := hsame.ne_nil_iff.mpr hacc
    have hpos : filled ss ≠ 0 := mt filled_eq_zero_iff.mp hacc
    have hcollapse : collapse (settled ss ++ s) = settled (ss ++ [s]) := by
      rw [(hsame.append s).collapse_eq ((offOrigin_flatten hss).append hs), settled,
        if_neg (by omega), hflatten]
    rw [← hcollapse]
    cases side with
    | first =>
      refine (merge_of_ne_nil hne hsettled).trans ?_
      rw [join_collapse, collapse_perm List.perm_append_comm]
    | second =>
      refine (merge_of_ne_nil hsettled hne).trans ?_
      rw [join_collapse]

/-- The series merged one after another, each on its side, into one that starts empty. -/
def accumulateOn {α : Type} [Number α] (steps : List (Side × Series α)) : Series α :=
  steps.foldl (fun acc p => p.1.merge p.2 acc) []

theorem accumulateOn_append_singleton {α : Type} [Number α] (steps : List (Side × Series α))
    (side : Side) (s : Series α) :
    accumulateOn (steps ++ [(side, s)]) = side.merge s (accumulateOn steps) := by
  simp [accumulateOn]

/-- **What has accumulated**, away from time zero. -/
theorem accumulateOn_eq_settled {steps : List (Side × Series ℚ)}
    (h : ∀ p ∈ steps, p.2.OffOrigin) : accumulateOn steps = settled (steps.map Prod.snd) := by
  induction steps using List.reverseRecOn with
  | nil => rfl
  | append_singleton steps p ih =>
    obtain ⟨side, s⟩ := p
    have hsteps : ∀ p ∈ steps, p.2.OffOrigin := fun p hp => h p (by simp [hp])
    have hs : s.OffOrigin := h (side, s) (by simp)
    have hss : ∀ u ∈ steps.map Prod.snd, u.OffOrigin := by
      intro u hu
      obtain ⟨p, hp, rfl⟩ := List.mem_map.mp hu
      exact hsteps p hp
    rw [accumulateOn_append_singleton, ih hsteps, merge_settled hss hs, List.map_append]
    rfl

/-- What a record accumulates. -/
theorem accumulate_eq_settled {ss : List (Series ℚ)} (h : ∀ s ∈ ss, s.OffOrigin) :
    accumulate ss = settled ss := by
  have hfirst : accumulateOn (ss.map fun s => (Side.first, s)) = accumulate ss :=
    List.foldl_map
  have hmap : (ss.map fun s => (Side.first, s)).map Prod.snd = ss := by simp
  rw [← hfirst, accumulateOn_eq_settled (by simpa using h), hmap]

/-! ## Order independence -/

theorem weighted_indicator_comp_gridTime (t : ℚ) (s : Series ℚ) :
    s.weighted (indicator t ∘ gridTime) =
      ((s.filter fun x => gridTime x.time = t).map Sample.value).sum := by
  induction s with
  | nil => rfl
  | cons x s ih =>
    rw [weighted_cons, ih]
    by_cases h : gridTime x.time = t
    · simp [indicator, h]
    · simp [indicator, h]

/-- **Accumulation does not depend on order.** Away from time zero, series merged one after another
come to the same in every order and on either side of each merge, and those without samples change
nothing. From the second series with samples on, what has accumulated is strictly ascending and has
one sample for each grid time of the samples, with the sum of all values at it. -/
theorem accumulateOn_canonical (steps : List (Side × Series ℚ)) (h : ∀ p ∈ steps, p.2.OffOrigin) :
    (∀ steps' : List (Side × Series ℚ), (steps'.map Prod.snd).Perm (steps.map Prod.snd) →
        accumulateOn steps' = accumulateOn steps) ∧
      accumulateOn (steps.filter fun p => !p.2.isEmpty) = accumulateOn steps ∧
      (2 ≤ (steps.filter fun p => !p.2.isEmpty).length →
        let samples := steps.flatMap Prod.snd
        (accumulateOn steps).Ascending ∧
          (∀ t, t ∈ (accumulateOn steps).times ↔ ∃ x ∈ samples, gridTime x.time = t) ∧
          ∀ x ∈ accumulateOn steps, x.value =
            ((samples.filter fun y => gridTime y.time = x.time).map Sample.value).sum) := by
  have hsettled := accumulateOn_eq_settled h
  refine ⟨fun steps' hperm => ?_, ?_, fun htwo => ?_⟩
  · have h' : ∀ p ∈ steps', p.2.OffOrigin := by
      intro p hp
      obtain ⟨q, hq, hqp⟩ := List.mem_map.mp (hperm.mem_iff.mp (List.mem_map_of_mem hp))
      exact hqp ▸ h q hq
    rw [accumulateOn_eq_settled h', hsettled, settled_perm hperm]
  · have h' : ∀ p ∈ steps.filter fun p => !p.2.isEmpty, p.2.OffOrigin :=
      fun p hp => h p (List.mem_of_mem_filter hp)
    have hmap : (steps.filter fun p => !p.2.isEmpty).map Prod.snd =
        (steps.map Prod.snd).filter fun s => !s.isEmpty := by
      rw [List.filter_map]
      rfl
    rw [accumulateOn_eq_settled h', hsettled, hmap, settled_filter]
  · intro samples
    have hsamples : (steps.map Prod.snd).flatten = samples := rfl
    have hoff : OffOrigin samples := by
      intro x hx
      obtain ⟨p, hp, hxp⟩ := List.mem_flatMap.mp hx
      exact h p hp x hxp
    have hfilled : ¬ filled (steps.map Prod.snd) ≤ 1 := by
      rw [filled, List.countP_map, List.countP_eq_length_filter]
      exact Nat.not_le_of_lt htwo
    have hacc : accumulateOn steps = collapse samples := by
      rw [hsettled, settled, if_neg hfilled, hsamples]
    rw [hacc]
    refine ⟨ascending_collapse samples, fun t => hoff.mem_times_collapse, fun x hx => ?_⟩
    rw [← (ascending_collapse samples).weighted_indicator hx, hoff.weighted_collapse,
      weighted_indicator_comp_gridTime]

/-- The first of these series is not ascending, and the second is empty. -/
theorem accumulateOn_canonical_sample :
    let steps : List (Side × Series ℚ) :=
      [(.first, [⟨26, 1⟩, ⟨14, 2⟩, ⟨33, 4⟩]), (.first, []), (.second, [⟨-24, 8⟩, ⟨11, 16⟩])]
    let reversed := (steps.map fun p => (Side.second, p.2)).reverse
    (∀ p ∈ steps, p.2.OffOrigin) ∧ accumulateOn reversed = accumulateOn steps ∧
      (accumulateOn steps).times = [-20, 10, 30] ∧
      (accumulateOn steps).map Sample.value = [8, 18, 5] := by
  intro steps reversed
  have hoff : ∀ p ∈ steps, ∀ x ∈ p.2, gridTime x.time ≠ 0 := by decide +kernel
  have hperm : (reversed.map Prod.snd).Perm (steps.map Prod.snd) := by
    rw [List.map_reverse, List.map_map]
    exact List.reverse_perm _
  exact ⟨hoff, (accumulateOn_canonical steps hoff).1 reversed hperm, by decide +kernel,
    by decide +kernel⟩

end Chargeback.Series
