import Mathlib.Data.List.Forall2
import Chargeback.Proofs.Series.Accumulation

/-!
# Series with related values

A merge looks at the times of the samples, and all it does with their values is to add them up. So it
keeps every relation of values that addition keeps: of two merges whose arguments have the same times
and related values, the results have the same times and related values (`Related.merge`), and the
same goes for accumulation (`Related.accumulate`). With the relation that always holds this says that
the times of the result depend on the times of the arguments only.
-/

namespace Chargeback

variable {α : Type} [Number α] {R : α → α → Prop}

/-- Related values at one time. -/
structure Sample.Related (R : α → α → Prop) (x y : Sample α) : Prop where
  time : x.time = y.time
  value : R x.value y.value

/-- The relation is kept by addition. -/
def KeptByAdd (R : α → α → Prop) : Prop := ∀ {a b c d}, R a b → R c d → R (a + c) (b + d)

namespace Sample.Related

variable {x y : Sample α}

theorem isDated (h : x.Related R y) : x.isDated = y.isDated := by
  rw [Sample.isDated, Sample.isDated, h.time]

theorem onGrid (h : x.Related R y) : x.onGrid.Related R y.onGrid :=
  ⟨congrArg (quantize · gridWidth) h.time, h.value⟩

end Sample.Related

/-- Sorting keeps a relation that the order does not tell apart. -/
theorem forall₂_sortBy {β : Type} {S : β → β → Prop} {lt : β → β → Bool}
    (hlt : ∀ {a b c d}, S a b → S c d → lt a c = lt b d) {xs ys : List β}
    (h : List.Forall₂ S xs ys) : List.Forall₂ S (sortBy lt xs) (sortBy lt ys) := by
  have hinsert {x y : β} {us vs : List β} (hxy : S x y) (h : List.Forall₂ S us vs) :
      List.Forall₂ S (insertBy lt x us) (insertBy lt y vs) := by
    induction h with
    | nil => exact .cons hxy .nil
    | @cons u v us vs huv huvs ih =>
      unfold insertBy
      rw [hlt huv hxy]
      split
      · exact .cons huv ih
      · exact .cons hxy (.cons huv huvs)
  induction h with
  | nil => exact .nil
  | cons hxy _ ih => exact hinsert hxy ih

namespace Series

/-- Related values at the same times. -/
def Related (R : α → α → Prop) (s t : Series α) : Prop := List.Forall₂ (Sample.Related R) s t

namespace Related

variable {s t u v : Series α}

omit [Number α] in
theorem length_eq (h : s.Related R t) : s.length = t.length := List.Forall₂.length_eq h

omit [Number α] in
theorem refl (hR : ∀ a, R a a) (s : Series α) : s.Related R s :=
  List.forall₂_same.mpr fun x _ => ⟨rfl, hR x.value⟩

omit [Number α] in
theorem isEmpty_eq (h : s.Related R t) : s.isEmpty = t.isEmpty := by
  cases h <;> rfl

theorem regrid (h : s.Related R t) : s.regrid.Related R t.regrid := by
  refine List.rel_map (fun x y hxy => ?_) h
  rw [hxy.time]
  split
  · exact hxy
  · exact hxy.onGrid

variable (hR : KeptByAdd R)
include hR

theorem fuse_go {x y : Sample α} (hxy : x.Related R y) (h : s.Related R t) :
    Related R (fuse.go x s) (fuse.go y t) := by
  induction h generalizing x y with
  | nil => exact .cons hxy .nil
  | @cons a b s t hab hst ih =>
    rw [fuse.go, fuse.go, hxy.time, hab.time]
    split
    · exact ih ⟨rfl, hR hxy.value hab.value⟩
    · exact .cons hxy (ih hab)

theorem fuse (h : s.Related R t) : s.fuse.Related R t.fuse := by
  cases h with
  | nil => exact .nil
  | cons hxy h => exact fuse_go hR hxy h

theorem collapse (h : s.Related R t) : s.collapse.Related R t.collapse := by
  have hdated : List.Forall₂ (Sample.Related R) (s.filter Sample.isDated)
      (t.filter Sample.isDated) := by
    refine List.rel_filter (fun x y hxy => ?_) h
    exact iff_of_eq (congrArg (· = true) hxy.isDated)
  have hgrid := List.rel_map (fun _ _ hxy => Sample.Related.onGrid hxy) hdated
  refine fuse hR (forall₂_sortBy (fun hab hcd => ?_) hgrid)
  rw [hab.time, hcd.time]

theorem join (hst : s.Related R t) (huv : u.Related R v) :
    Related R (Series.join s u) (Series.join t v) := by
  induction s, u using join.induct generalizing t v with
  | case1 u =>
    cases hst
    simpa using huv
  | case2 x s =>
    cases huv
    simpa using hst
  | case3 x s y u hlt ih =>
    obtain _ | ⟨hx, hs⟩ := hst
    obtain _ | ⟨hy, hu⟩ := huv
    rw [Series.join, Series.join, if_pos hlt, ← hx.time, ← hy.time, if_pos hlt]
    exact .cons hx (ih hs (.cons hy hu))
  | case4 x s y u hlt hgt ih =>
    obtain _ | ⟨hx, hs⟩ := hst
    obtain _ | ⟨hy, hu⟩ := huv
    rw [Series.join, Series.join, if_neg hlt, if_pos hgt, ← hx.time, ← hy.time, if_neg hlt,
      if_pos hgt]
    exact .cons hy (ih (.cons hx hs) hu)
  | case5 x s y u hlt hgt ih =>
    obtain _ | ⟨hx, hs⟩ := hst
    obtain _ | ⟨hy, hu⟩ := huv
    rw [Series.join, Series.join, if_neg hlt, if_neg hgt, ← hx.time, ← hy.time, if_neg hlt,
      if_neg hgt]
    exact .cons ⟨rfl, hR hx.value hy.value⟩ (ih hs hu)

/-- **A merge keeps relations of values** that addition keeps. -/
theorem merge (hst : s.Related R t) (huv : u.Related R v) :
    Related R (s.merge u) (t.merge v) := by
  unfold Series.merge
  rw [hst.isEmpty_eq, huv.isEmpty_eq]
  split
  · exact huv.regrid
  · split
    · exact hst.regrid
    · exact join hR (collapse hR hst) (collapse hR huv)

/-- Series are merged one after another. -/
theorem foldl_merge {ss ts : List (Series α)} (h : List.Forall₂ (Related R) ss ts)
    (hst : s.Related R t) :
    Related R (ss.foldl (fun acc s => s.merge acc) s)
      (ts.foldl (fun acc s => s.merge acc) t) := by
  induction h generalizing s t with
  | nil => exact hst
  | cons hnew _ ih => exact ih (merge hR hnew hst)

theorem accumulate {ss ts : List (Series α)} (h : List.Forall₂ (Related R) ss ts) :
    Related R (Series.accumulate ss) (Series.accumulate ts) := foldl_merge hR h .nil

end Related

end Series

end Chargeback
