import Chargeback.Proofs.Series.Settled

/-!
# Splitting a series

The samples of a series may be distributed between two, in any way (`Split`). What is accumulated of
the two has the same total as what is accumulated of the one, but not always the same length: a
series that is alone keeps all of its samples, and its two parts are collapsed to one sample for
each grid time. The length stays the same if there is a second series with samples anyway, or if the
samples of the split series are at different grid times (`length_settled_split`).
-/

namespace Chargeback

/-- Three lists of one length, related position by position. -/
inductive Forall₃ {α β γ : Type} (R : α → β → γ → Prop) : List α → List β → List γ → Prop where
  | nil : Forall₃ R [] [] []
  | cons {a : α} {b : β} {c : γ} {as : List α} {bs : List β} {cs : List γ} (head : R a b c)
      (tail : Forall₃ R as bs cs) : Forall₃ R (a :: as) (b :: bs) (c :: cs)

namespace Series

/-- The samples of `s`, distributed between `s₁` and `s₂`. -/
def Split (s s₁ s₂ : Series ℚ) : Prop := List.Perm (s₁ ++ s₂) s

/-- All samples are at different grid times. -/
def Spread (s : Series ℚ) : Prop := (s.times.map gridTime).Nodup

instance (s : Series ℚ) : Decidable s.Spread :=
  inferInstanceAs (Decidable (s.times.map gridTime).Nodup)

/-! ## Totals -/

theorem total_append (s u : Series ℚ) : total (s ++ u) = s.total + u.total := by
  simp [total, Exact.sum_eq]

theorem total_perm {s u : Series ℚ} (h : s.Perm u) : s.total = u.total := by
  rw [total_eq_weighted, total_eq_weighted, weighted_perm h]

theorem sum_map_total (ss : List (Series ℚ)) : (ss.map total).sum = total ss.flatten := by
  induction ss with
  | nil => rfl
  | cons s ss ih => rw [List.map_cons, List.sum_cons, ih, List.flatten_cons, total_append]

/-- Away from time zero, what has accumulated has the total of all samples. -/
theorem total_settled {ss : List (Series ℚ)} (h : ∀ s ∈ ss, s.OffOrigin) :
    (settled ss).total = total ss.flatten := by
  have hsum := (sameOnGrid_settled h).weighted fun _ => 1
  rw [(onGrid_settled ss).weighted_comp] at hsum
  rw [total_eq_weighted, total_eq_weighted]
  exact hsum

theorem Split.offOrigin {s s₁ s₂ : Series ℚ} (h : s.Split s₁ s₂) (hs : s.OffOrigin) :
    s₁.OffOrigin ∧ s₂.OffOrigin :=
  ⟨fun x hx => hs x (h.mem_iff.mp (List.mem_append_left _ hx)),
    fun x hx => hs x (h.mem_iff.mp (List.mem_append_right _ hx))⟩

/-! ## Lengths -/

/-- Samples at different grid times are only put in order. -/
theorem Spread.length_collapse {s : Series ℚ} (h : s.Spread) (hoff : s.OffOrigin) :
    s.collapse.length = s.length := by
  have hnodup : s.collapse.times.Nodup :=
    (ascending_collapse s).imp fun hlt => hlt.ne
  have hperm : s.collapse.times.Perm (s.times.map gridTime) := by
    refine (List.perm_ext_iff_of_nodup hnodup h).mpr fun t => ?_
    rw [hoff.mem_times_collapse]
    simp [times]
  simpa [times] using hperm.length_eq

theorem filled_cons_nil (ss : List (Series ℚ)) : filled ([] :: ss) = filled ss := by
  simp [filled]

theorem filled_cons_of_ne_nil {s : Series ℚ} (h : s ≠ []) (ss : List (Series ℚ)) :
    filled (s :: ss) = filled ss + 1 := by
  simp [filled, h]

theorem filled_append (ss ts : List (Series ℚ)) : filled (ss ++ ts) = filled ss + filled ts :=
  List.countP_append

/-- The samples of all series are those of the only series that has any. -/
theorem spread_flatten {ss : List (Series ℚ)} (h : ∀ s ∈ ss, s.Spread) (hone : filled ss ≤ 1) :
    Spread ss.flatten := by
  induction ss with
  | nil => exact List.nodup_nil
  | cons s ss ih =>
    rw [List.flatten_cons]
    rcases eq_or_ne s [] with rfl | hne
    · rw [filled_cons_nil] at hone
      exact ih (fun u hu => h u (List.mem_cons_of_mem _ hu)) hone
    · rw [filled_cons_of_ne_nil hne] at hone
      have hrest : ss.flatten = [] := filled_eq_zero_iff.mp (by omega)
      rw [hrest, List.append_nil]
      exact h s (List.mem_cons_self ..)

/-! ## Splitting all series of a list -/

section SplitAll

variable {ss ss₁ ss₂ : List (Series ℚ)}

theorem flatten_split (h : Forall₃ Split ss ss₁ ss₂) : (ss₁ ++ ss₂).flatten.Perm ss.flatten := by
  induction h with
  | nil => exact .refl _
  | @cons s s₁ s₂ ss ss₁ ss₂ hs _ ih =>
    -- the second part of the first series is moved next to its first part
    have hmove : ((s₁ :: ss₁) ++ (s₂ :: ss₂)).Perm (s₁ :: s₂ :: (ss₁ ++ ss₂)) :=
      List.perm_middle.cons s₁
    refine hmove.flatten.trans ?_
    rw [List.flatten_cons, List.flatten_cons, ← List.append_assoc, List.flatten_cons]
    exact hs.append ih

theorem filled_le_split (h : Forall₃ Split ss ss₁ ss₂) : filled ss ≤ filled (ss₁ ++ ss₂) := by
  rw [filled_append]
  induction h with
  | nil => exact Nat.zero_le _
  | @cons s s₁ s₂ ss ss₁ ss₂ hs _ ih =>
    have hmono (u : Series ℚ) (us : List (Series ℚ)) : filled us ≤ filled (u :: us) :=
      (List.sublist_cons_self u us).countP_le
    rcases eq_or_ne s [] with rfl | hne
    · rw [filled_cons_nil]
      exact ih.trans (Nat.add_le_add (hmono s₁ ss₁) (hmono s₂ ss₂))
    · rw [filled_cons_of_ne_nil hne]
      -- one of the parts has a sample
      rcases eq_or_ne s₁ [] with rfl | h₁
      · have h₂ : s₂ ≠ [] := by
          rintro rfl
          exact hne hs.symm.eq_nil
        rw [filled_cons_nil, filled_cons_of_ne_nil h₂]
        omega
      · have := hmono s₂ ss₂
        rw [filled_cons_of_ne_nil h₁]
        omega

theorem offOrigin_split (h : Forall₃ Split ss ss₁ ss₂) (hss : ∀ s ∈ ss, s.OffOrigin) :
    ∀ s ∈ ss₁ ++ ss₂, s.OffOrigin := by
  intro s hs x hx
  have hmem : x ∈ ss.flatten :=
    (flatten_split h).mem_iff.mp (List.mem_flatten.mpr ⟨s, hs, hx⟩)
  exact offOrigin_flatten hss x hmem

theorem flatten_split_append (h : Forall₃ Split ss ss₁ ss₂) (rest : List (Series ℚ)) :
    (ss₁ ++ ss₂ ++ rest).flatten.Perm (ss ++ rest).flatten := by
  have hflatten (ts : List (Series ℚ)) : (ts ++ rest).flatten = ts.flatten ++ rest.flatten :=
    List.flatten_append
  rw [hflatten, hflatten]
  exact (flatten_split h).append_right _

/-- **Splitting keeps the total of what has accumulated.** -/
theorem total_settled_split {rest : List (Series ℚ)} (h : Forall₃ Split ss ss₁ ss₂)
    (hoff : ∀ s ∈ ss ++ rest, s.OffOrigin) :
    (settled (ss₁ ++ ss₂ ++ rest)).total = (settled (ss ++ rest)).total := by
  have hparts : ∀ s ∈ ss₁ ++ ss₂, s.OffOrigin :=
    offOrigin_split h fun s hs => hoff s (List.mem_append_left _ hs)
  have hafter : ∀ s ∈ ss₁ ++ ss₂ ++ rest, s.OffOrigin := by
    intro s hs
    rcases List.mem_append.mp hs with hs | hs
    · exact hparts s hs
    · exact hoff s (List.mem_append_right _ hs)
  rw [total_settled hafter, total_settled hoff, total_perm (flatten_split_append h rest)]

/-- **Splitting keeps the length of what has accumulated**, if there is a second series with samples
or the split ones are spread out. -/
theorem length_settled_split {rest : List (Series ℚ)} (h : Forall₃ Split ss ss₁ ss₂)
    (hoff : ∀ s ∈ ss ++ rest, s.OffOrigin)
    (hkeep : (∀ s ∈ ss, s.Spread) ∨ 2 ≤ filled (ss ++ rest)) :
    (settled (ss₁ ++ ss₂ ++ rest)).length = (settled (ss ++ rest)).length := by
  have hperm := flatten_split_append h rest
  have hle : filled ss ≤ filled (ss₁ ++ ss₂) := filled_le_split h
  have hbefore : filled (ss ++ rest) = filled ss + filled rest := filled_append _ _
  have hafter : filled (ss₁ ++ ss₂ ++ rest) = filled (ss₁ ++ ss₂) + filled rest :=
    filled_append _ _
  by_cases htwo : 2 ≤ filled (ss ++ rest)
  · -- all samples are collapsed, before and after
    rw [settled, settled, if_neg (by omega), if_neg (by omega), collapse_perm hperm]
  have hspread : ∀ s ∈ ss, s.Spread := hkeep.resolve_right htwo
  have hsettled : (settled (ss ++ rest)).length = (ss ++ rest).flatten.length := by
    rw [settled, if_pos (by omega), length_regrid]
  rw [hsettled]
  by_cases hone : filled (ss₁ ++ ss₂ ++ rest) ≤ 1
  · rw [settled, if_pos hone, length_regrid]
    exact hperm.length_eq
  -- the split series was alone, so that its samples are all there are
  have hrest : filled rest = 0 := by
    by_contra hpos
    have hnil : ss.flatten = [] := filled_eq_zero_iff.mp (by omega)
    have hparts : (ss₁ ++ ss₂).flatten = [] := (hnil ▸ flatten_split h).eq_nil
    have hzero : filled (ss₁ ++ ss₂) = 0 := filled_eq_zero_iff.mpr hparts
    omega
  have halone : Spread (ss ++ rest).flatten := by
    rw [List.flatten_append, filled_eq_zero_iff.mp hrest, List.append_nil]
    exact spread_flatten hspread (by omega)
  rw [settled, if_neg hone, collapse_perm hperm]
  exact halone.length_collapse (offOrigin_flatten hoff)

end SplitAll

end Series

end Chargeback
