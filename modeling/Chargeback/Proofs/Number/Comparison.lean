import Chargeback.Proofs.Number.Packing

/-!
# Comparisons

Two numbers are incomparable exactly if one of them is not a number (`compare_eq_none_iff`), and
comparing them the other way round turns the answer round (`compare_swap`). So a comparison that
fails is a strict comparison the other way, or not-a-number is involved (`not_le_iff`), and a number
is no score if it is not a number, negative or greater than one (`outsideUnit_iff`). Only the two
zeros compare equal without being the same (`eq_or_zero_of_beq`).
-/

namespace Chargeback.Binary64

open Float.Model Float.Model.UnpackedFloat

theorem compare_eq_none_iff {u v : UnpackedFloat} :
    UnpackedFloat.compare u v = none ↔ u.isNaN = true ∨ v.isNaN = true := by
  cases u with
  | notANumber => simp [UnpackedFloat.compare, UnpackedFloat.isNaN]
  | infinity s => cases v <;> cases s <;> simp [UnpackedFloat.compare, UnpackedFloat.isNaN]
  | zero s =>
    cases v with
    | infinity s' => cases s' <;> simp [UnpackedFloat.compare, UnpackedFloat.isNaN]
    | finite s' => cases s' <;> simp [UnpackedFloat.compare, UnpackedFloat.isNaN]
    | notANumber | zero => simp [UnpackedFloat.compare, UnpackedFloat.isNaN]
  | finite s =>
    cases v with
    | infinity s' => cases s' <;> simp [UnpackedFloat.compare, UnpackedFloat.isNaN]
    | finite s' => cases s <;> cases s' <;> simp [UnpackedFloat.compare, UnpackedFloat.isNaN]
    | notANumber => simp [UnpackedFloat.compare, UnpackedFloat.isNaN]
    | zero => cases s <;> simp [UnpackedFloat.compare, UnpackedFloat.isNaN]

/-- Two magnitudes are compared by their exponents first. -/
theorem swap_then_compare (e e' : ℤ) (m m' : ℕ) :
    ((compare e e').then (compare m m')).swap = (compare e' e).then (compare m' m) := by
  rw [Ordering.swap_then, Int.compare_swap, Nat.compare_swap]

theorem compare_swap (u v : UnpackedFloat) :
    UnpackedFloat.compare v u = (UnpackedFloat.compare u v).map Ordering.swap := by
  cases u with
  | notANumber => cases v <;> rfl
  | infinity s =>
    cases v with
    | infinity s' => cases s <;> cases s' <;> rfl
    | notANumber | zero | finite => cases s <;> rfl
  | zero s =>
    cases v with
    | notANumber | zero => rfl
    | infinity s' | finite s' => cases s' <;> rfl
  | finite s m e =>
    cases v with
    | notANumber => rfl
    | zero => cases s <;> rfl
    | infinity s' => cases s' <;> rfl
    | finite s' m' e' =>
      cases s <;> cases s'
      · exact congrArg (some ·.swap) (swap_then_compare e e' m m').symm
      · rfl
      · rfl
      · exact congrArg some (swap_then_compare e e' m m').symm

/-- Magnitudes that compare equal have the same parts. -/
theorem eq_of_then_eq {e e' : ℤ} {m m' : ℕ} (h : (compare e e').then (compare m m') = .eq) :
    e = e' ∧ m = m' := by
  rw [Ordering.then_eq_eq] at h
  exact ⟨compare_eq_iff_eq.mp h.1, compare_eq_iff_eq.mp h.2⟩

/-- What compares equal has the same parts, or is a zero. -/
theorem eq_or_zero_of_compare_eq {u v : UnpackedFloat}
    (h : UnpackedFloat.compare u v = some .eq) :
    u = v ∨ (∃ s, u = .zero s) ∧ ∃ s, v = .zero s := by
  cases u with
  | notANumber => cases h
  | zero s =>
    cases v with
    | zero s' => exact .inr ⟨⟨s, rfl⟩, s', rfl⟩
    | notANumber => cases h
    | infinity s' | finite s' => cases s' <;> cases h
  | infinity s =>
    cases v with
    | infinity s' => cases s <;> cases s' <;> first | exact .inl rfl | cases h
    | notANumber | zero | finite => cases s <;> cases h
  | finite s m e hm =>
    cases v with
    | notANumber => cases h
    | zero => cases s <;> cases h
    | infinity s' => cases s' <;> cases h
    | finite s' m' e' hm' =>
      cases s <;> cases s'
      · obtain ⟨rfl, rfl⟩ := eq_of_then_eq (Ordering.swap_eq_eq.mp (Option.some.inj h))
        exact .inl rfl
      · cases h
      · cases h
      · obtain ⟨rfl, rfl⟩ := eq_of_then_eq (Option.some.inj h)
        exact .inl rfl

/-- **Numbers that compare equal** are the same, or two zeros. -/
theorem eq_or_zero_of_beq {x y : Float} (h : (x == y) = true) :
    x = y ∨ (x == 0) = true ∧ (y == 0) = true := by
  have heq : UnpackedFloat.compare (parts x) (parts y) = some .eq := by
    have hbeq : (UnpackedFloat.compare (parts x) (parts y) == some .eq) = true := h
    revert hbeq
    rcases UnpackedFloat.compare (parts x) (parts y) with _ | (_ | _ | _) <;> decide
  have hzero {z : Float} (hz : ∃ s, parts z = .zero s) : (z == 0) = true := by
    obtain ⟨s, hs⟩ := hz
    change (UnpackedFloat.compare (parts z) (parts 0) == some .eq) = true
    rw [hs]
    rfl
  refine (eq_or_zero_of_compare_eq heq).imp (eq_of_parts_eq ?_) (And.imp hzero hzero)
  have hnone : UnpackedFloat.compare (parts x) (parts y) ≠ none := by rw [heq]; exact nofun
  rw [Ne, compare_eq_none_iff, not_or, Bool.not_eq_true] at hnone
  exact hnone.1

/-- **A comparison that fails** holds strictly the other way round, or one side is not a number. -/
theorem not_le_iff {x y : Float} : ¬ x ≤ y ↔ x.isNaN = true ∨ y.isNaN = true ∨ y < x := by
  have hle : x ≤ y ↔ ((UnpackedFloat.compare (parts x) (parts y)).any Ordering.isLE) = true :=
    decide_eq_true_iff
  have hlt : y < x ↔ (UnpackedFloat.compare (parts y) (parts x) == some .lt) = true :=
    decide_eq_true_iff
  have hnan : x.isNaN = true ∨ y.isNaN = true ↔ UnpackedFloat.compare (parts x) (parts y) = none :=
    compare_eq_none_iff.symm
  rw [← or_assoc, hnan, hle, hlt, compare_swap (parts x)]
  rcases UnpackedFloat.compare (parts x) (parts y) with _ | (_ | _ | _) <;> decide

/-- **What is no score**: not-a-number, and every number outside `[0, 1]`. -/
theorem outsideUnit_iff {x : Float} :
    Number.outsideUnit x = true ↔ x.isNaN = true ∨ x < 0 ∨ 1 < x := by
  have hzero : (0 : Float).isNaN = false := by decide +kernel
  have hone : (1 : Float).isNaN = false := by decide +kernel
  have hlow : ¬ (0 : Float) ≤ x ↔ x.isNaN = true ∨ x < 0 := by
    rw [not_le_iff, hzero, Bool.false_eq_true, false_or]
  have hhigh : ¬ x ≤ (1 : Float) ↔ x.isNaN = true ∨ 1 < x := by
    rw [not_le_iff, hone, Bool.false_eq_true, false_or]
  have houtside : Number.outsideUnit x = true ↔ ¬ (0 : Float) ≤ x ∨ ¬ x ≤ (1 : Float) := by
    rw [Number.outsideUnit, Bool.not_eq_true', Bool.and_eq_false_iff, decide_eq_false_iff_not,
      decide_eq_false_iff_not]
  rw [houtside, hlow, hhigh]
  exact or_or_distrib_left.symm

end Chargeback.Binary64
