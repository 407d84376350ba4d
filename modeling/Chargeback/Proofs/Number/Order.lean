import Mathlib.Algebra.Order.Monoid.Unbundled.WithTop
import Chargeback.Proofs.Number.Addition
import Chargeback.Proofs.Number.Comparison

/-!
# The order of binary64

A number lies among the rational numbers and two infinities, and its place there is its `rank`; the
two zeros share one. The significand and the exponent of the format are compared one after the
other, which is comparing exact values (`IsCanonical.compare_eq`), so comparing two numbers is
comparing their ranks (`compare_eq_cmp`): a total preorder, from which only not-a-number is left
out. What lies between two finite numbers is finite (`value_of_le_of_lt`).
-/

namespace Chargeback.Binary64

open Float.Model Float.Model.UnpackedFloat

/-! ## Ranks -/

/-- Where the parts of a number lie among the rational numbers and two infinities. -/
def place : UnpackedFloat → WithBot (WithTop ℚ)
  | .infinity .negative => ⊥
  | .infinity .positive => ((⊤ : WithTop ℚ) : WithBot (WithTop ℚ))
  | u => (((ofParts u).toRat : WithTop ℚ) : WithBot (WithTop ℚ))

/-- Where a number lies among the rational numbers and two infinities. -/
def rank (x : Float) : WithBot (WithTop ℚ) := place (parts x)

/-- The rank of a finite number is its value. -/
theorem rank_of_isFinite {x : Float} (h : x.isFinite = true) :
    rank x = ((value x : WithTop ℚ) : WithBot (WithTop ℚ)) := by
  have hfinite : (parts x).isFinite = true := h
  rw [rank, value, ofFloat_eq]
  cases hparts : parts x with
  | infinity s => rw [hparts] at hfinite; cases hfinite
  | notANumber => rw [hparts] at hfinite; cases hfinite
  | zero s => rfl
  | finite s m e hpos => rfl

theorem cmp_coe (a b : ℚ) :
    cmp ((a : WithTop ℚ) : WithBot (WithTop ℚ)) ((b : WithTop ℚ) : WithBot (WithTop ℚ)) =
      cmp a b :=
  (WithBot.coe_strictMono.comp WithTop.coe_strictMono).cmp_map_eq a b

theorem cmp_bot_coe (a : WithTop ℚ) : cmp (⊥ : WithBot (WithTop ℚ)) a = .lt :=
  (cmp_eq_lt_iff _ _).mpr (WithBot.bot_lt_coe a)

theorem cmp_coe_top (a : ℚ) :
    cmp ((a : WithTop ℚ) : WithBot (WithTop ℚ)) ((⊤ : WithTop ℚ) : WithBot (WithTop ℚ)) = .lt :=
  (cmp_eq_lt_iff _ _).mpr (WithBot.coe_lt_coe.mpr (WithTop.coe_lt_top a))

/-- **Exponents and significands are compared as values are.** -/
theorem IsCanonical.compare_eq {m n : ℕ} {e f : ℤ} (hm : IsCanonical m e) (hn : IsCanonical n f) :
    (compare e f).then (compare m n) = cmp (m * 2 ^ e : ℚ) (n * 2 ^ f) := by
  rcases lt_trichotomy e f with hlt | rfl | hgt
  · rw [compare_lt_iff_lt.mpr hlt, (cmp_eq_lt_iff _ _).mpr (hm.lt_of_lt hn hlt)]
    rfl
  · have hpos : (0 : ℚ) < 2 ^ e := zpow_pos two_pos e
    rw [compare_eq_iff_eq.mpr rfl, Ordering.eq_then]
    rcases lt_trichotomy m n with hlt | rfl | hgt
    · have hcast : (m : ℚ) < n := by exact_mod_cast hlt
      rw [compare_lt_iff_lt.mpr hlt, (cmp_eq_lt_iff _ _).mpr (mul_lt_mul_of_pos_right hcast hpos)]
    · rw [compare_eq_iff_eq.mpr rfl, cmp_self_eq_eq]
    · have hcast : (n : ℚ) < m := by exact_mod_cast hgt
      rw [compare_gt_iff_gt.mpr hgt, (cmp_eq_gt_iff _ _).mpr (mul_lt_mul_of_pos_right hcast hpos)]
  · rw [compare_gt_iff_gt.mpr hgt, (cmp_eq_gt_iff _ _).mpr (hn.lt_of_lt hm hgt)]
    rfl

theorem place_of_isFinite {u : UnpackedFloat} (h : u.isFinite = true) :
    place u = (((ofParts u).toRat : WithTop ℚ) : WithBot (WithTop ℚ)) := by
  cases u with
  | infinity s => cases h
  | notANumber => cases h
  | zero | finite => rfl

/-- A finite number, compared with an infinite one. -/
theorem compare_infinity {u : UnpackedFloat} (hu : u.isFinite = true) (s : Sign) :
    UnpackedFloat.compare u (.infinity s) = some (cmp (place u) (place (.infinity s))) := by
  rw [place_of_isFinite hu]
  cases s with
  | negative =>
    rw [place, ← cmp_swap, cmp_bot_coe]
    cases u <;> first | rfl | cases hu
  | positive =>
    rw [place, cmp_coe_top]
    cases u <;> first | rfl | cases hu

/-- The significand and the exponent of a finite number are those of the format. -/
def Fits (u : UnpackedFloat) : Prop := ∀ s m e hpos, u = .finite s m e hpos → IsCanonical m e

theorem fits_parts (x : Float) : Fits (parts x) := fun _ _ _ _ h => isCanonical_of_parts h

/-- Two finite numbers, compared. -/
theorem compare_finite {u v : UnpackedFloat} (hu : Fits u) (hv : Fits v) (hfu : u.isFinite = true)
    (hfv : v.isFinite = true) :
    UnpackedFloat.compare u v = some (cmp (ofParts u).toRat (ofParts v).toRat) := by
  have hzero (s : Sign) : (ofParts (.zero s)).toRat = 0 := by
    cases s <;> simp [ofParts, toRat]
  have hpositive (m : ℕ) (e : ℤ) (h : 0 < m) :
      (ofParts (.finite .positive m e h)).toRat = m * 2 ^ e := rfl
  have hnegative (m : ℕ) (e : ℤ) (h : 0 < m) :
      (ofParts (.finite .negative m e h)).toRat = -(m * 2 ^ e) := neg_mul _ _
  have hpos {m : ℕ} {e : ℤ} (h : 0 < m) : (0 : ℚ) < m * 2 ^ e :=
    mul_pos (by exact_mod_cast h) (zpow_pos two_pos e)
  cases u with
  | infinity s => cases hfu
  | notANumber => cases hfu
  | zero s =>
    rw [hzero]
    cases v with
    | infinity s' => cases hfv
    | notANumber => cases hfv
    | zero s' => rw [hzero, cmp_self_eq_eq]; rfl
    | finite s' n f hn =>
      cases s' with
      | negative => rw [hnegative, (cmp_eq_gt_iff _ _).mpr (neg_neg_of_pos (hpos hn))]; rfl
      | positive => rw [hpositive, (cmp_eq_lt_iff _ _).mpr (hpos hn)]; rfl
  | finite s m e hm =>
    cases v with
    | infinity s' => cases hfv
    | notANumber => cases hfv
    | zero s' =>
      rw [hzero]
      cases s with
      | negative => rw [hnegative, (cmp_eq_lt_iff _ _).mpr (neg_neg_of_pos (hpos hm))]; rfl
      | positive => rw [hpositive, (cmp_eq_gt_iff _ _).mpr (hpos hm)]; rfl
    | finite s' n f hn =>
      have hcompare := (hu _ _ _ _ rfl).compare_eq (hv _ _ _ _ rfl)
      cases s <;> cases s'
      · have hneg : StrictAnti fun q : ℚ => -q := fun _ _ h => neg_lt_neg h
        rw [hnegative, hnegative, hneg.cmp_map_eq, ← cmp_swap, ← hcompare]
        rfl
      · rw [hnegative, hpositive,
          (cmp_eq_lt_iff _ _).mpr ((neg_neg_of_pos (hpos hm)).trans (hpos hn))]
        rfl
      · rw [hnegative, hpositive,
          (cmp_eq_gt_iff _ _).mpr ((neg_neg_of_pos (hpos hn)).trans (hpos hm))]
        rfl
      · rw [hpositive, hpositive, ← hcompare]
        rfl

theorem exists_infinity {u : UnpackedFloat} (hu : u.isNaN = false) (hnot : ¬ u.isFinite = true) :
    ∃ s, u = .infinity s := by
  cases u with
  | infinity s => exact ⟨s, rfl⟩
  | notANumber => cases hu
  | zero | finite => exact absurd rfl hnot

/-- **Comparing two numbers is comparing their ranks.** -/
theorem compare_eq_cmp {u v : UnpackedFloat} (hu : Fits u) (hv : Fits v) (hnu : u.isNaN = false)
    (hnv : v.isNaN = false) : UnpackedFloat.compare u v = some (cmp (place u) (place v)) := by
  by_cases hfu : u.isFinite = true
  · by_cases hfv : v.isFinite = true
    · rw [compare_finite hu hv hfu hfv, place_of_isFinite hfu, place_of_isFinite hfv, cmp_coe]
    · obtain ⟨s, rfl⟩ := exists_infinity hnv hfv
      exact compare_infinity hfu s
  · obtain ⟨s, rfl⟩ := exists_infinity hnu hfu
    by_cases hfv : v.isFinite = true
    · rw [compare_swap v, compare_infinity hfv, Option.map_some, cmp_swap]
    · obtain ⟨s', rfl⟩ := exists_infinity hnv hfv
      cases s <;> cases s' <;> rfl

section

variable {x y z : Float}

theorem compare_parts (hx : x.isNaN = false) (hy : y.isNaN = false) :
    UnpackedFloat.compare (parts x) (parts y) = some (cmp (rank x) (rank y)) :=
  compare_eq_cmp (fits_parts x) (fits_parts y) hx hy

theorem lt_iff_compare :
    x < y ↔ (UnpackedFloat.compare (parts x) (parts y) == some .lt) = true :=
  decide_eq_true_iff

theorem lt_iff_rank (hx : x.isNaN = false) (hy : y.isNaN = false) : x < y ↔ rank x < rank y := by
  rw [lt_iff_compare, compare_parts hx hy, ← cmp_eq_lt_iff]
  cases cmp (rank x) (rank y) <;> decide

theorem le_iff_rank (hx : x.isNaN = false) (hy : y.isNaN = false) : x ≤ y ↔ rank x ≤ rank y := by
  have hle : ¬ x ≤ y ↔ y < x := by
    rw [not_le_iff, hx, hy]
    simp only [Bool.false_eq_true, false_or]
  rw [← not_lt, ← lt_iff_rank hy hx, ← hle, not_not]

theorem beq_iff_rank (hx : x.isNaN = false) (hy : y.isNaN = false) :
    (x == y) = true ↔ rank x = rank y := by
  have hbeq : (x == y) = (UnpackedFloat.compare (parts x) (parts y) == some .eq) := rfl
  rw [hbeq, compare_parts hx hy, ← cmp_eq_eq_iff (rank x)]
  generalize cmp (rank x) (rank y) = o
  cases o <;> decide

theorem compare_ne_none_iff :
    UnpackedFloat.compare (parts x) (parts y) ≠ none ↔ x.isNaN = false ∧ y.isNaN = false := by
  rw [Ne, compare_eq_none_iff, not_or, Bool.not_eq_true, Bool.not_eq_true]
  rfl

/-- Not-a-number is less than nothing, and nothing is less than it. -/
theorem isNaN_of_lt (h : x < y) : x.isNaN = false ∧ y.isNaN = false := by
  have hlt := lt_iff_compare.mp h
  refine compare_ne_none_iff.mp fun hnone => ?_
  rw [hnone] at hlt
  cases hlt

/-- A strict comparison that fails holds the other way round, or one side is not a number. -/
theorem not_lt_iff : ¬ x < y ↔ x.isNaN = true ∨ y.isNaN = true ∨ y ≤ x := by
  by_cases hnan : x.isNaN = false ∧ y.isNaN = false
  · rw [lt_iff_rank hnan.1 hnan.2, le_iff_rank hnan.2 hnan.1, not_lt, hnan.1, hnan.2]
    simp only [Bool.false_eq_true, false_or]
  · refine iff_of_true (mt isNaN_of_lt hnan) ?_
    rw [not_and_or, Bool.not_eq_false, Bool.not_eq_false] at hnan
    exact hnan.imp_right .inl

theorem isNaN_of_le (h : x ≤ y) : x.isNaN = false ∧ y.isNaN = false := by
  have hle : (UnpackedFloat.compare (parts x) (parts y)).any Ordering.isLE = true :=
    decide_eq_true_iff.mp h
  refine compare_ne_none_iff.mp fun hnone => ?_
  rw [hnone] at hle
  cases hle

theorem isNaN_of_beq (h : (x == y) = true) : x.isNaN = false ∧ y.isNaN = false := by
  have hbeq : (UnpackedFloat.compare (parts x) (parts y) == some .eq) = true := h
  refine compare_ne_none_iff.mp fun hnone => ?_
  rw [hnone] at hbeq
  cases hbeq

theorem rank_lt_of_lt (h : x < y) : rank x < rank y :=
  (lt_iff_rank (isNaN_of_lt h).1 (isNaN_of_lt h).2).mp h

theorem rank_eq_of_beq (h : (x == y) = true) : rank x = rank y :=
  (beq_iff_rank (isNaN_of_beq h).1 (isNaN_of_beq h).2).mp h

theorem beq_congr_left (h : (x == y) = true) (z : Float) : (x == z) = (y == z) := by
  obtain ⟨hx, hy⟩ := isNaN_of_beq h
  have hrank := rank_eq_of_beq h
  rw [Bool.eq_iff_iff]
  constructor <;> intro hz
  · rw [beq_iff_rank hy (isNaN_of_beq hz).2, ← hrank, rank_eq_of_beq hz]
  · rw [beq_iff_rank hx (isNaN_of_beq hz).2, hrank, rank_eq_of_beq hz]

/-- **What lies between two finite numbers** is finite, and its value lies between theirs. -/
theorem value_of_le_of_lt (hx : x.isFinite = true) (hz : z.isFinite = true) (hxy : x ≤ y)
    (hyz : y < z) : y.isFinite = true ∧ value x ≤ value y ∧ value y < value z := by
  obtain ⟨hnx, hny⟩ := isNaN_of_le hxy
  obtain ⟨-, hnz⟩ := isNaN_of_lt hyz
  have hle : rank x ≤ rank y := (le_iff_rank hnx hny).mp hxy
  have hlt : rank y < rank z := (lt_iff_rank hny hnz).mp hyz
  rw [rank_of_isFinite hx] at hle
  rw [rank_of_isFinite hz] at hlt
  have hy : y.isFinite = true := by
    by_contra hinfinite
    obtain ⟨s, hs⟩ : ∃ s, parts y = .infinity s := exists_infinity hny hinfinite
    rw [rank, hs] at hle hlt
    cases s with
    | negative => exact absurd hle (WithBot.bot_lt_coe _).not_ge
    | positive => exact absurd (WithBot.coe_lt_coe.mp hlt) not_top_lt
  rw [rank_of_isFinite hy] at hle hlt
  exact ⟨hy, WithTop.coe_le_coe.mp (WithBot.coe_le_coe.mp hle),
    WithTop.coe_lt_coe.mp (WithBot.coe_lt_coe.mp hlt)⟩

end

end Chargeback.Binary64
