import Chargeback.Proofs.Billing.Grammar
import Chargeback.Proofs.Idle.Usable
import Chargeback.Proofs.Number.Magnitude

/-!
# Windows without length

A window is tested before its milliseconds are rounded, so one of less than half a millisecond is
read as a window of none. A window of a millisecond or more leaves the bills alone
(`keepsBills`): in exact arithmetic a bill counts as zero over it only if it is not positive, and in
binary64 only if a result on the way leaves the range of the format. Over a window without length
every bill counts as zero (`losesBills`). Which of the two a text is read as depends on whether its
terms add up to half a millisecond (`read_length`).
-/

namespace Chargeback

open Binary64

section

variable {α : Type} [Number α]

/-- The cluster is charged an amount for the month, less the discount. -/
def Billing.Charges (billing : Billing) (cluster : String) (discount bill : α) : Prop :=
  ∃ totals, (billing.get? cluster).filter ClusterTotals.hasData = some totals ∧
    monthlyBill cluster totals discount = .ok bill

/-- What the cluster is charged counts as nothing over the window. -/
def CountsAsZero (inventory : Inventory α) (billing : Billing) (terms : Terms α) (window : Window)
    (cluster : String) : Prop :=
  (outcome inventory billing terms window cluster).run.value = .ok (.unbilled .zeroCost)

theorem countsAsZero_iff {inventory : Inventory α} {billing : Billing} {terms : Terms α}
    {window : Window} {cluster : String} {bill : α}
    (h : billing.Charges cluster terms.discount bill) :
    CountsAsZero inventory billing terms window cluster ↔
      Number.isUsable (proRated bill window) = false := by
  obtain ⟨totals, htotals, hbill⟩ := h
  rw [CountsAsZero, run_outcome, htotals]
  dsimp only
  rw [hbill]
  dsimp only
  cases Number.isUsable (proRated bill window) with
  | false => exact iff_of_true rfl rfl
  | true =>
    refine iff_of_false (fun h => ?_) Bool.noConfusion
    rw [Bool.not_true, if_neg Bool.false_ne_true] at h
    split at h <;> cases h

end

namespace Window

variable {w : Window}

/-! ## The part of a month -/

/-- The window leaves the bills alone. It lasts a positive number of hours. In exact arithmetic a
bill counts as zero only if it is not positive; in binary64, where a bill comes to something an hour,
only if its part of the month is out of the range of the format, which that of a bill of moderate
size never is. -/
structure KeepsBills (w : Window) : Prop where
  hours_pos : (0 : ℚ) < w.hours
  hours_pos_binary64 : (0 : Float) < w.hours
  exact : ∀ (inventory : Inventory ℚ) billing terms cluster bill,
    billing.Charges cluster terms.discount bill →
      (CountsAsZero inventory billing terms w cluster ↔ bill ≤ 0)
  binary64 : ∀ (inventory : Inventory Float) billing terms cluster bill,
    billing.Charges cluster terms.discount bill → Number.isUsable (bill / hoursPerMonth) = true →
      (CountsAsZero inventory billing terms w cluster ↔
        ¬ InRange (value (bill / hoursPerMonth) * value w.hours))
  moderate : ∀ (inventory : Inventory Float) billing terms cluster bill,
    billing.Charges cluster terms.discount bill → IsWithin (-1000) 900 bill →
      ¬ CountsAsZero inventory billing terms w cluster

/-- The window has no length, and every bill counts as zero over it. -/
structure LosesBills (w : Window) : Prop where
  hours_eq : (w.hours : ℚ) = 0
  hours_eq_binary64 : (w.hours : Float) = 0
  exact : ∀ (inventory : Inventory ℚ) billing terms cluster bill,
    billing.Charges cluster terms.discount bill → CountsAsZero inventory billing terms w cluster
  binary64 : ∀ (inventory : Inventory Float) billing terms cluster bill,
    billing.Charges cluster terms.discount bill → CountsAsZero inventory billing terms w cluster

theorem isWithin_hoursPerMonth : IsWithin 9 10 hoursPerMonth :=
  isWithin_ofNat (show 2 ^ 9 ≤ 730 by norm_num) (show 730 ≤ 2 ^ 10 by norm_num) (by norm_num)

theorem isWithin_hours (hone : 1 ≤ w.milliseconds) (hle : w.milliseconds ≤ greatest) :
    IsWithin (-22) 42 (w.hours : Float) := by
  have hmilliseconds : IsWithin 0 63 (Float.ofNat w.milliseconds) :=
    isWithin_ofNat hone (hle.trans (Nat.sub_le _ _)) (by norm_num)
  have hhour : IsWithin 21 22 (Float.ofNat TimeUnit.hour.milliseconds) :=
    isWithin_ofNat (by decide) (by decide) (by norm_num)
  exact hmilliseconds.div hhour (by norm_num) (by norm_num)

/-- **A window of a millisecond or more** leaves the bills alone. -/
theorem keepsBills (hone : 1 ≤ w.milliseconds) (hle : w.milliseconds ≤ greatest) :
    w.KeepsBills := by
  have hhours := isWithin_hours hone hle
  have hnormal : IsNormal (w.hours : Float) := hhours.isNormal (by norm_num)
  have hexact : (0 : ℚ) < w.hours := by
    have hcount : (0 : ℚ) < w.milliseconds := by exact_mod_cast hone
    exact div_pos hcount (show (0 : ℚ) < (3600000 : ℕ) by norm_num)
  refine ⟨hexact, ?_, ?_, ?_, ?_⟩
  · exact (isUsable_iff_pos.mp hhours.usable).1
  · intro inventory billing terms cluster bill hbill
    have hmonth : (0 : ℚ) < hoursPerMonth := show (0 : ℚ) < (730 : ℕ) by norm_num
    rw [countsAsZero_iff hbill, Bool.eq_false_iff, Ne, Exact.isUsable_iff, proRated,
      mul_pos_iff_of_pos_right hexact, div_pos_iff_of_pos_right hmonth, not_lt]
  · intro inventory billing terms cluster bill hbill husable
    rw [countsAsZero_iff hbill, Bool.eq_false_iff, Ne, proRated, isUsable_mul_iff husable hnormal]
  · intro inventory billing terms cluster bill hbill hmoderate
    rw [countsAsZero_iff hbill, Bool.not_eq_false]
    have hmonth := hmoderate.div isWithin_hoursPerMonth (by norm_num) (by norm_num)
    exact (hmonth.mul hhours (by norm_num) (by norm_num) (by norm_num)).usable

/-- **Over a window without length** every bill counts as zero. -/
theorem losesBills (h : w.milliseconds = 0) : w.LosesBills := by
  obtain ⟨milliseconds⟩ := w
  obtain rfl : milliseconds = 0 := h
  have hbinary64 : (hours ⟨0⟩ : Float) = 0 := by decide +kernel
  have hexact : (hours ⟨0⟩ : ℚ) = 0 := zero_div _
  refine ⟨hexact, hbinary64, ?_, ?_⟩ <;> intro inventory billing terms cluster bill hbill <;>
    rw [countsAsZero_iff hbill, proRated]
  · rw [hexact, Bool.eq_false_iff, Ne, Exact.isUsable_iff, not_lt]
    exact (mul_zero _).le
  · rw [hbinary64]
    exact isUsable_mul_zero _

/-! ## Reading -/

theorem rounded_le (x : Float) : rounded x ≤ greatest := min_le_right _ _

/-- A number of milliseconds is rounded to none exactly if it is less than a half. -/
theorem rounded_pos_iff {x : Float} : 1 ≤ rounded x ↔ 1 / 2 ≤ value x := by
  have hgreatest : 1 ≤ greatest := by decide
  rw [rounded, le_min_iff, and_iff_left hgreatest, Nat.one_le_floor_iff]
  constructor <;> intro h <;> linarith

/-- **How long a window is.** A text is read as a window of a millisecond or more exactly if its
terms add up to half a millisecond or more, and such a window leaves the bills alone. A text whose
terms add up to less is no fault: it is read as a window without length, over which every bill counts
as zero. -/
theorem read_length {s : String} (h : read s = .ok w) :
    ∃ items, trimBlanks s.toList = textOf items ∧
      (1 / 2 ≤ value (totalOf items) → 1 ≤ w.milliseconds ∧ w.KeepsBills) ∧
      (value (totalOf items) < 1 / 2 → w.milliseconds = 0 ∧ w.LosesBills) := by
  obtain ⟨items, -, htext, -, hmilliseconds⟩ := read?_eq_some_iff.mp (read_eq_ok_iff.mp h)
  refine ⟨items, htext, fun hhalf => ?_, fun hhalf => ?_⟩
  · have hone : 1 ≤ w.milliseconds := hmilliseconds ▸ rounded_pos_iff.mpr hhalf
    exact ⟨hone, keepsBills hone (hmilliseconds ▸ rounded_le _)⟩
  · have hzero : w.milliseconds = 0 := by
      rw [hmilliseconds, ← Nat.lt_one_iff, ← not_le, rounded_pos_iff, not_le]
      exact hhalf
    exact ⟨hzero, losesBills hzero⟩

/-- Half a millisecond is read as a whole one. -/
theorem read_length_half : read "0.5ms" = .ok ⟨1⟩ ∧ KeepsBills ⟨1⟩ := by
  have hread : read "0.5ms" = .ok ⟨1⟩ := by decide +kernel
  obtain ⟨items, -, hlong, hshort⟩ := read_length hread
  refine ⟨hread, (hlong ?_).2⟩
  by_contra hlt
  have hzero : 1 = 0 := (hshort (not_le.mp hlt)).1
  cases hzero

/-- A hundred a month. -/
def hundredTotals : ClusterTotals where
  cpu := [⟨"0", "100"⟩]
  memory := [⟨"0", "0"⟩]
  storage := [⟨"0", "0"⟩]

/-- A cluster that is charged a hundred a month. -/
def hundredBilling : Billing := Assoc.ofList [("east", hundredTotals)]

/-- What is billed without a discount. -/
def undiscounted : Terms Float where
  discount := 0

/-- **A window without length**: a text is accepted whose terms add up to less than half a
millisecond, and a cluster that is charged a hundred gets the coefficient of one without a bill. -/
theorem read_length_short :
    read "0.4ms" = .ok ⟨0⟩ ∧ (hours ⟨0⟩ : Float) = 0 ∧
      hundredBilling.Charges "east" undiscounted.discount 100 ∧
      CountsAsZero (soleInventory "2") hundredBilling undiscounted ⟨0⟩ "east" ∧
      (idleCoefficients (soleInventory "2") (fun _ _ => .ok hundredBilling) none
        undiscounted.discount "0.4ms" none).run.value.toOption.map Index.entries =
          some [("east", 1)] := by
  have htotals : (hundredBilling.get? "east").filter ClusterTotals.hasData = some hundredTotals := by
    decide +kernel
  have hbill : monthlyBill "east" hundredTotals undiscounted.discount = .ok 100 := by
    decide +kernel
  have hcharges : hundredBilling.Charges "east" undiscounted.discount 100 := ⟨_, htotals, hbill⟩
  refine ⟨by decide +kernel, by decide +kernel, hcharges, ?_, by decide +kernel⟩
  rw [countsAsZero_iff hcharges]
  decide +kernel

end Window

end Chargeback
