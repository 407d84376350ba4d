import Chargeback.Proofs.Number.Counts
import Chargeback.Proofs.Number.Order
import Chargeback.Proofs.Stepwise.Estimate
import Chargeback.Proofs.Stepwise.Report

/-!
# Divisors

In binary64 counts are positive, and so is all that a report and an estimation divide by
(`divisors_nonzero`).
-/

namespace Chargeback

instance : Number.Counted Float where
  ofNat_pos := Binary64.ofNat_pos
  isUsable_one := by decide +kernel

namespace Stepwise

theorem Quotient.IsProper.ne_zero {q : Quotient Float} (h : q.IsProper) :
    (q.divisor == 0) = false := by
  rw [← Bool.not_eq_true]
  intro hzero
  exact (Binary64.rank_lt_of_lt h.pos).ne' (Binary64.rank_eq_of_beq hzero)

/-- **No division by zero.** A report and an idle estimation can be written with all of their
divisions in the open: whatever operation it is that divides, what is reported and what comes out is
the same. No division is left out, as operations that agree on those in the open make the same
report and the same estimation. None of these divisions is by zero, and idle coefficients and bills
that are divided by are positive and finite. -/
theorem divisors_nonzero (inventory : Inventory Float) (field : GroupField)
    (subfields : List String) (o : ReportOptions Float) (source : BillingSource)
    (customPricing : Option CustomPricing) (discount : Float) (window : String)
    (offset : Option String) :
    let reported := report inventory field subfields o
    let estimated :=
      (idleCoefficients inventory source customPricing discount window offset).run
    let reportBy (d : Float → Float → Float) :=
      @Chargeback.report Float (.withDivision d) inventory field subfields o
    let estimateBy (d : Float → Float → Float) :=
      (@Chargeback.idleCoefficients Float (.withDivision d) inventory source customPricing discount
        window offset).run
    (∀ d, reported.eval d = reportBy d ∧ estimated.eval d = estimateBy d) ∧
    reportBy (· / ·) = Chargeback.report inventory field subfields o ∧
    estimateBy (· / ·) =
      (Chargeback.idleCoefficients inventory source customPricing discount window offset).run ∧
    (∀ d d', (∀ q ∈ reported.quotients d, d' q.dividend q.divisor = d q.dividend q.divisor) →
      reportBy d' = reportBy d) ∧
    (∀ d d', (∀ q ∈ estimated.quotients d, d' q.dividend q.divisor = d q.dividend q.divisor) →
      estimateBy d' = estimateBy d) ∧
    ∀ q ∈ reported.quotients (· / ·) ++ estimated.quotients (· / ·),
      (q.divisor == 0) = false ∧ 0 < q.divisor ∧
        (q.site = .idleCoefficient ∨ q.site = .bill → q.divisor.isFinite = true) := by
  intro reported estimated reportBy estimateBy
  have hreported (d : Float → Float → Float) : reported.Unfolds d (reportBy d) :=
    report_unfolds inventory field subfields o
  have hestimated (d : Float → Float → Float) : estimated.Unfolds d (estimateBy d) :=
    idleCoefficients_unfolds inventory source customPricing discount window offset
  refine ⟨fun d => ⟨(hreported d).eval_eq, (hestimated d).eval_eq⟩, rfl, rfl, fun d d' h => ?_,
    fun d d' h => ?_, fun q hq => ?_⟩
  · rw [← (hreported d').eval_eq, ← (hreported d).eval_eq]
    exact (eval_congr h).1
  · rw [← (hestimated d').eval_eq, ← (hestimated d).eval_eq]
    exact (eval_congr h).1
  · have hproper : q.IsProper :=
      (List.mem_append.mp hq).elim ((hreported _).proper q) ((hestimated _).proper q)
    exact ⟨hproper.ne_zero, hproper.pos, hproper.isFinite⟩

end Stepwise

end Chargeback
