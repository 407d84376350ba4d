import Chargeback.Proofs.Idle.Effects
import Chargeback.Proofs.Report.Journal

/-!
# Sessions

Reports and estimations follow one another in any order, and all of them move the same metrics. What
a run adds to a counter does not depend on the state it starts from (`Run.contribution`), so over a
session every counter grows by what its runs add (`reading_after`). A report counts each of its
workloads once and shows its buckets (`accounts_report`); an estimation, whether or not it fails,
touches neither the counters of workloads and reports nor the gauge of the buckets.
-/

namespace Chargeback

variable {α : Type} [Number α]

/-- A run of either computation, with all that it is given. -/
inductive Run (α : Type) where
  | report (inventory : Inventory α) (field : GroupField) (subfields : List String)
      (o : ReportOptions α)
  | estimation (inventory : Inventory α) (source : BillingSource)
      (customPricing : Option CustomPricing) (discount : α) (window : String)
      (offset : Option String)

namespace Run

/-- What the run does to its surroundings. -/
def journal : Run α → List (Effect α)
  | .report inventory field subfields o => (Chargeback.report inventory field subfields o).journal
  | .estimation inventory source customPricing discount window offset =>
    (idleCoefficients inventory source customPricing discount window offset).run.journal

/-- What the run adds to a counter that starts at zero. -/
def contribution (c : Counter) (run : Run α) : Nat := (Metrics.recordAll {} run.journal).reading c

/-- The number of workloads that the run reports on. -/
def workloads : Run α → Nat
  | .report inventory .. => inventory.size
  | .estimation .. => 0

/-- The number of buckets of a report. -/
def buckets? : Run α → Option Nat
  | .report inventory field subfields o =>
    some (Chargeback.report inventory field subfields o).value.size
  | .estimation .. => none

/-- The run is a report. -/
def isReport : Run α → Bool
  | .report .. => true
  | .estimation .. => false

end Run

/-- The metrics after a sequence of runs. -/
def Metrics.after (m : Metrics α) (runs : List (Run α)) : Metrics α :=
  runs.foldl (fun m run => m.recordAll run.journal) m

/-! ## One run -/

/-- The account that a report gives of its workloads. -/
structure Accounts (inventory : Inventory α) (field : GroupField) (subfields : List String)
    (o : ReportOptions α) (before after : Metrics α) : Prop where
  /-- Each workload has been counted once. -/
  workloads : after.aggregated + after.shared + after.skipped =
    before.aggregated + before.shared + before.skipped + inventory.size
  /-- The shared ones are those that a sharing policy pools. -/
  shared : after.shared = before.shared + inventory.values.countP o.isPooled
  /-- The skipped ones are those of the others that have no bucket. -/
  skipped : after.skipped = before.skipped +
    inventory.values.countP fun w => !o.isPooled w && (field.key? subfields w).isNone
  /-- The buckets are no more than the aggregated workloads. -/
  aggregated : before.aggregated + (report inventory field subfields o).value.size ≤
    after.aggregated
  /-- The gauge shows the number of the buckets. -/
  buckets : after.buckets = (report inventory field subfields o).value.size
  /-- The report has been timed. -/
  reports : after.reports = before.reports + 1
  /-- One event completes the report, with what has been counted. -/
  completed : ∃ pool, Effect.completions (report inventory field subfields o).journal =
    [.reportCompleted field (report inventory field subfields o).value.size
      (after.shared - before.shared) (after.skipped - before.skipped) pool]

/-- **A report accounts for its workloads**, whatever the metrics were before. -/
theorem accounts_report (inventory : Inventory α) (field : GroupField) (subfields : List String)
    (o : ReportOptions α) (m : Metrics α) :
    Accounts inventory field subfields o m
      (m.recordAll (report inventory field subfields o).journal) := by
  have hreading : ∀ c, (m.recordAll (report inventory field subfields o).journal).reading c =
      m.reading c + (Report.counted field subfields o c inventory.values +
        if c = .reports then 1 else 0) := by
    intro c
    rw [Metrics.reading_recordAll, Report.countOf_journal_report]
  have haggregated := hreading .aggregated
  have hshared := hreading .shared
  have hskipped := hreading .skipped
  have hreports := hreading .reports
  simp only [Metrics.reading, reduceCtorEq, if_false, if_true, Nat.add_zero]
    at haggregated hshared hskipped hreports
  have hsize : inventory.values.length = inventory.size := List.length_map _
  have honce := Report.counted_add_counted_add_counted field subfields o inventory.values
  have hnever : Report.counted field subfields o .reports inventory.values = 0 := by
    rw [Report.counted, List.countP_eq_zero]
    intro w _ hw
    have hof : (Report.counter field subfields o w).OfWorkloads := Report.counter_ofWorkloads w
    rw [of_decide_eq_true hw] at hof
    rcases hof with hof | hof | hof <;> cases hof
  have hbuckets : (report inventory field subfields o).value.size ≤
      Report.counted field subfields o .aggregated inventory.values := by
    rw [Report.size_report, ← Report.counted_perm .aggregated (Report.inKeyOrder_perm inventory)]
    exact (Report.counts_tally field subfields o _).2.2
  obtain ⟨pool, hcompleted⟩ := Report.completions_journal_report inventory field subfields o
  exact {
    workloads := by omega
    shared := by rw [hshared, Report.counted_shared]
    skipped := by rw [hskipped, Report.counted_skipped]
    aggregated := by omega
    buckets := Report.buckets_recordAll_report inventory m
    reports := by omega
    completed := by
      refine ⟨pool, ?_⟩
      rw [hcompleted, hshared, hskipped, Nat.add_sub_cancel_left, Nat.add_sub_cancel_left] }

/-- What a run adds to the workload counters are its workloads. -/
theorem Run.contribution_workloads (run : Run α) :
    run.contribution .aggregated + run.contribution .shared + run.contribution .skipped =
      run.workloads := by
  cases run with
  | report inventory field subfields o =>
    have haccounts := (accounts_report inventory field subfields o {}).workloads
    exact haccounts.trans (Nat.zero_add _)
  | estimation inventory source customPricing discount window offset =>
    have hzero : ∀ c, c ≠ .withoutBilling → (Run.estimation inventory source customPricing discount
        window offset).contribution c = 0 := by
      intro c hc
      have hkept := ({} : Metrics α).reading_recordAll_of_ofEstimation
        (fun e => ofEstimation_of_mem_journal inventory source customPricing discount window offset)
        hc
      exact hkept.trans (by cases c <;> rfl)
    rw [hzero .aggregated nofun, hzero .shared nofun, hzero .skipped nofun]
    rfl

theorem Run.contribution_reports (run : Run α) :
    run.contribution .reports = if run.isReport then 1 else 0 := by
  cases run with
  | report inventory field subfields o =>
    exact (accounts_report inventory field subfields o {}).reports
  | estimation inventory source customPricing discount window offset =>
    exact ({} : Metrics α).reading_recordAll_of_ofEstimation
      (fun e => ofEstimation_of_mem_journal inventory source customPricing discount window offset)
      nofun

/-- A run shows the number of its buckets, if it is a report. -/
theorem Run.buckets_recordAll (m : Metrics α) (run : Run α) :
    (m.recordAll run.journal).buckets = (run.buckets?.map Int.ofNat).getD m.buckets := by
  cases run with
  | report inventory field subfields o => exact Report.buckets_recordAll_report inventory m
  | estimation inventory source customPricing discount window offset =>
    exact m.buckets_recordAll_of_ofEstimation fun e =>
      ofEstimation_of_mem_journal inventory source customPricing discount window offset

/-! ## Sequences of runs -/

namespace Metrics

@[simp] theorem after_nil (m : Metrics α) : m.after [] = m := rfl

theorem after_append_singleton (m : Metrics α) (runs : List (Run α)) (run : Run α) :
    m.after (runs ++ [run]) = (m.after runs).recordAll run.journal := by
  simp [after]

/-- **Over a session** every counter grows by what the runs add to it. -/
theorem reading_after (m : Metrics α) (runs : List (Run α)) (c : Counter) :
    (m.after runs).reading c = m.reading c + (runs.map (Run.contribution c)).sum := by
  induction runs using List.reverseRecOn with
  | nil => rfl
  | append_singleton runs run ih =>
    have hstep := (m.after runs).reading_recordAll run.journal c
    have hown : run.contribution c = 0 + Effect.countOf c run.journal := by
      have hzero : (({} : Metrics α)).reading c = 0 := by cases c <;> rfl
      rw [Run.contribution, reading_recordAll, hzero]
    rw [after_append_singleton, List.map_append, List.sum_append, hstep, ih, List.map_singleton,
      List.sum_singleton, hown]
    omega

/-- The gauge shows the number of buckets of the latest report. -/
theorem buckets_after (m : Metrics α) (runs : List (Run α)) :
    (m.after runs).buckets =
      ((runs.filterMap Run.buckets?).getLast?.map Int.ofNat).getD m.buckets := by
  induction runs using List.reverseRecOn with
  | nil => rfl
  | append_singleton runs run ih =>
    rw [after_append_singleton, Run.buckets_recordAll, ih, List.filterMap_append]
    cases hrun : run.buckets? with
    | none => simp [hrun]
    | some n => simp [hrun]

end Metrics

theorem sum_contribution_workloads (runs : List (Run α)) :
    (runs.map (Run.contribution .aggregated)).sum + (runs.map (Run.contribution .shared)).sum +
      (runs.map (Run.contribution .skipped)).sum = (runs.map Run.workloads).sum := by
  induction runs with
  | nil => rfl
  | cons run runs ih =>
    have hrun := run.contribution_workloads
    simp only [List.map_cons, List.sum_cons]
    omega

theorem sum_contribution_reports (runs : List (Run α)) :
    (runs.map (Run.contribution .reports)).sum = runs.countP Run.isReport := by
  induction runs with
  | nil => rfl
  | cons run runs ih =>
    rw [List.map_cons, List.sum_cons, List.countP_cons, ih, run.contribution_reports, Nat.add_comm]

/-- **Every workload is accounted for exactly once, over any sequence of runs.** Each report accounts
for its own workloads. An estimation, whether or not it fails, leaves the counters of workloads and
reports and the gauge of the buckets as they are. And over a session, every counter grows by what its
runs add on their own, the three counters of workloads together by the workloads reported on, the
number of timed reports by the reports, and the gauge shows the buckets of the latest report. -/
theorem sessions_account :
    (∀ (inventory : Inventory α) field subfields o (m : Metrics α),
      Accounts inventory field subfields o m
        (m.recordAll (report inventory field subfields o).journal)) ∧
    (∀ (inventory : Inventory α) source customPricing discount window offset (m : Metrics α),
      let after := m.recordAll
        (idleCoefficients inventory source customPricing discount window offset).run.journal
      after.aggregated = m.aggregated ∧ after.shared = m.shared ∧ after.skipped = m.skipped ∧
        after.reports = m.reports ∧ after.buckets = m.buckets) ∧
    ∀ (runs : List (Run α)) (m : Metrics α),
      let after := m.after runs
      (∀ c, after.reading c = m.reading c + (runs.map (Run.contribution c)).sum) ∧
      after.aggregated + after.shared + after.skipped =
        m.aggregated + m.shared + m.skipped + (runs.map Run.workloads).sum ∧
      after.reports = m.reports + runs.countP Run.isReport ∧
      after.buckets = ((runs.filterMap Run.buckets?).getLast?.map Int.ofNat).getD m.buckets := by
  refine ⟨accounts_report, ?_, fun runs m => ?_⟩
  · intro inventory source customPricing discount window offset m after
    have hof : ∀ e ∈ (idleCoefficients inventory source customPricing discount window
        offset).run.journal, e.OfEstimation := fun e =>
      ofEstimation_of_mem_journal inventory source customPricing discount window offset
    have hkept : ∀ c, c ≠ .withoutBilling → after.reading c = m.reading c := fun c hc =>
      m.reading_recordAll_of_ofEstimation hof hc
    exact ⟨hkept .aggregated nofun, hkept .shared nofun, hkept .skipped nofun,
      hkept .reports nofun, m.buckets_recordAll_of_ofEstimation hof⟩
  · intro after
    have hreading : ∀ c, after.reading c = m.reading c + (runs.map (Run.contribution c)).sum :=
      m.reading_after runs
    have haggregated := hreading .aggregated
    have hshared := hreading .shared
    have hskipped := hreading .skipped
    have hreports := hreading .reports
    have hworkloads := sum_contribution_workloads runs
    rw [sum_contribution_reports] at hreports
    simp only [Metrics.reading] at haggregated hshared hskipped
    exact ⟨hreading, by omega, hreports, m.buckets_after runs⟩

end Chargeback
