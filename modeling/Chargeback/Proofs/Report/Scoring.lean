import Mathlib.Analysis.Convex.Basic
import Chargeback.Proofs.Report.Cadence
import Chargeback.Proofs.Report.Shown
import Chargeback.Proofs.Report.Trace

/-!
# Scores and anomalies

A bucket merges what its workloads were given, asked for and used, each kind of series on its own
(`usage_bucket`), and its scores compare the means of the merged series. In exact arithmetic the
score of a resource is above one exactly if more was used than asked for, and negative exactly if
more was left idle than was given (`Utilization.isScored_idleFraction`).

The overall score is a convex combination of the two, weighed by cost, as long as something was
paid, and one otherwise. So it lies between them (`Efficiency.overall_mem_uIcc`), and it is out of
bounds only if one of them is (`Efficiency.isAnomalous_ofIdle_iff`): the blend invents no anomaly
(`report_scores`).
-/

namespace Chargeback

/-- A resource whose use is scored. -/
inductive Scored where
  | cpu
  | ram
  deriving DecidableEq, Repr

section Parts

variable {α : Type}

def Usage.of (u : Usage α) : Scored → Utilization α
  | .cpu => u.cpu
  | .ram => u.ram

def Efficiency.of (e : Efficiency α) : Scored → α
  | .cpu => e.cpu
  | .ram => e.ram

variable [Number α]

/-! ## The usage of a bucket -/

theorem Usage.of_merge (new acc : Usage α) (x : Scored) :
    (new.merge acc).of x = (new.of x).merge (acc.of x) := by
  cases x <;> rfl

/-- Utilizations merged into one, each kind of series on its own. -/
def Utilization.accumulate (us : List (Utilization α)) : Utilization α where
  allocation := Series.accumulate (us.map Utilization.allocation)
  requested := Series.accumulate (us.map Utilization.requested)
  used := Series.accumulate (us.map Utilization.used)

theorem Utilization.accumulate_append_singleton (us : List (Utilization α)) (u : Utilization α) :
    accumulate (us ++ [u]) = u.merge (accumulate us) := by
  simp [accumulate, merge]

omit [Number α] in
theorem Scores.ofEfficiency_injective : Function.Injective (ofEfficiency (α := α)) := by
  intro e f h
  have hsome : some e = some f := congrArg efficiency? h
  exact Option.some.inj hsome

namespace Report

variable {field : GroupField} {subfields : List String} {o : ReportOptions α}

/-- The utilization of a resource by the workloads of a bucket. -/
def utilization (field : GroupField) (subfields : List String) (o : ReportOptions α) (key : String)
    (ws : List (Workload α)) (x : Scored) : Utilization α :=
  .accumulate ((ws.filter (belongs field subfields o key)).map fun w => w.usage.of x)

/-- **The usage of a bucket**, resource by resource. -/
theorem usage_bucket (key : String) (ws : List (Workload α)) (x : Scored) :
    (gathered field subfields o key ws).usage.of x = utilization field subfields o key ws x := by
  rw [usage_gathered, utilization]
  generalize ws.filter (belongs field subfields o key) = us
  induction us using List.reverseRecOn with
  | nil => cases x <;> rfl
  | append_singleton us w ih =>
    rw [List.foldl_concat, Usage.of_merge, ih, List.map_append, List.map_singleton,
      Utilization.accumulate_append_singleton]

/-! ## Warnings -/

/-- The warning about a bucket is one about its own scores. -/
theorem efficiencyAnomaly_mem_anomalies_iff {t : Tally α} {key : String} {scores : Efficiency α} :
    .event (.efficiencyAnomaly field key scores) ∈ anomalies field o t ↔
      ∃ bucket, t.buckets.get? key = some bucket ∧ o.efficiency = true ∧
        scores.isAnomalous = true ∧ (bucket.costed t.share o).efficiency = scores := by
  rw [anomalies, List.mem_filterMap]
  constructor
  · rintro ⟨⟨k, bucket⟩, hmem, htold⟩
    obtain ⟨hcond, htold⟩ := Option.ite_none_right_eq_some.mp htold
    obtain ⟨-, rfl, rfl⟩ := Event.efficiencyAnomaly.inj (Effect.event.inj (Option.some.inj htold))
    obtain ⟨hscored, hanomalous⟩ := (Bool.and_eq_true _ _).mp hcond
    exact ⟨bucket, Index.mem_entries_iff.mp hmem, hscored, hanomalous, rfl⟩
  · rintro ⟨bucket, hbucket, hscored, hanomalous, rfl⟩
    refine ⟨(key, bucket), Index.mem_entries_iff.mpr hbucket, if_pos ?_⟩
    rw [hscored, hanomalous, Bool.and_self]

/-- **A bucket is warned about**, with its scores, if and only if they are out of bounds. -/
theorem efficiencyAnomaly_mem_journal_iff {inventory : Inventory α} (hscored : o.efficiency = true)
    {key : String} {r : Record α}
    (hr : (report inventory field subfields o).value.get? key = some r) {scores : Efficiency α} :
    .event (.efficiencyAnomaly field key scores) ∈ (report inventory field subfields o).journal ↔
      r.isAnomalous = true ∧ r.scores = .ofEfficiency scores := by
  set ws := inKeyOrder inventory with hws
  set t := tally field subfields o ws with ht
  rw [value_report, ← hws, ← ht, Index.get?_mapWithName] at hr
  obtain ⟨bucket, hbucket, rfl⟩ := Option.map_eq_some_iff.mp hr
  have hscores : (bucket.finalize t.share o).scores = _ := Record.scores_finalize hscored
  have hentries : .event (.efficiencyAnomaly field key scores) ∉
      ws.flatMap (entry field subfields o) := by
    intro hmem
    obtain ⟨w, -, hw⟩ := List.mem_flatMap.mp hmem
    exact Bool.noConfusion (isAnomaly_of_mem_entry hw)
  rw [Record.isAnomalous, hscores, Scores.isAnomalous_ofEfficiency, journal_report, ← hws, ← ht,
    List.mem_cons, List.mem_append, List.mem_append, or_iff_right (by simp),
    or_iff_right hentries, or_iff_left (by simp [closing]), efficiencyAnomaly_mem_anomalies_iff]
  constructor
  · rintro ⟨bucket', hbucket', -, hanomalous, rfl⟩
    obtain rfl := Option.some.inj (hbucket.symm.trans hbucket')
    exact ⟨hanomalous, rfl⟩
  · rintro ⟨hanomalous, heq⟩
    obtain rfl := Scores.ofEfficiency_injective heq
    exact ⟨bucket, hbucket, hscored, hanomalous, rfl⟩

end Report

end Parts

/-! ## The score of a resource -/

theorem Exact.outsideUnit_iff {x : ℚ} : Number.outsideUnit x = true ↔ x ∉ Set.Icc 0 1 := by
  rw [Number.outsideUnit, Bool.not_eq_true', ← Bool.not_eq_true, Bool.and_eq_true,
    decide_eq_true_eq, decide_eq_true_eq]
  rfl

/-- What a score says of a utilization. Without an allocation it is one. With an allocation it is
above one if more was used than asked for, and negative if more was left unused than was given. -/
structure Utilization.IsScored (u : Utilization ℚ) (score : ℚ) : Prop where
  unallocated : u.allocation.average ≤ 0 → score = 1
  one_lt_iff : 0 < u.allocation.average → (1 < score ↔ u.requested.average < u.used.average)
  neg_iff : 0 < u.allocation.average →
    (score < 0 ↔ u.allocation.average < u.requested.average - u.used.average)

/-- **The score of a resource** is one minus its idle fraction. -/
theorem Utilization.isScored_idleFraction (u : Utilization ℚ) :
    u.IsScored (1 - u.idleFraction) where
  unallocated h := by
    rw [idleFraction, if_neg (not_lt.mpr h), sub_zero]
  one_lt_iff h := by
    rw [idleFraction, if_pos h, lt_sub_comm, sub_self, div_lt_iff₀ h, zero_mul, sub_neg]
  neg_iff h := by
    rw [idleFraction, if_pos h, sub_neg, one_lt_div h]

/-! ## The overall score -/

namespace Efficiency

variable {cpuIdle ramIdle cpuCost ramCost : ℚ}

/-- As long as something was paid, the overall score weighs the scores by cost. -/
theorem overall_eq (h : 0 < cpuCost + ramCost) :
    let e := ofIdle cpuIdle ramIdle cpuCost ramCost
    e.overall = cpuCost / (cpuCost + ramCost) * e.cpu + ramCost / (cpuCost + ramCost) * e.ram := by
  intro e
  have hoverall : e.overall = 1 - (cpuCost * cpuIdle + ramCost * ramIdle) / (cpuCost + ramCost) :=
    if_pos h
  have hcpu : e.cpu = 1 - cpuIdle := rfl
  have hram : e.ram = 1 - ramIdle := rfl
  rw [hoverall, hcpu, hram]
  field_simp
  ring

theorem overall_of_free (h : ¬ 0 < cpuCost + ramCost) :
    (ofIdle cpuIdle ramIdle cpuCost ramCost).overall = 1 := if_neg h

/-- **The overall score lies between the two**, as a convex combination. -/
theorem overall_mem_uIcc (hcpu : 0 ≤ cpuCost) (hram : 0 ≤ ramCost) (h : 0 < cpuCost + ramCost) :
    let e := ofIdle cpuIdle ramIdle cpuCost ramCost
    e.overall ∈ Set.uIcc e.cpu e.ram := by
  intro e
  have hconvex : Convex ℚ (Set.uIcc e.cpu e.ram) := convex_uIcc e.cpu e.ram
  have hcombination := convex_iff_div.mp hconvex
  rw [overall_eq h]
  exact hcombination Set.left_mem_uIcc Set.right_mem_uIcc hcpu hram h

/-- **The blend invents no anomaly**: of costs that are not negative, scores are out of bounds only
if the score of a resource is. -/
theorem isAnomalous_ofIdle_iff (hcpu : 0 ≤ cpuCost) (hram : 0 ≤ ramCost) :
    let e := ofIdle cpuIdle ramIdle cpuCost ramCost
    e.isAnomalous = true ↔ e.cpu ∉ Set.Icc 0 1 ∨ e.ram ∉ Set.Icc 0 1 := by
  intro e
  have hoverall : e.cpu ∈ Set.Icc 0 1 → e.ram ∈ Set.Icc 0 1 → e.overall ∈ Set.Icc 0 1 := by
    intro hcpu' hram'
    by_cases h : 0 < cpuCost + ramCost
    · exact Set.uIcc_subset_Icc hcpu' hram' (overall_mem_uIcc hcpu hram h)
    · have hone : e.overall = 1 := overall_of_free h
      rw [hone]
      exact Set.right_mem_Icc.mpr zero_le_one
  rw [isAnomalous, Bool.or_eq_true, Bool.or_eq_true, Exact.outsideUnit_iff, Exact.outsideUnit_iff,
    Exact.outsideUnit_iff]
  tauto

end Efficiency

namespace Report

variable {field : GroupField} {subfields : List String} {o : ReportOptions ℚ}

/-! ## The report -/

/-- **The blended score never invents an anomaly.** A bucket that is scored, with costs that are not
negative, is scored by the means of what its workloads were given, asked for and used, each kind
merged on its own. Its overall score lies between those of the two resources if they cost anything,
and is one otherwise. So the record is out of bounds, and is warned about, if and only if the score
of a resource is. -/
theorem report_scores {inventory : Inventory ℚ} (hscored : o.efficiency = true) {key : String}
    {r : Record ℚ} (hr : (report inventory field subfields o).value.get? key = some r)
    (hcpu : 0 ≤ r.costs.cpu) (hram : 0 ≤ r.costs.ram) :
    let usage := utilization field subfields o key (inKeyOrder inventory)
    (o.timeSeries = true → ∀ x, r.usage.of x = usage x) ∧
      ∃ e : Efficiency ℚ, r.scores = .ofEfficiency e ∧
        (∀ x, (usage x).IsScored (e.of x)) ∧
        (0 < r.costs.cpu + r.costs.ram → e.overall ∈ Set.uIcc e.cpu e.ram) ∧
        (¬ 0 < r.costs.cpu + r.costs.ram → e.overall = 1) ∧
        (r.isAnomalous = true ↔ e.cpu ∉ Set.Icc 0 1 ∨ e.ram ∉ Set.Icc 0 1) ∧
        ∀ scores, .event (.efficiencyAnomaly field key scores) ∈
            (report inventory field subfields o).journal ↔
          scores = e ∧ (e.cpu ∉ Set.Icc 0 1 ∨ e.ram ∉ Set.Icc 0 1) := by
  intro usage
  set bucket := gathered field subfields o key (inKeyOrder inventory)
  have husage (x : Scored) : bucket.usage.of x = usage x := usage_bucket key _ x
  have hfinal : r = bucket.finalize _ o := eq_of_get?_report hr
  set e := Efficiency.ofIdle bucket.usage.cpu.idleFraction bucket.usage.ram.idleFraction
    r.costs.cpu r.costs.ram with he
  have hscores : r.scores = .ofEfficiency e := by
    rw [he, hfinal, Record.scores_finalize hscored, Record.efficiency_costed]
    rfl
  have hanomalous : r.isAnomalous = true ↔ e.cpu ∉ Set.Icc 0 1 ∨ e.ram ∉ Set.Icc 0 1 := by
    rw [Record.isAnomalous, hscores, Scores.isAnomalous_ofEfficiency]
    exact Efficiency.isAnomalous_ofIdle_iff hcpu hram
  refine ⟨fun htime x => ?_, e, hscores, fun x => ?_, Efficiency.overall_mem_uIcc hcpu hram,
    Efficiency.overall_of_free, hanomalous, fun scores => ?_⟩
  · rw [← husage, hfinal, Record.usage_finalize, if_pos htime]
  · rw [← husage]
    cases x <;> exact Utilization.isScored_idleFraction _
  · rw [efficiencyAnomaly_mem_journal_iff hscored hr, hscores, hanomalous,
      Scores.ofEfficiency_injective.eq_iff, eq_comm (a := e), and_comm]

/-- Two workloads that use more cores than they ask for, and less memory. Their samples are not
aligned. -/
def overusedInventory : Inventory ℚ where
  entries :=
    [("a", { namespaceName := "shop", node := { vcpuCost := "1", ramCost := "2" },
             usage :=
               { cpu := { allocation := [⟨10, 1⟩, ⟨20, 1⟩], requested := [⟨11, 1⟩],
                          used := [⟨12, 3⟩] },
                 ram := { allocation := [⟨10, 4 * bytesPerGiB⟩],
                          requested := [⟨10, 3 * bytesPerGiB⟩], used := [⟨10, bytesPerGiB⟩] } } }),
      ("b", { namespaceName := "shop", node := { vcpuCost := "1" },
              usage := { cpu := { allocation := [⟨19, 2⟩], requested := [⟨9, 1⟩] } } })]
  nodup := by decide

def overusedOptions : ReportOptions ℚ where
  terms := { discount := 0 }
  efficiency := true

theorem report_scores_overused :
    let run := report overusedInventory .namespaceName [] overusedOptions
    overusedOptions.efficiency = true ∧ ∃ r, run.value.get? "shop" = some r ∧
      r.costs.cpu = 4 ∧ r.costs.ram = 8 ∧ 0 ≤ r.costs.cpu ∧ 0 ≤ r.costs.ram ∧
      ∃ e : Efficiency ℚ, r.scores = .ofEfficiency e ∧ e.cpu = 3 / 2 ∧ e.ram = 1 / 2 ∧
        e.overall ∈ Set.uIcc (3 / 2) (1 / 2) ∧ r.isAnomalous = true ∧
        .event (.efficiencyAnomaly .namespaceName "shop" e) ∈ run.journal := by
  intro run
  have hshown : (run.value.get? "shop").map
      (fun r => (r.costs.cpu, r.costs.ram, r.scores.cpu, r.scores.ram)) =
        some (4, 8, some (3 / 2), some (1 / 2)) := by decide +kernel
  obtain ⟨r, hr, hrecord⟩ := Option.map_eq_some_iff.mp hshown
  simp only [Prod.mk.injEq] at hrecord
  obtain ⟨hcpu, hram, hcpuScore, hramScore⟩ := hrecord
  have hcpu0 : 0 ≤ r.costs.cpu := by rw [hcpu]; norm_num
  have hram0 : 0 ≤ r.costs.ram := by rw [hram]; norm_num
  have hpaid : 0 < r.costs.cpu + r.costs.ram := by rw [hcpu, hram]; norm_num
  obtain ⟨-, e, hscores, -, hblend, -, hanomalous, htold⟩ := report_scores rfl hr hcpu0 hram0
  have hecpu : e.cpu = 3 / 2 := by
    rw [hscores] at hcpuScore
    exact Option.some.inj hcpuScore
  have heram : e.ram = 1 / 2 := by
    rw [hscores] at hramScore
    exact Option.some.inj hramScore
  have hout : e.cpu ∉ Set.Icc 0 1 := by
    rw [hecpu]
    norm_num
  have hoverall := hblend hpaid
  rw [hecpu, heram] at hoverall
  exact ⟨rfl, r, hr, hcpu, hram, hcpu0, hram0, e, hscores, hecpu, heram, hoverall,
    hanomalous.mpr (.inl hout), (htold e).mpr ⟨rfl, .inl hout⟩⟩

end Report

end Chargeback
