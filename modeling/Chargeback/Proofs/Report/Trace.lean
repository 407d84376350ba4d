import Chargeback.Proofs.Number.Comparison
import Chargeback.Proofs.Report.Grouping
import Chargeback.Proofs.Report.Journal

/-!
# The events of a report

The events that a report emits are determined by its input and its result: it is started, each
workload is told of in the order of the keys (`events_entry`), each bucket is warned about whose
scores are out of bounds, in the order of its key (`events_anomalies`), and the report is completed
(`report_trace`).

Whether a bucket is warned about is decided on the scores as they are computed, while the record
answers for its stored scores, which may be missing. The two agree because a record that is scored
stores all three (`isAnomalous_ofEfficiency`, `scores_finalize`).
-/

namespace Chargeback

variable {α : Type}

namespace Effect

@[simp] theorem events_nil : events ([] : List (Effect α)) = [] := rfl

@[simp] theorem events_append (es fs : List (Effect α)) :
    events (es ++ fs) = events es ++ events fs := List.filterMap_append

@[simp] theorem events_map_event (es : List (Event α)) : events (es.map .event) = es := by
  induction es with
  | nil => rfl
  | cons e es ih => exact congrArg (e :: ·) ih

theorem events_flatMap {β : Type} (f : β → List (Effect α)) (bs : List β) :
    events (bs.flatMap f) = bs.flatMap fun b => events (f b) := by
  induction bs with
  | nil => rfl
  | cons b bs ih => rw [List.flatMap_cons, events_append, ih, List.flatMap_cons]

end Effect

/-! ## Scores -/

namespace Scores

/-- The scores that have been computed. -/
def computed (s : Scores α) : List α := s.cpu.toList ++ s.ram.toList ++ s.overall.toList

/-- The three scores together, if all of them have been computed. -/
def efficiency? (s : Scores α) : Option (Efficiency α) := do
  return { cpu := ← s.cpu, ram := ← s.ram, overall := ← s.overall }

@[simp] theorem efficiency?_ofEfficiency (e : Efficiency α) :
    (ofEfficiency e).efficiency? = some e := rfl

variable [Number α]

theorem isAnomalous_iff {s : Scores α} :
    s.isAnomalous = true ↔ ∃ score ∈ s.computed, Number.outsideUnit score = true := by
  obtain ⟨cpu, ram, overall⟩ := s
  simp [isAnomalous, computed, or_and_right, exists_or, Option.any_eq_true]

/-- **Computed and stored scores are out of bounds together.** -/
@[simp] theorem isAnomalous_ofEfficiency (e : Efficiency α) :
    (ofEfficiency e).isAnomalous = e.isAnomalous := by
  simp [isAnomalous, ofEfficiency, Efficiency.isAnomalous, Bool.or_assoc]

end Scores

namespace Report

variable [Number α] {field : GroupField} {subfields : List String} {o : ReportOptions α}

/-! ## One workload -/

/-- The events of one workload: the idle coefficient that is supplied for its cluster and is not
positive and finite, the prices that cannot be read, and that it is pooled. -/
def told (field : GroupField) (o : ReportOptions α) (w : Workload α) : List (Event α) :=
  (match o.idleCoefficients.get? w.cluster with
    | some c =>
      if 0 < c ∧ Number.isFinite c = true then [] else [.invalidIdleCoefficient field w.cluster c]
    | none => []) ++
  malformedPrices (w.prices o.terms.customPricing) ++
  if o.isPooled w then [.pooledWorkload w.namespaceName w.pod] else []

/-- **The events of one workload.** -/
theorem events_entry (w : Workload α) :
    Effect.events (entry field subfields o w) = told field o w := by
  unfold entry told
  rw [Workload.journal_price, Effect.events_append, Effect.events_append, Effect.events_map_event]
  congr 1
  · congr 1
    unfold ReportOptions.unusableCoefficient?
    cases o.idleCoefficients.get? w.cluster with
    | none => rfl
    | some c =>
      dsimp only
      by_cases h : 0 < c ∧ Number.isFinite c = true
      · have husable : Number.isUsable c = true := by simpa [Number.isUsable] using h
        rw [if_pos h, Option.filter_some, husable]
        rfl
      · have husable : Number.isUsable c = false := by simpa [Number.isUsable] using h
        rw [if_neg h, Option.filter_some, husable]
        rfl
  · cases o.isPooled w <;> rfl

/-! ## One bucket -/

/-- The warning about a record with scores out of bounds, with the scores that it holds. -/
def warnings (field : GroupField) (o : ReportOptions α) (key : String) (r : Record α) :
    List (Event α) :=
  if o.efficiency = true ∧ r.isAnomalous = true then
    (r.scores.efficiency?.map (Event.efficiencyAnomaly field key)).toList
  else []

/-- A bucket is warned about as its finalized record answers. -/
theorem anomaly?_eq (share : α) (key : String) (r : Record α) :
    (anomaly? field o share key r).toList =
      (warnings field o key (r.finalize share o)).map .event := by
  unfold anomaly? warnings
  by_cases h : o.efficiency = true
  · have hscores : (r.finalize share o).scores = _ := Record.scores_finalize h
    have hanomalous : (r.finalize share o).isAnomalous =
        (r.costed share o).efficiency.isAnomalous := by
      rw [Record.isAnomalous, hscores, Scores.isAnomalous_ofEfficiency]
    rw [hanomalous, hscores, Scores.efficiency?_ofEfficiency, h]
    dsimp only
    cases (r.costed share o).efficiency.isAnomalous <;> rfl
  · simp [h]

/-- **The warnings about the buckets**, from the finalized records. -/
theorem events_anomalies (inventory : Inventory α) :
    Effect.events (anomalies field o (tally field subfields o (inKeyOrder inventory))) =
      (report inventory field subfields o).value.entries.flatMap fun e =>
        warnings field o e.1 e.2 := by
  rw [value_report, Index.mapWithName, List.flatMap_map, anomalies,
    List.filterMap_eq_flatMap_toList, Effect.events_flatMap]
  simp only [anomaly?_eq, Effect.events_map_event]

/-! ## The report -/

/-- **The events of a report**, in their order: its start, those of its workloads in the ascending
order of their keys, a warning for each bucket that is scored out of bounds, in the ascending order
of the buckets' keys, and its completion. A record that is asked for scores has all three, and a
score is out of bounds if it is not a number, negative or greater than one. -/
theorem report_trace (inventory : Inventory Float) (field : GroupField) (subfields : List String)
    (o : ReportOptions Float) {ws : List (String × Workload Float)}
    (hperm : ws.Perm inventory.entries) (hasc : ws.Pairwise fun a b => a.1 < b.1) :
    let workloads := ws.map Prod.snd
    let records := (report inventory field subfields o).value
    Effect.events (report inventory field subfields o).journal =
        .reportStarted field workloads.length o.terms.cadence ::
          (workloads.flatMap (told field o) ++
            (records.entries.flatMap (fun e => warnings field o e.1 e.2) ++
              [.reportCompleted field records.size (workloads.countP o.isPooled)
                (workloads.countP fun w => !o.isPooled w && (field.key? subfields w).isNone)
                (pooledCost o workloads)])) ∧
      records.names.Pairwise (· < ·) ∧
      (∀ e ∈ records.entries,
        (o.efficiency = true → ∃ scores, e.2.scores = .ofEfficiency scores) ∧
          (e.2.isAnomalous = true ↔
            ∃ score ∈ e.2.scores.computed, score.isNaN = true ∨ score < 0 ∨ 1 < score)) := by
  intro workloads records
  have horder : inKeyOrder inventory = workloads := inKeyOrder_eq hperm hasc
  have hlength : inventory.size = workloads.length := by
    rw [List.length_map, hperm.length_eq]
    rfl
  have hentries : Effect.events (workloads.flatMap (entry field subfields o)) =
      workloads.flatMap (told field o) := by
    simp only [Effect.events_flatMap, events_entry]
  obtain ⟨hshared, hskipped, -⟩ := counts_tally field subfields o workloads
  rw [counted_shared] at hshared
  rw [counted_skipped] at hskipped
  have hpool : (tally field subfields o workloads).pool = pooledCost o workloads :=
    pool_tally workloads
  have hsize : records.size = _ := size_report inventory
  have hclosing : Effect.events (closing field (tally field subfields o workloads)) =
      [.reportCompleted field records.size (workloads.countP o.isPooled)
        (workloads.countP fun w => !o.isPooled w && (field.key? subfields w).isNone)
        (pooledCost o workloads)] := by
    rw [← hshared, ← hskipped, ← hpool, hsize, horder]
    rfl
  have hanomalies : _ = records.entries.flatMap _ := events_anomalies inventory
  rw [horder] at hanomalies
  refine ⟨?_, records.pairwise_names, fun e he => ⟨fun hefficiency => ?_, ?_⟩⟩
  · rw [journal_report, ← List.singleton_append, horder, hlength, Effect.events_append,
      Effect.events_append, Effect.events_append, hentries, hanomalies, hclosing]
    rfl
  · have hrecords : records = _ := value_report inventory field subfields o
    rw [hrecords] at he
    obtain ⟨b, -, rfl⟩ := List.mem_map.mp he
    exact ⟨_, Record.scores_finalize hefficiency⟩
  · rw [Record.isAnomalous, Scores.isAnomalous_iff]
    simp only [Binary64.outsideUnit_iff]

/-- A workload with prices that cannot be read and a request that is not a number, one of the system
and one without a service. -/
def noisyWorkloads : List (String × Workload Float) :=
  [("a", { namespaceName := "shop", pod := "web-0", cluster := "east", services := ["web"],
           node := { vcpuCost := "1/2", ramCost := "", storageCost := "free" },
           usage := { cpu := { allocation := [⟨10, 1⟩], requested := [⟨10, 0 / 0⟩] } },
           claims :=
             [{ volume := some { cost := "4" } }, {}, { volume := some { cost := "four" } }] }),
    ("b", { namespaceName := systemNamespace, pod := "dns", cluster := "east",
            node := { gpuCost := "?" } }),
    ("c", { namespaceName := "shop", pod := "job", cluster := "west" })]

def noisyInventory : Inventory Float where
  entries := noisyWorkloads.reverse
  nodup := by decide

/-- Options with an idle coefficient that cannot be divided by. -/
def noisyOptions : ReportOptions Float where
  terms := { discount := 0 }
  idleCoefficients := Index.ofList [("east", 0), ("west", 2)]
  efficiency := true
  sharing := some { enabled := true, namespaces := [systemNamespace], selectors := ∅ }

theorem report_trace_noisy :
    let events := Effect.events (report noisyInventory .service [] noisyOptions).journal
    noisyWorkloads.Perm noisyInventory.entries ∧
      (noisyWorkloads.Pairwise fun a b => a.1 < b.1) ∧
      events.map Event.message =
        ["Aggregating cost data", "Ignoring non-positive idle coefficient, using 1.0",
          "Malformed price string, using zero", "Malformed price string, using zero",
          "Malformed price string, using zero", "Ignoring non-positive idle coefficient, using 1.0",
          "Malformed price string, using zero", "Pooled shared workload",
          "Efficiency outside [0, 1], check requests against allocation",
          "Cost report aggregated"] ∧
      (events.filterMap fun
        | .malformedPrice price _ => some price
        | _ => none) = ["1/2", "free", "four", "?"] := by
  intro events
  have hperm : noisyWorkloads.Perm noisyInventory.entries := (List.reverse_perm _).symm
  have hasc : noisyWorkloads.Pairwise fun a b => a.1 < b.1 := by decide +kernel
  have htrace : events = _ := (report_trace noisyInventory .service [] noisyOptions hperm hasc).1
  rw [htrace]
  exact ⟨hperm, hasc, by decide +kernel, by decide +kernel⟩

end Report

end Chargeback
